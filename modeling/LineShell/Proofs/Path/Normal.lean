import LineShell.Path.Resolve

/-! # Paths in normal form

A path in normal form begins at the root and names an entry of a directory with each of its pieces:
it holds no empty piece, no `.` and no `..`, and ends in a slash only if it is the root.  Such paths
are the texts of lists of names, and a walk from one of them never leaves them.

* `isNormal_iff`            paths in normal form are the texts of lists of names
* `advance?_entry`, `advance?_up`   a step adds a name at the end, or takes the last one away
* `isNormal_of_resolve?`    lexical resolution ends in normal form, whatever the target is -/

namespace LineShell.Path

/-- Does a piece between slashes name an entry of a directory? It is not empty, `.` or `..`. -/
def IsName (piece : String) : Prop := piece ≠ "" ∧ piece ≠ "." ∧ piece ≠ ".."

instance (piece : String) : Decidable (IsName piece) := inferInstanceAs (Decidable (_ ∧ _))

/-- A name is a piece with `isIdle = false`, and not `..`. -/
theorem isName_iff {piece : String} : IsName piece ↔ isIdle piece = false ∧ piece ≠ ".." := by
  simp [IsName, isIdle, and_assoc]

/-- Is the path in normal form? -/
def IsNormal (p : String) : Prop :=
  isAbsolute p = true ∧ (p = "/" ∨ ∀ piece ∈ (Text.pieces '/' p).tail, IsName piece)

instance (p : String) : Decidable (IsNormal p) := inferInstanceAs (Decidable (_ ∧ _))

/-- The path from the root `/` along some names. -/
def ofNames (names : List String) : String := "/" ++ Text.join '/' names

/-- Names that can stand between slashes. -/
def AreNames (names : List String) : Prop := ∀ n ∈ names, IsName n ∧ '/' ∉ n.toList

theorem AreNames.nil : AreNames [] := nofun

theorem AreNames.concat {names : List String} {n : String} (h : AreNames names) (hn : IsName n)
    (hslash : '/' ∉ n.toList) : AreNames (names ++ [n]) := by
  intro m hm
  obtain hm | hm := List.mem_append.mp hm
  · exact h m hm
  · obtain rfl := List.mem_singleton.mp hm
    exact ⟨hn, hslash⟩

theorem AreNames.dropLast {names : List String} (h : AreNames names) : AreNames names.dropLast :=
  fun n hn => h n ((List.dropLast_sublist names).subset hn)

/-! ### Texts of lists of names -/

theorem isAbsolute_ofNames (names : List String) : isAbsolute (ofNames names) = true := by
  simp [isAbsolute, ofNames]

theorem ofNames_nil : ofNames [] = "/" := rfl

/-- `ofNames` with one name more has that name behind a slash. -/
theorem ofNames_concat {names : List String} (h : names ≠ []) (n : String) :
    ofNames (names ++ [n]) = ofNames names ++ "/" ++ n := by
  rw [ofNames, ofNames, Text.join_concat h, ← String.append_assoc, ← String.append_assoc]
  rfl

/-- The pieces of `ofNames names` are `names`, behind the empty piece at the root. -/
theorem pieces_ofNames {names : List String} (hne : names ≠ []) (h : AreNames names) :
    Text.pieces '/' (ofNames names) = "" :: names := by
  have hjoin : ofNames names = "" ++ String.singleton '/' ++ Text.join '/' names := by
    rw [ofNames, String.empty_append]
    rfl
  have hempty : Text.pieces '/' "" = [""] := rfl
  rw [hjoin, Text.pieces_append, Text.pieces_join hne fun n hn => (h n hn).2, hempty,
    List.singleton_append]

/-- `ofNames` ends in a slash only for the root. -/
theorem getLast?_ofNames {names : List String} (hne : names ≠ []) (h : AreNames names) :
    (ofNames names).toList.getLast? ≠ some '/' := by
  obtain ⟨n, hn, hlast⟩ : ∃ n, n ∈ names ∧ names = names.dropLast ++ [n] :=
    ⟨names.getLast hne, List.getLast_mem hne, (List.dropLast_concat_getLast hne).symm⟩
  obtain ⟨hname, hslash⟩ := h n hn
  have hempty : n.toList ≠ [] := by
    intro h
    exact hname.1 (String.toList_eq_nil_iff.mp h)
  -- The text ends with the last name, which holds no slash and is not empty.
  have hend : ∃ front, (ofNames names).toList = front ++ n.toList := by
    rw [hlast]
    by_cases hfront : names.dropLast = []
    · exact ⟨['/'], by rw [hfront]; simp [ofNames, Text.join]⟩
    · exact ⟨(ofNames names.dropLast ++ "/").toList, by
        rw [ofNames_concat hfront, String.toList_append]⟩
  obtain ⟨front, hfront⟩ := hend
  rw [hfront, List.getLast?_append, List.getLast?_eq_some_getLast hempty, Option.some_or]
  intro h
  obtain hlast := Option.some.inj h
  exact hslash (hlast ▸ List.getLast_mem hempty)

/-- Paths in normal form are those that are `ofNames` of some names. -/
theorem isNormal_iff {p : String} : IsNormal p ↔ ∃ names, AreNames names ∧ p = ofNames names := by
  constructor
  · rintro ⟨habs, rfl | hnames⟩
    · exact ⟨[], .nil, rfl⟩
    · -- the first piece stands before the slash at the root, and is empty
      obtain ⟨cs, hcs⟩ : ∃ cs, p.toList = '/' :: cs := by
        rw [isAbsolute, beq_iff_eq] at habs
        exact List.head?_eq_some_iff.mp habs
      have hp : p = "" ++ String.singleton '/' ++ String.ofList cs := by
        rw [← String.toList_inj, hcs]
        simp
      have hempty : Text.pieces '/' "" = [""] := rfl
      rw [hp, Text.pieces_append, hempty, List.singleton_append, List.tail_cons] at hnames
      refine ⟨Text.pieces '/' (String.ofList cs), fun n hn => ?_, ?_⟩
      · exact ⟨hnames n hn, Text.not_mem_of_mem_pieces hn⟩
      · rw [ofNames, Text.join_pieces, hp, String.empty_append]
        rfl
  · rintro ⟨names, h, rfl⟩
    refine ⟨isAbsolute_ofNames names, ?_⟩
    by_cases hne : names = []
    · exact .inl (by rw [hne, ofNames_nil])
    · rw [pieces_ofNames hne h, List.tail_cons]
      exact .inr fun n hn => (h n hn).1

/-! ### Steps of a walk -/

/-- A path without `/` in it does not begin at the root. -/
theorem isAbsolute_eq_false {p : String} (h : '/' ∉ p.toList) : isAbsolute p = false := by
  rw [isAbsolute, beq_eq_false_iff_ne]
  exact fun hhead => h (List.mem_of_mem_head? hhead)

/-- A step `.entry n` adds `n` at the end. -/
theorem advance?_entry {names : List String} {n : String} (h : AreNames names)
    (hn : '/' ∉ n.toList) :
    advance? (ofNames names) (.entry n) = some (ofNames (names ++ [n])) := by
  rw [advance?, join, isAbsolute_eq_false hn]
  by_cases hne : names = []
  · subst hne
    simp [ofNames, Text.join]
  · have hempty : ofNames names ≠ "" := by simp [ofNames]
    rw [ofNames_concat hne, if_neg Bool.false_ne_true,
      if_neg (not_or.mpr ⟨hempty, getLast?_ofNames hne h⟩)]

/-- A step `.up` takes the last name away; there is none from the root. -/
theorem advance?_up {names : List String} (h : AreNames names) :
    advance? (ofNames names) .up = if names = [] then none else some (ofNames names.dropLast) := by
  have hanchor : anchor (ofNames names) = ("/", Text.join '/' names) := by
    rw [anchor, if_pos (isAbsolute_ofNames names), ofNames]
    simp
  rw [advance?, parent?, hanchor]
  dsimp only
  by_cases hne : names = []
  · subst hne
    rfl
  · -- no name is idle, so nothing hangs loose after one
    have hidle : ∀ {ns : List String}, AreNames ns → ns.reverse.dropWhile isIdle = ns.reverse := by
      intro ns hns
      cases hlast : ns.reverse with
      | nil => rfl
      | cons n front =>
        have hmem : n ∈ ns := List.mem_reverse.mp (hlast ▸ List.mem_cons_self)
        have hname := (isName_iff.mp (hns n hmem).1).1
        exact List.dropWhile_cons_of_neg (by rw [hname]; exact Bool.false_ne_true)
    rw [Text.pieces_join hne fun n hn => (h n hn).2, hidle h, if_neg hne]
    obtain ⟨n, hlast⟩ : ∃ n, names = names.dropLast ++ [n] :=
      ⟨names.getLast hne, (List.dropLast_concat_getLast hne).symm⟩
    rw [hlast, List.reverse_append, List.reverse_singleton, List.singleton_append,
      List.dropLast_concat]
    dsimp only
    rw [hidle h.dropLast, List.reverse_reverse, ofNames]

/-! ### Whole walks -/

/-- A component that a walk takes behind the root: any but `.root`. -/
def Component.IsStep : Component → Prop
  | root => False
  | entry n => IsName n ∧ '/' ∉ n.toList
  | here | up => True

/-- The `components` of a path are steps, behind `.root` if the path is absolute. -/
theorem components_eq (p : String) :
    ∃ steps, (∀ c ∈ steps, Component.IsStep c) ∧
      components p = if isAbsolute p then .root :: steps else steps := by
  have hsteps : ∀ c ∈ ((Text.pieces '/' p).filter (!isIdle ·)).map Component.ofPiece,
      c.IsStep := by
    intro c hc
    obtain ⟨piece, hpiece, rfl⟩ := List.mem_map.mp hc
    obtain ⟨hmem, hidle⟩ := List.mem_filter.mp hpiece
    unfold Component.ofPiece
    split
    · trivial
    · rename_i hup
      exact ⟨isName_iff.mpr ⟨by simpa using hidle, hup⟩, Text.not_mem_of_mem_pieces hmem⟩
  -- A leading root is no step, and a leading `.` is one.
  unfold components
  dsimp only
  split
  · exact ⟨_, hsteps, rfl⟩
  · split
    · refine ⟨_, ?_, rfl⟩
      rw [List.singleton_append, List.forall_mem_cons]
      exact ⟨trivial, hsteps⟩
    · exact ⟨_, hsteps, rfl⟩

/-- A step from a path in normal form ends in one, by `advance?_entry` and `advance?_up`. -/
theorem IsNormal.advance? {p q : String} {c : Component} (hp : IsNormal p) (hc : c.IsStep)
    (h : advance? p c = some q) : IsNormal q := by
  -- A path in normal form is a list of names, and a step changes the end of the list.
  obtain ⟨names, hnames, rfl⟩ := isNormal_iff.mp hp
  cases c with
  | root => exact hc.elim
  | here =>
    obtain rfl : ofNames names = q := Option.some.inj h
    exact hp
  | up =>
    rw [advance?_up hnames] at h
    split at h
    · cases h
    · obtain rfl := Option.some.inj h
      exact isNormal_iff.mpr ⟨_, hnames.dropLast, rfl⟩
  | entry n =>
    rw [advance?_entry hnames hc.2] at h
    obtain rfl := Option.some.inj h
    exact isNormal_iff.mpr ⟨_, hnames.concat hc.1 hc.2, rfl⟩

/-- So does a walk of any length: the induction on `IsNormal.advance?`. -/
theorem IsNormal.foldlM {steps : List Component} {p q : String} (hp : IsNormal p)
    (hsteps : ∀ c ∈ steps, c.IsStep) (h : steps.foldlM Path.advance? p = some q) : IsNormal q := by
  induction steps generalizing p with
  | nil =>
    obtain rfl : p = q := Option.some.inj h
    exact hp
  | cons c steps ih =>
    rw [List.forall_mem_cons] at hsteps
    rw [List.foldlM_cons] at h
    obtain ⟨r, hr, hrest⟩ := Option.bind_eq_some_iff.mp h
    exact ih (hp.advance? hsteps.1 hr) hsteps.2 hrest

/-- Lexical resolution ends in normal form, whatever the `target` is: `resolve?` starts at the
    `base` or at the root, and takes steps from there. -/
theorem isNormal_of_resolve? {base target dir : String} (hbase : IsNormal base)
    (h : resolve? base target = some dir) : IsNormal dir := by
  obtain ⟨steps, hsteps, hcomponents⟩ := components_eq target
  have hroot : IsNormal "/" := by decide
  rw [resolve?, hcomponents] at h
  split at h
  · -- the walk forgets its base and begins again at the root
    exact hroot.foldlM hsteps h
  · exact hbase.foldlM hsteps h

end LineShell.Path
