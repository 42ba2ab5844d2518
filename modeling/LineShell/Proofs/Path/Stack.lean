import LineShell.Proofs.Path.Normal

/-! # Resolution with a stack

Lexical resolution said without paths as texts.  The names of the base make up a stack, or there
are none if the target begins at the root; then the pieces of the target are taken in order.  An
empty piece and a `.` do nothing, `..` takes a name off the stack, and any other piece is put on it.
The end of the walk is the path along the names that are left, and there is no end exactly if some
`..` finds the stack empty.

* `resolve?_eq_foldlM`            the target counts by its pieces, and by whether it is absolute
* `resolve?_append`               what follows a path and some slashes begins where the path ends
* `foldlM_step?_eq_none_iff`      a stack runs out if some prefix of the pieces climbs too high
* `resolves_with_stack`           both together, for a base in normal form -/

namespace LineShell.Path

/-- What a piece of a target does to the names on the stack, whose top is the last one. -/
def step? (stack : List String) (piece : String) : Option (List String) :=
  if piece = "" ∨ piece = "." then some stack
  else if piece = ".." then
    if stack = [] then none else some stack.dropLast
  else some (stack ++ [piece])

/-- The names between the slashes of a path. -/
def names (p : String) : List String := (Text.pieces '/' p).filter (· ≠ "")

/-- The names on the stack where a walk along `target` from `base` begins: none if the target
    `isAbsolute`. -/
def bottom (base target : String) : List String := if isAbsolute target then [] else names base

/-- The names on the stack where the walk along `target` from `base` ends, by `step?` for each
    piece. -/
def stack? (base target : String) : Option (List String) :=
  (Text.pieces '/' target).foldlM step? (bottom base target)

/-! ### The pieces of a target -/

/-- The pieces of a path with `isIdle = false`. -/
def steps (p : String) : List String := (Text.pieces '/' p).filter (!isIdle ·)

/-- A walk takes the `steps` of its target in order. -/
theorem resolve?_eq_foldlM (base target : String) :
    resolve? base target =
      (steps target).foldlM (fun at_ piece => advance? at_ (.ofPiece piece))
        (if isAbsolute target then "/" else base) := by
  have hroot : advance? "" .root = some "/" := by decide
  unfold resolve? components steps
  dsimp only
  by_cases habs : isAbsolute target = true
  · rw [if_pos habs, if_pos habs, if_pos habs, List.singleton_append, List.foldlM_cons, hroot]
    exact List.foldlM_map ..
  · rw [if_neg habs, if_neg habs, if_neg habs]
    -- a `.` where the target begins is a component, but the walk stays where it is
    split
    · exact List.foldlM_map ..
    · exact List.foldlM_map ..

/-- A slash separates the `pieces` of two paths. -/
theorem pieces_slash (p q : String) :
    Text.pieces '/' (p ++ "/" ++ q) = Text.pieces '/' p ++ Text.pieces '/' q :=
  Text.pieces_append '/' p q

/-- A slash separates the `steps` of two paths. -/
theorem steps_append (p q : String) : steps (p ++ "/" ++ q) = steps p ++ steps q := by
  rw [steps, pieces_slash, List.filter_append]
  rfl

/-- A slash in front of a path is none of its `steps`. -/
theorem steps_slash (p : String) : steps ("/" ++ p) = steps p := by
  have h := steps_append "" p
  rw [String.empty_append] at h
  rw [h]
  rfl

/-- Nor is any number of slashes: `steps` stay when they are dropped. -/
theorem steps_dropSlashes (cs : List Char) :
    steps (String.ofList (cs.dropWhile (· = '/'))) = steps (String.ofList cs) := by
  induction cs with
  | nil => rfl
  | cons c cs ih =>
    by_cases hc : c = '/'
    · have hcons : String.ofList (c :: cs) = "/" ++ String.ofList cs := by
        rw [← String.toList_inj, hc]
        simp
      rw [List.dropWhile_cons_of_pos (by simpa using hc), ih, hcons, steps_slash]
    · rw [List.dropWhile_cons_of_neg (by simpa using hc)]

/-- The `steps` of a path inside a directory are those of the directory, then those of the path. -/
theorem steps_join (dir : String) {p : String} (hp : isAbsolute p = false) :
    steps (join dir p) = steps dir ++ steps p := by
  rw [join, hp, if_neg Bool.false_ne_true]
  by_cases hend : dir = "" ∨ dir.toList.getLast? = some '/'
  · rw [if_pos hend]
    obtain rfl | hslash := hend
    · rw [String.empty_append]
      rfl
    · -- the slash at the end of the directory separates, and has nothing behind it
      obtain ⟨front, hfront⟩ := List.getLast?_eq_some_iff.mp hslash
      have hdir : dir = String.ofList front ++ "/" ++ "" := by
        rw [← String.toList_inj, hfront]
        simp
      have hempty : steps "" = [] := rfl
      have hboth : dir ++ p = String.ofList front ++ "/" ++ p := by
        rw [hdir, String.append_empty]
      rw [hboth, steps_append, hdir, steps_append, hempty, List.append_nil]
  · rw [if_neg hend, steps_append]

/-- Whether a path `isAbsolute` is decided by its beginning, if that is not empty. -/
theorem isAbsolute_append {p : String} (hp : p ≠ "") (q : String) :
    isAbsolute (p ++ q) = isAbsolute p := by
  obtain ⟨c, rest, hc⟩ := List.exists_cons_of_ne_nil (mt String.toList_eq_nil_iff.mp hp)
  simp [isAbsolute, hc]

/-- Without the slashes in front no path `isAbsolute`. -/
theorem isAbsolute_dropSlashes (cs : List Char) :
    isAbsolute (String.ofList (cs.dropWhile (· = '/'))) = false := by
  rw [isAbsolute, String.toList_ofList, beq_eq_false_iff_ne]
  intro hhead
  have hnot := List.head?_dropWhile_not (· = '/') cs
  rw [hhead] at hnot
  exact absurd hnot (by decide)

/-- A walk along the `steps` of two paths goes to the end of the first one, and on from there. -/
theorem resolve?_of_steps {target p q : String} (base : String)
    (habs : isAbsolute target = isAbsolute p) (hsteps : steps target = steps p ++ steps q)
    (hq : isAbsolute q = false) :
    resolve? base target = (resolve? base p).bind fun at_ => resolve? at_ q := by
  rw [resolve?_eq_foldlM, habs, hsteps, List.foldlM_append, resolve?_eq_foldlM base p]
  refine congrArg (Option.bind _) (funext fun at_ => ?_)
  rw [resolve?_eq_foldlM, hq, if_neg Bool.false_ne_true]

/-- A walk along a path inside a directory goes through the directory: `resolve?` of the `join` is
    `resolve?` twice. -/
theorem resolve?_join (base : String) {dir p : String} (hdir : dir ≠ "")
    (hp : isAbsolute p = false) :
    resolve? base (join dir p) = (resolve? base dir).bind fun at_ => resolve? at_ p := by
  refine resolve?_of_steps base ?_ (steps_join dir hp) hp
  rw [join, hp, if_neg Bool.false_ne_true]
  split
  · exact isAbsolute_append hdir p
  · rw [String.append_assoc]
    exact isAbsolute_append hdir _

/-- However many slashes stand behind a path, what follows them begins at the end of the path. -/
theorem resolve?_append (base : String) {p : String} (hp : p ≠ "") (rest : String) :
    resolve? base (p ++ "/" ++ rest) =
      (resolve? base p).bind fun at_ =>
        resolve? at_ (String.ofList (rest.toList.dropWhile (· = '/'))) := by
  -- The slashes make the rest relative, and are no steps.
  refine resolve?_of_steps base ?_ ?_ (isAbsolute_dropSlashes _)
  · rw [String.append_assoc]
    exact isAbsolute_append hp _
  · rw [steps_append, steps_dropSlashes, String.ofList_toList]

/-! ### Paths and stacks -/

/-- The `names` of the path along some names are those names. -/
theorem names_ofNames {ns : List String} (h : AreNames ns) : names (ofNames ns) = ns := by
  by_cases hne : ns = []
  · subst hne
    decide
  · have hempty : ∀ n ∈ ns, decide (n ≠ "") = true := fun n hn => decide_eq_true (h n hn).1.1
    rw [names, pieces_ofNames hne h, List.filter_cons_of_neg (by simp),
      List.filter_eq_self.mpr hempty]

/-- A path in normal form is `ofNames` of its `names`. -/
theorem IsNormal.ofNames_names {p : String} (h : IsNormal p) : ofNames (names p) = p := by
  obtain ⟨ns, hns, rfl⟩ := isNormal_iff.mp h
  rw [names_ofNames hns]

/-- Between the slashes of a path in normal form `AreNames`. -/
theorem IsNormal.areNames {p : String} (h : IsNormal p) : AreNames (names p) := by
  obtain ⟨ns, hns, rfl⟩ := isNormal_iff.mp h
  rwa [names_ofNames hns]

section Step

variable {stack stack' : List String} {piece : String}

/-- A piece that `isIdle` leaves the stack alone. -/
theorem step?_idle (stack : List String) (h : isIdle piece = true) :
    step? stack piece = some stack := by
  have hidle : piece = "" ∨ piece = "." := by simpa [isIdle] using h
  rw [step?, if_pos hidle]

/-- A piece moves the path along the stack, by `advance?`, as `step?` changes the stack. -/
theorem advance?_ofPiece (hstack : AreNames stack) (hslash : '/' ∉ piece.toList)
    (hidle : isIdle piece = false) :
    advance? (ofNames stack) (.ofPiece piece) = (step? stack piece).map ofNames := by
  have hnot : ¬(piece = "" ∨ piece = ".") := by simpa [isIdle] using hidle
  unfold Component.ofPiece step?
  rw [if_neg hnot]
  by_cases hup : piece = ".."
  · rw [if_pos hup, if_pos hup, advance?_up hstack]
    split <;> rfl
  · rw [if_neg hup, if_neg hup]
    exact advance?_entry hstack hslash

/-- A stack with `AreNames` stays one under `step?`. -/
theorem AreNames.step? (hstack : AreNames stack) (hslash : '/' ∉ piece.toList)
    (h : step? stack piece = some stack') : AreNames stack' := by
  unfold Path.step? at h
  split at h
  · obtain rfl := Option.some.inj h
    exact hstack
  · rename_i hidle
    split at h
    · split at h
      · cases h
      · obtain rfl := Option.some.inj h
        exact hstack.dropLast
    · rename_i hup
      obtain rfl := Option.some.inj h
      exact hstack.concat ⟨fun h => hidle (.inl h), fun h => hidle (.inr h), hup⟩ hslash

end Step

/-- A walk along pieces ends at the path along the stack that they leave: `advance?_ofPiece` for
    each of them. -/
theorem foldlM_advance? {pieces stack : List String} (hstack : AreNames stack)
    (hslash : ∀ p ∈ pieces, '/' ∉ p.toList) :
    (pieces.filter (!isIdle ·)).foldlM (fun at_ piece => advance? at_ (.ofPiece piece))
        (ofNames stack) =
      (pieces.foldlM step? stack).map ofNames := by
  -- the stack is generalised: it stays one of names, whatever a piece does to it
  induction pieces generalizing stack with
  | nil => rfl
  | cons p ps ih =>
    rw [List.forall_mem_cons] at hslash
    rw [List.foldlM_cons]
    cases hidle : isIdle p with
    | true =>
      rw [step?_idle stack hidle, List.filter_cons_of_neg (by simp [hidle])]
      exact ih hstack hslash.2
    | false =>
      rw [List.filter_cons_of_pos (by simp [hidle]), List.foldlM_cons,
        advance?_ofPiece hstack hslash.1 hidle]
      cases hstep : step? stack p with
      | none => rfl
      | some stack' => exact ih (hstack.step? hslash.1 hstep) hslash.2

/-! ### Climbing too high -/

/-- Pieces take more names off a stack than they find on it exactly if some prefix of them holds
    more `..` than there are names, on the stack and in the prefix. -/
theorem foldlM_step?_eq_none_iff (pieces stack : List String) :
    pieces.foldlM step? stack = none ↔
      ∃ ps, ps <+: pieces ∧ stack.length + ps.countP (IsName ·) < ps.count ".." := by
  -- The induction is on the pieces, and each one changes the stack and the counts alike.
  induction pieces generalizing stack with
  | nil =>
    rw [List.foldlM_nil]
    constructor
    · nofun
    · rintro ⟨ps, hps, hlt⟩
      obtain rfl := List.prefix_nil.mp hps
      exact absurd hlt (Nat.not_lt_zero _)
  | cons p rest ih =>
    -- a prefix that climbs too high is not empty, so it begins with `p`
    have hcons : (∃ ps, ps <+: p :: rest ∧ stack.length + ps.countP (IsName ·) < ps.count "..") ↔
        ∃ ps, ps <+: rest ∧
          stack.length + (p :: ps).countP (IsName ·) < (p :: ps).count ".." := by
      constructor
      · rintro ⟨ps, hps, hlt⟩
        obtain rfl | ⟨qs, rfl, hqs⟩ := List.prefix_cons_iff.mp hps
        · exact absurd hlt (Nat.not_lt_zero _)
        · exact ⟨qs, hqs, hlt⟩
      · rintro ⟨qs, hqs, hlt⟩
        exact ⟨p :: qs, List.prefix_cons_iff.mpr (.inr ⟨qs, rfl, hqs⟩), hlt⟩
    rw [hcons, List.foldlM_cons]
    unfold step?
    by_cases hidle : p = "" ∨ p = "."
    · -- an idle piece counts for neither
      rw [if_pos hidle]
      have hname : ¬IsName p := by
        rintro ⟨h, h', -⟩
        exact hidle.elim h h'
      have hup : p ≠ ".." := by
        rintro rfl
        exact absurd hidle (by decide)
      simp only [List.countP_cons_of_neg, List.count_cons_of_ne, hname, hup, decide_false,
        Bool.false_eq_true, not_false_eq_true, ne_eq]
      exact ih stack
    · rw [if_neg hidle]
      by_cases hup : p = ".."
      · subst hup
        have hname : ¬IsName ".." := by decide
        simp only [List.countP_cons_of_neg, List.count_cons_self, hname, decide_false,
          Bool.false_eq_true, not_false_eq_true, if_true]
        by_cases hempty : stack = []
        · subst hempty
          -- `..` alone climbs too high
          have hlt : ∃ ps, ps <+: rest ∧
              ([] : List String).length + ps.countP (IsName ·) < ps.count ".." + 1 :=
            ⟨[], List.nil_prefix, by simp⟩
          simpa using hlt
        · have hpos : 0 < stack.length := List.length_pos_iff.mpr hempty
          rw [if_neg hempty]
          refine (ih stack.dropLast).trans ?_
          rw [List.length_dropLast]
          refine exists_congr fun ps => and_congr_right fun _ => ?_
          omega
      · -- a name counts on the stack as it did in the prefix
        have hname : IsName p := ⟨fun h => hidle (.inl h), fun h => hidle (.inr h), hup⟩
        simp only [List.countP_cons_of_pos, List.count_cons_of_ne, hname, hup, decide_true,
          if_false, ne_eq, not_false_eq_true]
        refine (ih (stack ++ [p])).trans ?_
        rw [List.length_append, List.length_singleton]
        refine exists_congr fun ps => and_congr_right fun _ => ?_
        omega

/-- Lexical resolution from a base in normal form: it ends at the path along the `stack?` that the
    pieces of the target leave, which is in normal form again, and it has no end exactly if some
    prefix of the pieces climbs above the root. -/
theorem resolves_with_stack {base : String} (hbase : IsNormal base) (target : String) :
    ofNames (names base) = base ∧
    resolve? base target = (stack? base target).map ofNames ∧
    (∀ dir, resolve? base target = some dir → IsNormal dir) ∧
    (resolve? base target = none ↔ ∃ ps, ps <+: Text.pieces '/' target ∧
      (bottom base target).length + ps.countP (IsName ·) < ps.count "..") := by
  have hstart : ofNames (bottom base target) = if isAbsolute target then "/" else base := by
    unfold bottom
    split
    · exact ofNames_nil
    · exact hbase.ofNames_names
  have hbottom : AreNames (bottom base target) := by
    unfold bottom
    split
    · exact .nil
    · exact hbase.areNames
  -- The walk begins at the path along the bottom of the stack, and the two go on together.
  have hresolve : resolve? base target = (stack? base target).map ofNames := by
    rw [resolve?_eq_foldlM, ← hstart]
    exact foldlM_advance? hbottom fun p hp => Text.not_mem_of_mem_pieces hp
  refine ⟨hbase.ofNames_names, hresolve, fun dir => isNormal_of_resolve? hbase, ?_⟩
  rw [hresolve, Option.map_eq_none_iff]
  exact foldlM_step?_eq_none_iff _ _

/-- A target that goes up, down and up again, with idle pieces in between, and one that climbs above
    the root before it would come down again: `resolve?` gives `none` for it. -/
theorem resolves_with_stack_up :
    IsNormal "/usr/local" ∧ resolve? "/usr/local" "..//lib/./../../" = some "/" ∧
      resolve? "/usr/local" "../../../usr" = none := by
  have hbase : IsNormal "/usr/local" := by decide
  obtain ⟨-, hstack, -, -⟩ := resolves_with_stack hbase "..//lib/./../../"
  obtain ⟨-, -, -, hnone⟩ := resolves_with_stack hbase "../../../usr"
  refine ⟨hbase, hstack.trans (by decide), hnone.mpr ⟨["..", "..", ".."], ?_, ?_⟩⟩
  · exact ⟨["usr"], by decide⟩
  · decide

end LineShell.Path
