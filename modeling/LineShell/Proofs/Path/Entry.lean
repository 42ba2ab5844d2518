import LineShell.Proofs.Path.Stack

/-! # Paths that name one entry

A path may have slashes behind it, with nothing but dots between them, and means the same as without
them: to its components they are nothing.  So the paths with a single component, which is an entry,
are the names of entries, alone or with a slash behind them and what hangs loose after it.

* `exists_pieces`            a path is in one piece, or has a slash behind its first piece
* `components_eq_nil_iff`    only the empty path has no components
* `components_eq_entry_iff`  the paths that name one entry -/

namespace LineShell.Path

/-- A text that hangs loose behind a slash: it holds nothing but slashes, and `.` between them. -/
def IsLoose (rest : String) : Prop := ∀ piece ∈ Text.pieces '/' rest, isIdle piece = true

/-- The path `p` is the name of an entry with a slash behind it, and what follows hangs loose. -/
def Trails (p name : String) : Prop :=
  IsName name ∧ '/' ∉ name.toList ∧ ∃ rest, IsLoose rest ∧ p = name ++ "/" ++ rest

/-- The path `p` is the name of an entry, alone or with slashes behind it. -/
def IsEntry (p name : String) : Prop :=
  (IsName name ∧ '/' ∉ name.toList ∧ p = name) ∨ Trails p name

/-- `Text.pieces` of a path begin with some first piece, even if it is empty. -/
theorem exists_first_piece (p : String) :
    ∃ first rest, Text.pieces '/' p = first :: rest :=
  List.exists_cons_of_ne_nil fun h => Text.cut_ne_nil '/' p.toList (List.map_eq_nil_iff.mp h)

/-- A path is its first piece, or has a slash behind it and the other pieces behind the slash. -/
theorem exists_pieces (p : String) :
    Text.pieces '/' p = [p] ∨
      ∃ first rest, p = first ++ "/" ++ rest ∧ '/' ∉ first.toList ∧
        Text.pieces '/' p = first :: Text.pieces '/' rest := by
  obtain ⟨first, others, hp⟩ := exists_first_piece p
  have hjoin := Text.join_pieces '/' p
  have hslash : '/' ∉ first.toList := Text.not_mem_of_mem_pieces (hp ▸ List.mem_cons_self)
  rw [hp] at hjoin
  by_cases hothers : others = []
  · subst hothers
    rw [Text.join_singleton] at hjoin
    exact .inl (hjoin ▸ hp)
  · rw [Text.join_cons first hothers] at hjoin
    refine .inr ⟨first, Text.join '/' others, hjoin.symm, hslash, ?_⟩
    rw [hp, Text.pieces_join hothers]
    intro other hother
    exact Text.not_mem_of_mem_pieces (hp ▸ List.mem_cons_of_mem first hother)

/-- A path whose first piece is not empty does not begin at the root: it has no `isAbsolute`. -/
theorem isAbsolute_of_pieces {p first : String} {rest : List String}
    (hp : Text.pieces '/' p = first :: rest) (hfirst : first ≠ "") : isAbsolute p = false := by
  obtain h | ⟨first', rest', rfl, hslash, h⟩ := exists_pieces p
  · obtain ⟨rfl, rfl⟩ := List.cons.inj (hp.symm.trans h)
    exact isAbsolute_eq_false (Text.not_mem_of_mem_pieces (hp ▸ List.mem_cons_self))
  · obtain ⟨rfl, -⟩ := List.cons.inj (hp.symm.trans h)
    rw [String.append_assoc, isAbsolute_append hfirst]
    exact isAbsolute_eq_false hslash

/-- A path whose first piece is a name has as its `components` the pieces with `isIdle = false`. -/
theorem components_of_pieces {p first : String} {rest : List String}
    (hp : Text.pieces '/' p = first :: rest) (hfirst : isIdle first = false) :
    components p = .ofPiece first :: (rest.filter (!isIdle ·)).map Component.ofPiece := by
  have hidle : ¬(first = "" ∨ first = ".") := by simpa [isIdle] using hfirst
  obtain ⟨hempty, hdot⟩ := not_or.mp hidle
  simp [components, isAbsolute_of_pieces hp hempty, hp, hdot, hfirst]

theorem IsName.ofPiece_eq {name : String} (h : IsName name) :
    Component.ofPiece name = .entry name := if_neg h.2.2

/-- What `IsLoose` has no pieces but idle ones. -/
theorem isLoose_iff {rest : String} :
    IsLoose rest ↔ (Text.pieces '/' rest).filter (!isIdle ·) = [] := by
  simp [IsLoose, List.filter_eq_nil_iff]

/-- What `IsEntry` has one component, its `.entry`. -/
theorem IsEntry.components_eq {p name : String} (h : IsEntry p name) :
    components p = [.entry name] := by
  -- The name stands alone, or the pieces behind it are all idle.
  obtain ⟨hname, hslash, rfl⟩ | ⟨hname, hslash, rest, hrest, rfl⟩ := h
  · have hp := components_of_pieces (Text.pieces_of_not_mem hslash) (isName_iff.mp hname).1
    rwa [List.filter_nil, List.map_nil, hname.ofPiece_eq] at hp
  · have hpieces : Text.pieces '/' (name ++ "/" ++ rest) = name :: Text.pieces '/' rest := by
      rw [pieces_slash, Text.pieces_of_not_mem hslash, List.singleton_append]
    have hp := components_of_pieces hpieces (isName_iff.mp hname).1
    rwa [isLoose_iff.mp hrest, List.map_nil, hname.ofPiece_eq] at hp

/-- What `IsEntry` is no absolute path. -/
theorem IsEntry.isAbsolute_eq {p name : String} (h : IsEntry p name) : isAbsolute p = false := by
  obtain ⟨-, hslash, rfl⟩ | ⟨hname, hslash, rest, -, rfl⟩ := h
  · exact isAbsolute_eq_false hslash
  · rw [String.append_assoc, isAbsolute_append hname.1]
    exact isAbsolute_eq_false hslash

/-- An absolute path means the same inside every directory: `join` gives it back. -/
theorem join_of_isAbsolute {p : String} (h : isAbsolute p = true) (dir : String) :
    join dir p = p := by
  rw [join, if_pos h]

/-- A path that begins with an `isIdle` piece is empty, or begins at the root or with a dot. -/
theorem components_of_idle {p first : String} {rest : List String}
    (hp : Text.pieces '/' p = first :: rest) (hfirst : isIdle first = true) :
    p = "" ∨ (components p).head? = some .root ∨ (components p).head? = some .here := by
  have hcases : first = "" ∨ first = "." := by simpa [isIdle] using hfirst
  unfold components
  by_cases habs : isAbsolute p = true
  · exact .inr (.inl (by simp [habs]))
  · obtain rfl | rfl := hcases
    · -- an empty piece with a slash behind it begins at the root
      obtain h | ⟨first', rest', rfl, -, h⟩ := exists_pieces p
      · exact .inl (List.cons.inj (hp.symm.trans h)).1.symm
      · obtain ⟨rfl, -⟩ := List.cons.inj (hp.symm.trans h)
        exact absurd (by simp [isAbsolute]) habs
    · exact .inr (.inr (by simp [habs, hp]))

/-- A path whose only component is `.entry name` begins with `name`, and has only idle pieces behind
    it. -/
theorem pieces_of_components_eq {p name first : String} {rest : List String}
    (hp : Text.pieces '/' p = first :: rest) (h : components p = [.entry name]) :
    first = name ∧ IsName name ∧ rest.filter (!isIdle ·) = [] := by
  cases hfirst : isIdle first with
  | true =>
    -- no root, no dot and no empty path is an entry
    obtain rfl | hhead | hhead := components_of_idle hp hfirst
    · exact nomatch h
    · rw [h] at hhead
      exact nomatch hhead
    · rw [h] at hhead
      exact nomatch hhead
  | false =>
    rw [components_of_pieces hp hfirst] at h
    obtain ⟨hpiece, hrest⟩ := List.cons.inj h
    have hup : first ≠ ".." := by
      rintro rfl
      exact nomatch hpiece
    rw [Component.ofPiece, if_neg hup] at hpiece
    obtain rfl := Component.entry.inj hpiece
    exact ⟨rfl, isName_iff.mpr ⟨hfirst, hup⟩, List.map_eq_nil_iff.mp hrest⟩

/-- A path consists of one component, which is an entry, exactly if it `IsEntry`. -/
theorem components_eq_entry_iff {p name : String} :
    components p = [.entry name] ↔ IsEntry p name := by
  refine ⟨fun h => ?_, IsEntry.components_eq⟩
  -- A path in one piece is the name, and in several the slash trails.
  obtain hp | ⟨first, rest, rfl, hslash, hp⟩ := exists_pieces p
  · obtain ⟨rfl, hname, -⟩ := pieces_of_components_eq hp h
    exact .inl ⟨hname, Text.not_mem_of_mem_pieces (hp ▸ List.mem_cons_self), rfl⟩
  · obtain ⟨rfl, hname, hrest⟩ := pieces_of_components_eq hp h
    exact .inr ⟨hname, hslash, rest, isLoose_iff.mpr hrest, rfl⟩

/-- Only the empty path has no `components`. -/
theorem components_eq_nil_iff {p : String} : components p = [] ↔ p = "" := by
  constructor
  · intro h
    obtain ⟨first, rest, hp⟩ := exists_first_piece p
    cases hfirst : isIdle first with
    | true => simpa [h] using components_of_idle hp hfirst
    | false =>
      rw [components_of_pieces hp hfirst] at h
      exact nomatch h
  · rintro rfl
    decide

end LineShell.Path
