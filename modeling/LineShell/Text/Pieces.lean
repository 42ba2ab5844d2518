/-! # Cutting text at a separator

`pieces sep` cuts a text at every `sep`; there is always one piece more than there are
separators, and pieces may be empty.  `join sep` puts pieces together again.

* `join_pieces`         joining the pieces gives the text back
* `pieces_of_not_mem`   a text without a separator is in one piece
* `pieces_append`       a separator between two texts separates their pieces
* `pieces_join`         pieces without a separator come out as they were joined -/

namespace LineShell.Text

/-- Cut characters at every `sep`. -/
def cut (sep : Char) : List Char → List (List Char)
  | [] => [[]]
  | c :: cs =>
    if c = sep then [] :: cut sep cs
    else match cut sep cs with
      | [] => [[c]]
      | p :: ps => (c :: p) :: ps

/-- Cut a text at every `sep`. -/
def pieces (sep : Char) (s : String) : List String :=
  (cut sep s.toList).map String.ofList

/-- Put pieces together, with `sep` between neighbours. -/
def join (sep : Char) (ps : List String) : String :=
  String.ofList (((ps.map String.toList).intersperse [sep]).flatten)

theorem cut_ne_nil (sep : Char) (cs : List Char) : cut sep cs ≠ [] := by
  cases cs with
  | nil => simp [cut]
  | cons c cs =>
    unfold cut
    split
    · simp
    · split <;> simp

theorem flatten_intersperse_cut (sep : Char) (cs : List Char) :
    ((cut sep cs).intersperse [sep]).flatten = cs := by
  induction cs with
  | nil => rfl
  | cons c cs ih =>
    unfold cut
    split
    · rename_i h
      obtain ⟨p, ps, hp⟩ := List.exists_cons_of_ne_nil (cut_ne_nil sep cs)
      rw [hp] at ih ⊢
      simp [h, List.intersperse, ih]
    · split
      · exact absurd ‹_› (cut_ne_nil sep cs)
      · rename_i p ps hp
        rw [hp] at ih
        cases ps with
        | nil => simpa [List.intersperse] using congrArg (c :: ·) ih
        | cons q qs => simpa [List.intersperse] using congrArg (c :: ·) ih

/-- Joining the `pieces` of a text gives the text back. -/
theorem join_pieces (sep : Char) (s : String) : join sep (pieces sep s) = s := by
  simp [join, pieces, Function.comp_def, flatten_intersperse_cut]

theorem cut_append (sep : Char) (as bs : List Char) :
    cut sep (as ++ sep :: bs) = cut sep as ++ cut sep bs := by
  induction as with
  | nil => simp [cut]
  | cons a as ih =>
    by_cases h : a = sep
    · simp [cut, h, ih]
    · obtain ⟨p, ps, hp⟩ := List.exists_cons_of_ne_nil (cut_ne_nil sep as)
      simp [cut, h, ih, hp]

theorem cut_of_not_mem {sep : Char} {cs : List Char} (h : sep ∉ cs) : cut sep cs = [cs] := by
  induction cs with
  | nil => rfl
  | cons c cs ih =>
    simp only [List.mem_cons, not_or] at h
    rw [cut, if_neg (Ne.symm h.1), ih h.2]

/-- A text without a `sep` is in one piece. -/
theorem pieces_of_not_mem {sep : Char} {s : String} (h : sep ∉ s.toList) : pieces sep s = [s] := by
  rw [pieces, cut_of_not_mem h, List.map_singleton, String.ofList_toList]

/-- A `sep` between two texts separates their pieces. -/
theorem pieces_append (sep : Char) (s t : String) :
    pieces sep (s ++ String.singleton sep ++ t) = pieces sep s ++ pieces sep t := by
  simp [pieces, cut_append]

/-- No piece holds a separator. -/
theorem not_mem_of_mem_cut {sep : Char} {cs p : List Char} (h : p ∈ cut sep cs) : sep ∉ p := by
  induction cs generalizing p with
  | nil =>
    obtain rfl := List.mem_singleton.mp h
    exact List.not_mem_nil
  | cons c cs ih =>
    unfold cut at h
    split at h
    · obtain rfl | hp := List.mem_cons.mp h
      · exact List.not_mem_nil
      · exact ih hp
    · rename_i hc
      split at h
      · obtain rfl := List.mem_singleton.mp h
        simpa using Ne.symm hc
      · rename_i q qs hcut
        rw [hcut] at ih
        obtain rfl | hp := List.mem_cons.mp h
        · rw [List.mem_cons, not_or]
          exact ⟨Ne.symm hc, ih List.mem_cons_self⟩
        · exact ih (List.mem_cons_of_mem _ hp)

/-- No piece of a text holds a `sep`. -/
theorem not_mem_of_mem_pieces {sep : Char} {s p : String} (h : p ∈ pieces sep s) :
    sep ∉ p.toList := by
  obtain ⟨cs, hcs, rfl⟩ := List.mem_map.mp h
  rw [String.toList_ofList]
  exact not_mem_of_mem_cut hcs

theorem join_singleton (sep : Char) (p : String) : join sep [p] = p := by
  simp [join]

theorem join_cons {sep : Char} (p : String) {ps : List String} (h : ps ≠ []) :
    join sep (p :: ps) = p ++ String.singleton sep ++ join sep ps := by
  obtain ⟨q, qs, rfl⟩ := List.exists_cons_of_ne_nil h
  rw [← String.toList_inj]
  simp [join]

/-- Pieces without a `sep` come out as they were joined. -/
theorem pieces_join {sep : Char} {ps : List String} (hne : ps ≠ [])
    (h : ∀ p ∈ ps, sep ∉ p.toList) : pieces sep (join sep ps) = ps := by
  induction ps with
  | nil => exact absurd rfl hne
  | cons p ps ih =>
    rw [List.forall_mem_cons] at h
    by_cases hps : ps = []
    · rw [hps, join_singleton, pieces_of_not_mem h.1]
    · rw [join_cons p hps, pieces_append, pieces_of_not_mem h.1, ih hps h.2, List.singleton_append]

theorem join_concat {sep : Char} {ps : List String} (h : ps ≠ []) (p : String) :
    join sep (ps ++ [p]) = join sep ps ++ String.singleton sep ++ p := by
  induction ps with
  | nil => exact absurd rfl h
  | cons q qs ih =>
    by_cases hqs : qs = []
    · rw [hqs, List.singleton_append, join_cons q (by simp), join_singleton, join_singleton]
    · rw [List.cons_append, join_cons q (by simp), ih hqs, join_cons q hqs]
      simp only [String.append_assoc]

end LineShell.Text
