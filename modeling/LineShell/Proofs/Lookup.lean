import LineShell.Lookup
import LineShell.Proofs.Text.Octets

/-! # What lookup finds

A file that `Lookup.command?` finds is named by a path: it holds a slash, but for the two paths that
name a directory without one.  It is a text if all that it is put together from is.

* `slash_mem_of_command?`   what is found holds a slash, or is `.` or `..`
* `isText_of_command?`      what is found from a directory that is a text is one itself -/

namespace LineShell

/-- A path that `isAbsolute` holds a slash. -/
theorem Path.slash_mem_of_isAbsolute {p : Octets} (h : isAbsolute p = true) : '/' ∈ p.toList := by
  rw [isAbsolute, beq_iff_eq] at h
  exact List.mem_of_mem_head? h

/-- A path inside a directory holds a slash, as `Path.join` puts one in. -/
theorem Path.slash_mem_join {dir : Octets} (h : dir ≠ "") (name : Octets) :
    '/' ∈ (join dir name).toList := by
  rw [join]
  split
  · rename_i habs
    exact slash_mem_of_isAbsolute habs
  · split
    · rename_i hend
      have hlast : dir.toList.getLast? = some '/' := hend.resolve_left h
      rw [String.toList_append]
      exact List.mem_append_left _ (List.mem_of_getLast? hlast)
    · simp

namespace Lookup

/-- A name without a slash that has steps, but not just an entry, is `.` or `..`. -/
theorem eq_of_slash_not_mem {name : Octets} (h : '/' ∉ name.toList)
    (hempty : Path.components name ≠ [])
    (hentry : ∀ single, Path.components name ≠ [.entry single]) : name = "." ∨ name = ".." := by
  have habs : Path.isAbsolute name = false :=
    Bool.eq_false_iff.mpr fun habs => h (Path.slash_mem_of_isAbsolute habs)
  have hpieces := Text.pieces_of_not_mem h
  by_cases hhere : name = "."
  · exact .inl hhere
  · by_cases hup : name = ".."
    · exact .inr hup
    · by_cases hnone : name = ""
      · subst hnone
        exact absurd (by decide) hempty
      · refine absurd ?_ (hentry name)
        simp [Path.components, habs, hpieces, Path.isIdle, Path.Component.ofPiece, hhere, hup,
          hnone]

/-- What is found is one of the `candidates` of the name. -/
theorem mem_candidates_of_command? {η : Type} [Machine η] {w : η}
    {searchPath cwd name path : Octets} (h : command? w searchPath cwd name = some path) :
    path ∈ candidates searchPath cwd name := by
  rw [command?_eq] at h
  exact List.mem_of_find?_eq_some h

/-- What `command?` finds for a name holds a slash, or is `.` or `..`. -/
theorem slash_mem_of_command? {η : Type} [Machine η] {w : η} {searchPath cwd name path : Octets}
    (h : command? w searchPath cwd name = some path) :
    '/' ∈ path.toList ∨ path = "." ∨ path = ".." := by
  have hmem := mem_candidates_of_command? h
  unfold candidates at hmem
  split at hmem
  · exact absurd hmem List.not_mem_nil
  · -- the file lies in a directory of the search path
    rw [inSearchPath] at hmem
    obtain ⟨dir, hdir, rfl⟩ := List.mem_map.mp hmem
    have hne : dir ≠ "" := by simpa using (List.mem_filter.mp hdir).2
    exact .inl (Path.slash_mem_join hne _)
  · -- the name is a path of its own
    rename_i hempty hentry
    obtain rfl := List.mem_singleton.mp hmem
    -- Only without a directory is the name itself what is found.
    by_cases hcwd : cwd = ""
    · have hjoin : Path.join cwd name = name := by
        rw [Path.join, hcwd]
        split <;> simp
      rw [hjoin]
      by_cases hslash : '/' ∈ name.toList
      · exact .inl hslash
      · exact .inr (eq_of_slash_not_mem hslash hempty hentry)
    · exact .inl (Path.slash_mem_join hcwd name)

/-- An `.entry` of a path that is a text is a text. -/
theorem isText_entry {name single : Octets} (hname : Octets.isText name = true)
    (h : .entry single ∈ Path.components name) : Octets.isText single = true := by
  unfold Path.components at h
  -- The root and a leading `.` are no entries, so the entry comes from a piece of the path.
  have hpiece : .entry single ∈
      ((Text.pieces '/' name).filter (!Path.isIdle ·)).map Path.Component.ofPiece := by
    dsimp only at h
    obtain h | h := List.mem_append.mp h
    · split at h
      · simp at h
      · split at h <;> simp at h
    · exact h
  obtain ⟨piece, hmem, hentry⟩ := List.mem_map.mp hpiece
  obtain rfl : piece = single := by
    unfold Path.Component.ofPiece at hentry
    split at hentry
    · exact nomatch hentry
    · exact Path.Component.entry.inj hentry
  exact Octets.isText_of_mem_pieces (by decide) hname (List.mem_filter.mp hmem).1

/-- What `command?` finds is a text if the search path, the directory and the name are. -/
theorem isText_of_command? {η : Type} [Machine η] {w : η} {searchPath cwd name path : Octets}
    (hsearch : Octets.isText searchPath = true) (hcwd : Octets.isText cwd = true)
    (hname : Octets.isText name = true) (h : command? w searchPath cwd name = some path) :
    Octets.isText path = true := by
  have hmem := mem_candidates_of_command? h
  unfold candidates at hmem
  split at hmem
  · exact absurd hmem List.not_mem_nil
  · rename_i single hsingle
    rw [inSearchPath] at hmem
    obtain ⟨dir, hdir, rfl⟩ := List.mem_map.mp hmem
    have hdir' := Octets.isText_of_mem_pieces (by decide) hsearch (List.mem_filter.mp hdir).1
    have hentry : .entry single ∈ Path.components name := by
      rw [hsingle]
      exact List.mem_singleton_self _
    exact Path.isText_join hdir' (isText_entry hname hentry)
  · obtain rfl := List.mem_singleton.mp hmem
    exact Path.isText_join hcwd hname

end Lookup

end LineShell
