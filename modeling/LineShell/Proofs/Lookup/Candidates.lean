import LineShell.Lookup
import LineShell.Machine.Catalog
import LineShell.Proofs.Path.Entry

/-! # What lookup tries

Which files a command name could mean, said by the text of the name, and which of them lookup takes.
An empty name means none.  The name of an entry, which may have a slash behind it and then nothing
but more slashes and dots between them, is looked for in the directories of the search path; any
other name is a path of its own.  Lookup takes the first file that somebody may execute.

The name of an entry that trails a slash is still the name of an entry, so a slash alone does not
keep a name away from the search path.

* `Machine.isExecutable_iff`       the files that can be executed, by the bits of their mode
* `Lookup.tries_iff`               the candidates of a name are what the rules say
* `Lookup.finds_first`             lookup takes the first candidate that can be executed
* `Lookup.slash_spares_searchPath`  which names with a slash do not depend on the search path -/

namespace LineShell

/-! ### Files that can be executed -/

namespace Machine

variable {η : Type} [Machine η] {w : η} {path : Octets}

/-- The path leads to a file that is no directory, and one of the three bits of its mode says that
    it may be executed: that of its owner, of its group or of everybody else. -/
def Executable (w : η) (path : Octets) : Prop :=
  ∃ s, status? w path = some s ∧ s.isDirectory = false ∧
    (s.mode.testBit 6 = true ∨ s.mode.testBit 3 = true ∨ s.mode.testBit 0 = true)

/-- A mode has one of the three bits exactly if it shares one with the mask `0o111`. -/
theorem mode_and_ne_zero_iff (mode : Nat) :
    mode &&& 0o111 ≠ 0 ↔
      mode.testBit 6 = true ∨ mode.testBit 3 = true ∨ mode.testBit 0 = true := by
  have hbits : 0o111 = 2 ^ 6 ||| 2 ^ 3 ||| 2 ^ 0 := by decide
  have hmask : ∀ i, Nat.testBit 0o111 i = true ↔ i = 6 ∨ i = 3 ∨ i = 0 := by
    intro i
    rw [hbits]
    simp only [Nat.testBit_or, Nat.testBit_two_pow, Bool.or_eq_true, decide_eq_true_eq]
    omega
  constructor
  · intro h
    -- What is not 0 has a bit, and that is one of the mask.
    obtain ⟨i, hi⟩ := Nat.exists_testBit_of_ne_zero h
    rw [Nat.testBit_and, Bool.and_eq_true, hmask] at hi
    obtain ⟨hbit, rfl | rfl | rfl⟩ := hi
    · exact .inl hbit
    · exact .inr (.inl hbit)
    · exact .inr (.inr hbit)
  · -- a bit of both is a bit of what they share, which is then not 0
    have hshared : ∀ i, Nat.testBit 0o111 i = true → mode.testBit i = true →
        mode &&& 0o111 ≠ 0 := by
      intro i hi hbit hzero
      have hand := Nat.testBit_and mode 0o111 i
      rw [hzero, hi, hbit, Nat.zero_testBit] at hand
      exact nomatch hand
    rintro (h | h | h)
    · exact hshared 6 (by decide) h
    · exact hshared 3 (by decide) h
    · exact hshared 0 (by decide) h

/-- What `isExecutable` tests is that the path is `Executable`. -/
theorem isExecutable_iff : isExecutable w path = true ↔ Executable w path := by
  unfold isExecutable Executable
  cases status? w path with
  | none => simp
  | some s => simp [mode_and_ne_zero_iff]

end Machine

/-! ### The candidates of a name -/

namespace Lookup

open Machine (Executable isExecutable_iff)

/-- The files that lookup tries for a name, in order. -/
inductive Tries (searchPath cwd : Octets) : Octets → List Octets → Prop
  /-- An empty name means nothing. -/
  | nothing : Tries searchPath cwd "" []
  /-- The name of an entry is looked for in every directory of the search path whose own name is
      not empty. -/
  | searched {name single : Octets} (h : Path.IsEntry name single) :
    Tries searchPath cwd name
      (((Text.pieces ':' searchPath).filter (· != "")).map (Path.join · single))
  /-- Any other name is a path from the current directory. -/
  | path {name : Octets} (hne : name ≠ "") (h : ∀ single, ¬Path.IsEntry name single) :
    Tries searchPath cwd name [Path.join cwd name]

/-- The `candidates` of a name are what the rules of `Tries` say. -/
theorem tries_iff {searchPath cwd name : Octets} {paths : List Octets} :
    Tries searchPath cwd name paths ↔ paths = candidates searchPath cwd name := by
  unfold candidates
  constructor
  · intro h
    -- Each rule fixes the components of the name, and with them the branch.
    cases h with
    | nothing => rfl
    | searched h =>
      rw [h.components_eq]
      rfl
    | path hne h =>
      split
      · rename_i hnil
        exact absurd (Path.components_eq_nil_iff.mp hnil) hne
      · rename_i single hsingle
        exact absurd (Path.components_eq_entry_iff.mp hsingle) (h single)
      · rfl
  · -- the components of the name tell which rule applies
    rintro rfl
    split
    · rename_i hnil
      rw [Path.components_eq_nil_iff.mp hnil]
      exact .nothing
    · rename_i single hsingle
      exact .searched (Path.components_eq_entry_iff.mp hsingle)
    · rename_i hnil hentry
      refine .path (fun h => hnil (Path.components_eq_nil_iff.mpr h)) fun single h => ?_
      exact hentry single h.components_eq

/-- A name that is neither empty nor that of an entry has one of the `candidates`: its path. -/
theorem candidates_eq_path {name : Octets} (hne : name ≠ "")
    (hentry : ∀ single, ¬Path.IsEntry name single) (searchPath cwd : Octets) :
    candidates searchPath cwd name = [Path.join cwd name] :=
  (tries_iff.mp (.path hne hentry)).symm

variable {η : Type} [Machine η]

/-- The name of an entry is looked up with `inSearchPath?`. -/
theorem command?_of_isEntry {name single : Octets} (h : Path.IsEntry name single) (w : η)
    (searchPath cwd : Octets) :
    command? w searchPath cwd name = inSearchPath? w searchPath single := by
  rw [command?, h.components_eq]

/-- A search path in two parts is searched one part after the other. -/
theorem inSearchPath?_append (w : η) (front rest name : Octets) :
    inSearchPath? w (front ++ ":" ++ rest) name =
      (inSearchPath? w front name).or (inSearchPath? w rest name) := by
  have hpieces : Text.pieces ':' (front ++ ":" ++ rest) =
      Text.pieces ':' front ++ Text.pieces ':' rest := Text.pieces_append ':' front rest
  have hfiles : inSearchPath (front ++ ":" ++ rest) name =
      inSearchPath front name ++ inSearchPath rest name := by
    rw [inSearchPath, hpieces, List.filter_append, List.map_append]
    rfl
  rw [inSearchPath?, hfiles, List.find?_append]
  rfl

/-- Lookup takes the first candidate of a name that is `Executable`, and finds nothing exactly if
    there is none among them; the candidates are told by the rules of `Tries`, and there is just one
    way to apply them.  An absolute name that is looked up is the file itself; the name of an entry
    is looked up with `inSearchPath?`, and the parts of a search path are searched one after the
    other. -/
theorem finds_first (w : η) (searchPath cwd name : Octets) :
    ∃ paths, (∀ paths', Tries searchPath cwd name paths' ↔ paths' = paths) ∧
      (∀ path, command? w searchPath cwd name = some path ↔
        ∃ before after, paths = before ++ path :: after ∧ Executable w path ∧
          ∀ p ∈ before, ¬Executable w p) ∧
      (command? w searchPath cwd name = none ↔ ∀ p ∈ paths, ¬Executable w p) ∧
      (∀ path, command? w searchPath cwd name = some path → Executable w path) ∧
      (Path.isAbsolute name = true → paths = [name]) ∧
      (∀ single, Path.IsEntry name single →
        command? w searchPath cwd name = inSearchPath? w searchPath single) ∧
      ∀ front rest single, inSearchPath? w (front ++ ":" ++ rest) single =
        (inSearchPath? w front single).or (inSearchPath? w rest single) := by
  have hnot (p : String) : (!Machine.isExecutable w p) = true ↔ ¬Executable w p := by
    rw [Bool.not_eq_true', ← Bool.not_eq_true, isExecutable_iff]
  refine ⟨candidates searchPath cwd name, fun _ => tries_iff, fun path => ?_, ?_,
    fun path hpath => ?_, fun habs => ?_, fun single h => command?_of_isEntry h w searchPath cwd,
    inSearchPath?_append w⟩
  · rw [command?_eq, List.find?_eq_some_iff_append, isExecutable_iff]
    constructor
    · rintro ⟨hpath, before, after, hpaths, hbefore⟩
      exact ⟨before, after, hpaths, hpath, fun p hp => (hnot p).mp (hbefore p hp)⟩
    · rintro ⟨before, after, hpaths, hpath, hbefore⟩
      exact ⟨hpath, before, after, hpaths, fun p hp => (hnot p).mpr (hbefore p hp)⟩
  · rw [command?_eq, List.find?_eq_none]
    exact forall₂_congr fun p _ => not_congr isExecutable_iff
  · rw [command?_eq] at hpath
    exact isExecutable_iff.mp (List.find?_some hpath)
  · -- an absolute name is no entry, and its path from anywhere is the name itself
    have hne : name ≠ "" := by
      rintro rfl
      exact absurd habs (by decide)
    have hentry : ∀ single, ¬Path.IsEntry name single := by
      intro single hsingle
      rw [hsingle.isAbsolute_eq] at habs
      exact Bool.false_ne_true habs
    rw [candidates_eq_path hne hentry, Path.join_of_isAbsolute habs]

-- Empty entries of the search path do not count, and a slash is added only where there is none.
example : candidates "::/a/::b:" "/c" "tool/." = ["/a/tool", "b/tool"] := by decide

/-! ### Names with a slash -/

/-- A name with a slash is the name of an entry only if it `Trails` the slash. -/
theorem trails_of_isEntry {name single : Octets} (hslash : '/' ∈ name.toList)
    (h : Path.IsEntry name single) : Path.Trails name single := by
  obtain ⟨-, hnone, rfl⟩ | htrails := h
  · exact absurd hslash hnone
  · exact htrails

/-- A name that `Trails` a slash is looked up as the entry it names. -/
theorem command?_of_trails {name single : Octets} (h : Path.Trails name single) (w : η)
    (searchPath cwd : Octets) :
    command? w searchPath cwd name = inSearchPath? w searchPath single :=
  command?_of_isEntry (.inr h) w searchPath cwd

/-- Every entry is found by `inSearchPath?` with some search path and not with another one, on some
    machine. -/
theorem exists_inSearchPath?_ne (single : Octets) :
    ∃ (w : Catalog) (searchPath searchPath' : Octets),
      inSearchPath? w searchPath single ≠ inSearchPath? w searchPath' single := by
  -- the machine has the entry in one directory, which only one of the search paths has
  let path := Path.join "/bin" single
  let w : Catalog := { paths := [(path, ⟨false, 0o755⟩)] }
  have hexec : Machine.isExecutable w path = true := by
    simp [Machine.isExecutable, Machine.status?, Catalog.status?, w]
  have hfound : inSearchPath? w "/bin" single = some path := by
    have hfiles : inSearchPath "/bin" single = [path] := by
      have hpieces : Text.pieces ':' "/bin" = ["/bin"] := by decide
      simp [inSearchPath, hpieces, path]
    rw [inSearchPath?, hfiles, List.find?_cons_of_pos hexec]
  have hnone : inSearchPath? w "" single = none := by
    have hfiles : inSearchPath "" single = [] := by
      have hpieces : Text.pieces ':' "" = [""] := by decide
      simp [inSearchPath, hpieces]
    rw [inSearchPath?, hfiles, List.find?_nil]
  refine ⟨w, "/bin", "", ?_⟩
  rw [hfound, hnone]
  exact Option.some_ne_none _

/-- A name with a slash does not depend on the search path, and what it means is the path from the
    current directory, unless it `Trails` the slash: unless the slash and all that follows it hang
    loose behind the name of an entry.  Such a name is looked up as the entry is, and there are
    files and search paths for which it means different things. -/
theorem slash_spares_searchPath {name : Octets} (hslash : '/' ∈ name.toList) (cwd : Octets) :
    ((∀ single, ¬Path.Trails name single) →
      ∀ {η : Type} [Machine η] (w : η) (searchPath searchPath' : Octets),
        command? w searchPath cwd name = command? w searchPath' cwd name ∧
        ∀ path, command? w searchPath cwd name = some path →
          path = Path.join cwd name ∧ (Path.isAbsolute name = true → path = name)) ∧
    (∀ single, Path.Trails name single →
      (∀ {η : Type} [Machine η] (w : η) (searchPath : Octets),
        command? w searchPath cwd name = inSearchPath? w searchPath single) ∧
      ∃ (w : Catalog) (searchPath searchPath' : Octets),
        command? w searchPath cwd name ≠ command? w searchPath' cwd name) := by
  constructor
  · intro hnot η _ w searchPath searchPath'
    have hne : name ≠ "" := by
      rintro rfl
      exact absurd hslash (by decide)
    -- With a slash in it, the name could be that of an entry only by trailing the slash.
    have hentry : ∀ single, ¬Path.IsEntry name single := fun single h =>
      hnot single (trails_of_isEntry hslash h)
    have hpaths := fun searchPath => candidates_eq_path hne hentry searchPath cwd
    constructor
    · rw [command?_eq, command?_eq, hpaths, hpaths]
    · intro path hpath
      rw [command?_eq] at hpath
      have hmem := List.mem_of_find?_eq_some hpath
      rw [hpaths] at hmem
      obtain rfl := List.mem_singleton.mp hmem
      exact ⟨rfl, fun habs => Path.join_of_isAbsolute habs cwd⟩
  · intro single htrails
    refine ⟨fun w searchPath => command?_of_trails htrails w searchPath cwd, ?_⟩
    obtain ⟨w, searchPath, searchPath', hne⟩ := exists_inSearchPath?_ne single
    refine ⟨w, searchPath, searchPath', ?_⟩
    rwa [command?_of_trails htrails, command?_of_trails htrails]

/-- A name that begins with a dot, and is found in the current directory although `/bin` in the
    search path has a file of that name too. -/
theorem slash_spares_searchPath_here :
    let w : Catalog := { paths := [("/bin/tool", ⟨false, 0o755⟩), ("/srv/./tool/", ⟨false, 0o1⟩)] }
    '/' ∈ "./tool/".toList ∧ (∀ single, ¬Path.Trails "./tool/" single) ∧
      command? w "" "/srv" "./tool/" = some "/srv/./tool/" ∧
      command? w "/bin" "/srv" "./tool/" = some "/srv/./tool/" := by
  intro w
  have hslash : '/' ∈ "./tool/".toList := by decide
  have hnot : ∀ single, ¬Path.Trails "./tool/" single := by
    intro single h
    have hentry : Path.IsEntry "./tool/" single := .inr h
    have hcomponents : Path.components "./tool/" = [.here, .entry "tool"] := by decide
    rw [hentry.components_eq] at hcomponents
    exact nomatch hcomponents
  obtain ⟨hspares, -⟩ := slash_spares_searchPath hslash "/srv"
  have hfound : command? w "" "/srv" "./tool/" = some "/srv/./tool/" := by decide
  exact ⟨hslash, hnot, hfound, ((hspares hnot w "" "/bin").1.symm.trans hfound)⟩

/-- The name `tool/`, an entry with a slash behind it, is found in a directory of the search path,
    and with an empty search path it is not found. -/
theorem trailing_slash_searched :
    let w : Catalog := { paths := [("/bin/tool", ⟨false, 0o755⟩)] }
    '/' ∈ "tool/".toList ∧ Path.join "/srv" "tool/" = "/srv/tool/" ∧
      command? w "/bin" "/srv" "tool/" = some "/bin/tool" ∧
      command? w "" "/srv" "tool/" = none := by
  decide

end Lookup

end LineShell
