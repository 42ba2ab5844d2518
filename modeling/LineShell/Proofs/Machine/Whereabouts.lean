import Mathlib.Data.List.Find
import LineShell.Console.Sink
import LineShell.Machine.Host
import LineShell.Proofs.Command.Standard
import LineShell.Proofs.Files.Trail

/-! # Where the shell's own process stands

The shell keeps a directory of its own, and its process stays where it was started.  A file that a
name means is tested from where the process stands, and run from the directory of the session.  The
two are led to the same file by an absolute path, unless its way leads through what the machine
tells of processes, which is not the same for all of them.  All paths that lookup tries are absolute
but those in a relative entry of the search path, which are tested in one directory and run in
another.

* `Host.open?_eq`            an absolute path leads every process to the same file
* `Lookup.isAbsolute_or`     which paths that are tried are not absolute
* `Host.finds_anywhere`      what lookup finds, wherever the process stands -/

namespace LineShell

/-! ### What processes see alike -/

/-- The directory below which the machine tells of processes. -/
def World.reports : Location := ["proc"]

/-- What the machine tells of processes is below `reports`. -/
theorem World.processNode?_eq_none {w : World} {loc : Location} (self : Nat)
    (h : ¬View.IsBelow reports loc) : w.processNode? self loc = none := by
  have hbelow : ∀ name names, View.IsBelow reports (name :: names ++ reports) := by
    intro name names
    refine ⟨List.suffix_append _ _, fun heq => ?_⟩
    have hlength := congrArg List.length heq
    rw [List.length_append, List.length_cons] at hlength
    omega
  -- Every location of which something is told has a name below `reports`.
  unfold processNode?
  split
  · exact absurd (hbelow "self" []) h
  · exact absurd (hbelow _ []) h
  · exact absurd (hbelow _ [_]) h
  · exact absurd (hbelow _ [_, _]) h
  · rfl

/-- What is not below `reports` every process sees as the file tree holds it. -/
theorem World.node?_view {w : World} {loc : Location} (self : Nat)
    (h : ¬View.IsBelow reports loc) : (w.view self).node? loc = w.files.node? loc := by
  show (w.files.node? loc).or (w.processNode? self loc) = _
  rw [processNode?_eq_none self h, Option.or_none]

/-- A path whose way does not lead below `reports` leads every process to where it leads in the file
    tree. -/
theorem World.open?_view {w : World} {dir : Location} {path : Octets} (self : Nat)
    (h : ∀ loc ∈ w.files.view.way dir path, ¬View.IsBelow reports loc) :
    (w.view self).open? dir path = w.files.open? dir path :=
  View.open?_congr fun loc hloc => node?_view self (h loc hloc)

/-- A child that finds its directory loads its program from there: `begin_` is `Request.load`
    then. -/
theorem Request.image_of_begin {r : Request} {w w' : World} {parent number : Nat} {self : Peer}
    {there : Location} (henlist : w.enlist { self with parent } = (number, w'))
    (hplace : r.place (w'.view number) self.directory = .ok there) :
    (r.begin_ w parent self).map (fun p => p.1.image) =
      r.load ((w'.update number ({ · with directory := there })).view number) there := by
  simp only [begin_, henlist, hplace]
  cases r.load ((w'.update number ({ · with directory := there })).view number) there <;> rfl

namespace Host

/-- The way of an absolute path does not lead through what the machine tells of processes. -/
def Clear (h : Host) (path : Octets) : Prop :=
  ∀ loc ∈ h.files.view.way [] path, ¬View.IsBelow World.reports loc

/-- Without a directory `reports` every path is `Clear`. -/
theorem clear_of_no_reports {h : Host} (hnone : h.files.node? World.reports ≠ some .directory)
    (path : Octets) : h.Clear path := by
  refine View.trail_avoids hnone View.linkLimit _ _ ?_
  rw [ite_self]
  exact View.not_isBelow_nil _

/-- An absolute path that is `Clear` leads every process to the same file, wherever it stands. -/
theorem open?_eq {h : Host} {path : Octets} (habs : Path.isAbsolute path = true)
    (hclear : h.Clear path) {w : World} (hfiles : w.files = h.files) (number : Nat)
    (dir : Location) :
    (w.view number).open? dir path = h.files.open? [] path := by
  rw [World.open?_view number, hfiles]
  · exact View.open?_of_isAbsolute habs dir
  · rw [hfiles, View.way_of_isAbsolute habs]
    exact hclear

/-- The same machine, with the shell's own process `self` in another directory. -/
def standing (h : Host) (place : Location) : Host :=
  { h with world := h.world.update h.number ({ · with directory := place }) }

/-- The number of a child that begins, and the world in which it looks for its directory. -/
def fork (h : Host) : Nat × World :=
  let (descriptors, world) := h.world.withInput ""
  world.enlist { h.self with descriptors, parent := h.number }

/-- The files as a child sees them that stands in its directory. -/
def childView (h : Host) (there : Location) : View :=
  (h.fork.2.update h.fork.1 ({ · with directory := there })).view h.fork.1

/-- What a child of the shell begins with, by `Request.begin_`. -/
def begins (h : Host) (r : Request) : Except SpawnError (Start × World) :=
  let (descriptors, world) := h.world.withInput ""
  r.begin_ world h.number { h.self with descriptors }

/-- A child of the shell that finds its directory loads its program from there: `image_of_begin` for
    the shell's own process. -/
theorem image_of_begins {h : Host} {r : Request} {there : Location}
    (hplace : r.place (h.fork.2.view h.fork.1) h.self.directory = .ok there) :
    (h.begins r).map (fun p => p.1.image) = r.load (h.childView there) there :=
  Request.image_of_begin rfl hplace

/-- Whether a path `isExecutable` is told by where it leads the shell's own process. -/
theorem isExecutable_eq (h : Host) (path : Octets) :
    Machine.isExecutable h path =
      (!hasNul path &&
        match (h.world.view h.number).open? h.self.directory path with
        | .ok (_, n) => n != .directory && n.mode &&& 0o111 != 0
        | .error _ => false) := by
  have hstatus : Machine.status? h path =
      (h.world.view h.number).status? h.self.directory path := rfl
  rw [Machine.isExecutable, hstatus, View.status?]
  cases hasNul path with
  | true => rfl
  | false =>
    rw [if_neg Bool.false_ne_true]
    rcases (h.world.view h.number).open? h.self.directory path with e | ⟨loc, n⟩
    · rfl
    · rfl

/-- An absolute path that is `Clear` leads a child to the same file, in whatever directory it
    starts. -/
theorem open?_childView {h : Host} {path : Octets} (habs : Path.isAbsolute path = true)
    (hclear : h.Clear path) (there : Location) :
    (h.childView there).open? there path = h.files.open? [] path := by
  have hfiles : (h.fork.2.update h.fork.1 ({ · with directory := there })).files = h.files := rfl
  exact open?_eq habs hclear hfiles h.fork.1 there

/-- A path that `isExecutable` leads the process to a file. -/
theorem exists_of_isExecutable {h : Host} {path : Octets}
    (hexec : Machine.isExecutable h path = true) :
    ∃ loc node, (h.world.view h.number).open? h.self.directory path =
        .ok (loc, node) ∧ node ≠ .directory ∧ node.mode &&& 0o111 ≠ 0 := by
  rw [isExecutable_eq, Bool.and_eq_true] at hexec
  obtain ⟨-, htest⟩ := hexec
  rcases hopen : (h.world.view h.number).open? h.self.directory path
    with e | ⟨loc, node⟩
  · rw [hopen] at htest
    exact nomatch htest
  · rw [hopen] at htest
    obtain ⟨hnode, hmode⟩ := (Bool.and_eq_true _ _).mp htest
    exact ⟨loc, node, rfl, bne_iff_ne.mp hnode, bne_iff_ne.mp hmode⟩

/-- Whether an absolute path that is `Clear` can be executed does not depend on where the process
    stands. -/
theorem isExecutable_standing {h : Host} {path : Octets} (habs : Path.isAbsolute path = true)
    (hclear : h.Clear path) (place : Location) :
    Machine.isExecutable (h.standing place) path = Machine.isExecutable h path := by
  -- Both tests open the same path, and it leads to the same file from both places.
  rw [isExecutable_eq, isExecutable_eq, open?_eq habs hclear rfl]
  have hstanding := open?_eq habs hclear (w := (h.standing place).world) rfl
    (h.standing place).number (h.standing place).self.directory
  rw [hstanding]

end Host

/-! ### The paths that lookup tries -/

/-- A path inside a directory is absolute if the directory is: `join` keeps the beginning. -/
theorem Path.isAbsolute_join {dir : Octets} (hdir : isAbsolute dir = true) (name : Octets) :
    isAbsolute (join dir name) = true := by
  rw [isAbsolute, beq_iff_eq] at hdir
  obtain ⟨cs, hcs⟩ := List.head?_eq_some_iff.mp hdir
  unfold join
  split
  · assumption
  · split <;> simp [isAbsolute, hcs]

/-- A path that lookup tries from an absolute directory is absolute, or lies in a relative entry of
    the search path. -/
theorem Lookup.isAbsolute_or {searchPath cwd name path : Octets}
    (hcwd : Path.isAbsolute cwd = true) (h : path ∈ candidates searchPath cwd name) :
    Path.isAbsolute path = true ∨
      ∃ entry ∈ Text.pieces ':' searchPath, entry ≠ "" ∧ Path.isAbsolute entry = false ∧
        ∃ single, Path.components name = [.entry single] ∧ path = Path.join entry single := by
  unfold candidates at h
  split at h
  · exact absurd h List.not_mem_nil
  · rename_i single hsingle
    rw [inSearchPath] at h
    obtain ⟨entry, hentry, rfl⟩ := List.mem_map.mp h
    obtain ⟨hmem, hne⟩ := List.mem_filter.mp hentry
    cases habs : Path.isAbsolute entry with
    | true => exact .inl (Path.isAbsolute_join habs single)
    | false => exact .inr ⟨entry, hmem, by simpa using hne, habs, single, hsingle, rfl⟩
  · obtain rfl := List.mem_singleton.mp h
    exact .inl (Path.isAbsolute_join hcwd name)

namespace Host

/-- What lookup finds for a session in an absolute directory, wherever the shell's own process
    stands.  The paths that it tries are absolute, but for those in a relative entry of the search
    path.  An absolute path that it finds leads the child, in whatever directory this has been
    started, to the very file that was tested, and the child loads its program from there.  If all
    paths that it tries are absolute, then what a name means and which command is made of it do not
    depend on where the process stands.  Both hold for paths that are `Clear`, so that they do not
    lead through what the machine tells of processes; where it tells nothing, every path is. -/
theorem finds_anywhere {ω : Type} [Console ω] (h : Host) {s : Session}
    (hdir : Path.isAbsolute s.dir = true) (name : String) :
    let candidates := Lookup.candidates s.searchPath s.dir (Octets.ofText name)
    (h.files.node? World.reports ≠ some .directory → ∀ path, h.Clear path) ∧
    (∀ path ∈ candidates, Path.isAbsolute path = true ∨
      ∃ entry ∈ Text.pieces ':' s.searchPath, entry ≠ "" ∧ Path.isAbsolute entry = false ∧
        ∃ single, Path.components (Octets.ofText name) = [.entry single] ∧
          path = Path.join entry single) ∧
    (∀ path, Lookup.command? h s.searchPath s.dir (Octets.ofText name) = some path →
      Path.isAbsolute path = true → h.Clear path →
      ∃ loc node,
        (h.world.view h.number).open? h.self.directory path = .ok (loc, node) ∧
        node ≠ .directory ∧ node.mode &&& 0o111 ≠ 0 ∧
        ∀ words there,
          let r := External.request s path words
          (h.childView there).open? there r.program = .ok (loc, node) ∧
          (r.place (h.fork.2.view h.fork.1) h.self.directory = .ok there →
            (h.begins r).map (fun p => p.1.image) = r.load (h.childView there) there)) ∧
    ((∀ path ∈ candidates, Path.isAbsolute path = true ∧ h.Clear path) → ∀ place,
      Lookup.command? (h.standing place) s.searchPath s.dir (Octets.ofText name) =
        Lookup.command? h s.searchPath s.dir (Octets.ofText name) ∧
      s.meaning (h.standing place) name = s.meaning h name ∧
      ∀ (o : ω) (words : List String),
        External.factory.create? s (o, h.standing place) name words =
          External.factory.create? s (o, h) name words) := by
  intro candidates
  refine ⟨clear_of_no_reports, fun path => Lookup.isAbsolute_or hdir, ?_, ?_⟩
  · -- the file that was tested is the one that the child is led to
    intro path hfound habs hclear
    rw [Lookup.command?_eq] at hfound
    obtain ⟨loc, node, hopen, hnode, hmode⟩ := exists_of_isExecutable (List.find?_some hfound)
    refine ⟨loc, node, hopen, hnode, hmode, fun words there => ⟨?_, image_of_begins⟩⟩
    refine (open?_childView habs hclear there).trans ?_
    rw [← open?_eq habs hclear (w := h.world) rfl h.number h.self.directory]
    exact hopen
  · -- no path is tested from where the process stands
    intro hall place
    have hcommand : Lookup.command? (h.standing place) s.searchPath s.dir (Octets.ofText name) =
        Lookup.command? h s.searchPath s.dir (Octets.ofText name) := by
      rw [Lookup.command?_eq, Lookup.command?_eq]
      refine List.find?_congr fun path hpath => ?_
      obtain ⟨habs, hclear⟩ := hall path hpath
      exact isExecutable_standing habs hclear place
    refine ⟨hcommand, ?_, fun o words => ?_⟩
    · rw [Session.meaning, Session.meaning, hcommand]
    · have hpair (h : Host) : Lookup.command? (o, h) s.searchPath s.dir (Octets.ofText name) =
          Lookup.command? h s.searchPath s.dir (Octets.ofText name) :=
        Lookup.command?_pair o h _ _ _
      simp only [External.factory, hpair, hcommand]

/-- A program behind a link, for a session in another directory than the shell's own process. -/
theorem finds_anywhere_link :
    let tree : FileTree := ⟨[(["proc"], .directory), (["bin"], .link "usr/bin"),
      (["usr"], .directory), (["bin", "usr"], .directory), (["home"], .directory),
      (["tool", "bin", "usr"], .tool .sh), (["work"], .directory)]⟩
    let h : Host := .ofFiles tree (fun _ => .ended (.exited 0)) ["home"]
    let s : Session := { vars := [("PATH", "/bin")], dir := "/work" }
    Path.isAbsolute s.dir = true ∧ h.Clear "/bin/tool" ∧
      s.meaning h "tool" = .file "/bin/tool" ∧
      s.meaning (h.standing ["usr"]) "tool" = .file "/bin/tool" ∧
      (h.childView ["work"]).open? ["work"] "/bin/tool" =
        .ok (["tool", "bin", "usr"], .tool .sh) := by
  intro tree h s
  have hdir : Path.isAbsolute s.dir = true := by decide
  have hname : Octets.ofText "tool" = "tool" := by decide
  have hpieces : Text.pieces '/' "/bin/tool" = ["", "bin", "tool"] := by decide
  have hlink : Text.pieces '/' "usr/bin" = ["usr", "bin"] := by decide
  have hbin : "bin".length = 3 := by decide
  have husr : "usr".length = 3 := by decide
  have htool : "tool".length = 4 := by decide
  -- The way leads through the link, and nowhere near what is told of processes.
  have hway : h.files.view.way [] "/bin/tool" =
      [[], [], ["bin"], [], ["usr"], ["usr"], ["bin", "usr"], ["bin", "usr"],
        ["tool", "bin", "usr"], ["tool", "bin", "usr"]] := by
    rw [View.way, hpieces, View.linkLimit, ite_self]
    show tree.view.trail 40 [] ["", "bin", "tool"] = _
    simp [View.trail, tree, FileTree.view, FileTree.node?, List.lookup_cons, Path.isIdle,
      Path.isAbsolute, View.nameLimit, hlink, hbin, husr, htool]
  have hclear : h.Clear "/bin/tool" := by
    rw [Clear, hway]
    decide
  have habs : Path.isAbsolute "/bin/tool" = true := by decide
  have hcandidates : Lookup.candidates s.searchPath s.dir "tool" = ["/bin/tool"] := by decide
  have hfile : h.files.open? [] "/bin/tool" =
      .ok (["tool", "bin", "usr"], .tool .sh) := by
    have hwalk : h.files.view.walk true View.linkLimit [] ["", "bin", "tool"] =
        .ok ⟨["tool", "bin", "usr"], some (.tool .sh)⟩ := by
      show tree.view.walk true 40 [] ["", "bin", "tool"] = _
      simp [View.walk, tree, FileTree.view, FileTree.node?, List.lookup_cons, Path.isIdle,
        Path.isAbsolute, View.nameLimit, hlink, hbin, husr, htool]
    rw [FileTree.open?, View.open?_eq_walk (by decide) (by decide), hpieces, if_pos habs,
      hwalk]
  have hexec : Machine.isExecutable h "/bin/tool" = true := by
    rw [isExecutable_eq, open?_eq habs hclear rfl, hfile]
    decide
  have hfound : Lookup.command? h s.searchPath s.dir (Octets.ofText "tool") =
      some "/bin/tool" := by
    rw [Lookup.command?_eq, hname, hcandidates, List.find?_cons_of_pos hexec]
  have hmeaning : s.meaning h "tool" = .file "/bin/tool" := by
    rw [Session.meaning, hfound]
    rfl
  -- There is one candidate, and it is absolute and clear.
  obtain ⟨-, -, hsame, halone⟩ := finds_anywhere (ω := Sink) h hdir "tool"
  have hall : ∀ path ∈ Lookup.candidates s.searchPath s.dir (Octets.ofText "tool"),
      Path.isAbsolute path = true ∧ h.Clear path := by
    rw [hname, hcandidates, List.forall_mem_singleton]
    exact ⟨habs, hclear⟩
  obtain ⟨loc, node, hopen, -, -, hchild⟩ := hsame "/bin/tool" hfound habs hclear
  rw [open?_eq habs hclear rfl, hfile] at hopen
  exact ⟨hdir, hclear, hmeaning, (halone hall ["usr"]).2.1.trans hmeaning,
    (hchild [] ["work"]).1.trans hopen.symm⟩

/-- A relative entry of the search path names a program where the shell's own process stands.  From
    elsewhere the name means nothing, and a child that starts in the directory of the session is not
    led to the program. -/
theorem relative_entry_misleads :
    let tree : FileTree := ⟨[(["r"], .directory), (["bin", "r"], .directory),
      (["tool", "bin", "r"], .tool .sh), (["work", "r"], .directory)]⟩
    let h : Host := .ofFiles tree (fun _ => .ended (.exited 0)) ["r"]
    let s : Session := { vars := [("PATH", "bin")], dir := "/r/work" }
    Path.isAbsolute s.dir = true ∧ s.meaning h "tool" = .file "bin/tool" ∧
      s.meaning (h.standing ["work", "r"]) "tool" = .nothing ∧
      (h.world.view h.number).open? h.self.directory "bin/tool" =
        .ok (["tool", "bin", "r"], .tool .sh) ∧
      (h.childView ["work", "r"]).open? ["work", "r"] "bin/tool" =
        .error .noEntry := by
  intro tree h s
  have hname : Octets.ofText "tool" = "tool" := by decide
  have hpieces : Text.pieces '/' "bin/tool" = ["bin", "tool"] := by decide
  have hrelative : ¬Path.isAbsolute "bin/tool" = true := by decide
  have hcandidates : Lookup.candidates s.searchPath s.dir "tool" = ["bin/tool"] := by decide
  have hself : h.self.directory = ["r"] := by decide
  have hbin : "bin".length = 3 := by decide
  have htool : "tool".length = 4 := by decide
  -- nothing is told of processes, so all of them see the file tree
  have hview : ∀ {w : World} (number : Nat) {dir : Location}, w.files = tree →
      ¬View.IsBelow World.reports dir →
      (w.view number).open? dir "bin/tool" = tree.open? dir "bin/tool" := by
    intro w number dir hfiles hdir
    rw [← hfiles]
    refine World.open?_view number (View.trail_avoids ?_ View.linkLimit _ _ ?_)
    · rw [hfiles]
      decide
    · rwa [if_neg hrelative]
  have hhere : tree.open? ["r"] "bin/tool" = .ok (["tool", "bin", "r"], .tool .sh) := by
    have hwalk : tree.view.walk true View.linkLimit ["r"] ["bin", "tool"] =
        .ok ⟨["tool", "bin", "r"], some (.tool .sh)⟩ := by
      simp [View.walk, tree, FileTree.view, FileTree.node?, List.lookup_cons, Path.isIdle,
        View.nameLimit, hbin, htool]
    rw [FileTree.open?, View.open?_eq_walk (by decide) (by decide), hpieces, if_neg hrelative,
      hwalk]
  have hthere : tree.open? ["work", "r"] "bin/tool" = .error .noEntry := by
    have hwalk : tree.view.walk true View.linkLimit ["work", "r"] ["bin", "tool"] =
        .error .noEntry := by
      simp [View.walk, tree, FileTree.view, FileTree.node?, List.lookup_cons, Path.isIdle,
        View.nameLimit, hbin]
    rw [FileTree.open?, View.open?_eq_walk (by decide) (by decide), hpieces, if_neg hrelative,
      hwalk]
  have hmoved : (h.standing ["work", "r"]).self.directory = ["work", "r"] := by decide
  have hopen : (h.world.view h.number).open? h.self.directory "bin/tool" =
      .ok (["tool", "bin", "r"], .tool .sh) := by
    rw [hself, hview _ rfl (by decide), hhere]
  refine ⟨by decide, ?_, ?_, hopen, ?_⟩
  · have hexec : Machine.isExecutable h "bin/tool" = true := by
      rw [isExecutable_eq, hopen]
      decide
    rw [Session.meaning, Lookup.command?_eq, hname, hcandidates, List.find?_cons_of_pos hexec]
    rfl
  · have hexec : ¬Machine.isExecutable (h.standing ["work", "r"]) "bin/tool" = true := by
      rw [isExecutable_eq, hmoved, hview _ rfl (by decide), hthere]
      decide
    rw [Session.meaning, Lookup.command?_eq, hname, hcandidates, List.find?_cons_of_neg hexec]
    rfl
  · rw [childView, hview _ rfl (by decide), hthere]

end Host

end LineShell
