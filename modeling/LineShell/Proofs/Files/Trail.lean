import LineShell.Files.Walk

/-! # What a walk looks at

A walk looks at some locations and at no others: at those where it stands, and at the one that its
next step leads to.  Two views that show the same at these locations lead a path to the same end,
and an absolute path leads there from everywhere.

* `walk_congr`, `open?_congr`   a walk counts by what is seen on its trail
* `open?_of_isAbsolute`   an absolute path leads to the same end from everywhere
* `trail_avoids`          a walk does not get below a location that holds no directory -/

namespace LineShell.View

/-- The locations that a walk along pieces from `here` looks at, if it follows every link and has
    `links` of them still allowed. -/
def trail (v : View) (links : Nat) (here : Location) : List Octets → List Location
  | [] => [here]
  | piece :: rest =>
    here ::
      if v.node? here ≠ some .directory then []
      else if Path.isIdle piece then v.trail links here rest
      else if piece = ".." then v.trail links here.tail rest
      else if piece.length > nameLimit then []
      else
        (piece :: here) ::
          match v.node? (piece :: here) with
          | none => []
          | some (.link target) =>
            match links with
            | 0 => []
            | links + 1 =>
              v.trail links (if Path.isAbsolute target then [] else here)
                (Text.pieces '/' target ++ rest)
          | some _ => v.trail links (piece :: here) rest
  termination_by pieces => (links, pieces.length)

/-- The locations that the walk along `path` from `dir` looks at. -/
def way (v : View) (dir : Location) (path : Octets) : List Location :=
  v.trail linkLimit (if Path.isAbsolute path then [] else dir) (Text.pieces '/' path)

variable {v v' : View}

/-- Views that show the same on the `trail` of a walk lead it to the same end. -/
theorem walk_congr (links : Nat) (here : Location) (pieces : List Octets)
    (h : ∀ loc ∈ v.trail links here pieces, v'.node? loc = v.node? loc) :
    v'.walk true links here pieces = v.walk true links here pieces := by
  fun_induction v.trail links here pieces with
  | case1 links here =>
    rw [walk, walk, h here (List.mem_singleton_self here)]
  | case2 links here piece rest stay up link on =>
    rw [List.forall_mem_cons] at h
    obtain ⟨hhere, h⟩ := h
    -- both views show the same at `here`, so both walks come to the same tests of the piece
    rw [walk, walk, hhere]
    by_cases hdir : v.node? here ≠ some .directory
    · simp only [if_pos hdir]
    simp only [if_neg hdir] at h ⊢
    by_cases hidle : Path.isIdle piece = true
    · simp only [if_pos hidle] at h ⊢
      exact stay h
    simp only [if_neg hidle] at h ⊢
    by_cases hup : piece = ".."
    · simp only [if_pos hup] at h ⊢
      exact up h
    simp only [if_neg hup] at h ⊢
    by_cases hlong : piece.length > nameLimit
    · simp only [if_pos hlong]
    simp only [if_neg hlong] at h ⊢
    rw [List.forall_mem_cons] at h
    obtain ⟨hnext, h⟩ := h
    -- what is at the next location, where they look as well, decides how they go on
    rw [hnext]
    cases hnode : v.node? (piece :: here) with
    | none => rfl
    | some n =>
      rw [hnode] at h
      cases n with
      | link target =>
        cases links with
        | zero => rfl
        | succ links => simpa using link target h
      | _ => exact on h

/-- Views that show the same on the `way` of a path lead it to the same end. -/
theorem open?_congr {dir : Location} {path : Octets}
    (h : ∀ loc ∈ v.way dir path, v'.node? loc = v.node? loc) :
    v'.open? dir path = v.open? dir path := by
  have hfind : v'.find true dir path = v.find true dir path := by
    unfold find
    rw [walk_congr linkLimit _ _ h]
  rw [open?, open?, hfind]

/-- An absolute path has the same way from everywhere. -/
theorem way_of_isAbsolute {path : Octets} (habs : Path.isAbsolute path = true)
    (dir : Location) : v.way dir path = v.way [] path := by
  rw [way, way, if_pos habs, if_pos habs]

/-- An absolute path leads to the same end from everywhere. -/
theorem open?_of_isAbsolute {path : Octets} (habs : Path.isAbsolute path = true)
    (dir : Location) : v.open? dir path = v.open? [] path := by
  have hfind : v.find true dir path = v.find true [] path := by
    unfold find
    rw [if_pos habs, if_pos habs]
  rw [open?, open?, hfind]

/-- What a path leads to is where its walk ends, if something is there. -/
theorem open?_eq_walk {path : Octets} (hne : path ≠ "") (hlen : path.length ≤ pathLimit)
    (dir : Location) :
    v.open? dir path =
      match v.walk true linkLimit (if Path.isAbsolute path then [] else dir)
        (Text.pieces '/' path) with
      | .ok ⟨loc, some n⟩ => .ok (loc, n)
      | .ok ⟨_, none⟩ => .error .noEntry
      | .error e => .error e := by
  rw [open?, find, if_neg hne, if_neg (Nat.not_lt.mpr hlen)]
  rcases v.walk _ _ _ _ with e | ⟨loc, node⟩
  · rfl
  · cases node <;> rfl

/-! ### Where a walk does not get -/

/-- A location that is properly below `top`. -/
def IsBelow (top loc : Location) : Prop := top <:+ loc ∧ loc ≠ top

instance (top loc : Location) : Decidable (IsBelow top loc) := inferInstanceAs (Decidable (_ ∧ _))

theorem IsBelow.of_tail {top loc : Location} (h : IsBelow top loc.tail) : IsBelow top loc := by
  cases loc with
  | nil => exact h
  | cons name above =>
    obtain ⟨hsuffix, hne⟩ := h
    refine ⟨hsuffix.trans (List.suffix_cons name above), ?_⟩
    rintro rfl
    exact absurd hsuffix.length_le (by simp)

theorem IsBelow.of_cons {top loc : Location} {name : Octets} (h : IsBelow top (name :: loc)) :
    loc = top ∨ IsBelow top loc := by
  obtain ⟨hsuffix, hne⟩ := h
  obtain heq | hsuffix := List.suffix_cons_iff.mp hsuffix
  · exact absurd heq.symm hne
  · by_cases heq : loc = top
    · exact .inl heq
    · exact .inr ⟨hsuffix, heq⟩

/-- The root is below nothing. -/
theorem not_isBelow_nil (top : Location) : ¬IsBelow top [] := by
  rintro ⟨hsuffix, hne⟩
  exact hne (List.suffix_nil.mp hsuffix).symm

/-- A walk does not get below a location that holds no directory. -/
theorem trail_avoids {top : Location} (htop : v.node? top ≠ some .directory) (links : Nat)
    (here : Location) (pieces : List Octets) (hhere : ¬IsBelow top here) :
    ∀ loc ∈ v.trail links here pieces, ¬IsBelow top loc := by
  fun_induction v.trail links here pieces with
  | case1 links here => simpa using hhere
  | case2 links here piece rest stay up link on =>
    rw [List.forall_mem_cons]
    refine ⟨hhere, ?_⟩
    by_cases hdir : v.node? here ≠ some .directory
    · simp only [if_pos hdir, List.not_mem_nil, false_implies, implies_true]
    simp only [if_neg hdir]
    by_cases hidle : Path.isIdle piece = true
    · simp only [if_pos hidle]
      exact stay hhere
    simp only [if_neg hidle]
    by_cases hup : piece = ".."
    · simp only [if_pos hup]
      exact up fun h => hhere h.of_tail
    simp only [if_neg hup]
    by_cases hlong : piece.length > nameLimit
    · simp only [if_pos hlong, List.not_mem_nil, false_implies, implies_true]
    simp only [if_neg hlong]
    -- the walk stands in a directory, and `top` holds none
    have hnext : ¬IsBelow top (piece :: here) := by
      intro h
      obtain rfl | h := h.of_cons
      · exact htop (Decidable.not_not.mp hdir)
      · exact hhere h
    rw [List.forall_mem_cons]
    refine ⟨hnext, ?_⟩
    cases hnode : v.node? (piece :: here) with
    | none => simp
    | some n =>
      cases n with
      | link target =>
        cases links with
        | zero => simp
        | succ links =>
          -- a link leads on from the root, or from where it is
          refine link target ?_
          split
          · exact not_isBelow_nil top
          · exact hhere
      | _ => exact on hnext

end LineShell.View
