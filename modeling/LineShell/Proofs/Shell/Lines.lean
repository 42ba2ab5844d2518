import LineShell.Shell.Script

/-! # The lines of a script

The lines that a script denotes can be told without reading it: they are the pieces between its
line feeds.  Reading takes them one by one.

* `next_of_lines_eq_cons`   the next line of a script is the first of its lines
* `next_of_lines_eq_nil`    a script without lines has ended, or breaks off -/

namespace LineShell.Script

/-- The pieces of `s.bytes` between line feeds. -/
def pieces (s : Script) : List (List UInt8) := s.bytes.splitOn lineFeed

/-- The text of a line, as `Text.decode` reads it. -/
def lineText (line : List UInt8) : String := String.ofList (Text.decode line)

/-- The lines that a script denotes.  What stands behind the last line feed is a line only if there
    is something, and if the input does not break off there, so that `s.failure = none`. -/
def lines (s : Script) : List String :=
  let ended := s.pieces.dropLast.map dropReturn
  let open_ := (s.pieces.getLast?.filter fun line => s.failure = none ∧ line ≠ []).toList
  (ended ++ open_).map lineText

/-- The script behind its first `n` lines. -/
def dropLines (n : Nat) (s : Script) : Script :=
  { s with bytes := [lineFeed].intercalate (s.pieces.drop n) }

/-- The script of which nothing is left to read.  Its `failure` stays. -/
def exhausted (s : Script) : Script := { s with bytes := [] }

/-! ### Scripts with and without a line feed -/

/-- A script either has a first `lineFeed` or none. -/
theorem cases_lineFeed (s : Script) :
    (∃ line rest, s.bytes = line ++ lineFeed :: rest ∧ lineFeed ∉ line) ∨ lineFeed ∉ s.bytes := by
  by_cases h : lineFeed ∈ s.bytes
  · exact .inl (List.eq_append_cons_of_mem h)
  · exact .inr h

private theorem ne_lineFeed_of_not_mem {line : List UInt8} (h : lineFeed ∉ line) :
    ∀ b ∈ line, decide (b ≠ lineFeed) = true := by
  intro b hb
  refine decide_eq_true fun heq => h ?_
  exact heq ▸ hb

/-- Up to its first `lineFeed` a script is its next line, with a return in front of the line feed
    dropped. -/
theorem next_of_lineFeed {s : Script} {line rest : List UInt8}
    (hs : s.bytes = line ++ lineFeed :: rest) (hline : lineFeed ∉ line) :
    s.next = (.ok (some (dropReturn line)), { s with bytes := rest }) := by
  have hne := ne_lineFeed_of_not_mem hline
  have htake : s.bytes.takeWhile (· ≠ lineFeed) = line := by
    rw [hs, List.takeWhile_append_of_pos hne]
    simp
  have hdrop : s.bytes.dropWhile (· ≠ lineFeed) = lineFeed :: rest := by
    rw [hs, List.dropWhile_append_of_pos hne]
    simp
  simp only [next, htake, hdrop]

/-- Without a `lineFeed` all of a script is read at once: its `failure` is met, or the rest is its
    last line. -/
theorem next_of_no_lineFeed {s : Script} (hs : lineFeed ∉ s.bytes) :
    s.next =
      (match s.failure with
        | some f => .error (.unreadable f)
        | none => .ok (if s.bytes = [] then none else some s.bytes), s.exhausted) := by
  have hne := ne_lineFeed_of_not_mem hs
  have htake : s.bytes.takeWhile (· ≠ lineFeed) = s.bytes := by
    simpa using @List.takeWhile_append_of_pos _ _ s.bytes [] hne
  have hdrop : s.bytes.dropWhile (· ≠ lineFeed) = [] := by
    simpa using @List.dropWhile_append_of_pos _ _ s.bytes [] hne
  simp only [next, htake, hdrop, exhausted]
  split <;> simp [*]

theorem pieces_of_lineFeed {s : Script} {line rest : List UInt8}
    (hs : s.bytes = line ++ lineFeed :: rest) (hline : lineFeed ∉ line) :
    s.pieces = line :: ({ s with bytes := rest } : Script).pieces := by
  rw [pieces, hs, List.splitOn_append_cons_self_of_not_mem hline]
  rfl

theorem pieces_of_no_lineFeed {s : Script} (hs : lineFeed ∉ s.bytes) : s.pieces = [s.bytes] :=
  List.splitOn_eq_singleton hs

/-- What `lines` makes of a script with a `lineFeed`: the induction step of what follows. -/
theorem lines_of_lineFeed {s : Script} {line rest : List UInt8}
    (hs : s.bytes = line ++ lineFeed :: rest) (hline : lineFeed ∉ line) :
    s.lines = lineText (dropReturn line) :: ({ s with bytes := rest } : Script).lines := by
  have hpieces : ({ s with bytes := rest } : Script).pieces ≠ [] :=
    List.splitOn_ne_nil _ _
  -- The last piece is one of the rest, so the first piece is a line in any case.
  rw [lines, lines, pieces_of_lineFeed hs hline, List.dropLast_cons_of_ne_nil hpieces,
    List.getLast?_cons_of_ne_nil hpieces]
  rfl

/-- What `lines` makes of a script without a `lineFeed`: at most the rest of it. -/
theorem lines_of_no_lineFeed {s : Script} (hs : lineFeed ∉ s.bytes) :
    s.lines = if s.failure = none ∧ s.bytes ≠ [] then [lineText s.bytes] else [] := by
  rw [lines, pieces_of_no_lineFeed hs]
  -- The only piece is the open one.
  by_cases h : s.failure = none ∧ s.bytes ≠ [] <;> simp [Option.filter, h]

@[simp] theorem lines_exhausted (s : Script) : s.exhausted.lines = [] := by
  have hnone : lineFeed ∉ s.exhausted.bytes := List.not_mem_nil
  rw [lines_of_no_lineFeed hnone]
  simp [exhausted]

/-! ### Reading -/

/-- A script with `s.lines = []` has ended, or breaks off; nothing of it is left. -/
theorem next_of_lines_eq_nil {s : Script} (h : s.lines = []) :
    s.next =
      (match s.failure with
        | some f => .error (.unreadable f)
        | none => .ok none, s.exhausted) := by
  rcases s.cases_lineFeed with ⟨line, rest, hs, hline⟩ | hs
  · -- a line feed makes a line
    rw [lines_of_lineFeed hs hline] at h
    exact absurd h (List.cons_ne_nil _ _)
  · rw [lines_of_no_lineFeed hs] at h
    rw [next_of_no_lineFeed hs]
    cases hf : s.failure with
    | some f => rfl
    | none =>
      have hbytes : s.bytes = [] := by simpa [hf] using h
      simp [hbytes]

/-- Behind its first line, a script has what stands behind its first `lineFeed`. -/
theorem dropLines_of_lineFeed {s : Script} {line rest : List UInt8}
    (hs : s.bytes = line ++ lineFeed :: rest) (hline : lineFeed ∉ line) (n : Nat) :
    s.dropLines (n + 1) = ({ s with bytes := rest } : Script).dropLines n := by
  rw [dropLines, dropLines, pieces_of_lineFeed hs hline, List.drop_succ_cons]

/-- Behind its only line, a script is `exhausted`. -/
theorem dropLines_of_no_lineFeed {s : Script} (hs : lineFeed ∉ s.bytes) (n : Nat) :
    s.dropLines (n + 1) = s.exhausted := by
  rw [dropLines, pieces_of_no_lineFeed hs, List.drop_succ_cons, List.drop_nil]
  rfl

@[simp] theorem dropLines_zero (s : Script) : s.dropLines 0 = s := by
  rw [dropLines, List.drop_zero, pieces, List.intercalate_splitOn]

/-- Lines are left behind one by one: `n + 1` of them are one and then `n`. -/
theorem dropLines_succ (n : Nat) (s : Script) :
    s.dropLines (n + 1) = (s.dropLines 1).dropLines n := by
  rcases s.cases_lineFeed with ⟨line, rest, hs, hline⟩ | hs
  · -- both sides go on behind the line feed
    rw [dropLines_of_lineFeed hs hline, dropLines_of_lineFeed hs hline 0, dropLines_zero]
  · rw [dropLines_of_no_lineFeed hs, dropLines_of_no_lineFeed hs 0]
    -- Nothing is left of the script, of which any number of lines can be left behind.
    cases n with
    | zero => rw [dropLines_zero]
    | succ n =>
      have hnone : lineFeed ∉ s.exhausted.bytes := List.not_mem_nil
      exact (dropLines_of_no_lineFeed hnone n).symm

private theorem lines_dropLines_one (s : Script) : (s.dropLines 1).lines = s.lines.tail := by
  rcases s.cases_lineFeed with ⟨line, rest, hs, hline⟩ | hs
  · rw [dropLines_of_lineFeed hs hline, lines_of_lineFeed hs hline, dropLines_zero, List.tail_cons]
  · rw [dropLines_of_no_lineFeed hs, lines_of_no_lineFeed hs, lines_exhausted]
    -- The only line, if there is one, is gone.
    split <;> rfl

/-- What stands behind `n` lines has the other lines. -/
theorem lines_dropLines (n : Nat) (s : Script) : (s.dropLines n).lines = s.lines.drop n := by
  induction n generalizing s with
  | zero => rw [dropLines_zero, List.drop_zero]
  | succ n ih => rw [dropLines_succ, ih, lines_dropLines_one, List.drop_tail]

/-- The next line of a script is the first of `s.lines`, and what is left is `s.dropLines 1`. -/
theorem next_of_lines_eq_cons {s : Script} {text : String} {texts : List String}
    (h : s.lines = text :: texts) :
    ∃ line, s.next = (.ok (some line), s.dropLines 1) ∧ lineText line = text := by
  rcases s.cases_lineFeed with ⟨line, rest, hs, hline⟩ | hs
  · rw [lines_of_lineFeed hs hline, List.cons.injEq] at h
    refine ⟨dropReturn line, ?_, h.1⟩
    rw [next_of_lineFeed hs hline, dropLines_of_lineFeed hs hline, dropLines_zero]
  · rw [lines_of_no_lineFeed hs] at h
    split at h
    · -- The open piece is a line only if the input ends there and the piece is not empty.
      rename_i hopen
      rw [List.cons.injEq] at h
      refine ⟨s.bytes, ?_, h.1⟩
      rw [next_of_no_lineFeed hs, dropLines_of_no_lineFeed hs, hopen.1]
      simp [hopen.2]
    · exact absurd h.symm (List.cons_ne_nil _ _)

end LineShell.Script
