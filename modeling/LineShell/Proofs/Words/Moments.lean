import LineShell.Proofs.Words.Coherence

/-! # A line, round by round

A line is read in rounds, and a `Moment` is what has come of some of them: how many characters have
been taken, the scanner, the words that it has handed out, and all that has happened to words so
far, from which one can tell how often each of them was handed out.

What a round does with its character is a parameter, the rule.  How many rounds there are does not
depend on it, and rules can be compared by the moments that they lead to.

* `Moment.after?_induction`   what one round keeps holds of every moment
* `Moment.exists_after?_iff`  there are as many rounds as characters
* `Moment.words?_eq`          what is left to do at a moment
* `Moment.events_eq`          a word is handed out before the next one begins
* `Moment.after?_stepWith`    no backslash acts on a character between single quotes
* `scanning_coherent`         every moment of every line -/

namespace LineShell.Words

/-- What happens to a word. -/
inductive WordEvent where
  /-- It begins. -/
  | begun
  /-- It is handed out. -/
  | handedOut (word : String)
  deriving DecidableEq, Repr

namespace WordEvent

/-- Words that begin one after the other, and each of which is handed out once, before the next one
    begins: for each of `ws` the events `begun` and `handedOut`. -/
def inTurn (ws : List String) : List WordEvent := ws.flatMap fun word => [begun, handedOut word]

/-- What happens when a scanner `s` comes to the state `t` and hands out a word or none: the word is
    `handedOut`, and one has `begun` if `t` is in a word and `s` was not. -/
def between (s t : Scanner) (word : Option String) : List WordEvent :=
  word.toList.map handedOut ++ if !s.inWord && t.inWord then [begun] else []

@[simp] theorem inTurn_nil : inTurn [] = [] := rfl

/-- Words in turn, and then more words in turn. -/
theorem inTurn_append (ws us : List String) : inTurn (ws ++ us) = inTurn ws ++ inTurn us := by
  simp [inTurn]

/-- One word begins and is handed out. -/
theorem inTurn_singleton (word : String) : inTurn [word] = [begun, handedOut word] := rfl

end WordEvent

open WordEvent (inTurn)

namespace Scanner

/-- How a scanner takes a character; `Scanner.step` is one. -/
abbrev Rule := Scanner → Char → Scanner × Option String

/-- The rule `step`, but with another way `act` to take a character that a backslash acts on. -/
def stepWith (act : Scanner → Char → Scanner) : Rule := fun s c =>
  if s.escaped then (act s c, none) else s.step c

/-- A word that has `begun` and is not handed out yet. -/
def pending (s : Scanner) : List WordEvent := if s.inWord then [.begun] else []

/-- A step of a coherent scanner begins a word, or hands out the one that has begun, or neither:
    what is `inTurn` stays so. -/
theorem Moves.events {s t : Scanner} {word : Option String} (h : Moves s (t, word))
    (ws : List String) :
    inTurn ws ++ s.pending ++ WordEvent.between s t word =
      inTurn (ws ++ word.toList) ++ t.pending := by
  cases h with
  | on _ hword =>
    cases hs : s.inWord with
    | false => simp [pending, WordEvent.between, hs]
    | true => simp [pending, WordEvent.between, hs, hword hs]
  | out _ hs ht =>
    simp [pending, WordEvent.between, hs, ht, WordEvent.inTurn_append,
      WordEvent.inTurn_singleton]

/-- A scanner whose `stop` succeeds hands out the word that has begun, if one has. -/
theorem pending_of_stop_eq_ok {s : Scanner} {us : List String} (h : s.stop = .ok us) :
    s.pending ++ us.map .handedOut = inTurn us := by
  have hfinish : us = s.finish.2.toList := by
    unfold stop at h
    split at h
    · exact nomatch h
    · exact nomatch h
    · exact (Except.ok.inj h).symm
    · exact (Except.ok.inj h).symm
  rw [hfinish]
  cases hword : s.inWord with
  | false => simp [pending, finish, hword]
  | true => simp [pending, finish, hword, WordEvent.inTurn_singleton]

namespace Coherent

variable {s : Scanner}

/-- Where a quote is open, a word has begun: it is `pending`. -/
theorem pending_of_stop_eq_error (h : s.Coherent) {e : ScanError} (hstop : s.stop = .error e) :
    s.pending = [.begun] := by
  have hword : s.inWord = true := by
    apply h.word
    intro hplace
    simp [stop, hplace] at hstop
  simp [pending, hword]

/-- For a coherent scanner it does not matter how the character behind a backslash would be taken
    between single quotes: `act` agrees with `stepEscaped` elsewhere. -/
theorem stepWith_eq (h : s.Coherent) {act : Scanner → Char → Scanner}
    (hact : ∀ s c, s.place ≠ .single → act s c = s.stepEscaped c) : stepWith act s = s.step := by
  funext c
  unfold stepWith
  split
  · rename_i hescaped
    -- a backslash that is pending rules out single quotes
    have hplace : s.place ≠ .single := by
      intro hsingle
      rw [h.single hsingle] at hescaped
      exact nomatch hescaped
    rw [hact s c hplace, step, if_pos hescaped]
  · rfl

end Coherent

end Scanner

/-- A scanner at work on a line, with what has come of the rounds so far. -/
structure Moment where
  /-- How many characters it has taken. -/
  pos : Nat := 0
  scanner : Scanner := {}
  /-- The words that it has handed out. -/
  words : List String := []
  /-- What has happened to words. -/
  events : List WordEvent := []
  deriving DecidableEq, Repr

namespace Moment

/-- The moment after one round, which takes the next character of the line by `rule`, if there is
    one. -/
def next? (rule : Scanner.Rule) (cs : List Char) (m : Moment) : Option Moment :=
  cs[m.pos]?.map fun c =>
    let (t, word) := rule m.scanner c
    { pos := m.pos + 1
      scanner := t
      words := m.words ++ word.toList
      events := m.events ++ WordEvent.between m.scanner t word }

/-- The moment after `n` rounds on a line, if there are as many. -/
def after? (rule : Scanner.Rule) (cs : List Char) : Nat → Option Moment
  | 0 => some {}
  | n + 1 => (after? rule cs n).bind (next? rule cs)

variable {rule : Scanner.Rule} {cs : List Char} {n : Nat} {m m' : Moment}

/-- A round takes the character at `pos`. -/
theorem next?_eq_some_iff : m.next? rule cs = some m' ↔ ∃ c, cs[m.pos]? = some c ∧
    m' = { pos := m.pos + 1, scanner := (rule m.scanner c).1,
           words := m.words ++ (rule m.scanner c).2.toList,
           events := m.events ++
            WordEvent.between m.scanner (rule m.scanner c).1 (rule m.scanner c).2 } := by
  simp only [next?, Option.map_eq_some_iff, eq_comm (b := m')]

/-- There is no round more where all characters have been taken. -/
theorem next?_eq_none_iff : m.next? rule cs = none ↔ cs.length ≤ m.pos := by
  rw [next?, Option.map_eq_none_iff, List.getElem?_eq_none_iff]

/-- The last of some rounds comes behind the others. -/
theorem after?_succ_eq_some_iff : after? rule cs (n + 1) = some m' ↔
    ∃ m, after? rule cs n = some m ∧ m.next? rule cs = some m' := by
  rw [after?, Option.bind_eq_some_iff]

/-- What holds of the moment `{}` and is kept by one round holds of every moment. -/
theorem after?_induction {P : Nat → Moment → Prop} (start : P 0 {})
    (next : ∀ n m m', after? rule cs n = some m → P n m → m.next? rule cs = some m' →
      P (n + 1) m') (h : after? rule cs n = some m) : P n m := by
  induction n generalizing m with
  | zero =>
    obtain rfl := Option.some.inj h
    exact start
  | succ n ih =>
    -- the moment before the last round
    obtain ⟨m₀, hm₀, hnext⟩ := after?_succ_eq_some_iff.mp h
    exact next n m₀ m hm₀ (ih hm₀) hnext

/-! ### How many rounds there are -/

/-- Every round takes one character: after `n` rounds `pos` is `n`. -/
theorem pos_of_after? (h : after? rule cs n = some m) : m.pos = n := by
  refine after?_induction (P := fun n m => m.pos = n) rfl ?_ h
  intro n m m' _ hpos hnext
  obtain ⟨c, -, rfl⟩ := next?_eq_some_iff.mp hnext
  rw [hpos]

/-- There are as many rounds as the line has characters. -/
theorem exists_after?_iff : (∃ m, after? rule cs n = some m) ↔ n ≤ cs.length := by
  induction n with
  | zero => simp [after?]
  | succ n ih =>
    constructor
    · -- the last of the rounds found a character where those before it had ended
      rintro ⟨m', hm'⟩
      obtain ⟨m, hm, hnext⟩ := after?_succ_eq_some_iff.mp hm'
      have hlt : ¬ cs.length ≤ m.pos := by
        intro hle
        rw [next?_eq_none_iff.mpr hle] at hnext
        exact nomatch hnext
      rw [pos_of_after? hm] at hlt
      omega
    · -- the rounds before have left a character for one more
      intro hlt
      obtain ⟨m, hm⟩ := ih.mpr (by omega)
      have hsome : m.next? rule cs ≠ none := by
        rw [ne_eq, next?_eq_none_iff, pos_of_after? hm]
        omega
      obtain ⟨m', hnext⟩ := Option.ne_none_iff_exists'.mp hsome
      exact ⟨m', after?_succ_eq_some_iff.mpr ⟨m, hm, hnext⟩⟩

/-- The last round is the one that takes the last character. -/
theorem next?_eq_none_iff_of_after? (h : after? rule cs n = some m) :
    m.next? rule cs = none ↔ n = cs.length := by
  have hle : n ≤ cs.length := exists_after?_iff.mp ⟨m, h⟩
  rw [next?_eq_none_iff, pos_of_after? h]
  omega

/-! ### What comes of the rounds -/

/-- A scanner that has taken some characters one by one has run over them: `advance` comes to the
    same. -/
theorem advance_of_after? (h : after? Scanner.step cs n = some m) :
    ({} : Scanner).advance (cs.take n) = (m.scanner, m.words) := by
  refine after?_induction
    (P := fun n m => ({} : Scanner).advance (cs.take n) = (m.scanner, m.words)) rfl ?_ h
  intro n m m' hm ih hnext
  obtain ⟨c, hc, rfl⟩ := next?_eq_some_iff.mp hnext
  -- the character of this round is the one behind those of the rounds before
  rw [pos_of_after? hm] at hc
  rw [List.take_add_one, hc, Option.toList_some, Scanner.advance_append_singleton, ih]

/-- The scanner of every moment is `Coherent`. -/
theorem coherent_of_after? (h : after? Scanner.step cs n = some m) : m.scanner.Coherent := by
  have hrun := (Scanner.coherent_gap false).advance (cs.take n)
  rw [advance_of_after? h] at hrun
  exact hrun

/-- A word that begins is handed out, once, before the next one begins: the events are the words
    `inTurn`, and at most one `begun` more. -/
theorem events_eq (h : after? Scanner.step cs n = some m) :
    m.events = inTurn m.words ++ m.scanner.pending := by
  refine after?_induction
    (P := fun _ m => m.events = inTurn m.words ++ m.scanner.pending) rfl ?_ h
  intro n m m' hm hevents hnext
  obtain ⟨c, -, rfl⟩ := next?_eq_some_iff.mp hnext
  -- the scanner was coherent before the round, which is why no word is lost or handed out twice
  have hmoves := (coherent_of_after? hm).moves c
  rw [hevents]
  exact hmoves.events m.words

/-- What is left to do at a moment is to `scan` the characters that have not been taken. -/
theorem words?_eq {line : String} (h : after? Scanner.step line.toList n = some m) :
    words? line = (m.scanner.scan (line.toList.drop n)).map (m.words ++ ·) := by
  have hrun := Scanner.scan_append {} (line.toList.take n) (line.toList.drop n)
  rw [List.take_append_drop, advance_of_after? h] at hrun
  exact hrun

/-- No character between single quotes is taken as one behind a backslash: the moments of a line do
    not depend on what `act` would make of it. -/
theorem after?_stepWith {act : Scanner → Char → Scanner}
    (hact : ∀ s c, s.place ≠ .single → act s c = s.stepEscaped c) :
    after? (Scanner.stepWith act) cs n = after? Scanner.step cs n := by
  induction n with
  | zero => rfl
  | succ n ih =>
    rw [after?, after?, ih]
    apply Option.bind_congr
    intro m hm
    -- both rules have come to the same moment, and the next round is the same as well
    have hrule : Scanner.stepWith act m.scanner = m.scanner.step :=
      (coherent_of_after? hm).stepWith_eq hact
    rw [next?, next?, hrule]

end Moment

/-- A line is read in as many rounds as it has characters, each of which takes one of them, and
    after each of them (`Moment.after?`) the fields of the scanner agree (`Scanner.Coherent`).  The
    words that have begun until then have been handed out in their turn, once each, but for one that
    is `pending`.  If no quote is open at the end of the line, that word is handed out by `stop`,
    and otherwise never.  What is done with a character behind a backslash is not done between
    single quotes, so any rule `stepWith act` that differs there only has the same moments. -/
theorem scanning_coherent (line : String) :
    (∀ n, (∃ m, Moment.after? Scanner.step line.toList n = some m) ↔ n ≤ line.length) ∧
    (∀ n m, Moment.after? Scanner.step line.toList n = some m →
      m.pos = n ∧ m.scanner.Coherent ∧ m.events = inTurn m.words ++ m.scanner.pending ∧
      words? line = (m.scanner.scan (line.toList.drop n)).map (m.words ++ ·) ∧
      (m.next? Scanner.step line.toList = none ↔ n = line.length)) ∧
    (∀ m, Moment.after? Scanner.step line.toList line.length = some m →
      words? line = m.scanner.stop.map (m.words ++ ·) ∧
      (∀ us, m.scanner.stop = .ok us →
        m.events ++ us.map .handedOut = inTurn (m.words ++ us)) ∧
      (∀ e, m.scanner.stop = .error e → m.events = inTurn m.words ++ [.begun])) ∧
    (∀ act : Scanner → Char → Scanner,
      (∀ s c, s.place ≠ .single → act s c = s.stepEscaped c) →
      ∀ n, Moment.after? (Scanner.stepWith act) line.toList n =
        Moment.after? Scanner.step line.toList n) := by
  -- the rounds count the characters of the list
  rw [← String.length_toList]
  refine ⟨fun n => Moment.exists_after?_iff, ?_, ?_, fun act hact n => Moment.after?_stepWith hact⟩
  · -- every moment
    intro n m hm
    exact ⟨Moment.pos_of_after? hm, Moment.coherent_of_after? hm, Moment.events_eq hm,
      Moment.words?_eq hm, Moment.next?_eq_none_iff_of_after? hm⟩
  · -- the last one: nothing is left to scan, so the scanner stops
    intro m hm
    have hwords := Moment.words?_eq hm
    have hevents : m.events = inTurn m.words ++ m.scanner.pending := Moment.events_eq hm
    rw [List.drop_length] at hwords
    refine ⟨hwords, ?_, ?_⟩
    · -- the word that is pending is handed out at the end
      intro us hstop
      rw [hevents, List.append_assoc, Scanner.pending_of_stop_eq_ok hstop,
        WordEvent.inTurn_append]
    · -- an open quote keeps it for good
      intro e hstop
      rw [hevents, (Moment.coherent_of_after? hm).pending_of_stop_eq_error hstop]

/-- A literal blank that begins a word, a backslash between single quotes, and an empty word that
    is left at the end of the line. -/
theorem scanning_coherent_quotes :
    ∃ m last, Moment.after? Scanner.step "\\ x'\\' \"\"".toList 5 = some m ∧
      m.pos = 5 ∧ m.scanner.place = .single ∧ m.scanner.escaped = false ∧ m.events = [.begun] ∧
      words? "\\ x'\\' \"\"" = (m.scanner.scan "' \"\"".toList).map (m.words ++ ·) ∧
      Moment.after? Scanner.step "\\ x'\\' \"\"".toList 9 = some last ∧
      last.next? Scanner.step "\\ x'\\' \"\"".toList = none ∧
      words? "\\ x'\\' \"\"" = .ok [" x\\", ""] ∧
      last.events ++ [.handedOut ""] = inTurn [" x\\", ""] ∧
      Moment.after? (Scanner.stepWith fun s c => if s.place = .single then {} else s.stepEscaped c)
        "\\ x'\\' \"\"".toList 9 = some last := by
  obtain ⟨-, hmoment, hend, hact⟩ := scanning_coherent "\\ x'\\' \"\""
  have hm : Moment.after? Scanner.step "\\ x'\\' \"\"".toList 5 =
      some ⟨5, ⟨.single, false, true, " x\\"⟩, [], [.begun]⟩ := rfl
  have hlast : Moment.after? Scanner.step "\\ x'\\' \"\"".toList 9 =
      some ⟨9, ⟨.bare, false, true, ""⟩, [" x\\"],
        [.begun, .handedOut " x\\", .begun]⟩ := rfl
  obtain ⟨hpos, hcoherent, hevents, hrest, -⟩ := hmoment 5 _ hm
  obtain ⟨hwords, hout, -⟩ := hend _ hlast
  refine ⟨_, _, hm, hpos, rfl, hcoherent.single rfl, hevents, hrest, hlast,
    (hmoment 9 _ hlast).2.2.2.2.mpr rfl, hwords, hout [""] rfl, ?_⟩
  rw [hact _ (fun s c hplace => if_neg hplace) 9, hlast]

end LineShell.Words
