import LineShell.Proofs.Words.Reading
import LineShell.Text.Pieces

/-! # What becomes of the characters of a line

Blanks, quotes and backslashes are the marks of a line: they separate words and make characters
literal, and most of them are used up by that.  Every other character of a line ends up in a word,
and nothing else does.

* `Scanner.sheds_step`      one character more
* `Scanner.sheds_advance`   a scanner holds what it has read, without some marks
* `words?_sheds`            the words of a line are the line without some marks -/

namespace LineShell.Words

/-- Is the character a blank, a quote or a backslash? These are the marks of a line. -/
def isMark (c : Char) : Bool := Text.isBlank c || c == '\'' || c == '"' || c == '\\'

/-- `Sheds cs v`: the text `v` is `cs` without some of its marks. -/
structure Sheds (cs v : List Char) : Prop where
  sublist : v.Sublist cs
  unmarked : v.filter (!isMark ·) = cs.filter (!isMark ·)

namespace Sheds

variable {cs ds v w : List Char} {c : Char}

/-- A text may keep all its marks. -/
theorem refl (cs : List Char) : Sheds cs cs := ⟨.refl cs, rfl⟩

/-- What is left may lose more marks. -/
theorem trans (h : Sheds cs v) (h' : Sheds v w) : Sheds cs w :=
  ⟨h'.sublist.trans h.sublist, h'.unmarked.trans h.unmarked⟩

/-- Two texts in a row may each lose marks. -/
theorem append (h : Sheds cs v) (h' : Sheds ds w) : Sheds (cs ++ ds) (v ++ w) :=
  ⟨h.sublist.append h'.sublist, by rw [List.filter_append, List.filter_append, h.unmarked,
    h'.unmarked]⟩

/-- A mark may go: `[c]` sheds to `[]`. -/
theorem mark (hc : isMark c = true) : Sheds [c] [] := ⟨List.nil_sublist _, by simp [hc]⟩

/-- A mark `c` that stands last may go. -/
theorem concat_mark (cs : List Char) (hc : isMark c = true) : Sheds (cs ++ [c]) cs := by
  have h := (refl cs).append (mark hc)
  rwa [List.append_nil] at h

/-- A mark `c` that stands last but one may go. -/
theorem concat_mark_concat (cs : List Char) (hc : isMark c = true) (d : Char) :
    Sheds (cs ++ [c] ++ [d]) (cs ++ [d]) :=
  (concat_mark cs hc).append (refl [d])

end Sheds

/-- Every `Text.isBlank` character is a mark. -/
theorem isMark_of_isBlank {c : Char} (h : Text.isBlank c = true) : isMark c = true := by
  simp [isMark, h]

namespace Scanner

/-- All that a scanner holds which has handed out `ws`: these words, the word in its `buffer`, and a
    backslash that still awaits the character it acts on. -/
def held (s : Scanner) (ws : List String) : List Char :=
  (String.join ws).toList ++ s.buffer.toList ++ if s.escaped then ['\\'] else []

variable {s : Scanner} {ws : List String} {c : Char}

/-- What is `held` if a backslash is pending. -/
theorem held_of_escaped (h : s.escaped = true) :
    s.held ws = (String.join ws).toList ++ s.buffer.toList ++ ['\\'] := by
  rw [held, if_pos h]

/-- What is `held` if none is. -/
theorem held_of_not_escaped (h : s.escaped = false) :
    s.held ws = (String.join ws).toList ++ s.buffer.toList := by
  simp [held, h]

/-- A character that `keep` adds is held last. -/
theorem held_keep (h : s.escaped = false) : (s.keep c).held ws = s.held ws ++ [c] := by
  have hkeep : (s.keep c).escaped = false := h
  rw [held_of_not_escaped h, held_of_not_escaped hkeep]
  simp [keep]

/-- A backslash is `held` until the character behind it tells what becomes of it. -/
theorem held_backslash (h : s.escaped = false) :
    { s with escaped := true }.held ws = s.held ws ++ ['\\'] := by
  rw [held_of_escaped rfl, held_of_not_escaped h]

/-- Handing out a word by `finish` takes nothing from what is `held`. -/
theorem held_finish (s : Scanner) (ws : List String) :
    s.finish.1.held (ws ++ s.finish.2.toList) = s.held ws := by
  unfold finish
  split
  · simp [held, String.join_append]
  · simp

/-! ### One character more -/

/-- A character in a word and outside quotes is held, or opens a quote (`stepBare`). -/
theorem sheds_stepBare (h : s.escaped = false) (c : Char) :
    Sheds (s.held ws ++ [c]) ((s.stepBare c).held ws) := by
  unfold stepBare
  split
  · -- the backslash is held, and nothing goes
    rename_i hc
    subst hc
    rw [held_backslash h]
    exact Sheds.refl _
  split
  · -- a quote opens, and the quote itself goes
    rename_i hc
    exact Sheds.concat_mark (s.held ws) (by simp [isMark, hc])
  split
  · rename_i hc
    exact Sheds.concat_mark (s.held ws) (by simp [isMark, hc])
  · -- the character itself is held
    rw [held_keep h]
    exact Sheds.refl _

/-- The character behind a backslash is held, with the backslash or without it (`stepEscaped`). -/
theorem sheds_stepEscaped (h : s.escaped = true) (c : Char) :
    Sheds (s.held ws ++ [c]) ((s.stepEscaped c).held ws) := by
  let t : Scanner := { s with escaped := false }
  have hheld : s.held ws = t.held ws ++ ['\\'] := by
    rw [held_of_escaped h, held_of_not_escaped rfl]
  have hdropped : Sheds (s.held ws ++ [c]) ((t.keep c).held ws) := by
    rw [hheld, held_keep rfl]
    exact Sheds.concat_mark_concat _ (by decide) c
  have hkept : Sheds (s.held ws ++ [c]) (((t.keep '\\').keep c).held ws) := by
    rw [hheld, held_keep rfl, held_keep rfl]
    exact Sheds.refl _
  unfold stepEscaped
  dsimp only
  split
  · -- between double quotes the backslash stays before most characters
    split
    · exact hdropped
    · exact hkept
  · exact hdropped
  · exact hdropped
  · exact hdropped

/-- What a scanner holds and one character `c` more `Sheds` to what it holds behind `step`. -/
theorem sheds_step (s : Scanner) (ws : List String) (c : Char) :
    Sheds (s.held ws ++ [c]) ((s.step c).1.held (ws ++ (s.step c).2.toList)) := by
  unfold step
  split
  · -- a pending backslash meets its character
    rename_i hescaped
    rw [Option.toList_none, List.append_nil]
    exact sheds_stepEscaped hescaped c
  rename_i hescaped
  rw [Bool.not_eq_true] at hescaped
  cases hplace : s.place with
  | gap =>
    dsimp only
    split
    · -- a blank between words goes
      rename_i hc
      rw [Option.toList_none, List.append_nil]
      exact Sheds.concat_mark _ (isMark_of_isBlank hc)
    split
    · -- a backslash is held until its character comes
      rename_i hc
      rw [Option.toList_none, List.append_nil, hc, ← held_backslash hescaped]
      exact Sheds.refl _
    · rw [Option.toList_none, List.append_nil]
      exact sheds_stepBare (s := s.begin) hescaped c
  | bare =>
    dsimp only
    split
    · -- the word is handed out, and the blank behind it goes
      rename_i hc
      have hfinish : s.finish.1.held (ws ++ s.finish.2.toList) = s.held ws := held_finish s ws
      have hblank := Sheds.concat_mark (s.held ws) (isMark_of_isBlank hc)
      exact hblank.trans (hfinish ▸ Sheds.refl _)
    · rw [Option.toList_none, List.append_nil]
      exact sheds_stepBare hescaped c
  | single =>
    dsimp only
    rw [Option.toList_none, List.append_nil]
    split
    · -- the quote that closes goes
      rename_i hc
      exact Sheds.concat_mark (s.held ws) (by simp [isMark, hc])
    · rw [held_keep hescaped]
      exact Sheds.refl _
  | double =>
    dsimp only
    rw [Option.toList_none, List.append_nil]
    split
    · rename_i hc
      exact Sheds.concat_mark (s.held ws) (by simp [isMark, hc])
    split
    · rename_i hc
      rw [hc, ← held_backslash hescaped]
      exact Sheds.refl _
    · rw [held_keep hescaped]
      exact Sheds.refl _

/-- What a scanner holds and some characters `cs` more `Sheds` to what it holds behind `advance`. -/
theorem sheds_advance (s : Scanner) (ws : List String) (cs : List Char) :
    Sheds (s.held ws ++ cs) ((s.advance cs).1.held (ws ++ (s.advance cs).2)) := by
  induction cs generalizing s ws with
  | nil => simpa using Sheds.refl _
  | cons c cs ih =>
    -- the first character, with all others still behind it
    have hstep := (sheds_step s ws c).append (Sheds.refl cs)
    have hrest := ih (s.step c).1 (ws ++ (s.step c).2.toList)
    rw [advance_cons]
    simpa using hstep.trans hrest

end Scanner

/-! ### The end of a line -/

/-- A scanner that holds characters of a word has begun the word: else its `buffer` is empty. -/
theorem Read.buffer_eq {cs : List Char} {s : Scanner} {ws : List String} (h : Read cs s ws)
    (hword : s.inWord = false) : s.buffer = "" := by
  cases h with
  | gap | gapEscaped => rfl
  | bare | bareEscaped | single | double | doubleEscaped => exact nomatch hword

/-- A scanner that stops hands out all that it holds, but for a backslash. -/
theorem Read.sheds_stop {cs : List Char} {s : Scanner} {ws us : List String} (h : Read cs s ws)
    (hstop : s.stop = .ok us) : Sheds (s.held ws) (String.join (ws ++ us)).toList := by
  -- what `stop` hands out is the buffer, which is empty without a word
  have hword : (String.join us).toList = s.buffer.toList := by
    unfold Scanner.stop Scanner.finish at hstop
    split at hstop
    · exact nomatch hstop
    · exact nomatch hstop
    all_goals
      obtain rfl := Except.ok.inj hstop
      split
      · simp
      · rename_i hidle
        rw [h.buffer_eq (by simpa using hidle)]
        rfl
  rw [String.join_append, String.toList_append, hword]
  cases hescaped : s.escaped with
  | true =>
    rw [Scanner.held_of_escaped hescaped]
    exact Sheds.concat_mark _ (by decide)
  | false =>
    rw [Scanner.held_of_not_escaped hescaped]
    exact Sheds.refl _

/-- The words of a line in a row are the characters of the line in their order, without some of the
    blanks, quotes and backslashes: `String.join ws` is a sublist of the line, and all characters
    that are no `isMark` are there, as often as on the line. -/
theorem words?_sheds {line : String} {ws : List String} (h : words? line = .ok ws) :
    (String.join ws).toList.Sublist line.toList ∧
      (String.join ws).toList.filter (!isMark ·) = line.toList.filter (!isMark ·) := by
  have hread := read_advance line.toList
  -- a fresh scanner holds nothing, so what it holds at the end comes from the line
  have hheld := Scanner.sheds_advance {} [] line.toList
  rw [words?, hread.scan_eq] at h
  cases hstop : (({} : Scanner).advance line.toList).1.stop with
  | error e =>
    rw [hstop] at h
    exact nomatch h
  | ok us =>
    rw [hstop] at h
    obtain rfl := Except.ok.inj h
    have hline : Sheds line.toList (String.join _).toList := hheld.trans (hread.sheds_stop hstop)
    exact ⟨hline.sublist, hline.unmarked⟩

/-- A backslash that stays and two that go, literal blanks and quotes, and an empty word. -/
theorem words?_sheds_quotes :
    words? "a\\ b \"c\\d\\\"\" '' 'e\\'\\" = .ok ["a b", "c\\d\"", "", "e\\"] ∧
      "a bc\\d\"e\\".toList.Sublist "a\\ b \"c\\d\\\"\" '' 'e\\'\\".toList ∧
      "a\\ b \"c\\d\\\"\" '' 'e\\'\\".toList.filter (!isMark ·) = "abcde".toList := by
  have hwords : words? "a\\ b \"c\\d\\\"\" '' 'e\\'\\" =
      .ok ["a b", "c\\d\"", "", "e\\"] := rfl
  obtain ⟨hsublist, hunmarked⟩ := words?_sheds hwords
  have hjoin : String.join ["a b", "c\\d\"", "", "e\\"] = "a bc\\d\"e\\" := rfl
  rw [hjoin] at hsublist hunmarked
  exact ⟨hwords, hsublist, hunmarked.symm⟩

end LineShell.Words
