import LineShell.Proofs.Words.Acceptance

/-! # Lines without words

A line has no words, and no open quote either, if it holds nothing but blanks, or blanks and one
backslash at its end.

* `Laid.nil_iff`           only blanks are laid out without a word
* `words?_eq_nil_iff`      the lines that are cut into no words -/

namespace LineShell.Words

/-- Only `Blanks` are `Laid` out without a word. -/
theorem Laid.nil_iff {cs : List Char} : Laid cs [] ↔ Blanks cs := by
  constructor
  · rintro ⟨hbefore, hs, hafter⟩
    have hnone := hs.eq_nil
    rw [hnone, List.append_nil]
    exact hbefore.append hafter
  · -- blanks are no words with blanks around them
    intro h
    have hlaid : Laid (cs ++ [] ++ []) [] := .mk h .nil Blanks.nil
    simpa using hlaid

/-- `scan` accepts a line with the words `ws` exactly if the `Line` has them. -/
theorem scan_eq_ok_iff {cs : List Char} {ws : List String} :
    ({} : Scanner).scan cs = .ok ws ↔ Line cs ws := by
  refine ⟨fun h => ?_, Line.scan_eq⟩
  -- the line has some words `us`, which are those of the scanner, or none
  obtain ⟨us, hline⟩ | hopen := line_or_openQuote cs
  · obtain rfl : us = ws := Except.ok.inj (hline.scan_eq.symm.trans h)
    exact hline
  · exact nomatch hopen.scan_eq.symm.trans h

/-- The lines that `words?` cuts into no words hold `Blanks`, and may end in one backslash. -/
theorem words?_eq_nil_iff (line : String) :
    words? line = .ok [] ↔
      Blanks line.toList ∨ ∃ cs, Blanks cs ∧ line.toList = cs ++ ['\\'] := by
  rw [words?, scan_eq_ok_iff]
  constructor
  · intro h
    generalize line.toList = cs at h
    cases h with
    | whole hlaid => exact .inl (Laid.nil_iff.mp hlaid)
    | cut hlaid => exact .inr ⟨_, Laid.nil_iff.mp hlaid, rfl⟩
  · rintro (hblanks | ⟨cs, hblanks, hcs⟩)
    · exact .whole (Laid.nil_iff.mpr hblanks)
    · rw [hcs]
      exact .cut (Laid.nil_iff.mpr hblanks)

end LineShell.Words
