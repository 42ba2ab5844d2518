import LineShell.Proofs.Words.Blank

/-! # Lines put together

A text whose quotes are closed is cut off by a gap from what follows it, unless it ends in a
backslash that makes the first blank of the gap literal.  Whether it does is told by the number of
backslashes at its end, whatever quotes stand before them: what comes behind the last quote is
outside quotes.

* `Laid.not_escapes`     a text that is laid out as words ends in an even number of backslashes
* `Laid.gapped_append`   with a gap behind it, it ends between words
* `betweenWords_iff`     which texts end between words
* `words?_gap`           the words of a text, a gap and another text -/

namespace LineShell.Words

/-- The text ends in an odd number of backslashes, so the last of them acts on what comes next. -/
def Escapes (cs : List Char) : Prop := (cs.reverse.takeWhile (· = '\\')).length % 2 = 1

instance (cs : List Char) : Decidable (Escapes cs) := inferInstanceAs (Decidable (_ = _))

/-- The text is empty, or ends in a blank that neither a quote nor a backslash makes literal:
    `front` has no `OpenQuote` and does not end so that it `Escapes` the blank. -/
def BetweenWords (cs : List Char) : Prop :=
  cs = [] ∨ ∃ front c, cs = front ++ [c] ∧ Text.isBlank c = true ∧ ¬OpenQuote front ∧
    ¬Escapes front

/-! ### The blank at the end -/

/-- Before the last blank of a `Gap` there are `Blanks`, if anything. -/
theorem Gap.exists_concat {g : List Char} (h : Gap g) :
    ∃ g' c, g = g' ++ [c] ∧ Blanks g' ∧ Text.isBlank c = true := by
  obtain ⟨hne, hblanks⟩ := h
  refine ⟨g.dropLast, g.getLast hne, (List.dropLast_concat_getLast hne).symm, ?_, ?_⟩
  · intro d hd
    exact hblanks d ((List.dropLast_sublist g).subset hd)
  · exact hblanks _ (List.getLast_mem hne)

/-- Blanks more leave a text `Gapped`. -/
theorem Gapped.append_blanks {cs g : List Char} {ws : List String} (h : Gapped cs ws)
    (hg : Blanks g) : Gapped (cs ++ g) ws := by
  induction g generalizing cs with
  | nil => rwa [List.append_nil]
  | cons c g ih =>
    have hc : Gapped (cs ++ [c]) ws := h.snoc_blank (hg c List.mem_cons_self)
    -- the other blanks go behind the first one
    have hall := ih hc fun d hd => hg d (List.mem_cons_of_mem _ hd)
    rwa [List.append_assoc] at hall

/-- With a `Gap` behind it, a text that is `Laid` out as words ends between words. -/
theorem Laid.gapped_append {cs g : List Char} {ws : List String} (h : Laid cs ws) (hg : Gap g) :
    Gapped (cs ++ g) ws := by
  -- the gap is more of the one at the end, or the one behind the last word
  obtain hcs | ⟨ds, us, f, v, rfl, rfl, hds, hf⟩ := h.gapped
  · exact hcs.append_blanks hg.2
  · exact hds.word hf hg

/-- A text that is `Gapped` is empty, or has a blank behind what is `Laid` out. -/
theorem Gapped.cases_concat {cs : List Char} {ws : List String} (h : Gapped cs ws) :
    cs = [] ∨ ∃ front c, cs = front ++ [c] ∧ Text.isBlank c = true ∧ Laid front ws := by
  cases h with
  | @blanks cs hcs =>
    by_cases hne : cs = []
    · exact .inl hne
    · have hgap : Gap cs := ⟨hne, hcs⟩
      obtain ⟨front, c, rfl, hfront, hc⟩ := hgap.exists_concat
      exact .inr ⟨front, c, rfl, hc, (Gapped.blanks hfront).laid⟩
  | @word cs f v g ws hcs hf hg =>
    -- the last blank of the gap behind the last word
    obtain ⟨g', c, rfl, hg', hc⟩ := hg.exists_concat
    refine .inr ⟨cs ++ f ++ g', c, by rw [List.append_assoc (cs ++ f)], hc, ?_⟩
    -- the word stands at the end of what is left, or still has a gap behind it
    by_cases hne : g' = []
    · rw [hne, List.append_nil]
      exact hcs.laid_word hf
    · exact (hcs.word hf ⟨hne, hg'⟩).laid

/-! ### The backslashes at the end -/

/-- A backslash more makes their number odd if it was even: `Escapes` alternates. -/
theorem escapes_backslash {cs : List Char} : Escapes (cs ++ ['\\']) ↔ ¬Escapes cs := by
  have hcount : ((cs ++ ['\\']).reverse.takeWhile (· = '\\')).length =
      (cs.reverse.takeWhile (· = '\\')).length + 1 := by
    simp
  rw [Escapes, Escapes, hcount]
  omega

/-- Behind any other character `c` there is none. -/
theorem not_escapes_concat {cs : List Char} {c : Char} (hc : c ≠ '\\') : ¬Escapes (cs ++ [c]) := by
  have hcount : ((cs ++ [c]).reverse.takeWhile (· = '\\')).length = 0 := by
    simp [hc]
  rw [Escapes, hcount]
  decide

/-- A `Gapped` text ends in a blank, if in anything. -/
theorem Gapped.not_escapes {cs : List Char} {ws : List String} (h : Gapped cs ws) :
    ¬Escapes cs := by
  obtain rfl | ⟨front, c, rfl, hc, -⟩ := h.cases_concat
  · decide
  · refine not_escapes_concat ?_
    rintro rfl
    exact absurd hc (by decide)

/-- A `Fragment` does not end in a backslash that acts on what follows it. -/
theorem Fragment.not_escapes {cs f v : List Char} (hcs : ¬Escapes cs) (hf : Fragment f v) :
    ¬Escapes (cs ++ f) := by
  cases hf with
  | plain hc => exact not_escapes_concat hc.2.2.2
  | escaped c =>
    have hsplit : cs ++ ['\\', c] = cs ++ ['\\'] ++ [c] := by simp
    rw [hsplit]
    by_cases hc : c = '\\'
    · -- the second backslash makes their number even again
      subst hc
      intro hodd
      exact escapes_backslash.mp hodd (escapes_backslash.mpr hcs)
    · exact not_escapes_concat hc
  -- the last character of what is quoted is the quote, whatever stands inside
  | single _ =>
    rw [← List.append_assoc]
    exact not_escapes_concat (by decide)
  | double _ =>
    rw [← List.append_assoc]
    exact not_escapes_concat (by decide)

/-- Neither do `Fragments`. -/
theorem Fragments.not_escapes {cs f v : List Char} (hcs : ¬Escapes cs) (hf : Fragments f v) :
    ¬Escapes (cs ++ f) := by
  induction hf with
  | nil => rwa [List.append_nil]
  | snoc _ hg ih =>
    rw [← List.append_assoc]
    exact hg.not_escapes ih

/-- A text that is `Laid` out as words ends in an even number of backslashes. -/
theorem Laid.not_escapes {cs : List Char} {ws : List String} (h : Laid cs ws) : ¬Escapes cs := by
  -- the last fragment decides, or the gap
  obtain hg | ⟨ds, us, f, v, rfl, -, hg, hf⟩ := h.gapped
  · exact hg.not_escapes
  · exact hf.fragments.not_escapes hg.not_escapes

/-- A `Line` that ends in an even number of backslashes needs all of them. -/
theorem Line.laid {cs : List Char} {ws : List String} (h : Line cs ws) (hcs : ¬Escapes cs) :
    Laid cs ws := by
  cases h with
  | whole hl => exact hl
  | cut hl => exact absurd (escapes_backslash.mpr hl.not_escapes) hcs

/-- A `Line` that `Escapes` has a backslash at its end that counts for nothing. -/
theorem Line.exists_laid {cs : List Char} {ws : List String} (h : Line cs ws) (hcs : Escapes cs) :
    ∃ front, cs = front ++ ['\\'] ∧ Laid front ws := by
  cases h with
  | whole hl => exact absurd hcs hl.not_escapes
  | cut hl => exact ⟨_, rfl, hl⟩

/-- The texts that end `BetweenWords`, by the blank at their end, are the `Gapped` ones. -/
theorem betweenWords_iff {cs : List Char} : BetweenWords cs ↔ ∃ ws, Gapped cs ws := by
  constructor
  · -- a text without an open quote is a line, and a blank is a gap behind its words
    rintro (rfl | ⟨front, c, rfl, hc, hquote, hescapes⟩)
    · exact ⟨[], .blanks Blanks.nil⟩
    · obtain ⟨ws, hline⟩ := (line_or_openQuote front).resolve_right hquote
      have hgap : Gap [c] := ⟨by simp, by simpa [Blanks] using hc⟩
      exact ⟨ws, (hline.laid hescapes).gapped_append hgap⟩
  · -- what is laid out before the blank has no open quote
    rintro ⟨ws, hg⟩
    obtain rfl | ⟨front, c, rfl, hc, hl⟩ := hg.cases_concat
    · exact .inl rfl
    · exact .inr ⟨front, c, rfl, hc, (Line.whole hl).not_openQuote, hl.not_escapes⟩

/-! ### A text, a gap and another text -/

/-- A `scan` begins anew behind a `Gapped` text. -/
theorem Gapped.scan_append {cs : List Char} {ws : List String} (h : Gapped cs ws)
    (ds : List Char) :
    ({} : Scanner).scan (cs ++ ds) = (({} : Scanner).scan ds).map (ws ++ ·) := by
  rw [Scanner.scan_append, advance_gapped h]

/-- An escaped character `c` between words is a word. -/
theorem Laid.line_escaped {cs : List Char} {ws : List String} (h : Laid cs ws)
    (hcs : BetweenWords cs) (c : Char) :
    Line (cs ++ ['\\', c]) (ws ++ [String.singleton c]) := by
  obtain ⟨ws', hg⟩ := betweenWords_iff.mp hcs
  -- a text has one list of words at most, since there is one scan of it
  obtain rfl : ws' = ws :=
    Except.ok.inj ((Line.whole hg.laid).scan_eq.symm.trans (Line.whole h).scan_eq)
  have hword : Word ['\\', c] [c] := .mk .nil (.escaped c)
  exact .whole (hg.laid_word hword)

/-- Elsewhere `c` is the last character of the last word. -/
theorem Laid.line_escaped_word {cs : List Char} {ws : List String} (h : Laid cs ws)
    (hcs : ¬BetweenWords cs) (c : Char) :
    ∃ us v, ws = us ++ [v] ∧ Line (cs ++ ['\\', c]) (us ++ [v.push c]) := by
  obtain hg | ⟨ds, us, f, v, rfl, rfl, hg, hf⟩ := h.gapped
  · exact absurd (betweenWords_iff.mpr ⟨ws, hg⟩) hcs
  · have hword : Word (f ++ ['\\', c]) (v ++ [c]) := .mk hf.fragments (.escaped c)
    have hpush : String.ofList (v ++ [c]) = (String.ofList v).push c := by
      rw [← String.toList_inj]
      simp
    refine ⟨us, String.ofList v, rfl, ?_⟩
    rw [List.append_assoc, ← hpush]
    exact .whole (hg.laid_word hword)

/-- The words of a text `a` whose quotes are closed, with a `gap` and another text `b` behind it.
    If `a` ends in an even number of backslashes, they are the words of the two texts, and there are
    none if `b` has an open quote.  If their number is odd (`Escapes`), the last of them counts for
    nothing where `a` ends alone, and makes the first blank of the gap literal: a word of its own if
    what stands before the backslash ends `BetweenWords`, and otherwise the last character of the
    last word. -/
theorem words?_gap {a gap : String} {ws : List String} (ha : words? a = .ok ws)
    (hgap : Gap gap.toList) :
    (¬Escapes a.toList → ∀ b, words? (a ++ gap ++ b) = (words? b).map (ws ++ ·)) ∧
    (Escapes a.toList → ∃ front c,
      a = front ++ "\\" ∧ gap.toList.head? = some c ∧ words? front = .ok ws ∧
      (BetweenWords front.toList →
        words? (a ++ String.singleton c) = .ok (ws ++ [String.singleton c])) ∧
      (¬BetweenWords front.toList → ∃ us v,
        ws = us ++ [v] ∧ words? (a ++ String.singleton c) = .ok (us ++ [v.push c]))) := by
  have hline : Line a.toList ws := scan_eq_ok_iff.mp ha
  constructor
  · intro heven b
    -- with an even number of backslashes the first text is laid out, and the gap stays one
    have hgapped : Gapped (a.toList ++ gap.toList) ws := (hline.laid heven).gapped_append hgap
    unfold words?
    rw [String.toList_append, String.toList_append]
    exact hgapped.scan_append b.toList
  · intro hodd
    -- without its last backslash the first text is laid out, and the blank is escaped behind it
    obtain ⟨front, hfront, hlaid⟩ := hline.exists_laid hodd
    obtain ⟨c, rest, hc⟩ := List.exists_cons_of_ne_nil hgap.1
    have hlist : (String.ofList front).toList = front := String.toList_ofList
    have hescaped : (a ++ String.singleton c).toList = front ++ ['\\', c] := by
      rw [String.toList_append, hfront]
      simp
    refine ⟨String.ofList front, c, ?_, by rw [hc, List.head?_cons], ?_, ?_, ?_⟩
    · rw [← String.toList_inj, hfront]
      simp
    · rw [words?, hlist]
      exact (Line.whole hlaid).scan_eq
    · intro hbetween
      rw [words?, hescaped]
      rw [hlist] at hbetween
      exact (hlaid.line_escaped hbetween c).scan_eq
    · intro hbetween
      rw [hlist] at hbetween
      obtain ⟨us, v, hws, hlast⟩ := hlaid.line_escaped_word hbetween c
      refine ⟨us, v, hws, ?_⟩
      rw [words?, hescaped]
      exact hlast.scan_eq

/-- A text that ends in a literal backslash behind a quoted one, and the same text with one
    backslash more. -/
theorem words?_gap_backslashes :
    words? "x 'y\\'\\\\" = .ok ["x", "y\\\\"] ∧ Gap "\t ".toList ∧
      ¬Escapes "x 'y\\'\\\\".toList ∧
      words? ("x 'y\\'\\\\" ++ "\t " ++ "\"z\" '") = .error .openQuote ∧
      words? "x 'y\\'\\\\\\" = .ok ["x", "y\\\\"] ∧ Escapes "x 'y\\'\\\\\\".toList ∧
      words? ("x 'y\\'\\\\\\" ++ String.singleton '\t') = .ok ["x", "y\\\\\t"] := by
  have hwords : words? "x 'y\\'\\\\" = .ok ["x", "y\\\\"] := rfl
  have hwords' : words? "x 'y\\'\\\\\\" = .ok ["x", "y\\\\"] := rfl
  have hgap : Gap "\t ".toList := ⟨by decide, by simp [Blanks]; decide⟩
  have heven : ¬Escapes "x 'y\\'\\\\".toList := by decide
  have hodd : Escapes "x 'y\\'\\\\\\".toList := by decide
  obtain ⟨hsplit, -⟩ := words?_gap hwords hgap
  obtain ⟨-, hliteral⟩ := words?_gap hwords' hgap
  refine ⟨hwords, hgap, heven, (hsplit heven _).trans rfl, hwords', hodd, ?_⟩
  obtain ⟨front, c, hfront, hc, -, -, hword⟩ := hliteral hodd
  obtain rfl : '\t' = c := Option.some.inj hc
  have hlist : front.toList = "x 'y\\'\\\\".toList := by
    have h := congrArg String.toList hfront
    rw [String.toList_append] at h
    exact List.append_cancel_right h.symm
  have hbetween : ¬BetweenWords front.toList := by
    rw [hlist]
    rintro (h | ⟨cs, d, hd, hblank, -⟩)
    · exact absurd h (by decide)
    · have hlast : "x 'y\\'\\\\".toList.getLast? = some d := by rw [hd]; simp
      obtain rfl : '\\' = d := Option.some.inj hlast
      exact absurd hblank (by decide)
  obtain ⟨us, v, hws, hpushed⟩ := hword hbetween
  obtain ⟨rfl, hv⟩ := List.append_inj' (show ["x"] ++ ["y\\\\"] = us ++ [v] from hws) rfl
  obtain rfl := List.singleton_inj.mp hv
  exact hpushed

end LineShell.Words
