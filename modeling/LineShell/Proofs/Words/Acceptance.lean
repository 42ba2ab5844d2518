import LineShell.Proofs.Words.Reading

/-! # Which lines have words

The scanner against the grammar, at the end of a line: the lines that it accepts are those that the
grammar derives, with the same words, and it refuses a line exactly where a quote is still open.

* `Read.stop`               a scanner that stops has read a line or an open quote
* `words?_iff_grammar`      acceptance, words and refusal of every line -/

namespace LineShell.Words

open Scanner (within)

/-- A scanner that stops has read a `Line`, whose last word may be pending, or an `OpenQuote`. -/
theorem Read.stop {cs : List Char} {s : Scanner} {ws : List String} (h : Read cs s ws) :
    (∃ us, s.stop = .ok us ∧ Line cs (ws ++ us)) ∨
      (s.stop = .error .openQuote ∧ OpenQuote cs) := by
  -- Where a quote opens, a word may have begun, but need not.
  have hlaid : ∀ {cs f v : List Char} {ws : List String}, Gapped cs ws → Fragments f v →
      ∃ us, Laid (cs ++ f) us := by
    intro cs f v ws hg hf
    obtain ⟨rfl, rfl⟩ | hw := hf.word
    · exact ⟨ws, by simpa using hg.laid⟩
    · exact ⟨_, hg.laid_word hw⟩
  cases h with
  | gap hg => exact .inl ⟨[], rfl, by simpa using .whole hg.laid⟩
  | gapEscaped hg => exact .inl ⟨[], rfl, by simpa using .cut hg.laid⟩
  | bare hg hf => exact .inl ⟨_, rfl, .whole (hg.laid_word hf)⟩
  | bareEscaped hg hf => exact .inl ⟨_, rfl, .cut (hg.laid_word hf)⟩
  | single hg hf hb =>
    obtain ⟨us, hl⟩ := hlaid hg hf
    exact .inr ⟨rfl, .single hl hb⟩
  | double hg hf hq =>
    obtain ⟨us, hl⟩ := hlaid hg hf
    exact .inr ⟨rfl, .double hl hq⟩
  | doubleEscaped hg hf hq =>
    obtain ⟨us, hl⟩ := hlaid hg hf
    exact .inr ⟨rfl, .escaped hl hq⟩

/-- A `Line` that the grammar derives is accepted by `scan` with its words. -/
theorem Line.scan_eq {cs : List Char} {ws : List String} (h : Line cs ws) :
    ({} : Scanner).scan cs = .ok ws := by
  cases h with
  -- the text ends between words, or in a last word that `stop` hands out
  | whole hl =>
    obtain hg | ⟨ds, us, f, v, rfl, rfl, hg, hf⟩ := hl.gapped
    · rw [(Read.gap hg).scan_eq]
      simp [Scanner.stop, Scanner.finish, Except.map]
    · rw [(Read.bare hg hf).scan_eq]
      simp [Scanner.stop, Scanner.finish, within, Except.map]
  -- so does a text before a last backslash, which `stop` forgets
  | cut hl =>
    obtain hg | ⟨ds, us, f, v, rfl, rfl, hg, hf⟩ := hl.gapped
    · rw [(Read.gapEscaped hg).scan_eq]
      simp [Scanner.stop, Scanner.finish, Except.map]
    · rw [(Read.bareEscaped hg hf).scan_eq]
      simp [Scanner.stop, Scanner.finish, within, Except.map]

/-- What stands before a quote is a `Gapped` text and then `Fragments`, none if it ends between
    words. -/
private theorem Laid.fragments {cs : List Char} {ws : List String} (h : Laid cs ws) :
    ∃ ds us f v, cs = ds ++ f ∧ Gapped ds us ∧ Fragments f v := by
  obtain hg | ⟨ds, us, f, v, rfl, -, hg, hf⟩ := h.gapped
  · exact ⟨cs, ws, [], [], by simp, hg, .nil⟩
  · exact ⟨ds, us, f, v, rfl, hg, hf.fragments⟩

/-- A line with an `OpenQuote` is refused with the error `.openQuote`. -/
theorem OpenQuote.scan_eq {cs : List Char} (h : OpenQuote cs) :
    ({} : Scanner).scan cs = .error .openQuote := by
  cases h with
  | single hl hb =>
    obtain ⟨ds, us, f, v, rfl, hg, hf⟩ := hl.fragments
    rw [(Read.single hg hf hb).scan_eq]
    rfl
  | double hl hq =>
    obtain ⟨ds, us, f, v, rfl, hg, hf⟩ := hl.fragments
    rw [(Read.double hg hf hq).scan_eq]
    rfl
  | escaped hl hq =>
    obtain ⟨ds, us, f, v, rfl, hg, hf⟩ := hl.fragments
    rw [(Read.doubleEscaped hg hf hq).scan_eq]
    rfl

/-- Every text is a `Line` or has an `OpenQuote`. -/
theorem line_or_openQuote (cs : List Char) : (∃ ws, Line cs ws) ∨ OpenQuote cs := by
  obtain ⟨us, -, hl⟩ | ⟨-, ho⟩ := (read_advance cs).stop
  · exact .inl ⟨_, hl⟩
  · exact .inr ho

/-- No `Line` has an `OpenQuote`: `scan` cannot accept and refuse it. -/
theorem Line.not_openQuote {cs : List Char} {ws : List String} (h : Line cs ws) :
    ¬ OpenQuote cs := by
  intro ho
  have hscan := ho.scan_eq
  rw [h.scan_eq] at hscan
  exact nomatch hscan

/-- `words?` accepts exactly the lines that the grammar derives (`Line`), with the same words, and
    refuses all others, which are those with a quote that is still open at their end
    (`OpenQuote`). -/
theorem words?_iff_grammar (line : String) :
    (∀ ws, words? line = .ok ws ↔ Line line.toList ws) ∧
      (words? line = .error .openQuote ↔ ¬ ∃ ws, Line line.toList ws) ∧
      (words? line = .error .openQuote ↔ OpenQuote line.toList) := by
  -- one of the two holds of the line, and `scan` shows which
  unfold words?
  obtain ⟨us, hl⟩ | ho := line_or_openQuote line.toList
  · rw [hl.scan_eq]
    refine ⟨fun ws => ⟨fun h => ?_, fun h => ?_⟩, ⟨fun h => (nomatch h), fun h => ?_⟩,
      ⟨fun h => (nomatch h), fun h => ?_⟩⟩
    · rwa [← Except.ok.inj h]
    · rw [← hl.scan_eq, h.scan_eq]
    · exact absurd ⟨us, hl⟩ h
    · exact absurd h hl.not_openQuote
  · -- the line has an open quote, so it has no words
    rw [ho.scan_eq]
    have hn : ∀ ws, ¬ Line line.toList ws := fun ws hl => hl.not_openQuote ho
    refine ⟨fun ws => ⟨fun h => (nomatch h), fun h => ?_⟩, ⟨fun _ => ?_, fun _ => rfl⟩,
      ⟨fun _ => ho, fun _ => rfl⟩⟩
    · exact absurd h (hn ws)
    · rintro ⟨ws, hl⟩
      exact hn ws hl

-- Adjacent fragments are one word, a quote may be kept, and a last backslash counts for nothing.
example : words? "a'b c'\\\" '' \\" = .ok ["ab c\"", ""] := rfl

end LineShell.Words
