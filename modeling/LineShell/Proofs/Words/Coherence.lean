import LineShell.Proofs.Words.Spelling

/-! # The fields of a scanner agree

Where a scanner stands, whether a backslash is pending, whether a word has begun, and what the word
holds so far are four fields, and no step sets all of them.  They agree nevertheless: a scanner that
has read any text is `Coherent`, and any coherent scanner has some text behind it.

* `Scanner.Coherent.moves`     what one character may come to
* `Scanner.Coherent.advance`   any number of characters keep a scanner coherent
* `Scanner.coherent_iff`       the coherent scanners are those that some text leads to -/

namespace LineShell.Words

namespace Scanner

/-- The four fields of a scanner agree: `place`, `escaped`, `inWord` and `buffer`. -/
structure Coherent (s : Scanner) : Prop where
  /-- Between words nothing of a word is there. -/
  gap : s.place = .gap → s.inWord = false ∧ s.buffer = ""
  /-- Everywhere else a word has begun. -/
  word : s.place ≠ .gap → s.inWord = true
  /-- Between single quotes no backslash is pending. -/
  single : s.place = .single → s.escaped = false

variable {s : Scanner} {c : Char}

/-- Between words a backslash may be pending, and nothing else. -/
theorem coherent_gap (escaped : Bool) : ({ escaped } : Scanner).Coherent where
  gap _ := ⟨rfl, rfl⟩
  word h := absurd rfl h
  single h := nomatch h

/-- A scanner that begins a word is in it, outside quotes. -/
theorem coherent_begin (s : Scanner) : s.begin.Coherent where
  gap h := nomatch h
  word _ := rfl
  single h := nomatch h

namespace Coherent

/-- A character more in a word. -/
theorem keep (h : s.Coherent) (hplace : s.place ≠ .gap) (c : Char) : (s.keep c).Coherent where
  gap hgap := absurd hgap hplace
  word := h.word
  single := h.single

/-- A quote that opens or closes: the `place` changes and nothing else. -/
theorem move (h : s.Coherent) (hplace : s.place ≠ .gap) (hescaped : s.escaped = false)
    {place : Place} (hto : place ≠ .gap) : { s with place }.Coherent where
  gap hgap := absurd hgap hto
  word _ := h.word hplace
  single _ := hescaped

/-- A backslash is pending, but not between single quotes. -/
theorem escape (h : s.Coherent) (hplace : s.place ≠ .single) :
    { s with escaped := true }.Coherent where
  gap := h.gap
  word := h.word
  single hsingle := absurd hsingle hplace

/-- A backslash that is pending no longer. -/
theorem unescape (h : s.Coherent) : { s with escaped := false }.Coherent where
  gap := h.gap
  word := h.word
  single _ := rfl

/-- A character in a word and outside quotes, which `Scanner.stepBare` takes. -/
theorem stepBare (h : s.Coherent) (hplace : s.place = .bare) (hescaped : s.escaped = false)
    (c : Char) : (s.stepBare c).Coherent := by
  have hword : s.place ≠ .gap := by rw [hplace]; decide
  unfold Scanner.stepBare
  split
  · -- outside quotes a backslash may be pending
    apply h.escape
    rw [hplace]
    decide
  split
  · exact h.move hword hescaped (by decide)
  split
  · exact h.move hword hescaped (by decide)
  · exact h.keep hword c

/-- The character behind a backslash, which `Scanner.stepEscaped` takes. -/
theorem stepEscaped (h : s.Coherent) (c : Char) : (s.stepEscaped c).Coherent := by
  have ht : { s with escaped := false }.Coherent := h.unescape
  unfold Scanner.stepEscaped
  dsimp only
  split
  · -- between double quotes the backslash may stay in the word
    rename_i hplace
    have hword : s.place ≠ .gap := by rw [hplace]; decide
    split
    · exact ht.keep hword c
    · exact (ht.keep hword '\\').keep hword c
  · exact (coherent_begin _).keep nofun c
  · rename_i hplace
    exact ht.keep (by rw [hplace]; decide) c
  · rename_i hplace
    exact ht.keep (by rw [hplace]; decide) c

end Coherent

/-- In a word and outside quotes `stepBare` does not begin or end a word. -/
theorem stepBare_inWord : (s.stepBare c).inWord = s.inWord := by
  unfold stepBare
  split
  · rfl
  split
  · rfl
  split <;> rfl

/-- A word that has begun goes on behind a backslash. -/
theorem stepEscaped_inWord (h : s.inWord = true) : (s.stepEscaped c).inWord = true := by
  unfold stepEscaped
  dsimp only
  split
  · split <;> exact h
  · rfl
  · exact h
  · exact h

/-- What one `step` may come to for a coherent scanner. -/
inductive Moves (s : Scanner) : Scanner × Option String → Prop
  /-- Nothing is handed out, and a word that has begun goes on. -/
  | on {t : Scanner} : t.Coherent → (s.inWord = true → t.inWord = true) → Moves s (t, none)
  /-- The word that has begun is handed out, and nothing is left of it. -/
  | out {t : Scanner} : t.Coherent → s.inWord = true → t.inWord = false →
      Moves s (t, some s.buffer)

/-- Either way the scanner that is left is `Coherent`. -/
theorem Moves.coherent {r : Scanner × Option String} (h : Moves s r) : r.1.Coherent := by
  cases h with
  | on ht _ => exact ht
  | out ht _ _ => exact ht

/-- One character more: a `step` keeps a scanner `Coherent`, and moves it as `Moves` says. -/
theorem Coherent.moves (h : s.Coherent) (c : Char) : Moves s (s.step c) := by
  unfold step
  split
  · -- a pending backslash meets its character, and a word goes on
    exact .on (h.stepEscaped c) stepEscaped_inWord
  rename_i hescaped
  rw [Bool.not_eq_true] at hescaped
  cases hplace : s.place with
  | gap =>
    dsimp only
    split
    · exact .on h id
    split
    -- the backslash is pending between words: it is the next character that begins the word
    · exact .on (hplace ▸ h.escape (by rw [hplace]; decide)) id
    · -- any other character begins a word
      refine .on ((coherent_begin s).stepBare rfl hescaped c) fun _ => ?_
      rw [stepBare_inWord]
      rfl
  | bare =>
    dsimp only
    split
    · -- the place tells that a word has begun, so that there is one to hand out
      have hword : s.inWord = true := h.word (by rw [hplace]; decide)
      have hfinish : s.finish = ({ s with inWord := false, buffer := "" }, some s.buffer) := by
        simp [finish, hword]
      rw [hfinish]
      exact .out (coherent_gap s.escaped) hword rfl
    · exact .on (h.stepBare hplace hescaped c) fun hword => stepBare_inWord.trans hword
  | single =>
    dsimp only
    have hword : s.place ≠ .gap := by rw [hplace]; decide
    split
    · -- the quote closes, and the word goes on outside
      exact .on (h.move hword hescaped (by decide)) id
    · exact .on (h.keep hword c) id
  | double =>
    dsimp only
    have hword : s.place ≠ .gap := by rw [hplace]; decide
    split
    · exact .on (h.move hword hescaped (by decide)) id
    split
    · exact .on (hplace ▸ h.escape (by rw [hplace]; decide)) id
    · exact .on (h.keep hword c) id

/-- Any number of characters more, by induction on them with `Coherent.moves`. -/
theorem Coherent.advance (h : s.Coherent) (cs : List Char) : (s.advance cs).1.Coherent := by
  induction cs generalizing s with
  | nil => exact h
  | cons c cs ih => exact ih (h.moves c).coherent

/-! ### Every coherent scanner has some text behind it -/

/-- Between words only `escaped` can tell two coherent scanners apart. -/
theorem Coherent.eq_of_gap (h : s.Coherent) (hplace : s.place = .gap) :
    s = { escaped := s.escaped } := by
  obtain ⟨place, escaped, inWord, buffer⟩ := s
  obtain rfl : place = .gap := hplace
  obtain ⟨hword, hbuffer⟩ := h.gap rfl
  obtain rfl : inWord = false := hword
  obtain rfl : buffer = "" := hbuffer
  rfl

/-- In a word it is the `place`, a backslash and the characters of the word. -/
theorem Coherent.eq_within (h : s.Coherent) (hplace : s.place ≠ .gap) :
    s = { within s.place s.buffer.toList with escaped := s.escaped } := by
  obtain ⟨place, escaped, inWord, buffer⟩ := s
  obtain rfl : inWord = true := h.word hplace
  simp [within]

/-- A coherent scanner has `Read` some text. -/
theorem Coherent.exists_read (h : s.Coherent) : ∃ cs ws, Read cs s ws := by
  -- nothing has been handed out, so no text is needed in front of the word
  have hgapped : Gapped [] [] := .blanks Blanks.nil
  -- every word can be written down, and then a quote may follow
  have hword : Word (Style.single.spell s.buffer.toList) s.buffer.toList :=
    Style.word_spell nofun
  by_cases hgap : s.place = .gap
  · rw [h.eq_of_gap hgap]
    cases s.escaped with
    | false => exact ⟨_, _, .gap hgapped⟩
    | true => exact ⟨_, _, .gapEscaped hgapped⟩
  rw [h.eq_within hgap]
  cases hplace : s.place with
  | gap => exact absurd hplace hgap
  | bare =>
    cases s.escaped with
    | false => exact ⟨_, _, .bare hgapped hword⟩
    | true => exact ⟨_, _, .bareEscaped hgapped hword⟩
  | single =>
    have hread := Read.single hgapped hword.fragments List.not_mem_nil
    rw [List.append_nil] at hread
    rw [h.single hplace]
    exact ⟨_, _, hread⟩
  | double =>
    cases s.escaped with
    | false =>
      have hread := Read.double hgapped hword.fragments .nil
      rw [List.append_nil] at hread
      exact ⟨_, _, hread⟩
    | true =>
      have hread := Read.doubleEscaped hgapped hword.fragments .nil
      rw [List.append_nil] at hread
      exact ⟨_, _, hread⟩

/-- The `Coherent` scanners are those that some text leads a fresh scanner to. -/
theorem coherent_iff : s.Coherent ↔ ∃ cs, (({} : Scanner).advance cs).1 = s := by
  constructor
  · intro h
    obtain ⟨cs, ws, hread⟩ := h.exists_read
    exact ⟨cs, congrArg Prod.fst hread.advance_eq⟩
  · -- a fresh scanner is coherent, and stays so
    rintro ⟨cs, rfl⟩
    exact (coherent_gap false).advance cs

end Scanner

end LineShell.Words
