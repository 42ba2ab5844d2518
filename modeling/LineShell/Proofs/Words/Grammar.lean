import LineShell.Words.Scan

/-! # The grammar of lines

What a line may look like and which words it holds, said without a scanner.  Every rule relates the
characters of a piece of a line to the value that they stand for:

* a `Fragment` is a plain character, a backslash with the character behind it, or a quoted text,
* a `Word` is one or more fragments in a row, and its value is their values in a row,
* a text is `Laid` out as words with blanks between them, and maybe blanks around them,
* a `Line` is a text that is laid out so, and maybe one backslash behind it,
* an `OpenQuote` is a text that is laid out so up to a quote that nothing closes.

`Gapped` texts are those that end between words.  They are how a scanner sees a layout, from left
to right:

* `Gapped.laid`, `Gapped.laid_word`   a gapped text, and one with a word behind it, is laid out
* `Laid.gapped`                       every text that is laid out is one of the two -/

namespace LineShell.Words

/-- Nothing but blanks, if anything: every character is `Text.isBlank`. -/
def Blanks (cs : List Char) : Prop := ∀ c ∈ cs, Text.isBlank c = true

/-- What keeps two words apart: one blank or more, so `Blanks` that are not `[]`. -/
def Gap (cs : List Char) : Prop := cs ≠ [] ∧ Blanks cs

/-- A character that stands for itself outside quotes: no blank, and none of `'`, `"` and `\`. -/
def IsPlain (c : Char) : Prop := Text.isBlank c = false ∧ c ≠ '\'' ∧ c ≠ '"' ∧ c ≠ '\\'

/-- `Quoted cs v`: what stands between double quotes is `cs`, and its value is `v`. -/
inductive Quoted : List Char → List Char → Prop
  | nil : Quoted [] []
  /-- Any character but a double quote or a backslash stands for itself. -/
  | plain {cs v : List Char} {c : Char} :
    Quoted cs v → c ≠ '"' → c ≠ '\\' → Quoted (cs ++ [c]) (v ++ [c])
  /-- A backslash before a double quote or a backslash makes it literal. -/
  | literal {cs v : List Char} {c : Char} :
    Quoted cs v → c = '\\' ∨ c = '"' → Quoted (cs ++ ['\\', c]) (v ++ [c])
  /-- A backslash before anything else stands for itself, and so does what follows it. -/
  | kept {cs v : List Char} {c : Char} :
    Quoted cs v → ¬ (c = '\\' ∨ c = '"') → Quoted (cs ++ ['\\', c]) (v ++ ['\\', c])

/-- `Fragment f v`: a fragment `f` of a word, and its value `v`. -/
inductive Fragment : List Char → List Char → Prop
  | plain {c : Char} : IsPlain c → Fragment [c] [c]
  | escaped (c : Char) : Fragment ['\\', c] [c]
  | single {cs : List Char} : '\'' ∉ cs → Fragment ('\'' :: cs ++ ['\'']) cs
  | double {cs v : List Char} : Quoted cs v → Fragment ('"' :: cs ++ ['"']) v

/-- Adjacent fragments, if there are any, and their values in a row; `[]` has the value `[]`. -/
inductive Fragments : List Char → List Char → Prop
  | nil : Fragments [] []
  | snoc {f v g w : List Char} : Fragments f v → Fragment g w → Fragments (f ++ g) (v ++ w)

/-- One adjacent `Fragment` or more, and their values in a row. -/
inductive Word : List Char → List Char → Prop
  | mk {f v g w : List Char} : Fragments f v → Fragment g w → Word (f ++ g) (v ++ w)

/-- Words with a `Gap` between any two of them. -/
inductive Separated : List Char → List String → Prop
  | nil : Separated [] []
  | one {f v : List Char} : Word f v → Separated f [String.ofList v]
  | snoc {cs g f v : List Char} {ws : List String} :
    Separated cs ws → ws ≠ [] → Gap g → Word f v →
      Separated (cs ++ g ++ f) (ws ++ [String.ofList v])

/-- Words that are `Separated`, and maybe `Blanks` before the first and behind the last. -/
inductive Laid : List Char → List String → Prop
  | mk {before cs after : List Char} {ws : List String} :
    Blanks before → Separated cs ws → Blanks after → Laid (before ++ cs ++ after) ws

/-- `Line cs ws`: a line `cs`, and its words `ws`.  A backslash that ends the line counts for
    nothing. -/
inductive Line : List Char → List String → Prop
  | whole {cs : List Char} {ws : List String} : Laid cs ws → Line cs ws
  | cut {cs : List Char} {ws : List String} : Laid cs ws → Line (cs ++ ['\\']) ws

/-- A text that is `Laid` out up to a quote which is still open at its end. -/
inductive OpenQuote : List Char → Prop
  | single {cs rest : List Char} {ws : List String} :
    Laid cs ws → '\'' ∉ rest → OpenQuote (cs ++ '\'' :: rest)
  | double {cs rest v : List Char} {ws : List String} :
    Laid cs ws → Quoted rest v → OpenQuote (cs ++ '"' :: rest)
  /-- The text ends in a backslash that has nothing to act on. -/
  | escaped {cs rest v : List Char} {ws : List String} :
    Laid cs ws → Quoted rest v → OpenQuote (cs ++ '"' :: rest ++ ['\\'])

/-! ### Texts that end between words -/

/-- `Blanks`, and then words that each have a `Gap` behind them. -/
inductive Gapped : List Char → List String → Prop
  | blanks {cs : List Char} : Blanks cs → Gapped cs []
  | word {cs f v g : List Char} {ws : List String} :
    Gapped cs ws → Word f v → Gap g → Gapped (cs ++ f ++ g) (ws ++ [String.ofList v])

theorem Blanks.nil : Blanks [] := by simp [Blanks]

theorem Blanks.append {cs ds : List Char} (hc : Blanks cs) (hd : Blanks ds) :
    Blanks (cs ++ ds) := by
  intro c h
  rcases List.mem_append.mp h with h | h
  · exact hc c h
  · exact hd c h

theorem Gap.snoc {cs : List Char} {c : Char} (h : Gap cs) (hc : Text.isBlank c = true) :
    Gap (cs ++ [c]) :=
  ⟨by simp, h.2.append (by simpa [Blanks] using hc)⟩

/-- A blank more leaves a text `Gapped`. -/
theorem Gapped.snoc_blank {cs : List Char} {ws : List String} {c : Char} (h : Gapped cs ws)
    (hc : Text.isBlank c = true) : Gapped (cs ++ [c]) ws := by
  cases h with
  | blanks hb => exact .blanks (hb.append (by simpa [Blanks] using hc))
  | word hg hf hgap =>
    -- the blank belongs to the gap behind the last word
    rw [List.append_assoc]
    exact .word hg hf (hgap.snoc hc)

/-- A `Word` is `Fragments` that are not empty. -/
theorem Word.fragments {f v : List Char} : Word f v → Fragments f v
  | .mk hf hg => hf.snoc hg

/-- Adjacent `Fragments` make a `Word`, if there are any. -/
theorem Fragments.word {f v : List Char} (h : Fragments f v) :
    (f = [] ∧ v = []) ∨ Word f v := by
  cases h with
  | nil => exact .inl ⟨rfl, rfl⟩
  | snoc hf hg => exact .inr (.mk hf hg)

/-- Without words there is nothing to separate: `Separated cs []` only if `cs = []`. -/
theorem Separated.eq_nil {cs : List Char} (h : Separated cs []) : cs = [] := by
  -- the index has to be a variable before the cases
  generalize hw : ([] : List String) = ws at h
  cases h with
  | nil => rfl
  | one => simp at hw
  | snoc => simp at hw

/-- One word `f` more behind some that are `Separated`, with blanks all around. -/
theorem Separated.snoc_word {before cs after f v : List Char} {ws : List String}
    (hb : Blanks before) (hs : Separated cs ws) (ha : Blanks after) (hn : ws ≠ [] → after ≠ [])
    (hf : Word f v) :
    ∃ before' cs', before ++ cs ++ after ++ f = before' ++ cs' ∧ Blanks before' ∧
      Separated cs' (ws ++ [String.ofList v]) := by
  by_cases hw : ws = []
  · -- The word is the first one, and all blanks stand before it.
    subst hw
    have hcs : cs = [] := hs.eq_nil
    subst hcs
    exact ⟨before ++ after, f, by simp, hb.append ha, .one hf⟩
  · -- there are words in front, so the blanks behind them are a gap
    exact ⟨before, cs ++ after ++ f, by simp, hb, .snoc hs hw ⟨hn hw, ha⟩ hf⟩

/-- A `Gapped` text taken apart: blanks, separated words, and a gap if there are words. -/
private theorem Gapped.split {cs : List Char} {ws : List String} (h : Gapped cs ws) :
    ∃ before body after, cs = before ++ body ++ after ∧ Blanks before ∧ Separated body ws ∧
      Blanks after ∧ (ws ≠ [] → after ≠ []) := by
  induction h with
  | blanks hc => exact ⟨_, [], [], by simp, hc, .nil, Blanks.nil, by simp⟩
  -- the word goes behind what the text in front has come apart into
  | word _ hf hg ih =>
    obtain ⟨before, body, after, rfl, hb, hs, ha, hn⟩ := ih
    obtain ⟨before', body', heq, hb', hs'⟩ := Separated.snoc_word hb hs ha hn hf
    exact ⟨before', body', _, by rw [heq], hb', hs', hg.2, fun _ => hg.1⟩

/-- A `Gapped` text is `Laid` out. -/
theorem Gapped.laid {cs : List Char} {ws : List String} (h : Gapped cs ws) : Laid cs ws := by
  obtain ⟨before, body, after, rfl, hb, hs, ha, -⟩ := h.split
  exact .mk hb hs ha

/-- So is one with a word `f` behind it, whose value comes behind `ws`. -/
theorem Gapped.laid_word {cs f v : List Char} {ws : List String} (h : Gapped cs ws)
    (hf : Word f v) : Laid (cs ++ f) (ws ++ [String.ofList v]) := by
  obtain ⟨before, body, after, rfl, hb, hs, ha, hn⟩ := h.split
  obtain ⟨before', body', heq, hb', hs'⟩ := Separated.snoc_word hb hs ha hn hf
  rw [heq, ← List.append_nil (before' ++ body')]
  exact .mk hb' hs' Blanks.nil

/-- Of `Separated` words the last one stands behind a `Gapped` text. -/
private theorem Separated.gapped {before cs : List Char} {ws : List String}
    (hb : Blanks before) (h : Separated cs ws) :
    (ws = [] ∧ cs = []) ∨ ∃ ds us f v, before ++ cs = ds ++ f ∧ ws = us ++ [String.ofList v] ∧
      Gapped ds us ∧ Word f v := by
  induction h with
  | nil => exact .inl ⟨rfl, rfl⟩
  | one hf => exact .inr ⟨before, [], _, _, rfl, rfl, .blanks hb, hf⟩
  | snoc _ hn hg hf ih =>
    obtain ⟨rfl, -⟩ | ⟨ds, us, f', v', heq, rfl, hd, hf'⟩ := ih
    · exact absurd rfl hn
    · -- the words in front end between words, with the gap behind them
      refine .inr ⟨_, _, _, _, ?_, rfl, hd.word hf' hg, hf⟩
      rw [← List.append_assoc, ← List.append_assoc, heq]

/-- A text that is `Laid` out is `Gapped`, or has a word behind a text `ds` that is. -/
theorem Laid.gapped {cs : List Char} {ws : List String} (h : Laid cs ws) :
    Gapped cs ws ∨ ∃ ds us f v, cs = ds ++ f ∧ ws = us ++ [String.ofList v] ∧ Gapped ds us ∧
      Word f v := by
  obtain ⟨hb, hs, ha⟩ := h
  obtain ⟨rfl, rfl⟩ | ⟨ds, us, f, v, heq, rfl, hd, hf⟩ := hs.gapped hb
  · exact .inl (.blanks (by simpa using hb.append ha))
  · rename_i after
    rw [heq]
    -- blanks behind the last word are what tells the two apart
    by_cases hn : after = []
    · exact .inr ⟨ds, us, f, v, by rw [hn, List.append_nil], rfl, hd, hf⟩
    · exact .inl (hd.word hf ⟨hn, ha⟩)

end LineShell.Words
