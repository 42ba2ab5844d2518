import LineShell.Proofs.Words.Grammar

/-! # What a scanner has read

`Scanner.advance` runs a scanner over some characters: the scanner that is left, and the words that
it has handed out.  `Read cs s ws` says in terms of the grammar what a fresh scanner has found in
the characters `cs` when it is in the state `s` and has handed out the words `ws`; it lists the
seven states that a scanner can be in.

* `Scanner.scan_eq`   scanning is running over the characters and stopping
* `Read.step`         one character more
* `read_advance`      a scanner always finds what the grammar says
* `Read.advance_eq`   what the grammar says is what a scanner finds -/

namespace LineShell.Words

namespace Scanner

/-- The scanner behind some characters, and the words that it hands out on them: `step` for each
    character, with no `stop`. -/
def advance (s : Scanner) : List Char → Scanner × List String
  | [] => (s, [])
  | c :: cs =>
    let (t, word) := s.step c
    let (t, words) := t.advance cs
    (t, word.toList ++ words)

/-- A scanner in a word, with the characters `v` of the word so far. -/
def within (place : Place) (v : List Char) : Scanner :=
  { place, inWord := true, buffer := String.ofList v }

@[simp] theorem advance_nil (s : Scanner) : s.advance [] = (s, []) := rfl

theorem advance_cons (s : Scanner) (c : Char) (cs : List Char) :
    s.advance (c :: cs) =
      (((s.step c).1.advance cs).1, (s.step c).2.toList ++ ((s.step c).1.advance cs).2) := rfl

/-- A scanner runs over `cs` and then, as it is left, over `ds`. -/
theorem advance_append (s : Scanner) (cs ds : List Char) :
    s.advance (cs ++ ds) =
      (((s.advance cs).1.advance ds).1, (s.advance cs).2 ++ ((s.advance cs).1.advance ds).2) := by
  induction cs generalizing s with
  | nil => simp
  | cons c cs ih => simp only [List.cons_append, advance_cons, ih, List.append_assoc]

theorem advance_append_singleton (s : Scanner) (cs : List Char) (c : Char) :
    s.advance (cs ++ [c]) =
      (((s.advance cs).1.step c).1, (s.advance cs).2 ++ ((s.advance cs).1.step c).2.toList) := by
  simp [advance_append, advance_cons]

/-- To `scan` is to `advance` over the characters and `stop` behind them. -/
theorem scan_eq (s : Scanner) (cs : List Char) :
    s.scan cs = (s.advance cs).1.stop.map ((s.advance cs).2 ++ ·) := by
  induction cs generalizing s with
  | nil => cases h : s.stop <;> simp [scan, Except.map, h]
  | cons c cs ih =>
    rw [scan, advance_cons]
    -- the word that this character ends comes in front of the others
    rcases h : s.step c with ⟨t, word⟩
    cases word <;> cases ht : (t.advance cs).1.stop <;> simp [ih, Except.map, ht]

/-- A `scan` may be taken up again behind any part of the text. -/
theorem scan_append (s : Scanner) (cs ds : List Char) :
    s.scan (cs ++ ds) = ((s.advance cs).1.scan ds).map ((s.advance cs).2 ++ ·) := by
  rw [scan_eq, scan_eq, advance_append]
  cases ((s.advance cs).1.advance ds).1.stop <;> simp [Except.map]

end Scanner

open Scanner (within)

/-! ### The states of a scanner -/

/-- `Read cs s ws`: in the characters `cs` a fresh scanner has reached the state `s` and has handed
    out the words `ws`. -/
inductive Read : List Char → Scanner → List String → Prop
  | gap {cs : List Char} {ws : List String} : Gapped cs ws → Read cs {} ws
  | gapEscaped {cs : List Char} {ws : List String} :
    Gapped cs ws → Read (cs ++ ['\\']) { escaped := true } ws
  | bare {cs f v : List Char} {ws : List String} :
    Gapped cs ws → Word f v → Read (cs ++ f) (within .bare v) ws
  | bareEscaped {cs f v : List Char} {ws : List String} :
    Gapped cs ws → Word f v → Read (cs ++ f ++ ['\\']) { within .bare v with escaped := true } ws
  | single {cs f v body : List Char} {ws : List String} :
    Gapped cs ws → Fragments f v → '\'' ∉ body →
      Read (cs ++ f ++ '\'' :: body) (within .single (v ++ body)) ws
  | double {cs f v body w : List Char} {ws : List String} :
    Gapped cs ws → Fragments f v → Quoted body w →
      Read (cs ++ f ++ '"' :: body) (within .double (v ++ w)) ws
  | doubleEscaped {cs f v body w : List Char} {ws : List String} :
    Gapped cs ws → Fragments f v → Quoted body w →
      Read (cs ++ f ++ '"' :: body ++ ['\\']) { within .double (v ++ w) with escaped := true } ws

/-! ### Single steps -/

section Steps

variable {v : List Char} {c : Char}

/-- A character that `keep` adds is the last of the word. -/
@[simp] theorem within_keep (place : Place) :
    (within place v).keep c = within place (v ++ [c]) := by
  simp [within, Scanner.keep]

/-- Between words a blank changes nothing. -/
theorem step_gap_blank (hc : Text.isBlank c = true) : ({} : Scanner).step c = ({}, none) := by
  simp [Scanner.step, hc]

/-- Between words a backslash awaits its character; no word has begun. -/
@[simp] theorem step_gap_backslash :
    ({} : Scanner).step '\\' = ({ escaped := true }, none) := by
  decide

/-- A character that begins a word is the first of an empty word, for `stepBare`. -/
theorem step_gap_begin (hc : Text.isBlank c = false) (he : c ≠ '\\') :
    ({} : Scanner).step c = ((within .bare []).stepBare c, none) := by
  simp [Scanner.step, hc, he, Scanner.begin, within]

/-- Behind that backslash any character begins a word. -/
@[simp] theorem step_gap_escaped :
    ({ escaped := true } : Scanner).step c = (within .bare [c], none) := by
  simp [Scanner.step, Scanner.stepEscaped, Scanner.begin, Scanner.keep, within]

/-- A blank ends a word, and the word is handed out. -/
theorem step_bare_blank (hc : Text.isBlank c = true) :
    (within .bare v).step c = ({}, some (String.ofList v)) := by
  simp [Scanner.step, Scanner.finish, within, hc]

/-- Any other character in a word is one for `stepBare`. -/
theorem step_bare (hc : Text.isBlank c = false) :
    (within .bare v).step c = ((within .bare v).stepBare c, none) := by
  simp [Scanner.step, within, hc]

/-- In a word and outside quotes a backslash makes any character literal. -/
@[simp] theorem step_bare_escaped :
    { within .bare v with escaped := true }.step c = (within .bare (v ++ [c]), none) := by
  simp [Scanner.step, Scanner.stepEscaped, Scanner.keep, within]

/-- A single quote ends what is between single quotes, and not the word. -/
@[simp] theorem step_single_close :
    (within .single v).step '\'' = (within .bare v, none) := by
  simp [Scanner.step, within]

/-- Any other character between single quotes is literal. -/
theorem step_single (hc : c ≠ '\'') :
    (within .single v).step c = (within .single (v ++ [c]), none) := by
  simp [Scanner.step, Scanner.keep, within, hc]

/-- A double quote ends what is between double quotes, and not the word. -/
@[simp] theorem step_double_close :
    (within .double v).step '"' = (within .bare v, none) := by
  simp [Scanner.step, within]

/-- Between double quotes a backslash awaits the character behind it. -/
@[simp] theorem step_double_backslash :
    (within .double v).step '\\' = ({ within .double v with escaped := true }, none) := by
  simp [Scanner.step, within]

/-- Any other character between double quotes is literal. -/
theorem step_double (hq : c ≠ '"') (he : c ≠ '\\') :
    (within .double v).step c = (within .double (v ++ [c]), none) := by
  simp [Scanner.step, Scanner.keep, within, hq, he]

/-- The backslash goes before a backslash or a double quote. -/
theorem step_double_literal (hc : c = '\\' ∨ c = '"') :
    { within .double v with escaped := true }.step c = (within .double (v ++ [c]), none) := by
  simp [Scanner.step, Scanner.stepEscaped, Scanner.keep, within, hc]

/-- Before anything else it stays, and so does what follows it. -/
theorem step_double_kept (hc : ¬ (c = '\\' ∨ c = '"')) :
    { within .double v with escaped := true }.step c =
      (within .double (v ++ ['\\', c]), none) := by
  simp [Scanner.step, Scanner.stepEscaped, Scanner.keep, within, hc, ← String.toList_inj]

end Steps

/-! ### A scanner finds what the grammar says -/

/-- What `stepBare` does with a character in a word and outside quotes, of which nothing is pending,
    as `Read` has it. -/
private theorem Read.stepBare {cs f v : List Char} {ws : List String} {c : Char}
    (hg : Gapped cs ws) (hf : Fragments f v) (hb : Text.isBlank c = false)
    (hw : c = '\\' → Word f v) :
    Read (cs ++ f ++ [c]) ((within .bare v).stepBare c) ws := by
  unfold Scanner.stepBare
  split
  · -- a backslash is pending behind the word
    rename_i h
    subst h
    exact .bareEscaped hg (hw rfl)
  split
  · -- a single quote opens around nothing yet
    rename_i h
    subst h
    have hr := Read.single hg hf List.not_mem_nil
    rw [List.append_nil] at hr
    exact hr
  split
  · -- so does a double quote
    rename_i h
    subst h
    have hr := Read.double hg hf .nil
    rw [List.append_nil] at hr
    exact hr
  · -- the character is plain
    rename_i h₁ h₂ h₃
    rw [within_keep, List.append_assoc]
    exact .bare hg (.mk hf (.plain ⟨hb, h₂, h₃, h₁⟩))

/-- One character more: what has been `Read` is read on by `Scanner.step`. -/
theorem Read.step {cs : List Char} {s : Scanner} {ws : List String} (h : Read cs s ws)
    (c : Char) : Read (cs ++ [c]) (s.step c).1 (ws ++ (s.step c).2.toList) := by
  cases h with
  -- between words: a blank, a backslash, or the begin of a word
  | gap hg =>
    by_cases hb : Text.isBlank c = true
    · rw [step_gap_blank hb, Option.toList_none, List.append_nil]
      exact .gap (hg.snoc_blank hb)
    rw [Bool.not_eq_true] at hb
    by_cases he : c = '\\'
    · subst he
      rw [step_gap_backslash, Option.toList_none, List.append_nil]
      exact .gapEscaped hg
    · rw [step_gap_begin hb he, Option.toList_none, List.append_nil]
      simpa using Read.stepBare hg .nil hb (absurd · he)
  | gapEscaped hg =>
    rw [step_gap_escaped, Option.toList_none, List.append_nil, List.append_assoc]
    exact .bare hg (.mk .nil (.escaped c))
  -- in a word: a blank ends it, and else it goes on
  | bare hg hf =>
    by_cases hb : Text.isBlank c = true
    · rw [step_bare_blank hb]
      exact .gap (hg.word hf ⟨by simp, by simpa [Blanks] using hb⟩)
    · rw [Bool.not_eq_true] at hb
      rw [step_bare hb, Option.toList_none, List.append_nil]
      exact Read.stepBare hg hf.fragments hb fun _ => hf
  | bareEscaped hg hf =>
    rw [step_bare_escaped, Option.toList_none, List.append_nil, List.append_assoc,
      List.append_assoc]
    exact .bare hg (.mk hf.fragments (.escaped c))
  -- between single quotes: only a single quote is of interest
  | @single cs f v body ws hg hf hb =>
    by_cases hc : c = '\''
    · subst hc
      rw [step_single_close, Option.toList_none, List.append_nil, List.append_assoc,
        List.append_assoc]
      exact .bare hg (.mk hf (.single hb))
    · rw [step_single hc, Option.toList_none, List.append_nil, List.append_assoc v,
        List.append_assoc (cs ++ f)]
      exact .single hg hf (by simpa [hb] using Ne.symm hc)
  -- between double quotes: the end, a backslash, or a character that stays
  | @double cs f v body w ws hg hf hq =>
    by_cases hc : c = '"'
    · subst hc
      rw [step_double_close, Option.toList_none, List.append_nil, List.append_assoc,
        List.append_assoc]
      exact .bare hg (.mk hf (.double hq))
    by_cases he : c = '\\'
    · subst he
      rw [step_double_backslash, Option.toList_none, List.append_nil]
      exact .doubleEscaped hg hf hq
    · rw [step_double hc he, Option.toList_none, List.append_nil, List.append_assoc v,
        List.append_assoc (cs ++ f)]
      exact .double hg hf (hq.plain hc he)
  -- behind the backslash, whether it goes or stays
  | @doubleEscaped cs f v body w ws hg hf hq =>
    have hcs : cs ++ f ++ '"' :: body ++ ['\\'] ++ [c] = cs ++ f ++ '"' :: (body ++ ['\\', c]) := by
      simp
    rw [hcs]
    by_cases hc : c = '\\' ∨ c = '"'
    · rw [step_double_literal hc, Option.toList_none, List.append_nil, List.append_assoc v]
      exact .double hg hf (hq.literal hc)
    · rw [step_double_kept hc, Option.toList_none, List.append_nil, List.append_assoc v]
      exact .double hg hf (hq.kept hc)

/-- Any number of characters more, by `Scanner.advance`. -/
theorem Read.advance {cs : List Char} {s : Scanner} {ws : List String} (h : Read cs s ws)
    (ds : List Char) : Read (cs ++ ds) (s.advance ds).1 (ws ++ (s.advance ds).2) := by
  induction ds generalizing cs s ws with
  | nil => simpa using h
  | cons d ds ih =>
    have hd := ih (h.step d)
    rw [List.append_assoc, List.append_assoc] at hd
    exact hd

/-- A fresh scanner always finds what the grammar says: its state and words are a `Read`. -/
theorem read_advance (cs : List Char) :
    Read cs (({} : Scanner).advance cs).1 (({} : Scanner).advance cs).2 := by
  have h : Read [] {} [] := .gap (.blanks Blanks.nil)
  exact h.advance cs

/-! ### What the grammar says is what a scanner finds -/

/-- On `Blanks` a fresh scanner stays as it is. -/
theorem advance_blanks {cs : List Char} (h : Blanks cs) :
    ({} : Scanner).advance cs = ({}, []) := by
  induction cs with
  | nil => rfl
  | cons c cs ih =>
    have hcs : Blanks cs := fun d hd => h d (List.mem_cons_of_mem _ hd)
    rw [Scanner.advance_cons, step_gap_blank (h c List.mem_cons_self), ih hcs]
    rfl

/-- On a `Gap` behind a word the scanner hands out the word. -/
theorem advance_gap {g v : List Char} (h : Gap g) :
    (within .bare v).advance g = ({}, [String.ofList v]) := by
  obtain ⟨hn, hb⟩ := h
  obtain ⟨c, cs, rfl⟩ := List.exists_cons_of_ne_nil hn
  have hcs : Blanks cs := fun d hd => hb d (List.mem_cons_of_mem _ hd)
  rw [Scanner.advance_cons, step_bare_blank (hb c List.mem_cons_self), advance_blanks hcs]
  rfl

/-- Between single quotes a scanner takes whatever is no single quote. -/
theorem advance_single {cs v : List Char} (h : '\'' ∉ cs) :
    (within .single v).advance cs = (within .single (v ++ cs), []) := by
  induction cs generalizing v with
  | nil => simp
  | cons c cs ih =>
    simp only [List.mem_cons, not_or] at h
    obtain ⟨hc, hcs⟩ := h
    rw [Scanner.advance_cons, step_single (Ne.symm hc), ih hcs, List.append_assoc]
    rfl

/-- Between double quotes it takes the value of what is `Quoted`. -/
theorem advance_quoted {cs v w : List Char} (h : Quoted cs w) :
    (within .double v).advance cs = (within .double (v ++ w), []) := by
  -- on how the quoted text is built, so from the last character on
  induction h with
  | nil => simp
  | plain _ hq he ih =>
    rw [Scanner.advance_append_singleton, ih, step_double hq he, List.append_assoc]
    rfl
  | literal _ hc ih =>
    rw [Scanner.advance_append, ih, Scanner.advance_cons, step_double_backslash,
      Scanner.advance_cons, step_double_literal hc, List.append_assoc]
    rfl
  | kept _ hc ih =>
    rw [Scanner.advance_append, ih, Scanner.advance_cons, step_double_backslash,
      Scanner.advance_cons, step_double_kept hc, List.append_assoc]
    rfl

/-- A quotation inside a word: the quote `q`, what it encloses, and `q` again. -/
private theorem advance_enclosed {place : Place} {q : Char} {cs v w : List Char}
    (hopen : (within .bare v).step q = (within place v, none))
    (hcs : (within place v).advance cs = (within place w, []))
    (hclose : (within place w).step q = (within .bare w, none)) :
    (within .bare v).advance (q :: cs ++ [q]) = (within .bare w, []) := by
  rw [Scanner.advance_append_singleton, Scanner.advance_cons, hopen, hcs, hclose]
  rfl

/-- In a word a scanner takes the value of a `Fragment`. -/
theorem advance_fragment {f v w : List Char} (h : Fragment f w) :
    (within .bare v).advance f = (within .bare (v ++ w), []) := by
  cases h with
  | plain hc =>
    obtain ⟨hb, hs, hd, he⟩ := hc
    rw [Scanner.advance_cons, step_bare hb]
    simp [Scanner.stepBare, hs, hd, he]
  | escaped c =>
    rw [Scanner.advance_cons, step_bare (by decide), Scanner.advance_cons]
    simp [Scanner.stepBare]
  | single hc =>
    refine advance_enclosed ?_ (advance_single hc) step_single_close
    rw [step_bare (by decide)]
    simp [Scanner.stepBare, within]
  | double hq =>
    refine advance_enclosed ?_ (advance_quoted hq) step_double_close
    rw [step_bare (by decide)]
    simp [Scanner.stepBare, within]

/-- A `Fragment` begins a word as it goes on in one. -/
theorem advance_fragment_gap {f w : List Char} (h : Fragment f w) :
    ({} : Scanner).advance f = (within .bare w, []) := by
  -- what begins a word is for `stepBare` between words and in one
  have hbegin : ∀ {c : Char} {cs : List Char}, Text.isBlank c = false → c ≠ '\\' →
      ({} : Scanner).advance (c :: cs) = (within .bare []).advance (c :: cs) := by
    intro c cs hb he
    rw [Scanner.advance_cons, Scanner.advance_cons, step_gap_begin hb he, step_bare hb]
  have hword := advance_fragment (v := []) h
  rw [List.nil_append] at hword
  rw [← hword]
  cases h with
  | plain hc => exact hbegin hc.1 hc.2.2.2
  | escaped c =>
    rw [hword, Scanner.advance_cons, step_gap_backslash, Scanner.advance_cons, step_gap_escaped]
    rfl
  | single => exact hbegin (by decide) (by decide)
  | double => exact hbegin (by decide) (by decide)

/-- A fresh scanner takes the values of `Fragments`, if there are any. -/
theorem advance_fragments {f v : List Char} (h : Fragments f v) :
    (f = [] ∧ v = []) ∨ ({} : Scanner).advance f = (within .bare v, []) := by
  induction h with
  | nil => exact .inl ⟨rfl, rfl⟩
  | snoc _ hg ih =>
    right
    obtain ⟨rfl, rfl⟩ | ih := ih
    · exact advance_fragment_gap hg
    · rw [Scanner.advance_append, ih, advance_fragment hg]
      rfl

/-- A fresh scanner takes the value of a `Word`, and is still in it. -/
theorem advance_word {f v : List Char} (h : Word f v) :
    ({} : Scanner).advance f = (within .bare v, []) := by
  obtain ⟨hf, hg⟩ := h
  obtain ⟨rfl, rfl⟩ | hv := advance_fragments hf
  · exact advance_fragment_gap hg
  · rw [Scanner.advance_append, hv, advance_fragment hg]
    rfl

/-- On a `Gapped` text a fresh scanner hands out its words, and is fresh again. -/
theorem advance_gapped {cs : List Char} {ws : List String} (h : Gapped cs ws) :
    ({} : Scanner).advance cs = ({}, ws) := by
  induction h with
  | blanks hb => exact advance_blanks hb
  | word _ hf hgap ih =>
    rw [Scanner.advance_append, Scanner.advance_append, ih, advance_word hf, advance_gap hgap]
    simp

/-- A quote `q` that opens, whether the word has begun or not. -/
private theorem advance_open {cs f v : List Char} {ws : List String} {place : Place} {q : Char}
    (hg : Gapped cs ws) (hf : Fragments f v)
    (hgap : ({} : Scanner).step q = (within place [], none))
    (hbare : (within .bare v).step q = (within place v, none)) :
    ({} : Scanner).advance (cs ++ f ++ [q]) = (within place v, ws) := by
  rw [Scanner.advance_append_singleton, Scanner.advance_append, advance_gapped hg]
  -- the quote begins the word if there are no fragments
  obtain ⟨rfl, rfl⟩ | hv := advance_fragments hf
  · rw [Scanner.advance_nil, hgap]
    simp
  · rw [hv, hbare]
    simp

/-- A single quote that opens behind `Fragments`, which may be none. -/
private theorem advance_open_single {cs f v : List Char} {ws : List String} (hg : Gapped cs ws)
    (hf : Fragments f v) :
    ({} : Scanner).advance (cs ++ f ++ ['\'']) = (within .single v, ws) := by
  refine advance_open hg hf (by decide) ?_
  rw [step_bare (by decide)]
  simp [Scanner.stepBare, within]

/-- A double quote that opens behind `Fragments`, which may be none. -/
private theorem advance_open_double {cs f v : List Char} {ws : List String} (hg : Gapped cs ws)
    (hf : Fragments f v) :
    ({} : Scanner).advance (cs ++ f ++ ['"']) = (within .double v, ws) := by
  refine advance_open hg hf (by decide) ?_
  rw [step_bare (by decide)]
  simp [Scanner.stepBare, within]

/-- What the grammar says is what a fresh scanner finds: of a `Read` there is no other. -/
theorem Read.advance_eq {cs : List Char} {s : Scanner} {ws : List String} (h : Read cs s ws) :
    ({} : Scanner).advance cs = (s, ws) := by
  cases h with
  | gap hg => exact advance_gapped hg
  | gapEscaped hg =>
    rw [Scanner.advance_append_singleton, advance_gapped hg, step_gap_backslash]
    simp
  | bare hg hf =>
    rw [Scanner.advance_append, advance_gapped hg, advance_word hf]
    simp
  | bareEscaped hg hf =>
    rw [Scanner.advance_append_singleton, Scanner.advance_append, advance_gapped hg,
      advance_word hf, step_bare (by decide)]
    simp [Scanner.stepBare]
  | @single cs f v body ws hg hf hb =>
    rw [← List.singleton_append, ← List.append_assoc, Scanner.advance_append,
      advance_open_single hg hf, advance_single hb]
    simp
  | @double cs f v body w ws hg hf hq =>
    rw [← List.singleton_append, ← List.append_assoc, Scanner.advance_append,
      advance_open_double hg hf, advance_quoted hq]
    simp
  | @doubleEscaped cs f v body w ws hg hf hq =>
    rw [Scanner.advance_append_singleton, ← List.singleton_append, ← List.append_assoc,
      Scanner.advance_append, advance_open_double hg hf, advance_quoted hq, step_double_backslash]
    simp

/-! ### The end of a line -/

/-- The words of a text are those handed out on it, and what `stop` hands out behind it. -/
theorem Read.scan_eq {cs : List Char} {s : Scanner} {ws : List String} (h : Read cs s ws) :
    ({} : Scanner).scan cs = s.stop.map (ws ++ ·) := by
  rw [Scanner.scan_eq, h.advance_eq]

end LineShell.Words
