import LineShell.Proofs.Words.Acceptance

/-! # Writing words down

Every word can be written so that a line gives it back, and there are three styles for it: between
single quotes, between double quotes, or with a backslash before every character.  A `Spelling` is
a word with a style that suits it, and a `Typing` is a line of spellings with gaps between them.

* `Style.word_spell`   what is spelled is a word of the grammar, with the word itself as its value
* `Typing.laid`        a typing is laid out as its words
* `words?_typing`      the words of a typing are the words that were typed -/

namespace LineShell.Words

/-- How a word is written down. -/
inductive Style where
  /-- Between single quotes; a single quote leaves them, is escaped, and opens them again. -/
  | single
  /-- Between double quotes; a double quote and a backslash are escaped. -/
  | double
  /-- Every character is escaped. -/
  | escaped
  deriving DecidableEq, Repr

namespace Style

/-- A character of a word that is written down in a `style`. -/
def spellChar (style : Style) (c : Char) : List Char :=
  match style with
  | single => if c = '\'' then ['\'', '\\', '\'', '\''] else [c]
  | double => if c = '\\' ∨ c = '"' then ['\\', c] else [c]
  | escaped => ['\\', c]

/-- A word that is written down: `spellChar` for each character, and quotes around them if the style
    has quotes. -/
def spell (style : Style) (w : List Char) : List Char :=
  match style with
  | single => '\'' :: w.flatMap single.spellChar ++ ['\'']
  | double => '"' :: w.flatMap double.spellChar ++ ['"']
  | escaped => w.flatMap escaped.spellChar

/-- An empty word can only be written between quotes: `escaped` does not suit it. -/
def Suits (style : Style) (w : List Char) : Prop := style = escaped → w ≠ []

end Style

/-- `Fragments` in front of others, and their values in a row. -/
theorem Fragments.append {f v g w : List Char} (hf : Fragments f v) (hg : Fragments g w) :
    Fragments (f ++ g) (v ++ w) := by
  induction hg with
  | nil => simpa using hf
  | snoc _ hg ih =>
    rw [← List.append_assoc, ← List.append_assoc]
    exact ih.snoc hg

/-- `Fragments` before a `Word` are part of it. -/
theorem Fragments.append_word {f v g w : List Char} (hf : Fragments f v) (hg : Word g w) :
    Word (f ++ g) (v ++ w) := by
  cases hg with
  | mk hg hlast =>
    rw [← List.append_assoc, ← List.append_assoc]
    exact .mk (hf.append hg) hlast

/-- A `Fragment` alone. -/
theorem Fragments.one {f v : List Char} (h : Fragment f v) : Fragments f v :=
  Fragments.nil.snoc h

/-! ### The three styles -/

/-- Between single quotes, after some characters `body` that are there already. -/
private theorem word_single (body : List Char) (hb : '\'' ∉ body) (w : List Char) :
    Word ('\'' :: body ++ w.flatMap Style.single.spellChar ++ ['\'']) (body ++ w) := by
  induction w generalizing body with
  | nil => simpa using Word.mk .nil (.single hb)
  | cons c w ih =>
    by_cases hc : c = '\''
    · subst hc
      -- The quotes close around what is there, and open again behind the escaped one.
      have hclosed : Fragments ('\'' :: body ++ ['\'']) body := .one (.single hb)
      have hquote : Fragments ['\\', '\''] ['\''] := .one (.escaped '\'')
      have hrest := (hclosed.append hquote).append_word (ih [] (by simp))
      simpa [Style.spellChar] using hrest
    · -- any other character joins the body of the quotes that are open
      have hrest := ih (body ++ [c]) (by simpa [hb] using Ne.symm hc)
      simpa [Style.spellChar, hc] using hrest

/-- Between double quotes, behind some text `cs` that is there already. -/
private theorem quoted_spell {cs v : List Char} (h : Quoted cs v) (w : List Char) :
    Quoted (cs ++ w.flatMap Style.double.spellChar) (v ++ w) := by
  induction w generalizing cs v with
  | nil => simpa using h
  | cons c w ih =>
    by_cases hc : c = '\\' ∨ c = '"'
    · simpa [Style.spellChar, hc] using ih (h.literal hc)
    · have hc' : c ≠ '\\' ∧ c ≠ '"' := not_or.mp hc
      simpa [Style.spellChar, hc] using ih (h.plain hc'.2 hc'.1)

/-- With every character escaped, behind some fragments `f` that are there already. -/
private theorem fragments_escaped {f v : List Char} (h : Fragments f v) (w : List Char) :
    Fragments (f ++ w.flatMap Style.escaped.spellChar) (v ++ w) := by
  induction w generalizing f v with
  | nil => simpa using h
  | cons c w ih => simpa [Style.spellChar] using ih (h.snoc (.escaped c))

/-- What `spell` writes in a style that suits it is a `Word`, and has itself for its value. -/
theorem Style.word_spell {style : Style} {w : List Char} (h : style.Suits w) :
    Word (style.spell w) w := by
  cases style with
  | single => simpa [spell] using word_single [] (by simp) w
  | double =>
    have hq : Quoted (w.flatMap double.spellChar) w := quoted_spell .nil w
    exact .mk .nil (.double hq)
  -- without quotes around them, no characters are no word
  | escaped =>
    have hf : Fragments (w.flatMap escaped.spellChar) w := fragments_escaped .nil w
    obtain ⟨-, rfl⟩ | hw := hf.word
    · exact absurd rfl (h rfl)
    · exact hw

/-! ### Typing words -/

/-- A word, and a style that `Suits` it. -/
structure Spelling where
  word : String
  style : Style
  suits : style.Suits word.toList

namespace Spelling

/-- The characters that are typed for the word: its `spell`. -/
def text (s : Spelling) : List Char := s.style.spell s.word.toList

/-- What is typed is a `Word` of the grammar. -/
theorem word_text (s : Spelling) : Word s.text s.word.toList := Style.word_spell s.suits

/-- Every word can be spelled: between single quotes. -/
def quoted (word : String) : Spelling where
  word
  style := .single
  suits h := nomatch h

end Spelling

/-- Words typed one after the other: the spelling of the first one, and those of the `others`, each
    with the gap before it, with blanks around all of them. -/
structure Typing where
  before : { cs : List Char // Blanks cs } := ⟨[], Blanks.nil⟩
  first : Spelling
  others : List ({ cs : List Char // Gap cs } × Spelling) := []
  after : { cs : List Char // Blanks cs } := ⟨[], Blanks.nil⟩

namespace Typing

/-- The word that was typed `first`. -/
def name (t : Typing) : String := t.first.word

/-- The words of the `others`. -/
def operands (t : Typing) : List String := t.others.map (·.2.word)

/-- The words that were typed: the `name` and the `operands`. -/
def words (t : Typing) : List String := t.name :: t.operands

/-- The characters that were typed for the `others`. -/
def othersText (others : List ({ cs : List Char // Gap cs } × Spelling)) : List Char :=
  others.flatMap fun (gap, spelling) => gap.1 ++ spelling.text

/-- The line that was typed, as a text. -/
def line (t : Typing) : String :=
  String.ofList (t.before.1 ++ (t.first.text ++ othersText t.others) ++ t.after.1)

/-- More words typed behind some that are `Separated`. -/
private theorem separated_othersText {cs : List Char} {ws : List String} (h : Separated cs ws)
    (hn : ws ≠ []) (others : List ({ cs : List Char // Gap cs } × Spelling)) :
    Separated (cs ++ othersText others) (ws ++ others.map (·.2.word)) := by
  induction others generalizing cs ws with
  | nil => simpa [othersText] using h
  | cons other others ih =>
    -- the gap and the word behind it go to what is separated already
    obtain ⟨⟨gap, hgap⟩, spelling⟩ := other
    have hnext := ih (h.snoc hn hgap spelling.word_text) (by simp)
    simpa [othersText] using hnext

/-- A `Typing` is `Laid` out as its words. -/
theorem laid (t : Typing) : Laid t.line.toList t.words := by
  -- the first word alone, and then one word more with each of the others
  have hfirst : Separated t.first.text [t.first.word] := by
    simpa using Separated.one t.first.word_text
  have hall := separated_othersText hfirst (by simp) t.others
  rw [line, String.toList_ofList]
  exact .mk t.before.2 hall t.after.2

/-- Words can be typed, whatever they are: each is `quoted`, behind one space. -/
theorem exists_words_eq (name : String) (operands : List String) :
    ∃ t : Typing, t.words = name :: operands := by
  have hgap : Gap [' '] := ⟨by simp, by simp [Blanks]; decide⟩
  refine ⟨{ first := .quoted name, others := operands.map fun w => (⟨[' '], hgap⟩, .quoted w) }, ?_⟩
  simp [words, Typing.name, Typing.operands, Spelling.quoted, Function.comp_def]

end Typing

/-- `words?` gives back the words of a `Typing`. -/
theorem words?_typing (t : Typing) : words? t.line = .ok t.words :=
  (Line.whole t.laid).scan_eq

end LineShell.Words
