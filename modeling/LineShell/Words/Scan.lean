import LineShell.Text.Blank

/-! # The words of a line

A line is cut into words at its blanks.  Quotes and backslashes let a word hold any character,
and never survive into the word:

* outside quotes a backslash makes the next character literal; one that ends the line is dropped,
* between single quotes every character is literal,
* between double quotes a backslash makes a following backslash or double quote literal, and is
  itself literal before any other character.

The cutting is done by a `Scanner` that takes one character at a time.  `Scanner.step` says what
one character does, `Scanner.scan` runs over the rest of a line, and `words?` starts on a fresh
scanner. -/

namespace LineShell.Words

/-- Why `words?` gives no words for a line. -/
inductive ScanError where
  /-- A single or double quote is still open where the line ends. -/
  | openQuote
  deriving DecidableEq, Repr

/-- What the shell prints about a line without words, before a line feed. -/
def ScanError.message : ScanError → String
  | .openQuote => "unterminated quote"

/-- Where on the line the `Scanner` stands. -/
inductive Place where
  /-- Between words. -/
  | gap
  /-- In a word, outside quotes. -/
  | bare
  /-- In a word, between single quotes. -/
  | single
  /-- In a word, between double quotes. -/
  | double
  deriving DecidableEq, Repr

/-- The state of the scanner after some characters of a line, as `step` leaves it. -/
structure Scanner where
  place : Place := .gap
  /-- The character before was a backslash that still awaits the character it acts on. -/
  escaped : Bool := false
  /-- A word has begun, even if no character belongs to it yet. -/
  inWord : Bool := false
  /-- The characters of the word so far. -/
  buffer : String := ""
  deriving DecidableEq, Repr

namespace Scanner

/-- Add the character `c` to the word in the `buffer`. -/
def keep (s : Scanner) (c : Char) : Scanner :=
  { s with buffer := s.buffer.push c }

/-- Begin a word: the scanner is `inWord` now, outside quotes. -/
def begin (s : Scanner) : Scanner :=
  { s with inWord := true, place := .bare }

/-- Hand out the word in the `buffer` if one has begun, and forget it. -/
def finish (s : Scanner) : Scanner × Option String :=
  if s.inWord then ({ s with inWord := false, buffer := "" }, some s.buffer) else (s, none)

/-- A character inside a word and outside quotes: `\`, `'` and `"` act, every other one is kept. -/
def stepBare (s : Scanner) (c : Char) : Scanner :=
  if c = '\\' then { s with escaped := true }
  else if c = '\'' then { s with place := .single }
  else if c = '"' then { s with place := .double }
  else s.keep c

/-- The character that a backslash acts on.  Only between double quotes may the backslash stay. -/
def stepEscaped (s : Scanner) (c : Char) : Scanner :=
  let s := { s with escaped := false }
  match s.place with
  | .double => if c = '\\' ∨ c = '"' then s.keep c else (s.keep '\\').keep c
  -- The word begins with the literal character, not with the backslash before it.
  | .gap => s.begin.keep c
  | .bare | .single => s.keep c

/-- Take one character; the answer holds the word that it ends, if it ends one.  A character behind
    a backslash goes to `stepEscaped`, whatever it is. -/
def step (s : Scanner) (c : Char) : Scanner × Option String :=
  if s.escaped then (s.stepEscaped c, none)
  else match s.place with
    | .gap =>
      if Text.isBlank c then (s, none)
      else if c = '\\' then ({ s with escaped := true }, none)
      else (s.begin.stepBare c, none)
    | .bare =>
      if Text.isBlank c then
        let (s, word) := s.finish
        ({ s with place := .gap }, word)
      else (s.stepBare c, none)
    | .single =>
      (if c = '\'' then { s with place := .bare } else s.keep c, none)
    | .double =>
      (if c = '"' then { s with place := .bare }
       else if c = '\\' then { s with escaped := true }
       else s.keep c, none)

/-- What is left to hand out at the end of a line: an open quote is an error, and a backslash that
    is `escaped` to no purpose is forgotten. -/
def stop (s : Scanner) : Except ScanError (List String) :=
  match s.place with
  | .single | .double => .error .openQuote
  | .gap | .bare => .ok s.finish.2.toList

/-- The words that the rest of a line hands out: `step` for each character, then `stop`. -/
def scan (s : Scanner) : List Char → Except ScanError (List String)
  | [] => s.stop
  | c :: rest =>
    match s.step c with
    | (s, none) => s.scan rest
    | (s, some word) => (s.scan rest).map (word :: ·)

end Scanner

/-- The words of a line, in order, without the quotes and backslashes that built them: `scan` from a
    fresh scanner. -/
def words? (line : String) : Except ScanError (List String) :=
  ({} : Scanner).scan line.toList

end LineShell.Words
