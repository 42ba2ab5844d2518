import LineShell.Sh.Command

/-! # Reading scripts

A script is read from its characters, and read further only when what has been read so far has
taken effect.  `Unread` is what is left of it; a `Read` takes something from its front. -/

namespace LineShell.Sh

/-- What a script is cut into, by `token`. -/
inductive Token where
  | ended
  /-- A line end, or characters that connect commands. -/
  | operator (s : String)
  | redirect (fd : Nat) (kind : RedirectKind)
  /-- The text to read follows in the script; tabs in front of its lines do not count if `strip`
      is set. -/
  | document (fd : Nat) (strip : Bool)
  | keyword (w : String)
  | word (parts : List Part)

/-- A text that follows in the script, up to a line that is its mark, as `<<mark` says. -/
structure Awaited where
  number : Nat
  mark : Octets
  strip : Bool
  /-- The text is expanded. -/
  expand : Bool

/-- An alias, a name that stands for a text, which is being read in its place. -/
structure Unfolded where
  name : Octets
  /-- How much of the script is left when the text has been read. -/
  left : Nat
  /-- The text ends with a blank, so that the word after it may be such a name too. -/
  open_ : Bool

/-- What is left of a script, and where its reader stands. -/
structure Unread where
  rest : List Char
  line : Nat := 1
  /-- A token that was put back. -/
  returned : Option Token := none
  /-- The texts that follow the current line. -/
  awaited : List Awaited := []
  /-- The texts that have been read, by their numbers. -/
  documents : Array (List Part) := #[]
  /-- The names that stand for texts where a command begins. -/
  aliases : List (Octets × Octets) := []
  /-- Those of them in whose texts the last token began. -/
  unfolded : List Unfolded := []
  /-- The last token follows a text that ends with a blank. -/
  eager : Bool := false
  /-- The text that follows in the script and that is being read, up to its mark. -/
  document : Option Awaited := none
  /-- What is left behind its mark, once that has come. -/
  behind : Option (List Char) := none

/-- What counts of a text from which a script is read: a `NUL` is passed over. -/
def readable (text : Octets) : Octets := String.ofList (text.toList.filter (· ≠ '\x00'))

/-- Leave out the next `count` characters.  Line ends among them are counted. -/
def Unread.jump (t : Unread) (count : Nat) : Unread :=
  { t with rest := t.rest.drop count, line := t.line + (t.rest.take count).count '\n' }

/-- A token begins: leave the texts of aliases that have been read. -/
def Unread.settle (u : Unread) : Unread :=
  if u.unfolded.isEmpty then { u with eager := false }
  else
    let size := u.rest.length
    let (past, inside) := u.unfolded.partition (size ≤ ·.left)
    { u with unfolded := inside, eager := past.any (·.open_) }

/-- The text that a name stands for, unless it is being read already: it is `unfolded` then. -/
def Unread.alias? (u : Unread) (name : Octets) : Option Octets :=
  if u.unfolded.any (·.name == name) then none else u.aliases.lookup name

/-- Put the text that an alias stands for in front of what is left. -/
def Unread.unfold (u : Unread) (name text : Octets) : Unread :=
  let entry : Unfolded :=
    { name, left := u.rest.length, open_ := text.toList.getLast?.any fun c => c = ' ' || c = '\t' }
  { u with rest := text.toList ++ u.rest, unfolded := entry :: u.unfolded }

/-- Why a script cannot be read further, as `Mistake.message` says it. -/
inductive Mistake where
  | openQuote
  | openBackquote
  /-- What would close something is missing. -/
  | missing (what : String)
  | unexpected (t : Token) (expected : Option String)
  | functionName
  | loopName

/-- The words for a token in a `Mistake.message`. -/
def Token.description : Token → String
  | ended => "end of file"
  | operator "\n" => "newline"
  | operator s | keyword s => "\"" ++ s ++ "\""
  | redirect .. | document .. => "redirection"
  | word _ => "word"

/-- The words for a mistake, behind `Syntax error: `. -/
def Mistake.message : Mistake → String
  | openQuote => "Unterminated quoted string"
  | openBackquote => "EOF in backquote substitution"
  | missing what => "Missing '" ++ what ++ "'"
  | unexpected t none => t.description ++ " unexpected"
  | unexpected t (some e) => t.description ++ " unexpected (expecting " ++ e ++ ")"
  | functionName => "Bad function name"
  | loopName => "Bad for loop variable"

/-- A mistake, and the line on which it shows. -/
structure ParseError where
  mistake : Mistake
  line : Nat

/-- A reader of a part of a script, which stops at a `ParseError`. -/
abbrev Read := StateT Unread (Except ParseError)

namespace Read

/-- More steps than any text gives reason for, for a reader. -/
def boundless : Nat := 0x1000000000000

/-- Stop at a mistake, on the current `line`. -/
def fail {α : Type} (m : Mistake) : Read α := do throw ⟨m, (← get).line⟩

/-- The characters that are left. -/
def rest : Read (List Char) := return (← get).rest

/-- Leave out the next `count` characters, as `Unread.jump` does. -/
def jump (count : Nat) : Read Unit := modify (·.jump count)

/-- Put a token back, to be read again: it is `returned`. -/
def putBack (t : Token) : Read Unit := modify fun u => { u with returned := some t }

end Read

/-! ### Characters -/

/-- Does the character end a word outside quotes? -/
def isDelimiter (c : Char) : Bool := c ∈ [' ', '\t', '\n', ';', '&', '|', '(', ')', '<', '>']

/-- May the character begin a variable's name? Letters and `_` may. -/
def isNameStart (c : Char) : Bool := c.isAlpha || c == '_'

/-- May the character be in a variable's name? Digits may, too, unlike for `isNameStart`. -/
def isNameChar (c : Char) : Bool := isNameStart c || c.isDigit

/-- May the text be a variable's name, such as `a_1`? -/
def isName (s : Octets) : Bool := s.toList.head?.any isNameStart && s.toList.all isNameChar

/-- The characters of the parameters that the shell keeps itself, apart from digits. -/
def isSpecialName (c : Char) : Bool := c ∈ ['@', '*', '#', '?', '-', '$', '!']

/-- How many characters blanks, joined lines and a comment take in front of a token. -/
def blanks : List Char → Nat
  | ' ' :: cs | '\t' :: cs => blanks cs + 1
  | '\\' :: '\n' :: cs => blanks cs + 2
  | '#' :: cs => (cs.takeWhile (· ≠ '\n')).length + 1
  | _ => 0

/-- How many lines are joined here: a backslash takes the line end behind it away. -/
def joins : List Char → Nat
  | '\\' :: '\n' :: cs => joins cs + 1
  | _ => 0

/-- What follows joined lines, as `joins` counts them. -/
def afterJoins (cs : List Char) : List Char := cs.drop (2 * joins cs)

namespace Read

/-- The next character behind joined lines, by `afterJoins`. -/
def peek : Read (Option Char) := do
  jump (2 * joins (← rest))
  return (← rest).head?

/-- Take the next character if it is the given one. -/
def follows (c : Char) : Read Bool := do
  let found := (← peek) == some c
  if found then jump 1
  return found

/-- Take characters, at most `n`, as long as they are of a kind. -/
def takeAll (kind : Char → Bool) : Nat → Read (List Char)
  | 0 => return []
  | n + 1 => do
    match ← peek with
    | some c =>
      if !kind c then return []
      jump 1
      return c :: (← takeAll kind n)
    | none => return []

end Read

end LineShell.Sh
