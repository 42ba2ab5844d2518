import LineShell.Text.Octets

/-! # Patterns

A pattern matches whole texts: `*` any text, `?` any character, and brackets one character out of a
set.  A pattern is made from characters of which some are quoted and stand for themselves, as a
character does that has a backslash in front of it. -/

namespace LineShell.Sh

/-- A character, and whether it has its special meaning. -/
abbrev Marked := Char × Bool

/-- What a set of characters such as `[a-z_]` has been made from. -/
inductive Member where
  | range (low high : Char)
  | family (name : String)
  deriving DecidableEq, Repr

/-- What one position of a pattern stands for: a character, `?`, `*` or a set. -/
inductive Atom where
  | char (c : Char)
  | any
  | many
  | set (negated : Bool) (members : List Member)
  deriving DecidableEq, Repr

/-- Is the character in the family with a name, such as `digit`? -/
def inFamily (name : String) (c : Char) : Bool :=
  let isPunct := c.isAlphanum == false && 33 ≤ c.toNat && c.toNat ≤ 126
  match name with
  | "alpha" => c.isAlpha
  | "digit" => c.isDigit
  | "alnum" => c.isAlphanum
  | "upper" => c.isUpper
  | "lower" => c.isLower
  | "space" => c == ' ' || (9 ≤ c.toNat && c.toNat ≤ 13)
  | "blank" => c == ' ' || c == '\t'
  | "punct" => isPunct
  | "graph" => isPunct || c.isAlphanum
  | "print" => isPunct || c.isAlphanum || c == ' '
  | "cntrl" => c.toNat < 32 || c.toNat == 127
  | "xdigit" => c.isDigit || ('a' ≤ c && c ≤ 'f') || ('A' ≤ c && c ≤ 'F')
  | _ => false

/-- The names of the families, for `[:name:]`. -/
def familyNames : List String :=
  ["alpha", "digit", "alnum", "upper", "lower", "space", "blank", "punct", "graph", "print",
    "cntrl", "xdigit"]

/-- Is the character a member? -/
def Member.holds (c : Char) : Member → Bool
  | range low high => low ≤ c && c ≤ high
  | family name => inFamily name c

/-- Does the position accept the character? A set does if one `Member` of it holds. -/
def Atom.accepts (c : Char) : Atom → Bool
  | char d => c == d
  | any | many => true
  | set negated members => members.any (·.holds c) != negated

namespace Pattern

/-- Has the character, when it is quoted, to be kept from a special meaning, by a backslash? -/
def isGuarded (c : Char) : Bool :=
  "!*?[=~:/-]\\".toList.contains c || (0x81 ≤ c.toNat && c.toNat ≤ 0x88)

/-- Characters as a pattern spells them, with a backslash in front of those that are quoted and
    `isGuarded`. -/
def spelled (cs : List Marked) : List Char :=
  cs.flatMap fun (c, active) => if !active && isGuarded c then ['\\', c] else [c]

/-- The name of a family between colons, after its opening bracket, and what follows. -/
def family? (cs : List Char) : Option (String × List Char) :=
  match cs with
  | ':' :: cs =>
    let name := String.ofList (cs.takeWhile (· ≠ ':'))
    match cs.drop name.length with
    | ':' :: ']' :: rest => if name ∈ familyNames then some (name, rest) else none
    | _ => none
  | _ => none

/-- The members of a set up to its closing bracket, and what follows; `none` if it is not closed.  A
    closing bracket that comes `first` is a member. -/
def members? (n : Nat) (first : Bool) (cs : List Char) : Option (List Member × List Char) :=
  match n, cs with
  | 0, _ | _, [] => none
  | n + 1, c :: rest =>
    let add := fun (m : Member) (rest : List Char) =>
      (members? n false rest).map fun (ms, rest) => (m :: ms, rest)
    let from_ := fun (low : Char) (rest : List Char) =>
      match rest with
      | '-' :: '\\' :: high :: rest => add (.range low high) rest
      | '-' :: ']' :: _ => add (.range low low) rest
      | '-' :: high :: rest => add (.range low high) rest
      | _ => add (.range low low) rest
    if c = ']' && !first then some ([], rest)
    else match (if c = '[' then family? rest else none), c, rest with
      | some (name, rest), _, _ => add (.family name) rest
      | none, '\\', low :: rest => from_ low rest
      | none, _, _ => from_ c rest

/-- Make a pattern from how it is spelled, in at most `n` steps. -/
def ofSpelledWithin (n : Nat) (cs : List Char) : List Atom :=
  match n, cs with
  | 0, _ | _, [] => []
  | n + 1, '\\' :: c :: rest => .char c :: ofSpelledWithin n rest
  | n + 1, '*' :: rest => .many :: ofSpelledWithin n rest
  | n + 1, '?' :: rest => .any :: ofSpelledWithin n rest
  | n + 1, '[' :: rest =>
    let (negated, inner) := match rest with
      | '!' :: inner => (true, inner)
      | inner => (false, inner)
    match members? (inner.length + 1) true inner with
    | some (ms, rest) => .set negated ms :: ofSpelledWithin n rest
    -- A bracket that is not closed stands for itself.
    | none => .char '[' :: ofSpelledWithin n rest
  | n + 1, c :: rest => .char c :: ofSpelledWithin n rest

/-- Make a pattern from how it is spelled. -/
def ofSpelled (cs : List Char) : List Atom := ofSpelledWithin cs.length cs

/-- Make a pattern of characters, from how they are `spelled`. -/
def ofMarked (cs : List Marked) : List Atom := ofSpelled (spelled cs)

/-- Does the pattern match more than one text? One with nothing but characters does not. -/
def isOpen (p : List Atom) : Bool :=
  p.any fun a => match a with
    | .char _ => false
    | _ => true

end Pattern

end LineShell.Sh
