import LineShell.Sh.Reader
import LineShell.Text.Numeral

/-! # Arithmetic expressions

Expressions over 64-bit whole numbers and variables, with the operators and the precedence that
such expressions commonly have.  An expression is read from its text and then evaluated; an
assignment takes effect even if the rest of the expression fails to have a value, or to be an
expression at all. -/

namespace LineShell.Sh.Arithmetic

/-- Operators between two values, both of which are needed, such as `+`; `&&` and `||` are none of
    them. -/
inductive Binary where
  | mul | div | rem | add | sub | left | right | lt | le | gt | ge | eq | ne | and | xor | or
  deriving DecidableEq, Repr

/-- Operators in front of a value, such as `-` and `!`. -/
inductive Unary where
  | plus | minus | not | complement
  deriving DecidableEq, Repr

/-- Why an expression has no value, as `Mistake.message` says it. -/
inductive Mistake where
  | expected (what : String)
  | divisionByZero
  /-- A quotient that is no value. -/
  | tooGreat
  | illegalNumber (text : Octets)
  deriving DecidableEq, Repr

/-- An expression between `$((` and `))`. -/
inductive Expr where
  | num (v : Int64)
  | var (name : Octets)
  | unary (op : Unary) (e : Expr)
  | binary (op : Binary) (a b : Expr)
  | both (a b : Expr)
  | either (a b : Expr)
  | choice (test yes no : Expr)
  | assign (op : Option Binary) (name : Octets) (e : Expr)
  /-- An expression after which the text goes wrong. -/
  | failing (e : Expr) (m : Mistake)

/-- The words for a mistake in the expression with the text `text`. -/
def Mistake.message (text : Octets) : Mistake → Octets
  | expected what => "arithmetic expression: expecting " ++ what ++ ": \"" ++ text ++ "\""
  | divisionByZero => "arithmetic expression: division by zero: \"" ++ text ++ "\""
  | tooGreat => "arithmetic expression: quotient too great: \"" ++ text ++ "\""
  | illegalNumber n => "Illegal number: " ++ n

/-! ### Numbers -/

/-- The value of a digit, as far as `f`. -/
def digitValue (c : Char) : Nat :=
  if c.isDigit then c.toNat - 48 else c.toLower.toNat - 87

/-- Is the character a digit to `base`? -/
def isDigitOf (base : Nat) (c : Char) : Bool :=
  (c.isDigit || ('a' ≤ c.toLower && c.toLower ≤ 'f')) && digitValue c < base

/-- Digits to the base that their beginning tells, 16 after `0x`, 8 after `0` and else 10, as their
    value, and what follows. -/
def digits (cs : List Char) : Nat × List Char :=
  let value := fun (base : Nat) (cs : List Char) =>
    let ds := cs.takeWhile (isDigitOf base)
    (ds.foldl (fun n d => n * base + digitValue d) 0, cs.drop ds.length)
  match cs with
  | '0' :: x :: d :: rest =>
    if (x = 'x' || x = 'X') && isDigitOf 16 d then value 16 (d :: rest)
    else value 8 cs
  | '0' :: _ => value 8 cs
  | _ => value 10 cs

/-- The greatest value, of 64 bits with a sign. -/
def greatest : Nat := 0x7fffffffffffffff

/-- May the character stand in front of a number? Blanks and the characters from tab to carriage
    return may. -/
def isBlank (c : Char) : Bool := c = ' ' || (9 ≤ c.toNat && c.toNat ≤ 13)

/-- Take what `isBlank` and a sign away from the front of a number, and say whether it is
    negative. -/
def signed (cs : List Char) : Bool × List Char :=
  match cs.dropWhile isBlank with
  | '-' :: cs => (true, cs)
  | '+' :: cs => (false, cs)
  | cs => (false, cs)

/-- A number at the front of a text, after blanks and a sign, and what follows; `none` if there is
    no digit. -/
def number? (s : Octets) : Option (Int × List Char) :=
  let (negative, cs) := signed s.toList
  if cs.head?.any Char.isDigit then
    let (n, rest) := digits cs
    some (if negative then -(n : Int) else n, rest)
  else none

/-- The whole number that a text writes in decimal digits, `isBlank` characters around it and with a
    sign. -/
def decimal? (s : Octets) : Option Int :=
  let (negative, cs) := signed s.toList
  let ds := cs.takeWhile Char.isDigit
  if ds = [] || !(cs.drop ds.length).all isBlank then none
  else
    let n : Int := Text.digitsFrom 0 ds
    some (if negative then -n else n)

/-- The whole number from zero on that a text writes, which is not too great to count things. -/
def count? (s : Octets) : Option Nat :=
  (decimal? s).bind fun n => if 0 ≤ n && n < 0x80000000 then some n.toNat else none

/-- The value of a variable as a number.  A variable without a value is zero, and one that is no
    number is a `Mistake`. -/
def valueOf (s : Octets) : Except Mistake Int64 :=
  match number? s with
  | none => if s.toList.all isBlank then .ok 0 else .error (.illegalNumber s)
  | some (n, rest) =>
    if rest.all isBlank && -(greatest : Int) - 1 ≤ n && n ≤ greatest then .ok (Int64.ofInt n)
    else .error (.illegalNumber s)

/-! ### Reading -/

/-- What `tokens` cuts an expression into. -/
inductive Token where
  | num (v : Int64)
  | var (name : Octets)
  | sign (s : String)
  deriving DecidableEq, Repr

/-- The signs, longer ones before those that they begin with: `<<=` before `<<`. -/
def signs : List String :=
  ["<<=", ">>=", "==", "!=", "<=", ">=", "&&", "||", "<<", ">>", "+=", "-=", "*=", "/=", "%=",
    "&=", "^=", "|=", "=", "<", ">", "+", "-", "*", "/", "%", "&", "^", "|", "!", "~", "?", ":",
    "(", ")"]

/-- Cut a text into tokens; a character that belongs to none is a token of its own. -/
def tokens (n : Nat) (cs : List Char) : List Token :=
  match n, cs with
  | 0, _ | _, [] => []
  | n + 1, c :: cs =>
    if c = ' ' || c = '\t' || c = '\n' then tokens n cs
    else if c.isDigit then
      let (v, rest) := digits (c :: cs)
      .num (Int64.ofNat (min v greatest)) :: tokens n rest
    else if isNameStart c then
      let name := c :: cs.takeWhile isNameChar
      .var (String.ofList name) :: tokens n ((c :: cs).drop name.length)
    else match signs.find? fun s => s.toList.isPrefixOf (c :: cs) with
      | some s => .sign s :: tokens n ((c :: cs).drop s.length)
      | none => .sign (String.singleton c) :: tokens n cs

/-- The operators, from those that bind closest, `*`, `/` and `%`. -/
def levels : List (List (String × Binary)) :=
  [[("*", .mul), ("/", .div), ("%", .rem)], [("+", .add), ("-", .sub)],
    [("<<", .left), (">>", .right)], [("<", .lt), ("<=", .le), (">", .gt), (">=", .ge)],
    [("==", .eq), ("!=", .ne)], [("&", .and)], [("^", .xor)], [("|", .or)]]

/-- The signs that assign, with the operator that they apply first: none for `=`. -/
def assigning : List (String × Option Binary) :=
  [("=", none), ("+=", some .add), ("-=", some .sub), ("*=", some .mul), ("/=", some .div),
    ("%=", some .rem), ("<<=", some .left), (">>=", some .right), ("&=", some .and),
    ("^=", some .xor), ("|=", some .or)]

/-- A reader of a part of an expression, which takes a `Token` after the other. -/
abbrev Read := StateM (List Token)

/-- Give up after an expression, where something else was expected: it is an `Expr.failing`. -/
def expecting (what : String) (e : Expr) : Read Expr := do
  set ([] : List Token)
  return .failing e (.expected what)

mutual

/-- An assignment or a `choice`. -/
def assignment (n : Nat) : Read Expr :=
  match n with
  | 0 => expecting "primary" (.num 0)
  | n + 1 => do
    match ← get with
    | .var name :: .sign s :: rest =>
      match assigning.lookup s with
      | some op => set rest; return .assign op name (← assignment n)
      | none => choice n
    | _ => choice n

/-- A choice `c ? a : b`, or what can stand in one. -/
def choice (n : Nat) : Read Expr :=
  match n with
  | 0 => expecting "primary" (.num 0)
  | n + 1 => do
    let test ← either n
    match ← get with
    | .sign "?" :: rest =>
      set rest
      let yes ← assignment n
      match ← get with
      | .sign ":" :: rest => set rest; return .choice test yes (← choice n)
      | _ => return .choice test yes (← expecting "':'" (.num 0))
    | _ => return test

/-- Alternatives, with `||`. -/
def either (n : Nat) : Read Expr :=
  match n with
  | 0 => expecting "primary" (.num 0)
  | n + 1 => do
    let a ← both n
    match ← get with
    | .sign "||" :: rest => set rest; return .either a (← either n)
    | _ => return a

/-- Conditions that go together, with `&&`. -/
def both (n : Nat) : Read Expr :=
  match n with
  | 0 => expecting "primary" (.num 0)
  | n + 1 => do
    let a ← level n levels.length
    match ← get with
    | .sign "&&" :: rest => set rest; return .both a (← both n)
    | _ => return a

/-- Operands that are joined by operators of the level `k` or a closer one. -/
def level (n k : Nat) : Read Expr :=
  match n with
  | 0 => expecting "primary" (.num 0)
  | n + 1 =>
    match k with
    | 0 => operand n
    | k + 1 => do levelFrom n k (← level n k)

/-- The rest of operands that are joined, after the first, for `level`. -/
def levelFrom (n k : Nat) (a : Expr) : Read Expr :=
  match n with
  | 0 => expecting "primary" (.num 0)
  | n + 1 => do
    match ← get with
    | .sign s :: rest =>
      match (levels.getD k []).lookup s with
      | some op => set rest; levelFrom n k (.binary op a (← level n k))
      | none => return a
    | _ => return a

/-- A single operand: a number, a name, one behind a `Unary` operator or an expression in
    brackets. -/
def operand (n : Nat) : Read Expr :=
  match n with
  | 0 => expecting "primary" (.num 0)
  | n + 1 => do
    let unary := fun (op : Unary) (rest : List Token) => do
      set rest
      return .unary op (← operand n)
    match ← get with
    | .num v :: rest => set rest; return .num v
    | .var name :: rest => set rest; return .var name
    | .sign "(" :: rest =>
      set rest
      let e ← assignment n
      match ← get with
      | .sign ")" :: rest => set rest; return e
      | _ => expecting "')'" e
    | .sign "+" :: rest => unary .plus rest
    | .sign "-" :: rest => unary .minus rest
    | .sign "!" :: rest => unary .not rest
    | .sign "~" :: rest => unary .complement rest
    | _ => expecting "primary" (.num 0)

end

/-- Read an expression: an `assignment` up to the end of the text. -/
def read (s : Octets) : Expr :=
  let ts := tokens s.length s.toList
  let (e, rest) := (assignment (16 * (ts.length + 4))).run ts
  if rest = [] then e else .failing e (.expected "EOF")

/-! ### Evaluating -/

/-- A truth value as a number, 0 or 1. -/
def ofBool (b : Bool) : Int64 := if b then 1 else 0

/-- The quotient and the remainder.  The least value has no quotient with `-1`. -/
def quotient (a b : Int64) : Except Mistake (Int64 × Int64) :=
  if b = 0 then .error .divisionByZero
  else if a = Int64.minValue && b = -1 then .error .tooGreat
  else .ok (a / b, a % b)

/-- Apply an operator to two values; `quotient` may go wrong. -/
def Binary.apply (a b : Int64) : Binary → Except Mistake Int64
  | mul => .ok (a * b)
  | div => (quotient a b).map (·.1)
  | rem => (quotient a b).map (·.2)
  | add => .ok (a + b)
  | sub => .ok (a - b)
  | left => .ok (a <<< b)
  | right => .ok (a >>> b)
  | lt => .ok (ofBool (a < b))
  | le => .ok (ofBool (a ≤ b))
  | gt => .ok (ofBool (a > b))
  | ge => .ok (ofBool (a ≥ b))
  | eq => .ok (ofBool (a == b))
  | ne => .ok (ofBool (a != b))
  | and => .ok (a &&& b)
  | xor => .ok (a ^^^ b)
  | or => .ok (a ||| b)

/-- Apply an operator to a value. -/
def Unary.apply (a : Int64) : Unary → Int64
  | plus => a
  | minus => -a
  | not => ofBool (a == 0)
  | complement => ~~~a

/-- Where the text of an expression first goes wrong, if it does: its first `Expr.failing`. -/
def Expr.mistake? : Expr → Option Mistake
  | num _ | var _ => none
  | unary _ e | assign _ _ e => e.mistake?
  | binary _ a b | both a b | either a b => a.mistake?.or b.mistake?
  | choice test yes no => test.mistake?.or (yes.mistake?.or no.mistake?)
  | failing e m => e.mistake?.or (some m)

/-- The value `v` after an expression that is not evaluated, but whose text must not go wrong. -/
def Expr.past (e : Expr) (v : Int64) : Except Mistake Int64 :=
  match e.mistake? with
  | some m => .error m
  | none => .ok v

/-- Evaluate an expression where variables have values, with the values that have been assigned
    on the way, latest first. -/
def Expr.eval (values : Octets → Octets) :
    Expr → List (Octets × Octets) → Except Mistake Int64 × List (Octets × Octets)
  | num v, s => (.ok v, s)
  | var name, s => (valueOf ((s.lookup name).getD (values name)), s)
  | unary op e, s =>
    let (v, s) := e.eval values s
    (v.map op.apply, s)
  | binary op a b, s =>
    match a.eval values s with
    | (.error m, s) => (.error m, s)
    | (.ok v, s) =>
      match b.eval values s with
      | (.error m, s) => (.error m, s)
      | (.ok w, s) => (op.apply v w, s)
  | both a b, s =>
    match a.eval values s with
    | (.error m, s) => (.error m, s)
    | (.ok v, s) =>
      if v = 0 then (b.past 0, s)
      else
        let (w, s) := b.eval values s
        (w.map fun w => ofBool (w != 0), s)
  | either a b, s =>
    match a.eval values s with
    | (.error m, s) => (.error m, s)
    | (.ok v, s) =>
      if v ≠ 0 then (b.past 1, s)
      else
        let (w, s) := b.eval values s
        (w.map fun w => ofBool (w != 0), s)
  | choice test yes no, s =>
    match test.eval values s with
    | (.error m, s) => (.error m, s)
    | (.ok v, s) =>
      if v ≠ 0 then
        let (w, s) := yes.eval values s
        (w.bind no.past, s)
      else match yes.mistake? with
        | some m => (.error m, s)
        | none => no.eval values s
  | assign op name e, s =>
    match e.eval values s with
    | (.error m, s) => (.error m, s)
    | (.ok w, s) =>
      let result : Except Mistake Int64 := match op with
        | none => .ok w
        | some op => do op.apply (← valueOf ((s.lookup name).getD (values name))) w
      match result with
      | .error m => (.error m, s)
      | .ok v => (.ok v, (name, toString v) :: s)
  | failing e m, s =>
    let (v, s) := e.eval values s
    (v.bind fun _ => .error m, s)

end LineShell.Sh.Arithmetic
