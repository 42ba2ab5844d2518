import LineShell.Sh.Arithmetic
import LineShell.Sh.Progress

/-! # Tests

The conditions of `test` and `[` of the standard shell: on texts, on numbers and on files, joined by
`-o` and `-a`, negated by `!`, and grouped by brackets.  Whether a word is an operator depends on
the words around it. -/

namespace LineShell.Sh.Test

/-- Operators in front of one operand, such as `-f`. -/
def unary : List Octets :=
  ["-b", "-c", "-d", "-e", "-f", "-g", "-G", "-h", "-k", "-L", "-n", "-O", "-p", "-r", "-s", "-S",
    "-t", "-u", "-w", "-x", "-z"]

/-- Operators between two operands, such as `-eq`. -/
def binary : List Octets :=
  ["=", "!=", "<", ">", "-eq", "-ne", "-ge", "-gt", "-le", "-lt", "-nt", "-ot", "-ef"]

/-- What a word is taken for, by `role`. -/
inductive Role where
  | ended
  | operand
  | unary (op : Octets)
  | binary (op : Octets)
  | not
  | and
  | or
  | opening
  | closing
  deriving DecidableEq

/-- What the first of some words is taken for. -/
def role : List Octets → Role
  | [] => .ended
  | w :: rest =>
    if w ∈ unary then
      -- Before the end, or before an operator between operands, it is an operand itself.
      match rest with
      | [] => .operand
      | [_] => .unary w
      | op :: _ => if op ∈ binary then .operand else .unary w
    else if w ∈ binary then .binary w
    else match w with
      | "!" => .not
      | "-a" => .and
      | "-o" => .or
      | "(" => if rest.isEmpty then .operand else .opening
      | ")" => .closing
      | _ => .operand

/-- The whole number that a word writes, or an error: `Illegal number`. -/
def integer (w : Octets) : Run Int :=
  match Arithmetic.decimal? w with
  | some n =>
    if -0x8000000000000000 ≤ n && n < 0x8000000000000000 then return n
    else Run.raise ("Illegal number: " ++ w)
  | none => Run.raise ("Illegal number: " ++ w)

/-- Does a test of one operand hold, with an operator of `unary`? -/
def holdsOne (op operand : Octets) : Run Bool := do
  let p ← get
  let place? := (p.open? operand).toOption
  let node? : Option Node := place?.map (·.2)
  let bit := fun b : Nat => node?.any fun n => n.mode &&& b != 0
  match op with
  | "-n" => return operand != ""
  | "-z" => return operand == ""
  | "-e" | "-r" | "-w" | "-O" | "-G" => return node?.isSome
  | "-f" => return match node? with
    | some (.file ..) | some (.tool _) | some (.report ..) => true
    | _ => false
  | "-d" => return node? == some .directory
  | "-p" => return match node? with
    | some (.pipe _) | some (.opened _) => true
    | _ => false
  | "-c" => return match node? with
    | some (.device _) => true
    | _ => false
  | "-x" => return bit 0o111
  | "-u" => return bit 0o4000
  | "-g" => return bit 0o2000
  | "-k" => return bit 0o1000
  | "-s" => return match place? with
    | some (_, .file _ c) => c != ""
    -- Where the machine tells of processes nothing takes any room.
    | some (loc, .directory) => loc.getLast? != some "proc"
    | some (_, .tool _) => true
    | _ => false
  | "-h" | "-L" => return match p.view.find false p.directory operand with
    | .ok ⟨_, some (.link _)⟩ | .ok ⟨_, some (.opened _)⟩ => true
    | _ => false
  | "-t" => do
    let _ ← integer operand
    return false
  | _ => return false

/-- Has one file been changed later than another, as `-nt` asks, which both are there? -/
def isNewer (w : World) (a b : Option Location) : Bool :=
  a.any fun a => b.any fun b => w.changed b < w.changed a

/-- Does a test of two operands hold, with an operator of `binary`? -/
def holdsTwo (a op b : Octets) : Run Bool := do
  let p ← get
  let place := fun path => (p.open? path).toOption.map (·.1)
  match op with
  | "=" => return a == b
  | "!=" => return a != b
  | "<" => return a < b
  | ">" => return b < a
  | "-eq" => return (← integer a) == (← integer b)
  | "-ne" => return (← integer a) != (← integer b)
  | "-ge" => return (← integer a) ≥ (← integer b)
  | "-gt" => return (← integer a) > (← integer b)
  | "-le" => return (← integer a) ≤ (← integer b)
  | "-lt" => return (← integer a) < (← integer b)
  | "-ef" => return (place a).isSome && place a == place b
  | "-nt" => return isNewer p.world (place a) (place b)
  | "-ot" => return isNewer p.world (place b) (place a)
  | _ => return false

mutual

/-- A test with alternatives, `-o`, from the first of the words on, and the words from its last one
    on. -/
def either (n : Nat) (ws : List Octets) : Run (Bool × List Octets) :=
  match n with
  | 0 => return (false, ws)
  | n + 1 => do
    let (a, ws) ← both n ws
    if role ws.tail = .or then
      let (b, ws) ← either n (ws.drop 2)
      return (a || b, ws)
    else return (a, ws)

/-- Tests that go together, with `-a`. -/
def both (n : Nat) (ws : List Octets) : Run (Bool × List Octets) :=
  match n with
  | 0 => return (false, ws)
  | n + 1 => do
    let (a, ws) ← negatable n ws
    if role ws.tail = .and then
      let (b, ws) ← both n (ws.drop 2)
      return (a && b, ws)
    else return (a, ws)

/-- A test, perhaps negated by `!`. -/
def negatable (n : Nat) (ws : List Octets) : Run (Bool × List Octets) :=
  match n with
  | 0 => return (false, ws)
  | n + 1 => do
    if role ws = .not then
      if ws.tail.isEmpty then return (true, ws)
      let (a, ws) ← negatable n ws.tail
      return (!a, ws)
    else single n ws

/-- A single test: one in brackets, one of `holdsOne` or `holdsTwo`, or a word that is not empty. -/
def single (n : Nat) (ws : List Octets) : Run (Bool × List Octets) :=
  match n with
  | 0 => return (false, ws)
  | n + 1 => do
    match role ws, ws with
    | .ended, _ | _, [] => return (false, ws)
    | .opening, _ :: ws =>
      if role ws = .closing then return (false, ws)
      let (a, ws) ← either n ws
      if role ws.tail = .closing then return (a, ws.tail)
      else Run.raise "closing paren expected"
    | .unary op, _ :: ws =>
      match ws with
      | [] => Run.raise (op ++ ": argument expected")
      | operand :: _ => return (← holdsOne op operand, ws)
    | _, a :: rest =>
      match role rest, rest with
      | .binary op, _ :: more =>
        match more with
        | [] => Run.raise (op ++ ": argument expected")
        | b :: _ => return (← holdsTwo a op b, more)
      | _, _ => return (a != "", ws)

end

/-- The test that some words make, by `either`. -/
def expression (ws : List Octets) : Run Bool := do
  let (holds, rest) ← either (8 * (ws.length + 2)) ws
  match rest with
  | w :: _ :: _ => Run.raise ((if w = "" then "" else w ++ ": ") ++ "unexpected operator")
  | _ => return holds

/-- Does the test that some words make hold, or with `negated` does it fail?  Of three or four words
    the outer ones are looked at first. -/
def judge (negated : Bool) : List Octets → Run Bool
  | [] => return negated
  | w :: ws => do
    let outer := ws.length = 2 || ws.length = 3
    if ws.length = 2 && (ws.head?).any (· ∈ binary) then
      return (← holdsTwo w (ws.headD "") (ws.getLastD "")) != negated
    else if outer && w = "(" && ws.getLast? = some ")" then
      return (← expression ws.dropLast) != negated
    else if outer && w = "!" then judge true ws
    else return (← expression (w :: ws)) != negated

/-- Does the test that some words make hold? -/
def test (ws : List Octets) : Run Bool := judge false ws

end LineShell.Sh.Test
