import LineShell.Sh.Word

/-! # Reading commands

A script is read one complete line of commands at a time, so that a line takes effect before the
next one is read.  `Line.next` reads one; the readers below it recurse on a bound that no text is
long enough to reach. -/

namespace LineShell.Sh

/-- Words with a meaning of their own where a command begins, such as `if`. -/
def reserved : List Octets :=
  ["!", "case", "do", "done", "elif", "else", "esac", "fi", "for", "if", "in", "then", "until",
    "while", "\x7b", "\x7d"]

/-- Commands of the shell itself whose failure ends a script, such as `set`. -/
def specialNames : List Octets :=
  [".", ":", "break", "continue", "eval", "exec", "exit", "export", "local", "readonly", "return",
    "set", "shift", "times", "trap", "unset"]

/-- Does the token close a list of commands, as `fi` does? -/
def Token.isClosing : Token → Bool
  | ended => true
  | operator s => s == ")" || s == ";;"
  | keyword w => w ∈ ["do", "done", "elif", "else", "esac", "fi", "then", "\x7d"]
  | _ => false

/-- The name and the value of a word that assigns, `name=value`. -/
def assignment? : List Part → Option (Octets × List Part)
  | .text s false :: rest =>
    let name := s.toList.takeWhile isNameChar
    match s.toList.drop name.length with
    | '=' :: value =>
      if name.head?.any isNameStart then
        some (String.ofList name,
          if value.isEmpty then rest else .text (String.ofList value) false :: rest)
      else none
    | _ => none
  | _ => none

namespace Read

/-- Take the sign of a redirection such as `>>`, of the stream `fd` if that is given. -/
def sign? (fd : Option Nat) : Read (Option Token) := do
  if ← follows '>' then
    let fd := fd.getD 1
    if ← follows '>' then return some (.redirect fd .append)
    if ← follows '|' then return some (.redirect fd .overwrite)
    if ← follows '&' then return some (.redirect fd .duplicate)
    return some (.redirect fd .write)
  if ← follows '<' then
    let fd := fd.getD 0
    if ← follows '<' then return some (.document fd (← follows '-'))
    if ← follows '&' then return some (.redirect fd .duplicate)
    if ← follows '>' then return some (.redirect fd .update)
    return some (.redirect fd .read)
  return none

/-- Take the operator, such as `&&`, or the sign of a redirection that comes next. -/
def operator? : Read (Option Token) := do
  let some c ← peek | return none
  if c ∈ ['\n', '(', ')'] then
    jump 1
    return some (.operator (String.singleton c))
  if c ∈ ['&', '|', ';'] then
    jump 1
    return some (.operator (String.ofList (if ← follows c then [c, c] else [c])))
  sign? none

/-- The digit that a word is. -/
def digit? : List Part → Option Nat
  | [.text s false] =>
    match s.toList with
    | [d] => if d.isDigit then some (d.toNat - 48) else none
    | _ => none
  | _ => none

/-- The lines of a text that follows in the script and in which nothing is expanded, up to its mark,
    and how many characters they take with it. -/
def documentText (d : Awaited) (cs : List Char) : List Char × Nat :=
  go (cs.count '\n' + 1) cs
where
  go : Nat → List Char → List Char × Nat
    | 0, _ | _, [] => ([], 0)
    | n + 1, cs =>
      let line := cs.takeWhile (· ≠ '\n')
      let stop := cs.drop line.length
      let shown := if d.strip then line.dropWhile (· = '\t') else line
      let size := line.length + min 1 stop.length
      if String.ofList shown = d.mark then ([], size)
      else
        let (text, more) := go n (stop.drop 1)
        (shown ++ stop.take 1 ++ text, size + more)

mutual

/-- The token that comes next.  With `heading` a word is read as the mark of a text. -/
def token (n : Nat) (heading : Bool) : Read Token :=
  match n with
  | 0 => fail (.missing "end")
  | n + 1 => do
    let u ← get
    match u.returned with
    | some t => set { u with returned := none }; return t
    | none =>
      jump (blanks u.rest)
      modify (·.settle)
      if let some t ← operator? then return t
      if (← rest).isEmpty then return .ended
      let word ← parts (nested n) boundless (if heading then .heading else .plain)
      -- A digit right before the sign is the number of the stream.
      if let some fd := digit? word then
        if let some t ← sign? (some fd) then return t
      return .word word

/-- The readers for commands that are `Nested` in words. -/
def nested (n : Nat) : Nested :=
  match n with
  | 0 => ⟨fail (.missing "end"), fail (.missing "end")⟩
  | n + 1 =>
    let commands : Read Command := do
      -- The texts that follow the outer line do not follow the nested one.
      let outer ← get
      modify fun u => { u with awaited := [], document := none }
      let body ← list n true
      modify fun u => { u with awaited := outer.awaited, document := outer.document }
      return body
    { enclosed := do
        let body ← commands
        expect n ")"
        return body
      whole := do
        let body ← commands
        modify fun u => { u with returned := none }
        return body }

/-- Read the texts that follow the current line, which are `awaited`. -/
def documents (n : Nat) : Read Unit :=
  match n with
  | 0 => pure ()
  | n + 1 => do
    match (← get).awaited with
    | [] => pure ()
    | d :: more =>
      modify fun u => { u with awaited := more }
      let doc ← if d.expand then do
          modify fun u => { u with document := some d }
          let front ← beginLine d
          let doc ← parts (nested n) boundless .document
          modify fun u =>
            { u with rest := u.behind.getD u.rest, document := none, behind := none }
          pure (if front = "" then doc else consText front true doc)
        else do
          let (text, size) := documentText d (← rest)
          jump size
          pure [.text (String.ofList text) true]
      modify fun u => { u with documents := u.documents.setIfInBounds d.number doc }
      documents n

/-- The token that comes next, where line ends may not count, words may be reserved, and names may
    stand for texts. -/
def next (n : Nat) (acrossLines reservedWords : Bool) (aliases : Bool := reservedWords) :
    Read Token :=
  match n with
  | 0 => fail (.missing "end")
  | n + 1 => do
    match ← token n false with
    | .operator "\n" =>
      if acrossLines then documents n; next n acrossLines reservedWords aliases
      else return .operator "\n"
    | .word ps =>
      match plainText? ps with
      | some w =>
        if reservedWords && w ∈ reserved then return .keyword w
        let u ← get
        match (if aliases || u.eager then u.alias? w else none) with
        | some text =>
          set (u.unfold w text)
          next n acrossLines reservedWords aliases
        | none => return .word ps
      | none => return .word ps
    | t => return t

/-- Read the reserved word or the bracket that has to come next: `wanted`. -/
def expect (n : Nat) (wanted : String) : Read Unit :=
  match n with
  | 0 => fail (.missing "end")
  | n + 1 => do
    let t ← next n false false
    let found := match t with
      | .operator s | .keyword s => s == wanted
      | _ => false
    if !found then fail (.unexpected t (some ("\"" ++ wanted ++ "\"")))

/-- Commands up to what closes them, as `isClosing` tells.  With `empty` there need not be any. -/
def list (n : Nat) (empty : Bool) : Read Command :=
  match n with
  | 0 => fail (.missing "end")
  | n + 1 => do
    match ← series n empty with
    | [c] => return c
    | cs => return .sequence cs

/-- The commands of a list, with `;`, `&` or line ends in between. -/
def series (n : Nat) (empty : Bool) : Read (List Command) :=
  match n with
  | 0 => fail (.missing "end")
  | n + 1 => do
    let t ← next n true true
    putBack t
    match t with
    | .ended => documents n; return []
    | _ =>
      if empty && t.isClosing then return []
      let c ← chain n
      let t ← next n false false
      match t with
      | .operator "&" => return .background c :: (← series n true)
      | .operator ";" => return c :: (← series n true)
      | .operator "\n" => putBack t; return c :: (← series n true)
      | _ => putBack t; return [c]

/-- The commands of a complete line; `none` at the end of the script. -/
def line (n : Nat) (begun : Bool) : Read (Option (List Command)) :=
  match n with
  | 0 => fail (.missing "end")
  | n + 1 => do
    let t ← next n false true
    match t with
    | .operator "\n" => documents n; return some []
    | .ended => documents n; putBack t; return if begun then some [] else none
    | _ =>
      putBack t
      let c ← chain n
      let t ← next n false false
      let more := fun c => do return (← line n true).map (c :: ·)
      match t with
      | .operator "&" => more (.background c)
      | .operator ";" => more c
      | .operator "\n" | .ended => putBack t; more c
      | _ => fail (.unexpected t none)

/-- Commands joined by `&&` and `||`. -/
def chain (n : Nat) : Read Command :=
  match n with
  | 0 => fail (.missing "end")
  | n + 1 => do chainFrom n (← pipeline n false)

/-- The rest of a `chain`, behind its `first` command. -/
def chainFrom (n : Nat) (first : Command) : Read Command :=
  match n with
  | 0 => fail (.missing "end")
  | n + 1 => do
    let t ← next n false false
    match t with
    | .operator "&&" => chainFrom n (.both first (← pipeline n true))
    | .operator "||" => chainFrom n (.either first (← pipeline n true))
    | _ => putBack t; return first

/-- Commands joined by `|`, perhaps negated by `!`. -/
def pipeline (n : Nat) (acrossLines : Bool) : Read Command :=
  match n with
  | 0 => fail (.missing "end")
  | n + 1 => do
    let t ← next n acrossLines true
    match t with
    | .keyword "!" => return .negate (← piped n (← command n false))
    | _ => putBack t; piped n (← command n false)

/-- The rest of a `pipeline`, behind its `first` command. -/
def piped (n : Nat) (first : Command) : Read Command :=
  match n with
  | 0 => fail (.missing "end")
  | n + 1 => do
    let t ← next n false false
    match t with
    | .operator "|" => return .pipeline (first :: (← stages n))
    | _ => putBack t; return first

/-- The commands after a `|`, up to the end of the pipeline. -/
def stages (n : Nat) : Read (List Command) :=
  match n with
  | 0 => fail (.missing "end")
  | n + 1 => do
    let c ← command n true
    let t ← next n false false
    match t with
    | .operator "|" => return c :: (← stages n)
    | _ => putBack t; return [c]

/-- A command without connections: a compound one with redirections, or a `simple` one. -/
def command (n : Nat) (acrossLines : Bool) : Read Command :=
  match n with
  | 0 => fail (.missing "end")
  | n + 1 => do
    let t ← next n acrossLines true
    let begin := (← get).line
    let compound := fun (c : Command) => do
      match c, ← redirects n true with
      | c, [] => return c
      -- A process of its own is redirected itself, and not as it has been before.
      | .subshell l c _, rs => return .subshell l c rs
      | c, rs => return .redirected begin c rs
    match t with
    | .keyword "if" => do
      let c ← branches n
      expect n "fi"
      compound c
    | .keyword "while" => do compound (← repetition n true)
    | .keyword "until" => do compound (← repetition n false)
    | .keyword "for" => do compound (← iteration n begin)
    | .keyword "case" => do
      let t ← next n false false
      let .word subject := t | fail (.unexpected t (some "word"))
      let t ← next n true true false
      match t with
      | .keyword "in" => compound (.choice begin subject (← cases n))
      | _ => fail (.unexpected t (some "\"in\""))
    | .operator "(" => do
      let body ← list n false
      expect n ")"
      compound (.subshell begin body [])
    | .keyword "\x7b" => do
      let body ← list n false
      expect n "\x7d"
      compound body
    | .word _ | .redirect .. | .document .. => putBack t; simple n begin [] [] []
    | _ => fail (.unexpected t none)

/-- A condition, after its `if` or `elif` and up to its `fi`; `then` and `else` are in between. -/
def branches (n : Nat) : Read Command :=
  match n with
  | 0 => fail (.missing "end")
  | n + 1 => do
    let test ← list n false
    expect n "then"
    let yes ← list n false
    let t ← next n false false
    match t with
    | .keyword "elif" => return .branch test yes (some (← branches n))
    | .keyword "else" => return .branch test yes (some (← list n false))
    | _ => putBack t; return .branch test yes none

/-- A loop, after its `while` or `until`. -/
def repetition (n : Nat) (expected : Bool) : Read Command :=
  match n with
  | 0 => fail (.missing "end")
  | n + 1 => do
    let test ← list n false
    expect n "do"
    let body ← list n false
    expect n "done"
    return .loop expected test body

/-- A loop, after its `for`. -/
def iteration (n : Nat) (begin : Nat) : Read Command :=
  match n with
  | 0 => fail (.missing "end")
  | n + 1 => do
    let .word ps ← next n false false | fail .loopName
    let some name := plainText? ps | fail .loopName
    if !isName name then fail .loopName
    let t ← next n true true
    let words ← match t with
      | .keyword "in" => do
        let ws ← items n
        let t ← next n false false
        match t with
        | .operator ";" | .operator "\n" => if let .operator "\n" := t then documents n
        | _ => fail (.unexpected t none)
        pure ws
      | _ => do
        match t with
        | .operator ";" => pure ()
        | _ => putBack t
        pure [[.parameter "@" true .value]]
    let t ← next n true true
    match t with
    | .keyword "do" => pure ()
    | _ => fail (.unexpected t (some "\"do\""))
    let body ← list n false
    expect n "done"
    return .each begin name words body

/-- Words in a row, as those behind `in`. -/
def items (n : Nat) : Read (List (List Part)) :=
  match n with
  | 0 => fail (.missing "end")
  | n + 1 => do
    match ← next n false false with
    | .word ps => return ps :: (← items n)
    | t => putBack t; return []

/-- Cases up to the `esac`. -/
def cases (n : Nat) : Read (List (List (List Part) × Command)) :=
  match n with
  | 0 => fail (.missing "end")
  | n + 1 => do
    match ← next n true true false with
    | .keyword "esac" => return []
    | t =>
      match t with
      | .operator "(" => pure ()
      | _ => putBack t
      let ps ← patterns n
      expect n ")"
      let body ← list n true
      let t ← next n true true
      match t with
      | .keyword "esac" => return [(ps, body)]
      | .operator ";;" => return (ps, body) :: (← cases n)
      | _ => fail (.unexpected t (some "\";;\""))

/-- The patterns of a case, with `|` in between. -/
def patterns (n : Nat) : Read (List (List Part)) :=
  match n with
  | 0 => fail (.missing "end")
  | n + 1 => do
    let p ← match ← next n false false with
      | .word ps => pure ps
      | .keyword w => pure [.text w false]
      -- What is no word matches nothing.
      | _ => pure [.mark]
    let t ← next n false false
    match t with
    | .operator "|" => return p :: (← patterns n)
    | _ => putBack t; return [p]

/-- The redirection that comes after its sign, which `sign?` has taken. -/
def redirect (n : Nat) (t : Token) : Read Redirect :=
  match n with
  | 0 => fail (.missing "end")
  | n + 1 => do
    match t with
    | .document fd strip =>
      let t ← token n true
      match t with
      | .word ps =>
        let u ← get
        let number := u.documents.size
        let awaited : Awaited :=
          { number, mark := literalText ps, strip, expand := !isQuotedWord ps }
        set { u with documents := u.documents.push [], awaited := u.awaited ++ [awaited] }
        return .document fd number
      | _ => fail (.unexpected t none)
    | .redirect fd kind =>
      let t ← next n false false
      match t with
      | .word ps => return .file fd kind ps
      | _ => fail (.unexpected t none)
    | _ => fail (.unexpected t none)

/-- Redirections in a row.  Only what comes `first` may be a reserved word. -/
def redirects (n : Nat) (first : Bool) : Read (List Redirect) :=
  match n with
  | 0 => fail (.missing "end")
  | n + 1 => do
    let t ← next n false first
    match t with
    | .redirect .. | .document .. =>
      let r ← redirect n t
      return r :: (← redirects n false)
    | _ => putBack t; return []

/-- The rest of a simple command, or a function if `()` follows its name. -/
def simple (n : Nat) (begin : Nat) (values : List (Octets × List Part))
    (words : List (List Part)) (rs : List Redirect) : Read Command :=
  match n with
  | 0 => fail (.missing "end")
  | n + 1 => do
    -- Only a word that may still be the name of the command may stand for a text.
    let t ← next n false false words.isEmpty
    match t with
    | .word ps =>
      match assignment? ps with
      | some value =>
        if words.isEmpty then simple n begin (values ++ [value]) words rs
        else simple n begin values (words ++ [ps]) rs
      | none => simple n begin values (words ++ [ps]) rs
    | .redirect .. | .document .. => do
      let r ← redirect n t
      simple n begin values words (rs ++ [r])
    | .operator "(" =>
      match words, values, rs with
      | [ps], [], [] => do
        let t ← next n false false
        match t with
        | .operator ")" => pure ()
        | _ => fail (.unexpected t (some "\")\""))
        let name := (plainText? ps).getD ""
        if !isName name || name ∈ specialNames then fail .functionName
        return .define name (← command n true)
      | _, _, _ => putBack t; return .simple begin values words rs
    | _ => putBack t; return .simple begin values words rs

end

end Read

/-- The parts of a text that is expanded like one that follows in a script. -/
def textParts (text : Octets) (documents : Array (List Part)) :
    Except ParseError (List Part × Array (List Part)) := do
  let (ps, u) ← Read.parts (Read.nested Read.boundless) Read.boundless .document
    { rest := text.toList, documents }
  return (ps, u.documents)

/-- What comes next in a script, as `Line.next` reads it. -/
inductive Line where
  /-- There is nothing more. -/
  | ended
  /-- A line, and whether it ends with the script. -/
  | commands (c : Command) (last : Bool)

/-- Read one complete line of commands. -/
def Line.next (u : Unread) : Except ParseError (Line × Unread) := do
  let (found, u) ← Read.line Read.boundless false u
  let last := match u.returned with
    | some .ended => true
    | _ => false
  let u := { u with returned := none }
  match found with
  | none => return (.ended, u)
  | some cs => return (.commands (.sequence cs) last, u)

end LineShell.Sh
