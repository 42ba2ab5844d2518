import LineShell.Sh.Reader

/-! # Reading words

A word is read up to what ends it in its `Context`.  Commands may be nested in a word, and the
readers for them are supplied; the readers of this module recurse on a bound that no text is long
enough to reach. -/

namespace LineShell.Sh

/-- Where a word is read, for `parts`. -/
inductive Context where
  /-- On its own, up to a delimiter. -/
  | plain
  /-- As the mark of a text that follows, in which nothing is expanded. -/
  | heading
  /-- Inside single quotes. -/
  | literal
  /-- Inside the braces of a parameter. -/
  | braces
  /-- Inside double quotes. -/
  | quotes
  /-- Inside the braces of a parameter in double quotes. -/
  | quotedBraces
  /-- As a text that follows in the script. -/
  | document
  /-- As an arithmetic expression, in so many brackets of its own. -/
  | expression (depth : Nat)

namespace Context

/-- Is all text quoted here, as it is in `"…"`? -/
def isQuoted : Context → Bool
  | plain | heading | braces => false
  | literal | quotes | quotedBraces | document | expression _ => true

/-- Does the character need a closer look, such as `$`? -/
def isActive (k : Context) (c : Char) : Bool :=
  match k with
  | plain => isDelimiter c || c ∈ ['\\', '\'', '"', '$', '\x60']
  | heading => isDelimiter c || c ∈ ['\\', '\'', '"']
  | literal => c == '\''
  | braces => c ∈ ['\\', '\'', '"', '$', '\x60', '\x7d']
  | quotes => c ∈ ['\\', '"', '$', '\x60']
  | quotedBraces => c ∈ ['\\', '"', '$', '\x60', '\x7d']
  | document => c ∈ ['\\', '$', '\x60']
  | expression _ => c ∈ ['\\', '$', '\x60', '(', ')']

/-- Does the word end before these characters? -/
def isEnd (k : Context) (c : Char) (cs : List Char) : Bool :=
  match k with
  | plain | heading => isDelimiter c
  | literal => c == '\''
  | braces | quotedBraces => c == '\x7d'
  | quotes => c == '"'
  | document => false
  | expression 0 => c == ')' && (afterJoins cs).head? == some ')'
  | expression _ => false

/-- Does a backslash take away the meaning of the character? Between double quotes, of a few
    only. -/
def isEscapable (k : Context) (c : Char) : Bool :=
  match k with
  | plain | heading | literal | braces => true
  | quotes => c ∈ ['\\', '\x60', '$', '"']
  | quotedBraces => c ∈ ['\\', '\x60', '$', '"', '\x7d']
  | document | expression _ => c ∈ ['\\', '\x60', '$']

/-- What is amiss if the script ends here, or the text that follows in it: an unterminated `"`,
    say. -/
def mistake? (inDocument : Bool) : Context → Option Mistake
  | plain | heading | document => none
  | braces => some (.missing "\x7d")
  | literal | quotes | quotedBraces =>
    some (if inDocument then .missing "\x7d" else .openQuote)
  | expression _ => some (.missing "))")

end Context

/-- The readers for commands that are nested in a word, in `$(…)` or in backquotes. -/
structure Nested where
  /-- Commands up to a closing bracket, which is read too. -/
  enclosed : Read Command
  /-- Commands up to the end of the script. -/
  whole : Read Command

namespace Read

/-- Read commands that were written between backquotes. -/
def backquoted (nested : Nested) (quoted : Bool) : Read Part := do
  let cs ← rest
  let some (text, count) := scan cs 0
    | do
      jump cs.length
      fail .openBackquote
  jump count
  let outer ← get
  -- Lines are counted anew in the commands.
  set { outer with rest := text, line := 1, unfolded := [], document := none }
  let body ← nested.whole
  modify fun u => { outer with documents := u.documents }
  return .output quoted body
where
  /-- The text before the closing backquote, and how many characters it takes with it. -/
  scan : List Char → Nat → Option (List Char × Nat)
    | [], _ => none
    | '\x60' :: _, n => some ([], n + 1)
    | ['\\'], _ => none
    | '\\' :: '\n' :: cs, n => scan cs (n + 2)
    | '\\' :: c :: cs, n =>
      let kept := if c ∈ ['\\', '\x60', '$'] || (quoted && c = '"') then [c] else ['\\', c]
      (scan cs (n + 2)).map fun (text, n) => (kept ++ text, n)
    | c :: cs, n => (scan cs (n + 1)).map fun (text, n) => (c :: text, n)

/-- Put a text in front of the parts of a word. -/
def consText (s : Octets) (quoted : Bool) : List Part → List Part
  | .text t q :: rest =>
    if q = quoted then .text (s ++ t) quoted :: rest else .text s quoted :: .text t q :: rest
  | rest => .text s quoted :: rest

/-- A line of a text that follows in the script begins: the text in front of it, if it is not the
    mark.  A backslash behind tabs that do not count does not join lines; the line end that it
    takes in is not counted. -/
def beginLine (d : Awaited) : Read Octets := do
  let _ ← peek
  let cs ← rest
  let tabs := if d.strip then (cs.takeWhile (· = '\t')).length else 0
  let cs := cs.drop tabs
  let mark := d.mark.toList
  let stop := cs.drop mark.length
  if cs.take mark.length = mark && (stop.head?.all (· == '\n')) then
    jump (tabs + mark.length)
    modify fun u => { u with rest := [], behind := some (stop.drop 1), line := u.line + 1 }
    return ""
  jump tabs
  if 0 < tabs && joins cs ≠ 0 then
    modify fun u => { u with rest := u.rest.drop 2 }
    return "\\\n"
  return ""

/-- The name of a parameter in braces, and whether its length is asked for, as in `${#x}`; an empty
    name is no name. -/
def bracedName : Read (Octets × Bool) := do
  let size ← do
    if (← peek) ≠ some '#' then pure false
    else match afterJoins ((← rest).drop 1) with
      | '\x7d' :: _ | [] => pure false
      | c :: cs => pure (isNameChar c || (isSpecialName c && (afterJoins cs).head? = some '\x7d'))
  if size then jump 1
  match ← peek with
  | none => return ("", size)
  | some c =>
    let name ← takeAll (if c.isDigit then Char.isDigit else isNameChar) boundless
    if name.isEmpty && isSpecialName c then
      jump 1
      return (String.singleton c, size)
    return (String.ofList name, size)

mutual

/-- The parts of a word up to its end, which is left. -/
def parts (nested : Nested) (n : Nat) (k : Context) : Read (List Part) :=
  match n with
  | 0 => fail (.missing "end")
  | n + 1 => do
    let document := (← get).document
    let isActive := fun c => k.isActive c || (c == '\n' && document.isSome)
    match ← rest with
    | [] =>
      match k.mistake? document.isSome with
      | some m => fail m
      | none => return []
    | c :: cs =>
      if k.isEnd c cs then return []
      else if !isActive c then
        let text := c :: cs.takeWhile (!isActive ·)
        jump text.length
        return consText (String.ofList text) k.isQuoted (← parts nested n k)
      else if c = '\n' then
        jump 1
        let text ← (document.map beginLine).getD (pure "")
        return consText ("\n" ++ text) k.isQuoted (← parts nested n k)
      else if c = '\\' then
        match cs with
        | [] => jump 1; return consText "\\" true (← parts nested n k)
        | '\n' :: _ => jump 2; parts nested n k
        | d :: _ =>
          jump 2
          let text := if k.isEscapable d then [d] else [c, d]
          return .text (String.ofList text) true :: (← parts nested n k)
      else if c = '\'' then
        jump 1
        let inner ← parts nested n .literal
        jump 1
        return .mark :: inner ++ (← parts nested n k)
      else if c = '"' then
        jump 1
        let inner ← parts nested n .quotes
        jump 1
        -- All arguments, in quotes of their own, may be no word at all.
        let inner := match inner with
          | [.parameter "@" _ .value] => inner
          | _ => .mark :: inner
        return inner ++ (← parts nested n k)
      else if c = '$' then
        jump 1
        match ← dollar nested n k.isQuoted with
        | .text s quoted => return consText s quoted (← parts nested n k)
        | part => return part :: (← parts nested n k)
      else if c = '\x60' then
        jump 1
        return (← backquoted nested k.isQuoted) :: (← parts nested n k)
      else
        -- Brackets of an arithmetic expression.
        jump 1
        let k' := match k, c with
          | .expression depth, '(' => .expression (depth + 1)
          | .expression (depth + 1), ')' => .expression depth
          | k, _ => k
        return consText (String.singleton c) true (← parts nested n k')

/-- The part that follows a `$`. -/
def dollar (nested : Nested) (n : Nat) (quoted : Bool) : Read Part :=
  match n with
  | 0 => fail (.missing "end")
  | n + 1 => do
    match ← peek with
    | some '(' =>
      jump 1
      if ← follows '(' then
        let expression ← parts nested n (.expression 0)
        let _ ← follows ')'
        let _ ← follows ')'
        return .arithmetic quoted expression
      else return .output quoted (← nested.enclosed)
    | some '\x7b' => jump 1; braced nested n quoted
    | some c =>
      if c.isDigit || isSpecialName c then
        jump 1
        return .parameter (String.singleton c) quoted .value
      else if isNameStart c then
        let name ← takeAll isNameChar boundless
        return .parameter (String.ofList name) quoted .value
      else return .text "$" quoted
    | none => return .text "$" quoted

/-- What follows the opening brace of a parameter, the `{` of `${`. -/
def braced (nested : Nested) (n : Nat) (quoted : Bool) : Read Part :=
  match n with
  | 0 => fail (.missing "end")
  | n + 1 => do
    let (name, size) ← bracedName
    let word := fun (k : Context) => do
      let word ← parts nested n k
      jump 1
      return word
    let inner : Context := if quoted then .quotedBraces else .braces
    -- What makes no sense is read to its end all the same, after `count` characters that are not
    -- looked at.
    let bad := fun (count : Nat) => do
      modify fun u => { u with rest := u.rest.drop count }
      let _ ← word inner
      return Operation.bad
    let operation ← match ← peek with
      | none => fail (if quoted then .openQuote else .missing "\x7d")
      | some c =>
        if name = "" then bad (if c = '\x7d' then 0 else 1)
        else if c = '\x7d' then jump 1; pure (if size then .length else .value)
        else if size then bad 0
        else if c = '%' || c = '#' then
          jump 1
          let longest ← follows c
          pure (.trim (c == '%') longest (← word .braces))
        else
          let empty ← follows ':'
          let c := (← peek).getD ' '
          if c = '\x7d' && empty then
            jump 1
            let _ ← word inner
            pure .value
          else if c ∈ ['-', '=', '?', '+'] then
            jump 1
            let word ← word inner
            pure (if c = '-' then .otherwise empty word
              else if c = '=' then .assign empty word
              else if c = '?' then .demand empty word
              else .whenSet empty word)
          else bad 1
    return .parameter name quoted operation

end

end Read

/-- Does the word have a part that is quoted, if only by a `mark`? -/
def isQuotedWord (parts : List Part) : Bool :=
  parts.any fun part => match part with
    | .mark | .text _ true | .parameter _ true _ => true
    | _ => false

/-- The text of a word that has no other part than a `.text`. -/
def plainText? : List Part → Option Octets
  | [] => some ""
  | .text s false :: rest => (plainText? rest).map (s ++ ·)
  | _ => none

/-- The text of a word whose quotes do not count, as the mark of a `<<`. -/
def literalText (parts : List Part) : Octets :=
  String.join (parts.map fun part => match part with
    | .text s _ => s
    | _ => "")

end LineShell.Sh
