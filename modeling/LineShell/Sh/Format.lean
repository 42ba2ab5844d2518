import LineShell.Sh.Fraction

/-! # Printed text

How `echo` and `printf` of the standard shell make the text that they print: backslash escapes, and
formats, whose conversions take one argument each. -/

namespace LineShell.Sh.Format

/-- Is the character an octal digit? -/
def isOctal (c : Char) : Bool := '0' ≤ c && c ≤ '7'

/-- The octet that up to three octal digits write, as in `\101`. -/
def octalChar (ds : List Char) : Char :=
  Char.ofNat ((ds.foldl (fun n d => n * 8 + (d.toNat - 48)) 0) % 256)

/-- What a backslash stands for with the characters after it, and what follows.  A backslash that
    means nothing stands for itself, as in `\q`. -/
def escape (cs : List Char) : Char × List Char :=
  match cs with
  | 'a' :: cs => ('\x07', cs)
  | 'b' :: cs => ('\x08', cs)
  | 'e' :: cs => ('\x1b', cs)
  | 'f' :: cs => ('\x0c', cs)
  | 'n' :: cs => ('\n', cs)
  | 'r' :: cs => ('\r', cs)
  | 't' :: cs => ('\t', cs)
  | 'v' :: cs => ('\x0b', cs)
  | '\\' :: cs => ('\\', cs)
  | cs =>
    let ds := (cs.take 3).takeWhile isOctal
    if ds.isEmpty then ('\\', cs) else (octalChar ds, cs.drop ds.length)

/-- Expand the escapes of an argument, in which octal digits may follow a zero of their own.  The
    flag tells whether `\c` ends all output. -/
def unescape (n : Nat) (cs : List Char) : List Char × Bool :=
  match n, cs with
  | 0, _ | _, [] => ([], false)
  | _, '\\' :: 'c' :: _ => ([], true)
  | n + 1, '\\' :: cs =>
    let cs := match cs with
      | '0' :: d :: rest => if isOctal d then d :: rest else cs
      | cs => cs
    let (c, rest) := escape cs
    let (text, stop) := unescape n rest
    (c :: text, stop)
  | n + 1, c :: cs =>
    let (text, stop) := unescape n cs
    (c :: text, stop)

/-- The text that `echo` prints for its words. -/
def echo (words : List Octets) : Octets :=
  let (newline, words) := match words with
    | "-n" :: ws => (false, ws)
    | ws => (true, ws)
  let text := (" ".intercalate words).toList
  let (text, stop) := unescape text.length text
  String.ofList (if newline && !stop then text ++ ['\n'] else text)

/-! ### Conversions -/

/-- How a conversion lays its text out: its flags, its width and its precision, as in `%-8.3d`. -/
structure Layout where
  left : Bool := false
  sign : Bool := false
  space : Bool := false
  alternate : Bool := false
  zeros : Bool := false
  width : Nat := 0
  precision : Option Nat := none

/-- Fill a text up to the `width`. -/
def Layout.fill (l : Layout) (text : List Char) : List Char :=
  let gap := List.replicate (l.width - text.length) ' '
  if l.left then text ++ gap else gap ++ text

/-- Lay out digits with what stands in front of them, such as a sign or `0x`. -/
def Layout.number (l : Layout) (front ds : List Char) : List Char :=
  let ds := match l.precision with
    | some p => List.replicate (p - ds.length) '0' ++ (if p = 0 && ds = ['0'] then [] else ds)
    | none =>
      if l.zeros && !l.left then
        List.replicate (l.width - front.length - ds.length) '0' ++ ds
      else ds
  l.fill (front ++ ds)

/-- Write a whole number as a conversion `d`, `u`, `o`, `x` or `X` asks. -/
def Layout.integer (l : Layout) (kind : Char) (v : Int) : List Char :=
  match kind with
  | 'o' =>
    -- The alternative form begins with a zero, even where zero has no digits.
    let ds := Nat.toDigits 8 (UInt64.ofInt v).toNat
    if !l.alternate then l.number [] ds
    else if ds = ['0'] then { l with precision := l.precision.map (max 1) }.number [] ds
    else l.number [] ('0' :: ds)
  | 'u' => l.number [] (Nat.toDigits 10 (UInt64.ofInt v).toNat)
  | 'x' | 'X' =>
    let n := (UInt64.ofInt v).toNat
    let ds := Nat.toDigits 16 n
    let up := fun cs : List Char => if kind = 'X' then cs.map Char.toUpper else cs
    l.number (if l.alternate && n ≠ 0 then up ['0', 'x'] else []) (up ds)
  | _ =>
    let front := if v < 0 then ['-'] else if l.sign then ['+'] else if l.space then [' '] else []
    l.number front (Nat.toDigits 10 v.natAbs)

/-- Write a number with a fraction as a conversion `e`, `f`, `g` or `a` asks. -/
def Layout.fraction (l : Layout) (kind : Char) (v : Fraction) : List Char :=
  let front := fun (negative : Bool) =>
    if negative then ['-'] else if l.sign then ['+'] else if l.space then [' '] else []
  let up := fun cs : List Char => if kind.isUpper then cs.map Char.toUpper else cs
  let kind := kind.toLower
  match v with
  | .infinite negative => l.fill (front negative ++ up ['i', 'n', 'f'])
  | .unknown negative => l.fill (front negative ++ up ['n', 'a', 'n'])
  | .finite negative m e =>
    let base := if kind = 'a' then up ['0', 'x'] else []
    { l with precision := none }.number (front negative ++ base)
      (up (Fraction.text kind l.alternate l.precision m e))

/-! ### Formats -/

/-- What `printf` has come to. -/
structure Printing where
  text : List Char := []
  arguments : List Octets
  /-- What the shell says about arguments. -/
  reports : List Octets := []
  /-- An argument has been asked for. -/
  used : Bool := false

namespace Printing

/-- Take the next argument, if there is one left. -/
def argument (p : Printing) : Option Octets × Printing :=
  (p.arguments.head?, { p with arguments := p.arguments.tail, used := true })

/-- Add text. -/
def add (p : Printing) (cs : List Char) : Printing := { p with text := p.text ++ cs }

/-- Add a report about an argument. -/
def report (p : Printing) (text : Octets) : Printing := { p with reports := p.reports ++ [text] }

/-- Report what is wrong with a number, of which `rest` could not be read. -/
def check (p : Printing) (s : Octets) (none : Bool) (rest : List Char) (tooBig : Bool) :
    Printing :=
  if rest ≠ [] then
    p.report (s ++ if none then ": expected numeric value" else ": not completely converted")
  else if tooBig then p.report (s ++ ": Numerical result out of range")
  else p

/-- Take the next argument as a whole number; it is 0 if there is none. -/
def integer (p : Printing) (signed : Bool) : Int × Printing :=
  match p.argument with
  | (none, p) => (0, p)
  | (some s, p) =>
    match s.toList with
    | '"' :: rest | '\'' :: rest => ((rest.headD '\x00').toNat, p)
    | cs =>
      match Arithmetic.number? s with
      | none => (0, p.check s true cs false)
      | some (v, rest) =>
        let low : Int := if signed then -0x8000000000000000 else -0xffffffffffffffff
        let high : Int := if signed then 0x7fffffffffffffff else 0xffffffffffffffff
        let w := if signed || (low ≤ v && v ≤ high) then max low (min v high) else high
        (w, p.check s false rest (v < low || v > high))

/-- Take the next argument as a number with a fraction, by `Fraction.read?`. -/
def fraction (p : Printing) : Fraction × Printing :=
  match p.argument with
  | (none, p) => (.finite false 0 0, p)
  | (some s, p) =>
    match s.toList with
    | '"' :: rest | '\'' :: rest => ((Fraction.ofQuotient false (rest.headD '\x00').toNat 1).1, p)
    | cs =>
      match Fraction.read? cs with
      | none => (.finite false 0 0, p.check s true cs false)
      | some ((v, tooBig), rest) => (v, p.check s false rest tooBig)

/-- The `Layout` that a conversion begins with, and what follows. -/
def layout (p : Printing) (cs : List Char) : Layout × List Char × Printing :=
  let flags := cs.takeWhile (· ∈ ['#', '-', '+', ' ', '0'])
  let cs := cs.drop flags.length
  let l : Layout :=
    { left := '-' ∈ flags, sign := '+' ∈ flags, space := ' ' ∈ flags, alternate := '#' ∈ flags,
      zeros := '0' ∈ flags }
  let number := fun (p : Printing) (cs : List Char) => match cs with
    | '*' :: cs =>
      let (v, p) := p.integer true
      (v, cs, p)
    | cs =>
      let ds := cs.takeWhile Char.isDigit
      ((Text.digitsFrom 0 ds : Int), cs.drop ds.length, p)
  let (width, cs, p) := number p cs
  let l := { l with width := width.natAbs, left := l.left || width < 0 }
  match cs with
  | '.' :: cs =>
    let (precision, cs, p) := number p cs
    ({ l with precision := if precision < 0 then none else some precision.toNat }, cs, p)
  | cs => (l, cs, p)

/-- Cut a text to the precision of a `Layout` and lay it out. -/
def put (p : Printing) (l : Layout) (cs : List Char) : Printing :=
  p.add (l.fill (match l.precision with
    | some n => cs.take n
    | none => cs))

/-- How printing goes on after a conversion, as `convert` tells. -/
inductive After where
  | more
  | stop
  | refused (text : Octets)

/-- Carry out one conversion, of the kind that its last character tells. -/
def convert (p : Printing) (l : Layout) (kind : Char) (source : List Char) : After × Printing :=
  if kind ∈ ['d', 'i', 'o', 'u', 'x', 'X'] then
    let (v, p) := p.integer (kind = 'd' || kind = 'i')
    (.more, p.add (l.integer kind v))
  else if kind = 's' then
    let (s, p) := p.argument
    (.more, p.put l (s.getD "").toList)
  else if kind = 'b' then
    let (s, p) := p.argument
    let cs := (s.getD "").toList
    let (text, stop) := unescape cs.length cs
    (if stop then .stop else .more, p.put l text)
  else if kind = 'c' then
    let (s, p) := p.argument
    (.more, p.add (l.fill [(s.getD "").toList.headD '\x00']))
  else if kind.toLower ∈ ['a', 'e', 'f', 'g'] then
    let (v, p) := p.fraction
    (.more, p.add (l.fraction kind v))
  else (.refused (String.ofList ('%' :: source ++ [kind]) ++ ": invalid directive"), p)

/-- Fill a format once, from its first character to its last. -/
def fill (n : Nat) (format : List Char) (p : Printing) : After × Printing :=
  match n, format with
  | 0, _ | _, [] => (.more, p)
  | n + 1, '\\' :: cs =>
    let (c, rest) := escape cs
    fill n rest (p.add [c])
  | n + 1, '%' :: '%' :: cs => fill n cs (p.add ['%'])
  | n + 1, '%' :: cs =>
    let (l, rest, p) := p.layout cs
    match rest with
    | [] => (.refused "missing format character", p)
    | kind :: rest' =>
      match p.convert l kind (cs.take (cs.length - rest.length)) with
      | (.more, p) => fill n rest' p
      | done => done
  | n + 1, c :: cs => fill n cs (p.add [c])

/-- Fill a format as often as there are arguments for it, and once if there are none. -/
def fillAll (n : Nat) (format : List Char) (p : Printing) : Option Octets × Printing :=
  match n with
  | 0 => (none, p)
  | n + 1 =>
    match fill format.length format { p with used := false } with
    | (.more, p) =>
      if p.used && !p.arguments.isEmpty then fillAll n format p else (none, p)
    | (.stop, p) => (none, p)
    | (.refused text, p) => (some text, p)

end Printing

/-- Fill a format with arguments, by `fillAll`: the text, the reports, and the error that stopped
    it. -/
def printf (format : Octets) (arguments : List Octets) : Option Octets × Printing :=
  Printing.fillAll (arguments.length + 1) format.toList { arguments }

end LineShell.Sh.Format
