import LineShell.Sh.Arithmetic

/-! # Numbers with a fraction

A number with a fraction is kept as `m · 2 ^ e`, where `m` has at most 53 binary digits and `e` is
at least -1074; what lies between two such numbers is rounded to the nearer one.  Here such numbers
are read, and their digits found. -/

namespace LineShell.Sh

/-! ### Rounding -/

/-- The whole number nearest to a quotient; a half goes to the even neighbour. -/
def nearest (num den : Nat) : Nat :=
  if 2 * (num % den) > den ∨ (2 * (num % den) = den ∧ num / den % 2 = 1) then num / den + 1
  else num / den

/-- A quotient times `base` to the power of `e`, as a numerator and a denominator. -/
def scaled (base : Nat) (e : Int) (num den : Nat) : Nat × Nat :=
  (num * base.pow e.toNat, den * base.pow (-e).toNat)

/-- A number with a fraction, as `ofQuotient` rounds it. -/
inductive Fraction where
  /-- The number `m · 2 ^ e`. -/
  | finite (negative : Bool) (m : Nat) (e : Int)
  | infinite (negative : Bool)
  /-- What is no number. -/
  | unknown (negative : Bool)
  deriving DecidableEq, Repr

namespace Fraction

/-- The number `nearest` to a quotient, and whether it is out of range. -/
def ofQuotient (negative : Bool) (num den : Nat) : Fraction × Bool :=
  if num = 0 then (finite negative 0 0, false)
  else
    let b : Int := (num.log2 : Int) - den.log2
    let (n, d) := scaled 2 (-b) num den
    -- The quotient lies between the powers with the exponents `b` and `b + 1`.
    let b := if n < d then b - 1 else b
    let e := max (b - 52) (-1074)
    let (n, d) := scaled 2 (-e) num den
    let m := nearest n d
    if e > 971 || (e == 971 && m ≥ 0x20000000000000) then (infinite negative, true)
    else (finite negative m e, b < -1022 && n % d ≠ 0)

/-! ### Reading -/

/-- Digits with a point somewhere among or around them, how many stand after it, and what
    follows. -/
def pointed (base : Nat) (cs : List Char) : List Char × Nat × List Char :=
  let whole := cs.takeWhile (Arithmetic.isDigitOf base)
  match cs.drop whole.length with
  | '.' :: rest =>
    let places := rest.takeWhile (Arithmetic.isDigitOf base)
    (whole ++ places, places.length, rest.drop places.length)
  | rest => (whole, 0, rest)

/-- An exponent behind its `mark`, `e` or `p`, and what follows. -/
def exponent (mark : Char) (cs : List Char) : Int × List Char :=
  let given := fun (sign : Int) (ds rest : List Char) =>
    let ds' := ds.takeWhile Char.isDigit
    if ds' = [] then (0, rest) else (sign * Text.digitsFrom 0 ds', ds.drop ds'.length)
  match cs with
  | c :: '-' :: ds => if c.toLower = mark then given (-1) ds cs else (0, cs)
  | c :: '+' :: ds => if c.toLower = mark then given 1 ds cs else (0, cs)
  | c :: ds => if c.toLower = mark then given 1 ds cs else (0, cs)
  | [] => (0, [])

/-- The number that digits to a base write, `places` of them after the point, with a power of
    `power` behind them, of which each digit takes `step`. -/
def ofDigits (negative : Bool) (base power step : Nat) (ds : List Char) (places : Nat) (x : Int) :
    Fraction × Bool :=
  let ds := ds.dropWhile (· = '0')
  let e := x - step * places
  let size := step * ds.length + e
  if ds = [] then (finite negative 0 0, false)
  else if size > 1100 then (infinite negative, true)
  else if size < -1100 then (finite negative 0 0, true)
  else
    let n := ds.foldl (fun n d => n * base + Arithmetic.digitValue d) 0
    let (num, den) := scaled power e n 1
    ofQuotient negative num den

/-- A number at the front of a text, after blanks and a sign, whether it is out of range, and what
    follows; `none` if there is no number. -/
def read? (cs : List Char) : Option ((Fraction × Bool) × List Char) :=
  let (negative, cs) := Arithmetic.signed cs
  let lower := cs.map Char.toLower
  let hexadecimal := match cs with
    | '0' :: x :: rest => if x.toLower = 'x' then pointed 16 rest else ([], 0, [])
    | _ => ([], 0, [])
  if "infinity".toList.isPrefixOf lower then some ((infinite negative, false), cs.drop 8)
  else if "inf".toList.isPrefixOf lower then some ((infinite negative, false), cs.drop 3)
  else if "nan".toList.isPrefixOf lower then
    let rest := cs.drop 3
    let inner := (rest.drop 1).takeWhile fun c => c.isAlphanum || c = '_'
    let named := rest.head? == some '(' && (rest.drop (inner.length + 1)).head? == some ')'
    some ((unknown negative, false), if named then rest.drop (inner.length + 2) else rest)
  else match hexadecimal with
    | (d :: ds, places, rest) =>
      let (x, rest) := exponent 'p' rest
      some (ofDigits negative 16 2 4 (d :: ds) places x, rest)
    | _ => match pointed 10 cs with
      | ([], _, _) => none
      | (ds, places, rest) =>
        let (x, rest) := exponent 'e' rest
        some (ofDigits negative 10 10 1 ds places x, rest)

/-! ### Digits -/

/-- Digits to `base` with zeros in front of them, so that there are at least `count`. -/
def padded (base count n : Nat) : List Char :=
  let ds := Nat.toDigits base n
  List.replicate (count - ds.length) '0' ++ ds

/-- Digits with a point behind the first ones, which is left out where it stands at the end, unless
    it is to be `kept`. -/
def withPoint (kept : Bool) (whole : Nat) (ds : List Char) : List Char :=
  let places := ds.drop whole
  ds.take whole ++ (if places = [] && !kept then [] else '.' :: places)

/-- A quotient with so many places, rounded by `nearest`. -/
def fixed (kept : Bool) (places num den : Nat) : List Char :=
  let ds := padded 10 (places + 1) (nearest (num * Nat.pow 10 places) den)
  withPoint kept (ds.length - places) ds

/-- The digits of a quotient, one and `places` more, and the power of ten that the first stands
    for. -/
def significant (places num den : Nat) : List Char × Int :=
  if num = 0 then (List.replicate (places + 1) '0', 0)
  else
    let k : Int := ((Nat.toDigits 10 num).length : Int) - (Nat.toDigits 10 den).length
    let (n, d) := scaled 10 (-k) num den
    -- The quotient lies between the powers with the exponents `k` and `k + 1`.
    let k := if n < d then k - 1 else k
    let (n, d) := scaled 10 (places - k) num den
    let q := nearest n d
    let top := Nat.pow 10 (places + 1)
    if q < top then (Nat.toDigits 10 q, k) else (Nat.toDigits 10 (top / 10), k + 1)

/-- An exponent with its sign and at least so many digits, as in `e+07`. -/
def exponentText (mark : Char) (count : Nat) (x : Int) : List Char :=
  mark :: (if x < 0 then '-' else '+') :: padded 10 count x.natAbs

/-- A text without the zeros at the end of its places, and without a point at its end. -/
def trimmed (cs : List Char) : List Char :=
  if '.' ∈ cs then
    match cs.reverse.dropWhile (· = '0') with
    | '.' :: rest => rest.reverse
    | rest => rest.reverse
  else cs

/-- The number `m · 2 ^ e` in hexadecimal, with so many places or with all that it takes, as in
    `0x1.8p+1`. -/
def hexadecimal (kept : Bool) (places : Option Nat) (m : Nat) (e : Int) : List Char :=
  let (m, e) := if m ≥ 0x20000000000000 then (m / 2, e + 1) else (m, e)
  let p := places.getD 13
  let q := if p < 13 then nearest m (Nat.pow 16 (13 - p)) else m * Nat.pow 16 (p - 13)
  let ds := padded 16 (p + 1) q
  let fraction := ds.drop 1
  let fraction := if places.isSome then fraction
    else (fraction.reverse.dropWhile (· = '0')).reverse
  withPoint kept 1 (ds.take 1 ++ fraction) ++ exponentText 'p' 1 (if m = 0 then 0 else e + 52)

/-- The number `m · 2 ^ e` as a conversion asks, without its sign.  The general conversion `g` takes
    the shorter of two forms. -/
def text (kind : Char) (kept : Bool) (places : Option Nat) (m : Nat) (e : Int) : List Char :=
  let (num, den) := scaled 2 e m 1
  let p := places.getD 6
  let scientific := fun (kept : Bool) (places : Nat) =>
    let (ds, k) := significant places num den
    (withPoint kept 1 ds, exponentText 'e' 2 k)
  match kind with
  | 'f' => fixed kept p num den
  | 'e' => (scientific kept p).1 ++ (scientific kept p).2
  | 'g' =>
    let p := max p 1
    let k := (significant (p - 1) num den).2
    let shorten := fun cs : List Char => if kept then cs else trimmed cs
    if -4 ≤ k && k < p then shorten (fixed kept (p - 1 - k).toNat num den)
    else shorten (scientific kept (p - 1)).1 ++ (scientific kept (p - 1)).2
  | _ => hexadecimal kept places m e

end Fraction

end LineShell.Sh
