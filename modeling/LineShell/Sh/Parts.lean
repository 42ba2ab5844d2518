import LineShell.Sh.Pattern

/-! # Parts of texts that match

How a text is matched, going through it once: after each of its characters it is known what may be
left of the pattern.  So all fronts of a text that match come out together, and the ends too, as
they are the fronts of the text turned around. -/

namespace LineShell.Sh.Pattern

/-- What may be left of a pattern after a character: `.many` may stay or not. -/
def after (c : Char) : List Atom → List (List Atom)
  | [] => []
  | .many :: p => (.many :: p) :: after c p
  | a :: p => if a.accepts c then [p] else []

/-- Does the pattern match the empty text? Only `.many` does. -/
def isEmpty (p : List Atom) : Bool := p.all (· == .many)

/-- What may be left of some patterns after a character, by `after`. -/
def step (ps : List (List Atom)) (c : Char) : List (List Atom) := (ps.flatMap (after c)).eraseDups

/-- Does the pattern match the whole text? `step` for each character leaves one that `isEmpty`
    then. -/
def accepts (p : List Atom) (cs : List Char) : Bool := (cs.foldl step [p]).any isEmpty

/-- The sizes of the fronts of a text that one of some patterns matches, in order, each with `k`
    more. -/
def frontSizesFrom (k : Nat) (ps : List (List Atom)) : List Char → List Nat
  | [] => if ps.any isEmpty then [k] else []
  | c :: cs =>
    let more := if ps.isEmpty then [] else frontSizesFrom (k + 1) (step ps c) cs
    if ps.any isEmpty then k :: more else more

/-- The sizes of the fronts of a text that the pattern matches, in order, by `frontSizesFrom`. -/
def frontSizes (p : List Atom) (cs : List Char) : List Nat := frontSizesFrom 0 [p] cs

/-- The least size of a front of a text that one of some patterns matches, with `k` more. -/
def leastFrontFrom? (k : Nat) (ps : List (List Atom)) : List Char → Option Nat
  | [] => if ps.any isEmpty then some k else none
  | c :: cs =>
    if ps.any isEmpty then some k
    else if ps.isEmpty then none
    else leastFrontFrom? (k + 1) (step ps c) cs

/-- The least of `frontSizes`, if there is one. -/
def leastFront? (p : List Atom) (cs : List Char) : Option Nat := leastFrontFrom? 0 [p] cs

/-- The greatest of `frontSizes`, if there is one. -/
def greatestFront? (p : List Atom) (cs : List Char) : Option Nat := (frontSizes p cs).getLast?

/-- The least size of an end of a text that the pattern matches: `leastFront?` of all turned
    around. -/
def leastEnd? (p : List Atom) (cs : List Char) : Option Nat := leastFront? p.reverse cs.reverse

/-- The greatest size of an end of a text that the pattern matches: `greatestFront?` of all turned
    around. -/
def greatestEnd? (p : List Atom) (cs : List Char) : Option Nat :=
  greatestFront? p.reverse cs.reverse

/-! ### Trimming

What is trimmed may be several texts that stay apart.  A match looks at one of them at a time; what
is taken off in front of a match, or behind it, goes on over their bounds. -/

/-- Texts, the last of them first, without `count` characters at their end; a bound between two
    counts as one. -/
def dropLast (count : Nat) : List Octets → List Octets
  | [] => []
  | t :: ts =>
    if count ≤ t.length then Octets.front t (t.length - count) :: ts
    else dropLast (count - t.length - 1) ts

/-- The last `count` characters of texts, the last of which comes first; a bound between two counts
    as one. -/
def takeLast (count : Nat) : List Octets → List Octets
  | [] => []
  | t :: ts =>
    if count ≤ t.length then [Octets.rest t (t.length - count)]
    else t :: takeLast (count - t.length - 1) ts

/-- Texts, the last of them first, without the shortest end that matches of the last one that has
    one, and without what follows it. -/
def trimLast? (p : List Atom) : List Octets → Option (List Octets)
  | [] => none
  | t :: ts =>
    match leastEnd? p t.toList with
    | some size => some (Octets.front t (t.length - size) :: ts)
    | none => trimLast? p ts

/-- Texts without the shortest or longest part that matches, at their end or at their beginning, as
    `%`, `%%`, `#` and `##` ask.  Where the first of several quoted texts holds a guarded character,
    a search that begins at the end goes through that first one, and what it finds is moved to the
    end of all. -/
def trim (p : List Atom) (atEnd longest quoted : Bool) : List Octets → List Octets
  | [] => []
  | first :: rest =>
    let texts := first :: rest
    let guarded := quoted && !rest.isEmpty && first.any isGuarded
    let trimmed? := match atEnd, longest with
      | false, false =>
        (leastFront? p first.toList).map fun size => Octets.rest first size :: rest
      | false, true => (greatestFront? p first.toList).map fun size =>
        if guarded then (takeLast (first.length - size) texts.reverse).reverse
        else if size = first.length then [""]
        else Octets.rest first size :: rest
      | true, false =>
        if guarded then
          (leastEnd? p first.toList).map fun size => (dropLast size texts.reverse).reverse
        else (trimLast? p texts.reverse).map List.reverse
      | true, true => (greatestEnd? p first.toList).map fun size =>
        [Octets.front first (first.length - size)]
    trimmed?.getD texts

end LineShell.Sh.Pattern
