import LineShell.Sh.Pattern

/-! # Fields

The expansion of a word gives pieces, and pieces make fields: text that comes out of an expansion is
cut where it holds separators, which are characters of the variable `IFS`.  Blanks among the
separators separate in any number, and go together with one other separator. -/

namespace LineShell.Sh

/-- A piece of an expanded word, of which `fields` makes fields. -/
inductive Piece where
  /-- Text that is not cut.  The characters of quoted text have no special meaning. -/
  | text (s : Octets) (quoted : Bool)
  /-- A character that may separate fields. -/
  | loose (c : Char)
  /-- There is a field here, even if nothing else is. -/
  | mark
  /-- An argument ends here, and the next one begins. -/
  | cut
  /-- Text begins here that may be cut. -/
  | seam
  /-- Quoted arguments begin here. -/
  | list
  deriving DecidableEq, Repr

namespace Piece

/-- The characters of text that may be cut, each a `loose` piece. -/
def looseChars (s : Octets) : List Piece := s.toList.map loose

/-- Text that may be cut, behind a `seam`. -/
def looseText (s : Octets) : List Piece := .seam :: looseChars s

/-- Text that an expansion gives, which may be cut if several fields may come out. -/
def expanded (quoted split : Bool) (s : Octets) : List Piece :=
  if quoted || !split then [text s quoted] else looseText s

/-- The text of pieces that make a single field. -/
def joined (ps : List Piece) : Octets :=
  ps.foldl (fun whole p => match p with
    | text s _ => whole ++ s
    | loose c => whole.push c
    | _ => whole) ""

/-- The characters of pieces that make a pattern. -/
def marked (ps : List Piece) : List Marked :=
  ps.flatMap fun p => match p with
    | text s quoted => s.toList.map (·, !quoted)
    | loose c => [(c, true)]
    | _ => []

end Piece

/-- A text, and whether its characters have their special meaning, as in `Marked`. -/
abbrev Span := Octets × Bool

/-- A field, from which `Glob` may make several paths. -/
abbrev Field := List Span

namespace Field

/-- The text of a field that stands for itself. -/
def text (f : Field) : Octets := String.join (f.map (·.1))

/-- The characters of a field that is a pattern. -/
def marked (f : Field) : List Marked := f.flatMap fun (s, active) => s.toList.map (·, active)

end Field

/-- Is the character one of the blanks that may be separators, and of which several in a row count
    as one? -/
def isIfsBlank (c : Char) : Bool := c == ' ' || c == '\t' || c == '\n'

/-- What the pieces at some place belong to, for `fieldsFrom`. -/
inductive Zone where
  /-- Text that is cut where it holds separators.  If it is `open_`, the field before has been ended
      by blanks, and one other separator may follow them. -/
  | loose (open_ : Bool)
  /-- Quoted arguments, each of which is a field. -/
  | list
  /-- Text right behind quoted arguments, in which each separator ends a field. -/
  | behind

/-- The zone when text has come that separates nothing. -/
def Zone.closed : Zone → Zone
  | loose _ => loose false
  | z => z

/-- The fields that pieces make, where one has begun with `current`, which is turned around. -/
def fieldsFrom (ifs : Octets) (current : Option Field) (zone : Zone) : List Piece → List Field
  | [] =>
    match zone with
    | .list => [(current.getD []).reverse]
    | _ => (current.map List.reverse).toList
  | .mark :: ps => fieldsFrom ifs (some (current.getD [])) zone.closed ps
  | .list :: ps => fieldsFrom ifs current .list ps
  | .seam :: ps =>
    match zone with
    | .list => fieldsFrom ifs current .behind ps
    | _ => fieldsFrom ifs current (.loose false) ps
  | .cut :: ps =>
    match zone, current with
    -- In text that is cut, the end of an argument separates like a blank.
    | .loose open_, none => fieldsFrom ifs none (.loose open_) ps
    | .loose _, some cs => cs.reverse :: fieldsFrom ifs none (.loose true) ps
    | zone, current => (current.getD []).reverse :: fieldsFrom ifs none zone ps
  | .text s quoted :: ps =>
    if s = "" then fieldsFrom ifs current zone ps
    else fieldsFrom ifs (some ((s, !quoted) :: current.getD [])) zone.closed ps
  | .loose c :: ps =>
    if ifs.toList.contains c then
      let blank := isIfsBlank c
      match zone, current with
      | .loose _, some cs => cs.reverse :: fieldsFrom ifs none (.loose blank) ps
      | .loose open_, none =>
        if blank then fieldsFrom ifs none (.loose open_) ps
        else if open_ then fieldsFrom ifs none (.loose false) ps
        else [] :: fieldsFrom ifs none (.loose false) ps
      | zone, current => (current.getD []).reverse :: fieldsFrom ifs none zone ps
    else fieldsFrom ifs (some ((String.singleton c, true) :: current.getD [])) zone.closed ps

/-- The fields that pieces make. -/
def fields (ifs : Octets) (ps : List Piece) : List Field := fieldsFrom ifs none (.loose false) ps

/-! ### Fields of a line -/

/-- The fields that a line makes, where one has begun with `current`, which is turned around, and
    `left` more may end.  The field after those takes all that is left: its text so far without the
    separators at its end is `short`, if it has any there.  With `open_` the field before has been
    ended by blanks, and one other separator may follow them.  A quoted character ends no field and
    is none of the separators at an end. -/
def lineFieldsFrom (ifs : Octets) (left : Nat) (current : List Char) (short : Option (List Char))
    (open_ : Bool) : List Piece → List Octets
  | [] =>
    let cs := (short.getD current).reverse
    if cs = [] then [] else [String.ofList cs]
  | .loose c :: ps =>
    let separates := ifs.toList.contains c
    let blank := separates && isIfsBlank c
    match left with
    | 0 =>
      if blank then lineFieldsFrom ifs 0 (c :: current) (some (short.getD current)) open_ ps
      else lineFieldsFrom ifs 0 (c :: current) (if separates && open_ then short else none) false ps
    | more + 1 =>
      if !separates then lineFieldsFrom ifs left (c :: current) none false ps
      else if open_ || (current = [] && blank) then
        lineFieldsFrom ifs left [] none (open_ && blank) ps
      else if more = 0 then lineFieldsFrom ifs 0 (c :: current) (some current) blank ps
      else String.ofList current.reverse :: lineFieldsFrom ifs more [] none blank ps
  | .text s _ :: ps => lineFieldsFrom ifs left (s.toList.reverse ++ current) short false ps
  | _ :: ps => lineFieldsFrom ifs left current short false ps

/-- Cut a line into at most `n` fields, the last of which takes all that is left, as `read` does for
    variables. -/
def lineFields (ifs : Octets) (n : Nat) (ps : List Piece) : List Octets :=
  lineFieldsFrom ifs n [] none false ps

end LineShell.Sh
