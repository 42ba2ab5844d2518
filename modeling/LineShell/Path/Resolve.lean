import LineShell.Path.Basic

/-! # Lexical resolution

`resolve? base target` is where a walk along `target` ends when it begins at `base`, by the text of
the two alone: `..` takes back the last component of the text, whatever links the file tree
holds.  A walk that climbs above the root has no end. -/

namespace LineShell.Path

/-- One step of the walk from `at_`; there is none `up` from the root. -/
def advance? (at_ : String) : Component → Option String
  | .root => some (join at_ "/")
  | .here => some at_
  | .up => parent? at_
  | .entry name => some (join at_ name)

/-- The end of the walk along `target` from `base`; an absolute `target` forgets `base`. -/
def resolve? (base target : String) : Option String :=
  (components target).foldlM advance? (if isAbsolute target then "" else base)

end LineShell.Path
