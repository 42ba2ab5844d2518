import LineShell.Command.Basic

/-! # Canned commands

A canned command announces itself and ends as it was set up to, whatever it is called with.  A table
of them shows which factory a name goes to. -/

namespace LineShell

/-- The set-up of a canned command. -/
structure Canned where
  /-- What the command calls itself. -/
  id : String
  /-- The name that it answers to; `*` answers to every name. -/
  name : String
  /-- The name that it has among the builtins. -/
  builtin : Option String := none
  status : Status := 0
  /-- The exit that it asks for. -/
  exit : Option Status := none
  /-- The fault that it ends with. -/
  failure : Option String := none
  deriving DecidableEq, Repr

namespace Canned

variable {σ : Type} [Console σ]

/-- Announce the call, then fail, ask for the exit and end as set up. -/
def execute (c : Canned) (call : List String) : Act σ Status := do
  Act.say [c.id, ": ", "|".intercalate call, "\n"]
  if let some text := c.failure then throw (.command text)
  if let some status := c.exit then
    modify fun scene => { scene with session.pendingExit := some status }
  return c.status

/-- The factory of a canned command, which answers to its `name`. -/
def factory (c : Canned) : Factory σ where
  builtinName := c.builtin
  create? _ _ name words :=
    if c.name = name ∨ c.name = "*" then some { execute := c.execute (name :: words) } else none

end Canned

end LineShell
