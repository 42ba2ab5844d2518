import LineShell.Text.Octets

/-! # Commands of the standard shell

The modules under `LineShell.Sh` are the machine's own shell, `/bin/sh`, which is a program for
children: a file that begins with `#!/bin/sh`, and one that is no image of a program, is run by it.  The
line shell starts such a child with `Machine.spawn` and learns how it ends; nothing that is proved
about the line shell depends on what the child does in between.

Here is the command language of the scripts: words with their expansions, simple commands with
assignments and redirections, pipelines and lists, and the compound commands. -/

namespace LineShell.Sh

/-- What a redirection does with its word: `<`, `>`, `>>`, `>|`, `<>` or `>&`. -/
inductive RedirectKind where
  | read
  | write
  /-- Write even where files are not to be overwritten. -/
  | overwrite
  | append
  | update
  /-- Make a number stand for the open file of another one. -/
  | duplicate
  deriving DecidableEq, Repr

mutual

/-- A part of a word.  A quoted part is never cut into several words by `fields`. -/
inductive Part where
  | text (s : Octets) (quoted : Bool)
  /-- Quotes stood here, so that there is a word even if nothing else is. -/
  | mark
  | parameter (name : Octets) (quoted : Bool) (operation : Operation)
  /-- What a command prints. -/
  | output (quoted : Bool) (body : Command)
  /-- The value of an arithmetic expression. -/
  | arithmetic (quoted : Bool) (expression : List Part)

/-- What is done with the value of a parameter in `${…}`.  A parameter counts as set if it has a
    value, or with `empty` if the value is not empty. -/
inductive Operation where
  | value
  | length
  /-- The word if the parameter is not set. -/
  | otherwise (empty : Bool) (word : List Part)
  /-- The word, which is assigned, if the parameter is not set. -/
  | assign (empty : Bool) (word : List Part)
  /-- An error with the word as its text if the parameter is not set. -/
  | demand (empty : Bool) (word : List Part)
  /-- The word if the parameter is set. -/
  | whenSet (empty : Bool) (word : List Part)
  /-- The value without a part that a pattern matches, at its end or at its beginning. -/
  | trim (atEnd longest : Bool) (pattern : List Part)
  /-- There is no such operation, which shows when the word is expanded. -/
  | bad

/-- A redirection, with a word that is still to be expanded. -/
inductive Redirect where
  | file (fd : Nat) (kind : RedirectKind) (word : List Part)
  /-- Read a text that follows in the script, known by its number. -/
  | document (fd : Nat) (number : Nat)

/-- A command, as `Line.next` reads it. -/
inductive Command where
  | simple (line : Nat) (assignments : List (Octets × List Part)) (words : List (List Part))
      (redirects : List Redirect)
  | pipeline (commands : List Command)
  | background (c : Command)
  | negate (c : Command)
  | both (a b : Command)
  | either (a b : Command)
  | sequence (cs : List Command)
  | subshell (line : Nat) (c : Command) (redirects : List Redirect)
  | branch (test yes : Command) (no : Option Command)
  /-- Repeat while the test succeeds (or fails, if `expected` is not set). -/
  | loop (expected : Bool) (test body : Command)
  /-- Once for each word. -/
  | each (line : Nat) (name : Octets) (words : List (List Part)) (body : Command)
  /-- The first case that has a matching pattern. -/
  | choice (line : Nat) (subject : List Part) (cases : List (List (List Part) × Command))
  /-- Make a function. -/
  | define (name : Octets) (body : Command)
  | redirected (line : Nat) (c : Command) (redirects : List Redirect)

end

instance : Inhabited Command := ⟨.sequence []⟩

end LineShell.Sh
