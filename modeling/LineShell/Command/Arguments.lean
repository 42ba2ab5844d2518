/-! # Arguments

The words that a command is called with.  Options begin with a dash and count up to a word `--`, and
so does a request for help; every other word is an operand.  A `Grammar` says what a command takes,
and `Grammar.read` goes through its words one by one: the first mistake counts, and help only if
there is none.

Reading arguments is not the affair of a command.  Commands are written against the class `Reader`,
which grants what they rely on: behind a `mark` in front all words are operands, and the first
operand for which there is no room is not recognised.  `Grammar.read` is the reader that the program
has.

* `Grammar.read_mark`   behind a mark in front all words are operands
* `Reader.read_mark`    the same for every reader -/

namespace LineShell.Arguments

/-- The word `--`, which ends the options. -/
def mark : String := "--"

/-- Why words are not taken. -/
inductive Stop where
  | help
  | unrecognized (word : String)
  | missingValue (option : String)
  | repeated (option value : String)
  | afterHelp
  deriving DecidableEq, Repr

namespace Stop

/-- What is said about words that are not taken.  Who asks for help is told the `usage` of the
    command. -/
def message (usage : String) : Stop → String
  | help => usage
  | unrecognized word => "Unrecognized argument: " ++ word ++ "\n"
  | missingValue option => "No value provided for option '" ++ option ++ "'.\n"
  | repeated option value =>
    "Error parsing option '" ++ option ++ "' with value '" ++ value ++
      "': duplicate values provided\n"
  | afterHelp => "Trailing arguments are not allowed after \x60help\x60."

/-- Is anything wrong with the words? To ask for help is no mistake. -/
def isMistake : Stop → Bool
  | help => false
  | unrecognized _ | missingValue _ | repeated _ _ | afterHelp => true

end Stop

/-- What a command takes, where a value of type `α` holds what its words have said so far. -/
structure Grammar (α : Type) where
  /-- How the command is used. -/
  usage : String := ""
  /-- What an option says that stands alone. -/
  switch? : String → Option (α → α) := fun _ => none
  /-- What an option says with the word behind it, if it is there for the first time. -/
  valued? : String → Option (String → α → Option α) := fun _ => none
  /-- What an operand says, if there is room for it. -/
  operand? : String → α → Option α := fun _ _ => none
  /-- Does the first operand end the options? -/
  greedy : Bool := false

namespace Grammar

variable {α : Type}

/-- What words say that are all operands, if `operand?` has room for all of them. -/
def operands? (g : Grammar α) (taken : α) (words : List String) : Option α :=
  words.foldlM (fun taken word => g.operand? word taken) taken

/-- Take a word as an operand; without room for it the word is `Stop.unrecognized`. -/
def takeOperand (g : Grammar α) (taken : α) (word : String) : Except Stop α :=
  match g.operand? word taken with
  | some taken => .ok taken
  | none => .error (.unrecognized word)

/-- Go through the rest of the words, where `help` may have been asked for, and the options may have
    `ended`. -/
def readFrom (g : Grammar α) (help ended : Bool) (taken : α) : List String → Except Stop α
  | [] => if help then .error .help else .ok taken
  | w :: ws =>
    if !ended && (w = "--help" || w = "help") then g.readFrom true ended taken ws
    else if !ended && w.toList.head? = some '-' then
      if w = mark then g.readFrom help true taken ws
      else if help then .error .afterHelp
      else
        match g.switch? w, g.valued? w with
        | some say, _ => g.readFrom help ended (say taken) ws
        | none, some say =>
          match ws with
          | [] => .error (.missingValue w)
          | value :: ws =>
            match say value taken with
            | some taken => g.readFrom help ended taken ws
            | none => .error (.repeated w value)
        | none, none => .error (.unrecognized w)
    else
      match g.takeOperand taken w with
      | .ok taken => g.readFrom help (ended || g.greedy) taken ws
      | .error stop => .error stop

/-- Read the words of a command, from a value that says nothing. -/
def read (g : Grammar α) (start : α) (words : List String) : Except Stop α :=
  g.readFrom false false start words

/-- Once the options have ended all words are operands, whatever they look like. -/
theorem readFrom_ended (g : Grammar α) (taken : α) (words : List String) :
    g.readFrom false true taken words = words.foldlM g.takeOperand taken := by
  induction words generalizing taken with
  | nil => rfl
  | cons w ws ih =>
    rw [readFrom, List.foldlM_cons]
    -- Neither help nor an option is looked for any more.
    simp only [Bool.not_true, Bool.false_and, Bool.false_eq_true, ↓reduceIte, Bool.true_or]
    cases g.takeOperand taken w with
    | error stop => rfl
    | ok taken => exact ih taken

/-- Behind a mark in front all words are operands. -/
theorem read_mark (g : Grammar α) (start : α) (words : List String) :
    g.read start (mark :: words) = words.foldlM g.takeOperand start := by
  rw [read, readFrom, if_neg (by decide), if_pos (by decide), if_pos rfl, readFrom_ended]

/-- Either `operands?` has room for all operands, or there is a first one for which there is
    none. -/
theorem operands?_cases (g : Grammar α) (start : α) (words : List String) :
    (∃ taken, g.operands? start words = some taken) ∨
      ∃ before word after taken, words = before ++ word :: after ∧
        g.operands? start before = some taken ∧ g.operand? word taken = none := by
  induction words generalizing start with
  | nil => exact .inl ⟨start, rfl⟩
  | cons word words ih =>
    cases hword : g.operand? word start with
    | none => exact .inr ⟨[], word, words, start, rfl, rfl, hword⟩
    | some next =>
      -- one operand more in front, for which there is room
      have hcons (words : List String) :
          g.operands? start (word :: words) = g.operands? next words := by
        rw [operands?, List.foldlM_cons, hword]
        rfl
      obtain ⟨taken, htaken⟩ | ⟨before, last, after, taken, rfl, htaken, hlast⟩ := ih next
      · exact .inl ⟨taken, (hcons words).trans htaken⟩
      · exact .inr ⟨word :: before, last, after, taken, rfl, (hcons before).trans htaken, hlast⟩

/-- Operands for which `operands?` has room are taken. -/
theorem foldlM_of_operands? {g : Grammar α} {start taken : α} {words : List String}
    (h : g.operands? start words = some taken) : words.foldlM g.takeOperand start = .ok taken := by
  induction words generalizing start with
  | nil =>
    obtain rfl := Option.some.inj h
    rfl
  | cons word words ih =>
    obtain ⟨next, hword, hwords⟩ := Option.bind_eq_some_iff.mp h
    have hroom : g.operand? word start = some next := hword
    have htake : g.takeOperand start word = .ok next := by rw [takeOperand, hroom]
    rw [List.foldlM_cons, htake]
    exact ih hwords

/-- The first operand for which `operand?` has no room is not recognised. -/
theorem foldlM_of_surplus {g : Grammar α} {start taken : α} {before : List String} {word : String}
    (h : g.operands? start before = some taken) (hword : g.operand? word taken = none)
    (after : List String) :
    (before ++ word :: after).foldlM g.takeOperand start = .error (.unrecognized word) := by
  have htake : g.takeOperand taken word = .error (.unrecognized word) := by rw [takeOperand, hword]
  rw [List.foldlM_append, foldlM_of_operands? h]
  show (word :: after).foldlM g.takeOperand taken = _
  rw [List.foldlM_cons, htake]
  rfl

end Grammar

/-- A reader of arguments.  How it finds options and what it does when it is asked for help is its
    own affair; a command relies on what it does behind a `mark` that stands in front. -/
class Reader where
  /-- Read the words of a command with a grammar, from a value that says nothing. -/
  read {α : Type} : Grammar α → α → List String → Except Stop α
  /-- Behind a mark no word is an option or asks for help: all of them are operands. -/
  operands {α : Type} {g : Grammar α} {start taken : α} {words : List String} :
    g.operands? start words = some taken → read g start (mark :: words) = .ok taken
  /-- Behind a mark the first operand for which there is no room is not recognised. -/
  surplus {α : Type} {g : Grammar α} {start taken : α} {before : List String} {word : String} :
    g.operands? start before = some taken → g.operand? word taken = none →
    ∀ after, read g start (mark :: (before ++ word :: after)) = .error (.unrecognized word)

/-- The reader that the program has: `Grammar.read`. -/
instance Grammar.reader : Reader where
  read := Grammar.read
  operands h := (read_mark _ _ _).trans (foldlM_of_operands? h)
  surplus h hword after := (read_mark _ _ _).trans (foldlM_of_surplus h hword after)

namespace Reader

variable {α : Type} [Reader]

/-- Behind a mark every reader takes operands one after the other. -/
theorem read_mark (g : Grammar α) (start : α) (words : List String) :
    read g start (mark :: words) = words.foldlM g.takeOperand start := by
  obtain ⟨taken, htaken⟩ | ⟨before, word, after, taken, rfl, htaken, hword⟩ :=
    g.operands?_cases start words
  · rw [operands htaken, Grammar.foldlM_of_operands? htaken]
  · rw [surplus htaken hword, Grammar.foldlM_of_surplus htaken hword]

end Reader

end LineShell.Arguments
