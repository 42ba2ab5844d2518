import LineShell.Proofs.Command.Deeds
import LineShell.Proofs.Shell.History

/-! # Turns on watched stages

A turn on a watched stage is the turn on the stage alone, and its events are taken down: those of
the command that its line runs, and then a flush unless a fault has ended the turn.

* `Course.cases_isSpawn`   a turn starts one child at most, right behind a flush that went well
* `Turn.watched`           the events of a turn are a course of the child that it asks for -/

namespace LineShell.Shell

/-- A line that is executed, and the shell that executes it. -/
structure Turn (σ : Type) where
  line : String
  sh : Shell σ

/-- A shell whose stage is `Watched`, after some events. -/
def watch {σ : Type} (sh : Shell σ) (events : List Event) : Shell (Watched σ) :=
  { scene := sh.scene.watch events, lastStatus := sh.lastStatus }

/-- The events of a turn: the `Deed` of its command, and then a flush unless a fault has ended
    it. -/
inductive Course : Option (String × Request) → Except Fault Status → List Event → Prop
  | broken {child : Option (String × Request)} {f : Fault} {deed : List Event}
      (h : Deed child (.error f) deed) : Course child (.error f) deed
  | concluded {child : Option (String × Request)} {status : Status} {deed : List Event}
      (made : Except Fault Unit) (h : Deed child (.ok status) deed) :
      Course child (made.map fun () => status) (deed ++ [.flush made])

namespace Course

variable {child : Option (String × Request)} {result : Except Fault Status} {events : List Event}

/-- Nobody is asked for a line in a turn. -/
theorem isRead_eq_false (h : Course child result events) : ∀ e ∈ events, e.isRead = false := by
  cases h with
  | broken hdeed => exact hdeed.isRead_eq_false
  | concluded made hdeed =>
    intro e he
    obtain he | he := List.mem_append.mp he
    · exact hdeed.isRead_eq_false e he
    · rw [List.mem_singleton.mp he]
      rfl

/-- A child is started right behind a flush that went well, and there is one child at most.  The
    result tells how the child went, as `Reported` says, and is the fault of a lost child. -/
theorem cases_isSpawn (h : Course child result events) :
    (∀ e ∈ events, e.isSpawn = false) ∨ ∃ name r outcome rest, child = some (name, r) ∧
      events = .flush (.ok ()) :: .spawn r outcome :: rest ∧ (∀ e ∈ rest, e.isSpawn = false) ∧
      (∀ status, result = .ok status →
        Reported name outcome status (String.join (events.map Event.text))) ∧
      ∀ f, outcome = .error f → result = .error f := by
  cases h with
  | broken hdeed =>
    obtain hnone | ⟨name, r, outcome, talk, hchild, rfl, htalk, -, hlost⟩ := hdeed.cases_isSpawn
    · exact .inl hnone
    · refine .inr ⟨name, r, outcome, talk, hchild, rfl, htalk, fun status hstatus => ?_, hlost⟩
      cases hstatus
  | concluded made hdeed =>
    have hflush : ∀ e ∈ [Event.flush made], e.isSpawn = false := by simp [Event.isSpawn]
    have happend {es : List Event} (hes : ∀ e ∈ es, e.isSpawn = false) :
        ∀ e ∈ es ++ [.flush made], e.isSpawn = false :=
      fun e he => (List.mem_append.mp he).elim (hes e) (hflush e)
    obtain hnone | ⟨name, r, outcome, talk, hchild, rfl, htalk, hreported, hlost⟩ :=
      hdeed.cases_isSpawn
    · exact .inl (happend hnone)
    · refine .inr ⟨name, r, outcome, talk ++ [.flush made], hchild, rfl, happend htalk, ?_, ?_⟩
      · intro status hstatus
        rcases made with f | ⟨⟩
        · cases hstatus
        · simpa [Event.text] using hreported status hstatus
      · -- a command whose child is lost has no status, so nothing comes behind it
        intro f hf
        cases hlost f hf

/-- What asks for a child begins with a flush, and starts the child at once if that goes well. -/
theorem flushed {name : String} {r : Request} (h : Course (some (name, r)) result events) :
    (∃ f, events = [.flush (.error f)] ∧ result = .error f) ∨
      ∃ outcome rest, events = .flush (.ok ()) :: .spawn r outcome :: rest := by
  cases h with
  | broken hdeed => exact hdeed.flushed
  | concluded made hdeed =>
    obtain ⟨f, -, hresult⟩ | ⟨outcome, rest, rfl⟩ := hdeed.flushed
    · cases hresult
    · exact .inr ⟨outcome, rest ++ [.flush made], rfl⟩

/-- The fault that ends a turn is that of a write, of a flush or of a lost child: some event
    `HasFault`. -/
theorem fault {f : Fault} (h : Course child result events) (hresult : result = .error f) :
    ∃ e ∈ events, e.HasFault f := by
  cases h with
  | broken hdeed =>
    obtain rfl := Except.error.inj hresult
    exact hdeed.fault
  | concluded made hdeed =>
    refine ⟨.flush made, by simp, ?_⟩
    rcases made with f' | ⟨⟩
    · obtain rfl := Except.error.inj hresult
      rfl
    · cases hresult

/-- A turn that no fault has ended ends with a flush that went well. -/
theorem settled {status : Status} (h : Course child result events) (hresult : result = .ok status) :
    ∃ before, events = before ++ [.flush (.ok ())] := by
  cases h with
  | broken hdeed => cases hresult
  | concluded made hdeed =>
    rcases made with f | ⟨⟩
    · cases hresult
    · exact ⟨_, rfl⟩

end Course

section Turn

variable {σ : Type} [Console σ]

/-- Concluding a turn makes a `Course` of its deed: a flush behind it, unless a fault has ended the
    turn. -/
theorem conclude_watched {child : Option (String × Request)}
    {turn : Except Fault Status × Shell σ} {deed : List Event} (h : Deed child turn.1 deed) :
    ∃ new, Course child (conclude turn).1 new ∧
      ∀ events, conclude (turn.1, turn.2.watch (events ++ deed)) =
        ((conclude turn).1, (conclude turn).2.watch (events ++ new)) := by
  obtain ⟨f | status, sh⟩ := turn
  · exact ⟨deed, .broken h, fun _ => rfl⟩
  · refine ⟨deed ++ [.flush (Console.flush sh.scene.stage).1], ?_, fun events => ?_⟩
    · have hcourse := Course.concluded (Console.flush sh.scene.stage).1 h
      rw [conclude]
      -- The flush is the last event whether it went well or not.
      rcases hmade : Console.flush sh.scene.stage with ⟨f | ⟨⟩, stage⟩
      · rw [hmade] at hcourse
        exact hcourse
      · rw [hmade] at hcourse
        exact hcourse
    · -- the watched console is flushed as the console is, and one event is added
      have hwatched : Console.flush (sh.watch (events ++ deed)).scene.stage =
          ((Console.flush sh.scene.stage).1, ⟨(Console.flush sh.scene.stage).2,
            (events ++ deed) ++ [.flush (Console.flush sh.scene.stage).1]⟩) := rfl
      rw [conclude, conclude, hwatched, List.append_assoc]
      rcases Console.flush sh.scene.stage with ⟨f | ⟨⟩, stage⟩ <;> rfl

variable [Machine σ]

namespace Turn

/-- What a turn ends with. -/
def result (t : Turn σ) : Except Fault Status := (execute Table.standard t.line t.sh).1

/-- The shell that a turn leaves. -/
def after (t : Turn σ) : Shell σ := (execute Table.standard t.line t.sh).2

/-- What happens in a turn, which is seen when it is taken on a stage that is `Watched`. -/
def events (t : Turn σ) : List Event :=
  (execute Table.standard t.line (t.sh.watch [])).2.scene.stage.events

/-- The machine on which a turn looks for its command, behind the note of its words. -/
def place (t : Turn σ) : σ := (Call.execute t.line).stage t.sh.scene.stage

/-- The child that a turn asks for, beside the name that asks for it. -/
def child? (t : Turn σ) : Option (String × Request) :=
  match Words.words? t.line with
  | .ok (name :: operands) => t.sh.scene.session.child? t.place name operands
  | _ => none

end Turn

/-- Obeying a line leaves the `Deed` of its command behind. -/
theorem obey_watched (t : Turn σ) (hknows : t.sh.scene.session.KnowsBuiltins) :
    ∃ new, Deed t.child? (obey Table.standard t.line t.sh).1 new ∧
      ∀ events, obey Table.standard t.line (t.sh.watch events) =
        ((obey Table.standard t.line t.sh).1,
          (obey Table.standard t.line t.sh).2.watch (events ++ new)) := by
  obtain ⟨line, sh⟩ := t
  unfold Turn.child? obey
  rcases hline : Words.words? line with e | words
  · -- an unclosed quote: the message is written, and no child is asked for
    refine ⟨Console.putEvents [e.message, "\n"] sh.scene.stage, .talked (.say _ _ _),
      fun events => ?_⟩
    simp only [watch, Scene.watch, Console.putAll_watched]
    rfl
  · cases words with
    | nil => exact ⟨[], .talked ⟨by simp, by simp⟩, fun events => by rw [List.append_nil]; rfl⟩
    | cons name operands =>
      -- To note the words leaves the session alone, so it still knows its builtins.
      have hnoted : (sh.note (.words line (name :: operands))).scene.session.KnowsBuiltins := hknows
      obtain ⟨new, hmirrors, hdeed⟩ := Table.run_watched name operands hnoted
      refine ⟨new, ?_, fun events => ?_⟩
      · simp only [Turn.place, Call.stage, hline]
        exact hdeed
      · simp only [run]
        have hrun := hmirrors events
        rw [show ((sh.watch events).note (.words line (name :: operands))).scene =
          (sh.note (.words line (name :: operands))).scene.watch events from rfl, hrun]
        rfl

/-- A turn on a stage that is `Watched` is the turn on the stage alone, with its events taken down,
    and these are a `Course` of the child that it asks for. -/
theorem Turn.watched (t : Turn σ) (hknows : t.sh.scene.session.KnowsBuiltins) :
    Course t.child? t.result t.events ∧
      ∀ events, execute Table.standard t.line (t.sh.watch events) =
        (t.result, t.after.watch (events ++ t.events)) := by
  obtain ⟨deed, hdeed, hobey⟩ := obey_watched t hknows
  obtain ⟨new, hcourse, hconclude⟩ := conclude_watched hdeed
  have hturn (events : List Event) : execute Table.standard t.line (t.sh.watch events) =
      (t.result, t.after.watch (events ++ new)) := by
    rw [execute_eq, hobey, hconclude, result, after, execute_eq]
  -- What the turn does behind any events it does behind none.
  obtain rfl : t.events = new := by
    rw [Turn.events, hturn]
    rfl
  refine ⟨?_, hturn⟩
  rw [result, execute_eq]
  exact hcourse

end Turn

end LineShell.Shell
