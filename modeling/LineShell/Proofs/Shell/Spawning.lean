import LineShell.Console.Sink
import LineShell.Machine.Catalog
import LineShell.Proofs.Shell.Course

/-! # How children are started

Whole runs of the shell on a watched stage show when it starts a child and with what.  A turn starts
one child at most, right behind a flush that went well, and only for a name that is no builtin and
means a file; and no line is asked for while something written is held back.

* `Turn.disciplined`       what the events of a turn say about its child
* `loop_watched`           the events of the loop are those of its turns, and they are in good order
* `spawn_discipline`       the same for a run of the shell
* `child_without_status`   a turn has no status if it cannot wait for its child -/

namespace LineShell.Shell

/-! ### What the events of a turn say about its child -/

section Turn

variable {σ : Type} [Console σ] [Machine σ]

/-- A turn asks for the file that a name means which is no builtin, and its `Request` is told by the
    session. -/
theorem Turn.child?_eq_some {t : Turn σ} {name : String} {r : Request} :
    t.child? = some (name, r) ↔
      Words.words? t.line = .ok (name :: r.arguments) ∧
        t.sh.scene.session.isBuiltin name = false ∧
        Lookup.command? t.place t.sh.scene.session.searchPath t.sh.scene.session.dir
          (Octets.ofText name) = some r.program ∧
        r.environment = t.sh.scene.session.vars ∧ r.directory = t.sh.scene.session.dir := by
  obtain ⟨program, arguments, environment, directory⟩ := r
  unfold child?
  rcases hline : Words.words? t.line with e | words
  · simp
  · cases words with
    | nil => simp
    | cons first operands =>
      simp only [Session.child?_eq_some, External.request, Request.mk.injEq, Except.ok.injEq,
        List.cons.injEq]
      constructor
      · rintro ⟨hbuiltin, rfl, path, hfile, rfl, rfl, rfl, rfl⟩
        exact ⟨⟨rfl, rfl⟩, hbuiltin, hfile, rfl, rfl⟩
      · rintro ⟨⟨rfl, rfl⟩, hbuiltin, hfile, rfl, rfl⟩
        exact ⟨hbuiltin, rfl, program, hfile, rfl, rfl, rfl, rfl⟩

/-- The good order of a turn in an environment `vars`. -/
structure Turn.Disciplined (vars : List (String × String)) (t : Turn σ) : Prop where
  /-- A turn starts one child at most. -/
  once : t.events.countP Event.isSpawn ≤ 1
  /-- The first word of the line is no builtin and means the program of the child, the other words
      are its arguments, and it starts with the environment and in the directory of the shell.  How
      it went tells the status of the turn. -/
  child : ∀ r outcome, .spawn r outcome ∈ t.events →
    ∃ name, Words.words? t.line = .ok (name :: r.arguments) ∧
      t.sh.scene.session.isBuiltin name = false ∧
      Lookup.command? t.place t.sh.scene.session.searchPath t.sh.scene.session.dir
        (Octets.ofText name) = some r.program ∧
      r.environment = vars ∧ r.directory = t.sh.scene.session.dir ∧
      ∀ status, t.result = .ok status →
        Reported name outcome status (String.join (t.events.map Event.text))
  /-- If the child is lost the turn has no status: it ends with the fault `f` for which waiting for the
      child has failed. -/
  lost : ∀ r f, .spawn r (.error f) ∈ t.events → t.result = .error f
  /-- A line that asks for a child begins with a flush.  If it fails that is all, and otherwise the
      child is started at once. -/
  flushed : ∀ name operands path, Words.words? t.line = .ok (name :: operands) →
    t.sh.scene.session.isBuiltin name = false →
    Lookup.command? t.place t.sh.scene.session.searchPath t.sh.scene.session.dir
      (Octets.ofText name) = some path →
    (∃ f, t.events = [.flush (.error f)] ∧ t.result = .error f) ∨
      ∃ outcome rest, t.events = .flush (.ok ()) ::
        .spawn ⟨path, operands, vars, t.sh.scene.session.dir⟩ outcome :: rest
  /-- The fault that ends a turn is that of a write, of a flush or of a lost child. -/
  fault : ∀ f, t.result = .error f → ∃ e ∈ t.events, e.HasFault f
  /-- Otherwise a turn ends with a flush that went well. -/
  settled : ∀ status, t.result = .ok status → ∃ before, t.events = before ++ [.flush (.ok ())]

/-- Every turn is `Disciplined` in the environment of its session. -/
theorem Turn.disciplined (t : Turn σ) (hknows : t.sh.scene.session.KnowsBuiltins) :
    t.Disciplined t.sh.scene.session.vars := by
  obtain ⟨hcourse, -⟩ := t.watched hknows
  -- what the one child of the turn is, and how it tells the result
  have hspawned : ∀ r outcome, .spawn r outcome ∈ t.events →
      ∃ name, t.child? = some (name, r) ∧
        (∀ status, t.result = .ok status →
          Reported name outcome status (String.join (t.events.map Event.text))) ∧
        ∀ f, outcome = .error f → t.result = .error f := by
    intro r outcome hmem
    obtain hnone | ⟨name, r', outcome', rest, hchild, hevents, hrest, hresult⟩ :=
      hcourse.cases_isSpawn
    · exact absurd (hnone _ hmem) (by simp [Event.isSpawn])
    · -- The child is the second event, and there is no other one.
      rw [hevents] at hmem
      obtain _ | ⟨_, _ | ⟨_, hmem⟩⟩ := hmem
      · exact ⟨name, hchild, hresult⟩
      · exact absurd (hrest _ hmem) (by simp [Event.isSpawn])
  refine ⟨?_, fun r outcome hmem => ?_, fun r f hmem => ?_,
    fun name operands path hline hbuiltin hfile => ?_, fun f => hcourse.fault,
    fun status => hcourse.settled⟩
  · -- one child at most
    obtain hnone | ⟨name, r, outcome, rest, -, hevents, hrest, -⟩ := hcourse.cases_isSpawn
    · rw [List.countP_eq_zero.mpr (by simpa using hnone)]
      exact Nat.zero_le 1
    · have hzero : rest.countP Event.isSpawn = 0 := List.countP_eq_zero.mpr (by simpa using hrest)
      rw [hevents]
      simp [List.countP_cons, hzero, Event.isSpawn]
  · -- what it is, and the status
    obtain ⟨name, hchild, hreported, -⟩ := hspawned r outcome hmem
    obtain ⟨hline, hbuiltin, hfile, hvars, hdir⟩ := child?_eq_some.mp hchild
    exact ⟨name, hline, hbuiltin, hfile, hvars, hdir, hreported⟩
  · -- a lost child
    obtain ⟨-, -, -, hlost⟩ := hspawned r (.error f) hmem
    exact hlost f rfl
  · -- the flush in front of it
    have hchild : t.child? = some (name, ⟨path, operands, _, _⟩) :=
      child?_eq_some.mpr ⟨hline, hbuiltin, hfile, rfl, rfl⟩
    rw [hchild] at hcourse
    exact hcourse.flushed

end Turn

/-! ### Events of whole runs -/

/-- Each write is passed on later, by a flush that went well. -/
def Passed (events : List Event) : Prop :=
  ∀ before text made after, events = before ++ .write text made :: after → .flush (.ok ()) ∈ after

/-- The good order of the `events` of a run. -/
structure Orderly (events : List Event) : Prop where
  /-- A child is started right behind a flush that went well. -/
  shielded : ∀ before r outcome after, events = before ++ .spawn r outcome :: after →
    ∃ before', before = before' ++ [.flush (.ok ())]
  /-- Nobody is asked for a line before all that was written has been passed on. -/
  passed : ∀ before answer after, events = before ++ .read answer :: after → Passed before

/-- An event of two lists is one of the first list or one of the second. -/
private theorem append_eq_append_cons {α : Type} {xs ys before after : List α} {e : α}
    (h : xs ++ ys = before ++ e :: after) :
    (∃ after', xs = before ++ e :: after' ∧ after = after' ++ ys) ∨
      ∃ before', before = xs ++ before' ∧ ys = before' ++ e :: after := by
  obtain ⟨as, rfl, rfl⟩ | ⟨cs, rfl, hcs⟩ := List.append_eq_append_iff.mp h
  · exact .inr ⟨as, rfl, rfl⟩
  · obtain ⟨rfl, rfl⟩ | ⟨cs, rfl, rfl⟩ := List.cons_eq_append_iff.mp hcs
    · exact .inr ⟨[], by simp, rfl⟩
    · exact .inl ⟨cs, rfl, rfl⟩

theorem Passed.append {events more : List Event} (h : Passed events) (hmore : Passed more) :
    Passed (events ++ more) := by
  intro before text made after hsplit
  -- A write of the first part is passed on in it, and so is one of the second.
  obtain ⟨after', hevents, rfl⟩ | ⟨before', -, rfl⟩ := append_eq_append_cons hsplit
  · exact List.mem_append_left _ (h _ _ _ _ hevents)
  · exact hmore _ _ _ _ rfl

/-- What ends with a flush that went well has `Passed` on all that was written. -/
theorem passed_concat (events : List Event) : Passed (events ++ [.flush (.ok ())]) := by
  intro before text made after hsplit
  -- No write is the last flush, so each one has it behind itself.
  obtain ⟨after', -, rfl⟩ | ⟨before', -, hflush⟩ := append_eq_append_cons hsplit
  · simp
  · obtain ⟨_, h⟩ | ⟨_, _, h⟩ := List.cons_eq_append_iff.mp hflush <;> simp at h

/-- Events in good order may follow others that have all been `Passed` on. -/
theorem Orderly.append {events more : List Event} (h : Orderly events) (hpassed : Passed events)
    (hmore : Orderly more) : Orderly (events ++ more) where
  shielded before r outcome after hsplit := by
    -- A child of the second part is not its first event, so the flush in front of it is there too.
    obtain ⟨after', hevents, -⟩ | ⟨before', rfl, hmore'⟩ := append_eq_append_cons hsplit
    · exact h.shielded _ _ _ _ hevents
    · obtain ⟨before'', rfl⟩ := hmore.shielded _ _ _ _ hmore'
      exact ⟨events ++ before'', (List.append_assoc _ _ _).symm⟩
  passed before answer after hsplit := by
    obtain ⟨after', hevents, -⟩ | ⟨before', rfl, hmore'⟩ := append_eq_append_cons hsplit
    · exact h.passed _ _ _ hevents
    · exact hpassed.append (hmore.passed _ _ _ hmore')

/-- To ask for a line is in good order by itself. -/
theorem orderly_read (answer : Except Fault (Option String)) : Orderly [.read answer] where
  shielded before r outcome after hsplit := by
    obtain ⟨-, hread⟩ | ⟨_, -, hnil⟩ := List.cons_eq_append_iff.mp hsplit
    · cases hread
    · simp at hnil
  passed before answer' after hsplit := by
    obtain ⟨rfl, -⟩ | ⟨_, -, hnil⟩ := List.cons_eq_append_iff.mp hsplit
    · simp [Passed]
    · simp at hnil

/-- A line that is asked for and the `Course` of its turn are in good order. -/
theorem Course.orderly {child : Option (String × Request)} {result : Except Fault Status}
    {events : List Event} (h : Course child result events)
    (answer : Except Fault (Option String)) : Orderly (.read answer :: events) where
  shielded before r outcome after hsplit := by
    obtain ⟨-, hread⟩ | ⟨before, rfl, rfl⟩ := List.cons_eq_append_iff.mp hsplit
    · cases hread
    obtain hnone | ⟨_, _, _, rest, -, hevents, hrest, -⟩ := h.cases_isSpawn
    · exact absurd (hnone (.spawn r outcome) (by simp)) (by simp [Event.isSpawn])
    · -- The child is the second event of its turn.
      obtain _ | ⟨_, _ | ⟨_, before⟩⟩ := before
      · cases hevents
      · obtain ⟨rfl, -⟩ := List.cons.inj hevents
        exact ⟨[.read answer], rfl⟩
      · have hmem : .spawn r outcome ∈ rest := by
          rw [← (List.cons.inj (List.cons.inj hevents).2).2]
          simp
        exact absurd (hrest _ hmem) (by simp [Event.isSpawn])
  passed before answer' after hsplit := by
    obtain ⟨rfl, -⟩ | ⟨before, rfl, rfl⟩ := List.cons_eq_append_iff.mp hsplit
    · simp [Passed]
    · have hread := h.isRead_eq_false (.read answer') (by simp)
      cases hread

/-! ### The loop -/

section Loop

variable {σ ρ : Type} [Console σ] [LineSource ρ σ]

/-- The turn of a round, if a line is read. -/
def turn? (prompt : String) (source : ρ) (sh : Shell σ) : Option (Turn σ) :=
  match LineSource.read prompt source sh.scene.stage with
  | (.ok (some line), _, stage) => some ⟨line, sh.withStage stage⟩
  | _ => none

/-- The turns of `loop`, in order. -/
def turns (table : Table σ) (prompt : String) (source : ρ) (sh : Shell σ) : List (Turn σ) :=
  (turn? prompt source sh).toList ++
    match _h : round table prompt source sh with
    | (some _, _, _) => []
    | (none, source', sh') => turns table prompt source' sh'
termination_by LineSource.size σ source
decreasing_by exact size_round _h

section

variable {table : Table σ} {prompt : String} {source source' : ρ} {sh sh' : Shell σ}

/-- The last round has the last turn. -/
theorem turns_of_round_eq_some {result : Except Fault Status}
    (h : round table prompt source sh = (some result, source', sh')) :
    turns table prompt source sh = (turn? prompt source sh).toList := by
  unfold turns
  split
  · rw [List.append_nil]
  · rename_i heq
    rw [h] at heq
    cases heq

/-- The turn of a round that is not the last one comes before those of the others. -/
theorem turns_of_round_eq_none (h : round table prompt source sh = (none, source', sh')) :
    turns table prompt source sh =
      (turn? prompt source sh).toList ++ turns table prompt source' sh' := by
  conv => lhs; unfold turns
  split
  · rename_i heq
    rw [h] at heq
    cases heq
  · rename_i heq
    rw [h] at heq
    cases heq
    rfl

end

variable [Machine σ]

/-- The line of a turn that is asked for, and what happens in the turn. -/
def Turn.log (t : Turn σ) : List Event := .read (.ok (some t.line)) :: t.events

/-- The events of a round: the `log` of its turn, or a line that is asked for in vain. -/
def roundEvents (prompt : String) (source : ρ) (sh : Shell σ) : List Event :=
  match turn? prompt source sh with
  | some t => t.log
  | none => [.read (LineSource.read prompt source sh.scene.stage).1]

/-- On a stage that is `Watched`, a round takes its `roundEvents` down. -/
theorem round_watched (prompt : String) (source : ρ) {sh : Shell σ}
    (hknows : sh.scene.session.KnowsBuiltins) (events : List Event) :
    round Table.standard prompt (⟨source⟩ : Watched.Source ρ) (sh.watch events) =
      ((round Table.standard prompt source sh).1, ⟨(round Table.standard prompt source sh).2.1⟩,
        (round Table.standard prompt source sh).2.2.watch
          (events ++ roundEvents prompt source sh)) := by
  have hread : LineSource.read prompt (⟨source⟩ : Watched.Source ρ) (sh.watch events).scene.stage =
      ((LineSource.read prompt source sh.scene.stage).1,
        ⟨(LineSource.read prompt source sh.scene.stage).2.1⟩,
        ⟨(LineSource.read prompt source sh.scene.stage).2.2,
          events ++ [.read (LineSource.read prompt source sh.scene.stage).1]⟩) := rfl
  unfold round roundEvents turn?
  rw [hread]
  -- Only a line that is read makes a turn, and the turn is watched behind the reading.
  rcases LineSource.read prompt source sh.scene.stage with ⟨f | ⟨⟩ | line, source', stage⟩
  · rfl
  · rfl
  · obtain ⟨-, hturn⟩ := (Turn.mk line (sh.withStage stage)).watched hknows
    have hexecute := hturn (events ++ [.read (.ok (some line))])
    dsimp only
    rw [show (sh.watch events).withStage ⟨stage, events ++ [.read (.ok (some line))]⟩ =
      (sh.withStage stage).watch (events ++ [.read (.ok (some line))]) from rfl, hexecute,
      List.append_assoc, Turn.result, Turn.after]
    rcases execute Table.standard line (sh.withStage stage) with ⟨f | status, sh'⟩
    · rfl
    · dsimp only
      rw [show (sh'.watch _).scene.session = sh'.scene.session from rfl]
      cases sh'.scene.session.pendingExit <;> rfl

omit [Console σ] [Machine σ] in
/-- Reading the line of a turn leaves the session alone. -/
theorem session_of_turn?_eq_some {prompt : String} {source : ρ} {sh : Shell σ} {t : Turn σ}
    (h : turn? prompt source sh = some t) : t.sh.scene.session = sh.scene.session := by
  unfold turn? at h
  split at h
  · obtain rfl := Option.some.inj h
    rfl
  · cases h

/-- A round that is not the last one reads a line and executes it without a fault. -/
theorem turn?_of_round_eq_none {prompt : String} {source source' : ρ} {sh sh' : Shell σ}
    (h : round Table.standard prompt source sh = (none, source', sh')) :
    ∃ t status, turn? prompt source sh = some t ∧ t.result = .ok status ∧ sh' = t.after := by
  unfold round at h
  unfold turn?
  split at h
  · cases h
  · cases h
  · rename_i line _ stage hread
    rw [hread]
    split at h
    · cases h
    · rename_i status _ hexecute
      split at h
      · cases h
      · cases h
        refine ⟨_, status, rfl, ?_, ?_⟩
        · rw [Turn.result, hexecute]
        · rw [Turn.after, hexecute]

/-- Up to each of its turns, the loop has not touched the environment or the names of the builtins,
    as `Session.Kept` says. -/
theorem kept_of_mem_turns {prompt : String} {source : ρ} {sh : Shell σ} {t : Turn σ}
    (h : t ∈ turns Table.standard prompt source sh) : sh.scene.session.Kept t.sh.scene.session := by
  -- The turn of the first round begins in the session of the loop.
  have hfirst {source : ρ} {sh : Shell σ} (h : t ∈ (turn? prompt source sh).toList) :
      sh.scene.session.Kept t.sh.scene.session := by
    rw [session_of_turn?_eq_some (Option.mem_toList.mp h)]
    exact .refl _
  fun_induction Shell.loop Table.standard prompt source sh with
  | case1 source sh result source' sh' hround =>
    rw [turns_of_round_eq_some hround] at h
    exact hfirst h
  | case2 source sh source' sh' hround ih =>
    rw [turns_of_round_eq_none hround] at h
    obtain h | h := List.mem_append.mp h
    · exact hfirst h
    · -- A later turn comes behind a first one, which keeps the same.
      obtain ⟨t', status, hturn, -, rfl⟩ := turn?_of_round_eq_none hround
      rw [← session_of_turn?_eq_some hturn]
      exact ((Call.execute t'.line).kept t'.sh).trans (ih h)

/-- On a stage that is `Watched`, the loop takes the events of its turns down in order, and it may
    ask for a line in vain at last. -/
theorem loop_watched (prompt : String) (source : ρ) {sh : Shell σ}
    (hknows : sh.scene.session.KnowsBuiltins) :
    ∃ last, (last = [] ∨ ∃ answer, last = [.read answer]) ∧
      Orderly ((turns Table.standard prompt source sh).flatMap Turn.log ++ last) ∧
      ∀ events, loop Table.standard prompt (⟨source⟩ : Watched.Source ρ) (sh.watch events) =
        ((loop Table.standard prompt source sh).1, ⟨(loop Table.standard prompt source sh).2.1⟩,
          (loop Table.standard prompt source sh).2.2.watch
            (events ++ ((turns Table.standard prompt source sh).flatMap Turn.log ++ last))) := by
  fun_induction Shell.loop Table.standard prompt source sh with
  | case1 source sh result source' sh' hround =>
    rw [turns_of_round_eq_some hround]
    have hloop (events : List Event) := round_watched prompt source hknows events
    rw [hround] at hloop
    unfold roundEvents at hloop
    cases hturn : turn? prompt source sh with
    | some t =>
      rw [hturn] at hloop
      obtain ⟨hcourse, -⟩ := t.watched (session_of_turn?_eq_some hturn ▸ hknows)
      refine ⟨[], .inl rfl, ?_, fun events => ?_⟩
      · simpa [Turn.log] using hcourse.orderly _
      · simpa using loop_of_round_eq_some (hloop events)
    | none =>
      rw [hturn] at hloop
      let answer := (LineSource.read prompt source sh.scene.stage).1
      exact ⟨[.read answer], .inr ⟨answer, rfl⟩, orderly_read answer,
        fun events => loop_of_round_eq_some (hloop events)⟩
  | case2 source sh source' sh' hround ih =>
    obtain ⟨t, status, hturn, hresult, rfl⟩ := turn?_of_round_eq_none hround
    have ht : t.sh.scene.session.KnowsBuiltins := session_of_turn?_eq_some hturn ▸ hknows
    obtain ⟨last, hlast, horderly, hloop⟩ :=
      ih (((Call.execute t.line).kept t.sh).knowsBuiltins ht)
    have hwatched (events : List Event) := round_watched prompt source hknows events
    rw [hround, roundEvents, hturn] at hwatched
    obtain ⟨hcourse, -⟩ := t.watched ht
    have hlog : Orderly t.log := hcourse.orderly _
    -- The turn of a round that is not the last one has no fault, so it ends with a flush.
    have hpassed : Passed t.log := by
      obtain ⟨before, hbefore⟩ := hcourse.settled hresult
      rw [Turn.log, hbefore]
      exact passed_concat (_ :: before)
    have hevents : (turns Table.standard prompt source sh).flatMap Turn.log ++ last =
        t.log ++ ((turns Table.standard prompt source' t.after).flatMap Turn.log ++ last) := by
      rw [turns_of_round_eq_none hround, hturn]
      simp
    refine ⟨last, hlast, ?_, fun events => ?_⟩
    · rw [hevents]
      exact hlog.append hpassed horderly
    · rw [hevents, loop_of_round_eq_none (hwatched events), hloop, List.append_assoc]

end Loop

/-- Whole runs of a shell with `Table.standard`, after whatever calls on whatever stages, as they
    are seen on a stage that is `Watched`.  Watching changes nothing, and what is seen are the
    events of the turns, each behind its line, and at last it may be that a line is asked for in
    vain.  Each turn starts one child at most, in the environment that the shell has had from the
    beginning, and its result tells how the child went (`Turn.Disciplined`); each child is started
    right behind a flush that went well; and nobody is asked for a line while something that was
    written is held back. -/
theorem spawn_discipline (initial : Session) {σ₀ : Type} [Console σ₀] [Machine σ₀] (stage₀ : σ₀)
    (history : List Step) {σ ρ : Type} [Console σ] [Machine σ] [LineSource ρ σ] (stage : σ)
    (prompt : String) (source : ρ) :
    let m := (start Table.standard initial stage₀).memory.after history
    let sh : Shell σ := ⟨⟨m.session, stage⟩, m.lastStatus⟩
    let (result, source', sh') := repl Table.standard prompt source sh
    let taken := turns Table.standard prompt source (sh.note (.started sh.scene.session.dir))
    ∃ events last : List Event,
      repl Table.standard prompt (⟨source⟩ : Watched.Source ρ) (sh.watch []) =
        (result, ⟨source'⟩, sh'.watch events) ∧
      events = taken.flatMap Turn.log ++ last ∧
      (last = [] ∨ ∃ answer, last = [.read answer]) ∧
      (∀ t ∈ taken, t.Disciplined initial.vars) ∧
      (∀ before r outcome after, events = before ++ .spawn r outcome :: after →
        ∃ before', before = before' ++ [.flush (.ok ())]) ∧
      (∀ before answer after, events = before ++ .read answer :: after → Passed before) := by
  intro m sh
  have hkept : (start Table.standard initial stage₀).scene.session.Kept sh.scene.session :=
    Memory.kept_after history (start Table.standard initial stage₀).memory
  have hknows : sh.scene.session.KnowsBuiltins := hkept.knowsBuiltins rfl
  -- The run begins with a note, which is no event.
  let begun := sh.note (.started sh.scene.session.dir)
  have hbegun : begun.scene.session.KnowsBuiltins := hknows
  obtain ⟨last, hlast, horderly, hloop⟩ := loop_watched prompt source hbegun
  refine ⟨_, last, hloop [], rfl, hlast, fun t ht => ?_, horderly.shielded, horderly.passed⟩
  have hfrom : begun.scene.session.Kept t.sh.scene.session := kept_of_mem_turns ht
  have hturn := hkept.trans hfrom
  have hvars : t.sh.scene.session.vars = initial.vars := hturn.vars
  rw [← hvars]
  exact t.disciplined (hturn.knowsBuiltins rfl)

/-- A child that ends with 3, on a machine that knows of it and on a `forgetful` one.  Both times it
    is started in the same way; but the turn that loses it has the fault of the wait in place of a
    status. -/
theorem child_without_status :
    let machine : Catalog := {
      paths := [("/bin/tool", ⟨false, 0o755⟩)]
      programs := [("/bin/tool", .exited 3)] }
    let sh (machine : Catalog) : Shell (Sink × Catalog) :=
      start Table.standard { vars := [("PATH", "/bin")], dir := "/tmp" } ({}, machine)
    let known : Turn (Sink × Catalog) := ⟨"tool a", sh machine⟩
    let lost : Turn (Sink × Catalog) := ⟨"tool a", sh { machine with forgetful := true }⟩
    let request : Request := ⟨"/bin/tool", ["a"], [("PATH", "/bin")], "/tmp"⟩
    known.events = [.flush (.ok ()), .spawn request (.ok (.ok (.exited 3))), .flush (.ok ())] ∧
      known.result = .ok 3 ∧
      lost.events = [.flush (.ok ()), .spawn request (.error (.system .noChild))] ∧
      lost.result = .error (.system .noChild) :=
  ⟨rfl, rfl, rfl, rfl⟩

end LineShell.Shell
