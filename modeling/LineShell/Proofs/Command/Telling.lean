import LineShell.Proofs.Command.Session
import LineShell.Proofs.Console.Refusing

/-! # What commands tell

A command of the standard table does all that it does before it writes anything: it takes notes,
puts the session into a state, or flushes and runs a child.  What it has to tell comes last and in
one go, as `Act.tell` has it.  If the console takes no text, only what is told is lost, and it
depends on the command whether the reason is told in its place.

* `Tells.bind`                     what passes before an act that tells something changes nothing
* `Table.run_tells`                what the commands of the standard table tell
* `Table.standardEffect_of_text`   a command that has something to tell leaves the session alone
* `Act.run_tell_of_refuses`        what becomes of a text that is refused -/

namespace LineShell

/-- Tell `texts`, and give a status.  The reason why they cannot be told takes their place if the
    telling is `guarded`.  Where there is no status, because a child is lost, nothing is told. -/
def Act.tell {σ : Type} [Console σ] (guarded : Bool) (texts : List String) :
    Except Fault Status → Act σ Status
  | .ok status =>
    if guarded then
      tryCatch
        (do
          Act.say texts
          return status)
        fun f => do
          Act.say [f.message, "\n"]
          return 1
    else do
      Act.say texts
      return status
  | .error f => throw f

section Tells

variable {ω η α : Type} [Console ω] {P : ω → Prop} {s s₁ : Session} {w w₁ : η}

/-- Beside consoles in states `P`, an act writes nothing, and comes to the answer `x`. -/
def Act.Passes (P : ω → Prop) (a : Act (ω × η) α) (s : Session) (w : η) (x : Except Fault α)
    (s₁ : Session) (w₁ : η) : Prop :=
  ∀ o, P o → ∃ o', P o' ∧ a.run ⟨s, (o, w)⟩ = (x, ⟨s₁, (o', w₁)⟩)

/-- Beside consoles in states `P`, an act has an effect whose `text` is all that it tells, and tells
    it when everything else is done, as `Act.tell` does. -/
def Act.Tells (P : ω → Prop) (a : Act (ω × η) Status) (s : Session) (w : η) (guarded : Bool)
    (e : Effect η Status) : Prop :=
  ∀ o, P o → ∃ o' texts, P o' ∧ String.join texts = e.text ∧
    a.run ⟨s, (o, w)⟩ = (Act.tell guarded texts e.answer).run ⟨e.session, (o', e.machine)⟩

namespace Act.Passes

omit [Console ω] in
theorem setSession (s' : Session) :
    (Act.setSession s' : Act (ω × η) Unit).Passes P s w (.ok ()) s' w :=
  fun o ho => ⟨o, ho, rfl⟩

theorem noteAll (hP : Console.Steady P) (rs : List Record) :
    (Act.noteAll rs : Act (ω × η) Unit).Passes P s w (.ok ()) s w := by
  intro o ho
  refine ⟨_, hP.logAll rs ho, ?_⟩
  rw [Act.run_noteAll, Console.logAll_pair]
  rfl

theorem note (hP : Console.Steady P) (r : Record) :
    (Act.note r : Act (ω × η) Unit).Passes P s w (.ok ()) s w :=
  noteAll hP [r]

theorem flush (hP : Console.Steady P) :
    (Act.flush : Act (ω × η) Unit).Passes P s w (.ok ()) s w := by
  intro o ho
  obtain ⟨o', hflush, ho'⟩ := hP.flush ho
  refine ⟨o', ho', ?_⟩
  rw [Act.run_flush, Console.flush_pair, hflush]

omit [Console ω] in
theorem spawn [Machine η] (r : Request) :
    (Act.spawn r : Act (ω × η) Outcome).Passes P s w (Machine.spawn r w).1 s
      (Machine.spawn r w).2 :=
  fun o ho => ⟨o, ho, rfl⟩

end Act.Passes

namespace Act.Tells

/-- What passes before an act that tells something changes nothing about the telling. -/
theorem bind {a : Act (ω × η) α} {f : α → Act (ω × η) Status} {x : α} {guarded : Bool}
    {e : Effect η Status} (ha : a.Passes P s w (.ok x) s₁ w₁)
    (hf : (f x).Tells P s₁ w₁ guarded e) : (a >>= f).Tells P s w guarded e := by
  intro o ho
  obtain ⟨o₁, ho₁, hfirst⟩ := ha o ho
  obtain ⟨o₂, texts, ho₂, htext, hsecond⟩ := hf o₁ ho₁
  refine ⟨o₂, texts, ho₂, htext, ?_⟩
  rw [Act.run_bind, hfirst]
  exact hsecond

/-- A fault that comes before the telling leaves nothing of it. -/
theorem bind_error {a : Act (ω × η) α} {g : α → Act (ω × η) Status} {f : Fault}
    (ha : a.Passes P s w (.error f) s₁ w₁) (guarded : Bool) :
    (a >>= g).Tells P s w guarded ⟨.error f, s₁, w₁, ""⟩ := by
  intro o ho
  obtain ⟨o₁, ho₁, hfirst⟩ := ha o ho
  refine ⟨o₁, [], ho₁, rfl, ?_⟩
  rw [Act.run_bind, hfirst]
  rfl

/-- An act that looks at the scene first, whatever the console `o` is. -/
theorem get_bind {f : Scene (ω × η) → Act (ω × η) Status} {guarded : Bool} {e : Effect η Status}
    (hf : ∀ o : ω, (f ⟨s, (o, w)⟩).Tells P s w guarded e) :
    (MonadState.get >>= f).Tells P s w guarded e :=
  fun o ho => hf o o ho

/-- An act that tells something and gives a status. -/
theorem tell (guarded : Bool) {texts : List String} {t : String} (ht : String.join texts = t)
    (status : Status) :
    (Act.tell guarded texts (.ok status) : Act (ω × η) Status).Tells P s w guarded
      ⟨.ok status, s, w, t⟩ :=
  fun o ho => ⟨o, texts, ho, ht, rfl⟩

/-- An act that has nothing to tell. -/
theorem pure (status : Status) :
    (Pure.pure status : Act (ω × η) Status).Tells P s w false ⟨.ok status, s, w, ""⟩ := by
  have hnothing : String.join [] = "" := rfl
  exact tell false hnothing status

end Act.Tells

/-! ### Texts that are refused -/

/-- If nothing is told the console has no part in the answer, `guarded` or not. -/
theorem Act.run_tell_of_join_eq {σ : Type} [Console σ] (guarded : Bool) {texts : List String}
    (htexts : String.join texts = "") (answer : Except Fault Status) (scene : Scene σ) :
    (tell guarded texts answer).run scene = (answer, scene) := by
  cases answer with
  | error f => rfl
  | ok status =>
    -- Texts that are nothing together are not written at all.
    have hsay : (do Act.say texts; pure status : Act σ Status).run scene =
        (.ok status, scene) := by
      rw [Act.run_bind, Act.run_say, Console.putAll_of_join_eq htexts]
      rfl
    cases guarded with
    | false => exact hsay
    | true =>
      refine (Act.run_tryCatch _ _ scene).trans ?_
      rw [hsay]

/-- A text that is refused is lost; the reason is told in its place if the telling is `guarded`, and
    else it is the fault that the act ends with. -/
theorem Act.run_tell_of_refuses {Q : Fault → ω → Prop} (h : Console.Refuses P Q) (guarded : Bool)
    {texts : List String} (htexts : String.join texts ≠ "") (status : Status) (s : Session) (w : η)
    {o : ω} (ho : P o) :
    ∃ f o', Q f o' ∧ (tell guarded texts (.ok status)).run ⟨s, (o, w)⟩ =
      if guarded then (tell false [f.message, "\n"] (.ok 1)).run ⟨s, (o', w)⟩
      else (.error f, ⟨s, (o', w)⟩) := by
  obtain ⟨f, o', hput, ho'⟩ := h.putAll htexts ho
  have hsay : (do Act.say texts; pure status : Act (ω × η) Status).run ⟨s, (o, w)⟩ =
      (.error f, ⟨s, (o', w)⟩) := by
    rw [Act.run_bind, Act.run_say, Console.putAll_pair, hput]
  refine ⟨f, o', ho', ?_⟩
  -- The console refuses the text either way; the guard has another text to tell then.
  cases guarded with
  | false => exact hsay
  | true =>
    refine (Act.run_tryCatch _ _ _).trans ?_
    rw [hsay]
    rfl

/-! ### The commands of the standard table -/

/-- Does a builtin do what it was asked for? -/
def Answer.isDone : Answer → Bool
  | done _ _ _ _ => true
  | untaken _ _ | refused _ => false

/-- Is what a name has to tell guarded? -/
def Table.isGuarded [Machine η] [Arguments.Reader] (s : Session) (w : η) (name : String)
    (words : List String) : Bool :=
  match Builtin.named? name with
  | some b => (b.answer s w words).isDone
  | none => false

/-- Delivering an answer tells the text of its `effect`, guarded if the builtin does what it was
    asked for. -/
theorem Answer.deliver_tells (hP : Console.Steady P) (a : Answer) (s : Session) (w : η) :
    (a.deliver : Act (ω × η) Status).Tells P s w a.isDone (a.effect s w) := by
  cases a with
  | untaken b stop => exact Act.Tells.tell false rfl stop.status
  | refused r => exact Act.Tells.tell false (by simp) 1
  | done session texts status findings =>
    -- the session has changed before anything is told
    refine Act.Tells.bind (Act.Passes.noteAll hP findings) ?_
    refine Act.Tells.bind (Act.Passes.setSession session) ?_
    exact Act.Tells.tell true rfl status

/-- Running a file tells that it cannot be started, and else nothing. -/
theorem External.execute_tells [Machine η] (hP : Console.Steady P) (s : Session) (w : η)
    (name : String) (path : Octets) (words : List String) :
    (execute name (request s path words) : Act (ω × η) Status).Tells P s w false
      (effect s w name path words) := by
  have hspawn : (Act.spawn (request s path words) : Act (ω × η) Outcome).Passes P s w _ s _ :=
    Act.Passes.spawn (request s path words)
  unfold effect execute
  -- what has been written is passed on before the child starts
  refine Act.Tells.bind (Act.Passes.flush hP) ?_
  rcases hout : Machine.spawn (request s path words) w with ⟨f | e | ending, w'⟩
  · -- a child that is lost ends the command
    rw [hout] at hspawn
    exact Act.Tells.bind_error hspawn false
  · -- a child that cannot be started is told to be missing
    rw [hout] at hspawn
    refine Act.Tells.bind hspawn (Act.Tells.bind (Act.Passes.note hP _) ?_)
    exact Act.Tells.tell false (by simp) Status.notFound
  · -- a child that has ended tells for itself
    rw [hout] at hspawn
    refine Act.Tells.bind hspawn (Act.Tells.bind (Act.Passes.note hP _) ?_)
    exact Act.Tells.pure ending.status

/-- What running any name in `Table.standard` tells, and when. -/
theorem Table.run_tells [Machine η] [Arguments.Reader] (hP : Console.Steady P) (s : Session)
    (w : η) (name : String) (words : List String) :
    ((standard : Table (ω × η)).run name words).Tells P s w (isGuarded s w name words)
      (standardEffect s w name words) := by
  rw [standard_run, standardEffect, isGuarded]
  refine Act.Tells.get_bind fun o => ?_
  -- A builtin tells when it is delivered, and a file tells only that it cannot be started.
  cases Builtin.named? name with
  | some b =>
    refine Act.Tells.bind (Act.Passes.note hP _) ?_
    rw [Builtin.answer_pair]
    exact Answer.deliver_tells hP _ s w
  | none =>
    rw [Lookup.command?_pair]
    cases Lookup.command? w s.searchPath s.dir (Octets.ofText name) with
    | some path =>
      refine Act.Tells.bind (Act.Passes.noteAll hP _) (Act.Tells.bind (Act.Passes.note hP _) ?_)
      exact External.execute_tells hP s w name path words
    | none => exact Act.Tells.tell false (by simp) Status.notFound

end Tells

/-! ### Who has something to tell -/

/-- With these words a builtin has something to tell: what `echo` repeats, where `pwd` is, what
    names mean for `type`. -/
inductive Builtin.Speaks : Builtin → List String → Prop
  | echo (words : List String) : Speaks echo words
  | pwd : Speaks pwd []
  | type (name : String) (names : List String) : Speaks type (name :: names)

section Text

variable {η : Type} [Machine η] {s : Session} {w : η} {words : List String}

/-- What names mean is never told in no words. -/
theorem Meaning.join_texts_ne (name : String) (m : Meaning) : String.join (m.texts name) ≠ "" := by
  cases m <;> simp [texts]

/-- An `exit` that does what it was asked for has nothing to tell. -/
theorem Builtin.texts_of_verdict_exit {s' : Session} {texts : List String} {status : Status}
    {findings : List Record} (h : exit.verdict s w words = .done s' texts status findings) :
    texts = [] := by
  simp only [verdict] at h
  split at h
  · cases h
    rfl
  · split at h
    · cases h
      rfl
    · cases h

/-- A `cd` that does what it was asked for has nothing to tell. -/
theorem Builtin.texts_of_verdict_cd {s' : Session} {texts : List String} {status : Status}
    {findings : List Record} (h : cd.verdict s w words = .done s' texts status findings) :
    texts = [] := by
  simp only [verdict] at h
  split at h
  · cases h
  · split at h
    · cases h
      rfl
    · cases h

/-- A builtin that does what it was asked for either has nothing to tell, or `Speaks` and leaves the
    session alone. -/
theorem Builtin.answer_eq_done [Arguments.Reader] (b : Builtin) {s' : Session}
    {texts : List String} {status : Status} {findings : List Record}
    (h : b.answer s w words = .done s' texts status findings) :
    texts = [] ∧ ¬b.Speaks words ∨ String.join texts ≠ "" ∧ b.Speaks words ∧ s' = s := by
  rw [answer_eq] at h
  cases hsurplus : b.surplus? words with
  | some word =>
    rw [hsurplus] at h
    cases h
  | none =>
    rw [hsurplus] at h
    cases b with
    | exit => exact .inl ⟨texts_of_verdict_exit h, fun hspeaks => by cases hspeaks⟩
    | cd => exact .inl ⟨texts_of_verdict_cd h, fun hspeaks => by cases hspeaks⟩
    | echo =>
      simp only [verdict, Answer.done.injEq] at h
      obtain ⟨rfl, rfl, -, -⟩ := h
      exact .inr ⟨by simp, .echo words, rfl⟩
    | pwd =>
      -- an operand would be a surplus
      obtain rfl : words = [] := by simpa [surplus?, limit?] using hsurplus
      simp only [verdict, Answer.done.injEq] at h
      obtain ⟨rfl, rfl, -, -⟩ := h
      exact .inr ⟨by simp, .pwd, rfl⟩
    | type =>
      cases words with
      | nil => cases h
      | cons word rest =>
        simp only [verdict, reduceCtorEq, ↓reduceIte, Answer.done.injEq] at h
        obtain ⟨rfl, rfl, -, -⟩ := h
        refine .inr ⟨?_, .type word rest, rfl⟩
        rw [List.flatMap_cons, String.join_append]
        simp [Meaning.join_texts_ne]

/-- A builtin that `Speaks` does what it was asked for. -/
theorem Builtin.isDone_of_speaks [Arguments.Reader] {b : Builtin} (h : b.Speaks words)
    (s : Session) (w : η) : (b.answer s w words).isDone = true := by
  rw [answer_eq]
  cases h <;> rfl

/-- A builtin that writes either `Speaks` or is refused, and leaves the session alone. -/
theorem Builtin.effect_of_text [Arguments.Reader] (b : Builtin)
    (htext : ((b.answer s w words).effect s w).text ≠ "") :
    ((b.answer s w words).effect s w).session = s ∧
      ((b.answer s w words).isDone = true ↔ b.Speaks words) := by
  have hdone := fun h : b.Speaks words => b.isDone_of_speaks h s w
  -- A refusal is not guarded, and it is no builtin that speaks.
  cases hanswer : b.answer s w words with
  | untaken b stop | refused r =>
    rw [hanswer] at hdone
    exact ⟨rfl, nofun, hdone⟩
  | done s' texts status findings =>
    rw [hanswer] at htext
    obtain ⟨rfl, -⟩ | ⟨-, hspeaks, hsame⟩ := b.answer_eq_done hanswer
    · exact absurd rfl htext
    · exact ⟨hsame, fun _ => hspeaks, fun _ => rfl⟩

/-- Running a file that writes something itself, because no child starts, has a status. -/
theorem External.effect_of_text {name : String} {path : Octets}
    (htext : (effect s w name path words).text ≠ "") :
    (∃ status, (effect s w name path words).answer = .ok status) ∧
      (effect s w name path words).session = s := by
  unfold effect at htext ⊢
  rcases hout : Machine.spawn (request s path words) w with ⟨f | error | ending, w'⟩
  · -- a child that is lost says nothing
    rw [hout] at htext
    exact absurd rfl htext
  · exact ⟨⟨_, rfl⟩, rfl⟩
  · exact ⟨⟨_, rfl⟩, rfl⟩

/-- A command that writes has a status and leaves the session alone, and its telling is guarded if
    it is that of a builtin which `Speaks`. -/
theorem Table.standardEffect_of_text [Arguments.Reader] {name : String}
    (htext : (standardEffect s w name words).text ≠ "") :
    (∃ status, (standardEffect s w name words).answer = .ok status) ∧
      (standardEffect s w name words).session = s ∧
      (isGuarded s w name words = true ↔ ∃ b : Builtin, b.name = name ∧ b.Speaks words) := by
  unfold isGuarded
  unfold standardEffect at htext ⊢
  cases hname : Builtin.named? name with
  | some b =>
    rw [hname] at htext
    obtain ⟨hsame, hguarded⟩ := b.effect_of_text htext
    obtain rfl := Builtin.named?_eq_some hname
    refine ⟨Answer.effect_answer s w _, hsame, fun h => ⟨b, rfl, hguarded.mp h⟩, ?_⟩
    rintro ⟨b', hb', hspeaks⟩
    rw [Builtin.name_injective hb'] at hspeaks
    exact hguarded.mpr hspeaks
  | none =>
    -- no builtin speaks, so only a file or a missing command is left
    have hspeaker : ¬∃ b : Builtin, b.name = name ∧ b.Speaks words := by
      rintro ⟨b, rfl, -⟩
      rw [Builtin.named?_name] at hname
      exact nomatch hname
    rw [hname] at htext
    dsimp only at htext ⊢
    cases hfile : Lookup.command? w s.searchPath s.dir (Octets.ofText name) with
    | none => exact ⟨⟨_, rfl⟩, rfl, nofun, fun h => absurd h hspeaker⟩
    | some path =>
      rw [hfile] at htext
      obtain ⟨hstatus, hsame⟩ := External.effect_of_text htext
      exact ⟨hstatus, hsame, nofun, fun h => absurd h hspeaker⟩

end Text

end LineShell
