import LineShell.Command.Basic
import LineShell.Proofs.Console.Working

/-! # Effects

On a console in working order most acts do the same wherever the console stands.  An `Effect` says
what: the answer or the fault, the session and the machine that are left, and the text that the
console gets.  `Act.Yields` ties an act to its effect, and the effect of a larger act is put
together from those of its parts.

* `Yields.bind`       the effects of two acts in a row
* `Yields.tryCatch`   an act that gives an answer needs nobody to deal with faults -/

namespace LineShell

/-- What an act does on a console in working order. -/
structure Effect (η α : Type) where
  answer : Except Fault α
  /-- The session that is left. -/
  session : Session
  /-- The machine that is left. -/
  machine : η
  /-- What the console gets. -/
  text : String := ""

/-- Beside a console that `Works`, the act `a` in the session `s` on the machine `w` does what the
    effect `e` says, and sees nothing of the console. -/
def Act.Yields {ω η α : Type} [Console ω] [Console.Collects ω] (a : Act (ω × η) α) (s : Session)
    (w : η) (e : Effect η α) : Prop :=
  ∀ o : ω, Console.Collects.Works o →
    ∃ o' : ω, Act.run a ⟨s, (o, w)⟩ = (e.answer, ⟨e.session, (o', e.machine)⟩) ∧
      Console.Collects.Works o' ∧
      Console.Collects.text o' = Console.Collects.text o ++ e.text

namespace Act.Yields

open Console.Collects

variable {ω η α β : Type} [Console ω] [Console.Collects ω] {s s₁ : Session} {w w₁ : η}

/-- An answer alone yields nothing else. -/
theorem pure (x : α) :
    (Pure.pure x : Act (ω × η) α).Yields s w { answer := .ok x, session := s, machine := w } :=
  fun o ho => ⟨o, rfl, ho, by simp⟩

/-- An act after another one begins where the first one ends, and its text comes behind. -/
theorem bind {a : Act (ω × η) α} {f : α → Act (ω × η) β} {x : α} {t : String} {e : Effect η β}
    (ha : a.Yields s w ⟨.ok x, s₁, w₁, t⟩) (hf : (f x).Yields s₁ w₁ e) :
    (a >>= f).Yields s w { e with text := t ++ e.text } := by
  intro o ho
  obtain ⟨o₁, hrun₁, ho₁, ht₁⟩ := ha o ho
  obtain ⟨o₂, hrun₂, ho₂, ht₂⟩ := hf o₁ ho₁
  -- The second act runs on the console that the first one leaves, which works as well.
  refine ⟨o₂, ?_, ho₂, ?_⟩
  · rw [Act.run_bind, hrun₁]
    exact hrun₂
  · rw [ht₂, ht₁, String.append_assoc]

/-- A fault stops all that would come after it. -/
theorem bind_error {a : Act (ω × η) α} {f : α → Act (ω × η) β} {e : Fault} {t : String}
    (ha : a.Yields s w ⟨.error e, s₁, w₁, t⟩) : (a >>= f).Yields s w ⟨.error e, s₁, w₁, t⟩ := by
  intro o ho
  obtain ⟨o₁, hrun₁, ho₁, ht₁⟩ := ha o ho
  refine ⟨o₁, ?_, ho₁, ht₁⟩
  rw [Act.run_bind, hrun₁]

/-- An act that gives an answer needs nobody to deal with faults. -/
theorem tryCatch {a : Act (ω × η) α} {f : Fault → Act (ω × η) α} {x : α} {t : String}
    (ha : a.Yields s w ⟨.ok x, s₁, w₁, t⟩) :
    (MonadExcept.tryCatch a f).Yields s w ⟨.ok x, s₁, w₁, t⟩ := by
  intro o ho
  obtain ⟨o₁, hrun₁, ho₁, ht₁⟩ := ha o ho
  refine ⟨o₁, ?_, ho₁, ht₁⟩
  have hcatch := Act.run_tryCatch a f ⟨s, (o, w)⟩
  rw [hrun₁] at hcatch
  exact hcatch

/-- If the first of two acts writes nothing, the text is that of the second. -/
theorem bind_silent {a : Act (ω × η) α} {f : α → Act (ω × η) β} {x : α} {e : Effect η β}
    (ha : a.Yields s w ⟨.ok x, s₁, w₁, ""⟩) (hf : (f x).Yields s₁ w₁ e) :
    (a >>= f).Yields s w e := by
  have h := ha.bind hf
  simpa using h

/-! ### Basic acts -/

/-- An act that looks at the scene first, and does the same whatever the console `o` is. -/
theorem get_bind {f : Scene (ω × η) → Act (ω × η) β} {e : Effect η β}
    (hf : ∀ o : ω, (f ⟨s, (o, w)⟩).Yields s w e) : (MonadState.get >>= f).Yields s w e :=
  fun o ho => hf o o ho

theorem setSession (s' : Session) :
    (Act.setSession s' : Act (ω × η) Unit).Yields s w
      { answer := .ok (), session := s', machine := w } :=
  fun o ho => ⟨o, rfl, ho, by simp⟩

theorem say (ts : List String) :
    (Act.say ts : Act (ω × η) Unit).Yields s w
      { answer := .ok (), session := s, machine := w, text := String.join ts } := by
  intro o ho
  obtain ⟨o', hput, ho', ht⟩ := Console.putAll_works ts ho
  refine ⟨o', ?_, ho', ht⟩
  rw [Act.run_say, Console.putAll_pair, hput]

/-- Writing texts that are `t` together, and giving an answer. -/
theorem say_pure {ts : List String} {t : String} (ht : String.join ts = t) (x : α) :
    (do Act.say ts; Pure.pure x : Act (ω × η) α).Yields s w
      { answer := .ok x, session := s, machine := w, text := t } := by
  have h := (@say ω η _ _ s w ts).bind (f := fun _ => Pure.pure x) (pure x)
  simpa [ht] using h

theorem flush :
    (Act.flush : Act (ω × η) Unit).Yields s w
      { answer := .ok (), session := s, machine := w } := by
  intro o ho
  obtain ⟨o', hflush, ho', ht⟩ := flush_works ho
  refine ⟨o', ?_, ho', by simp [ht]⟩
  rw [Act.run_flush, Console.flush_pair, hflush]

theorem noteAll (rs : List Record) :
    (Act.noteAll rs : Act (ω × η) Unit).Yields s w
      { answer := .ok (), session := s, machine := w } := by
  intro o ho
  obtain ⟨ho', ht⟩ := Console.logAll_works rs ho
  refine ⟨_, ?_, ho', by simp [ht]⟩
  rw [Act.run_noteAll, Console.logAll_pair]

theorem note (r : Record) :
    (Act.note r : Act (ω × η) Unit).Yields s w
      { answer := .ok (), session := s, machine := w } :=
  noteAll [r]

/-- What a child does to the machine, and how it ends or is lost, is `Machine.spawn`'s affair. -/
theorem spawn [Machine η] (r : Request) :
    (Act.spawn r : Act (ω × η) Outcome).Yields s w
      { answer := (Machine.spawn r w).1, session := s, machine := (Machine.spawn r w).2 } :=
  fun o ho => ⟨o, rfl, ho, by simp⟩

end Act.Yields

end LineShell
