import LineShell.Proofs.Console.Working

/-! # Consoles that refuse a text

A console may refuse the next text that is written, while it can still be flushed and take notes.
What is left then tells two kinds of such consoles apart: a mute one refuses every text, and one
that stumbles is in working order afterwards.  Both are told by an invariant: there are states that
the console is in, and that it stays in until the text is written.

* `Refuses.putAll`               the first text of several that is not empty is refused
* `refuses_mute`                 mute consoles stay mute
* `Sink.mute`, `Sink.stumbles`   sinks that are set up to fail -/

namespace LineShell

namespace Console

variable {ω : Type} [Console ω] {P : ω → Prop} {Q : Fault → ω → Prop}

/-- Consoles in states `P` can be flushed and take notes, and stay in these states. -/
structure Steady (P : ω → Prop) : Prop where
  flush {o : ω} : P o → ∃ o', Console.flush o = (.ok (), o') ∧ P o'
  log (r : Record) {o : ω} : P o → P (Console.log r o)

/-- Consoles in steady states `P` refuse the next text that is not empty; `Q` says what the fault is
    and what is left. -/
structure Refuses (P : ω → Prop) (Q : Fault → ω → Prop) : Prop extends Steady P where
  write {t : String} {o : ω} : t ≠ "" → P o → ∃ f o', Console.write t o = (.error f, o') ∧ Q f o'

/-- Consoles that are `Steady` stay so whatever they note. -/
theorem Steady.logAll (h : Steady P) (rs : List Record) {o : ω} (ho : P o) : P (logAll rs o) := by
  induction rs generalizing o with
  | nil => exact ho
  | cons r rs ih => exact ih (h.log r ho)

/-- Consoles in working order are `Steady`. -/
theorem steady_works [Collects ω] : Steady (Collects.Works (ω := ω)) where
  flush ho :=
    let ⟨o', hflush, ho', _⟩ := Collects.flush_works ho
    ⟨o', hflush, ho'⟩
  log r _ ho := (Collects.log_works r ho).1

/-- Texts that are nothing together leave any console alone. -/
theorem putAll_of_join_eq {ts : List String} (hts : String.join ts = "") (o : ω) :
    putAll ts o = (.ok (), o) := by
  induction ts with
  | nil => rfl
  | cons t ts ih =>
    simp only [String.join_cons, String.append_eq_empty_iff] at hts
    obtain ⟨rfl, hts⟩ := hts
    exact ih hts

/-- Of several texts the first that is not empty is refused, and the others are left alone. -/
theorem Refuses.putAll (h : Refuses P Q) {ts : List String} (hts : String.join ts ≠ "") {o : ω}
    (ho : P o) : ∃ f o', putAll ts o = (.error f, o') ∧ Q f o' := by
  induction ts with
  | nil => exact absurd rfl hts
  | cons t ts ih =>
    -- An empty text is not written, so it cannot be refused.
    by_cases ht : t = ""
    · subst ht
      rw [String.join_cons, String.empty_append] at hts
      obtain ⟨f, o', hall, ho'⟩ := ih hts
      refine ⟨f, o', ?_, ho'⟩
      rw [Console.putAll, put_empty]
      exact hall
    · obtain ⟨f, o', hwrite, ho'⟩ := h.write ht ho
      refine ⟨f, o', ?_, ho'⟩
      rw [Console.putAll, put, if_neg ht, hwrite]

/-- A console that refuses every text, now and later on: there are states that it stays in and that
    refuse. -/
def Mute (o : ω) : Prop := ∃ P : ω → Prop, Refuses P (fun _ => P) ∧ P o

/-- Consoles that are `Mute` stay so. -/
theorem refuses_mute : Refuses (Mute (ω := ω)) fun _ => Mute where
  flush := by
    rintro o ⟨P, hP, ho⟩
    obtain ⟨o', hflush, ho'⟩ := hP.flush ho
    exact ⟨o', hflush, P, hP, ho'⟩
  log := by
    rintro r o ⟨P, hP, ho⟩
    exact ⟨P, hP, hP.log r ho⟩
  write := by
    rintro t o ht ⟨P, hP, ho⟩
    obtain ⟨f, o', hwrite, ho'⟩ := hP.write ht ho
    exact ⟨f, o', hwrite, P, hP, ho'⟩

/-- A console that refuses the next text with the fault `f`, and then is in working order and holds
    what it held. -/
def Stumbles [Collects ω] (f : Fault) (o : ω) : Prop :=
  ∃ P : ω → Prop,
    Refuses P (fun f' o' => f' = f ∧ Collects.Works o' ∧ Collects.text o' = Collects.text o) ∧ P o

end Console

open Console

/-- A sink of which every write fails is `Mute`. -/
theorem Sink.mute {o : Sink} (ho : o.mode = .broken) : Mute o := by
  refine ⟨fun o => o.mode = .broken, { flush := ?_, log := ?_, write := ?_ }, ho⟩
  · intro o ho
    refine ⟨o, ?_, ho⟩
    show Sink.flush o = _
    rw [Sink.flush, ho]
    rfl
  · exact fun _ _ ho => ho
  · intro t o _ ho
    refine ⟨.stream "sink failed", o, ?_, ho⟩
    show Sink.write t o = _
    rw [Sink.write, ho]

/-- A sink of which the next write fails `Stumbles`. -/
theorem Sink.stumbles {o : Sink} (ho : o.mode = .once) : Stumbles (.stream "sink failed") o := by
  -- Until the write there is one state, which flushing and logging leave.
  refine ⟨(· = o), { flush := ?_, log := ?_, write := ?_ }, rfl⟩
  · rintro o rfl
    refine ⟨o, ?_, rfl⟩
    show Sink.flush o = _
    rw [Sink.flush, ho]
    rfl
  · rintro _ o rfl
    rfl
  · rintro t o _ rfl
    refine ⟨.stream "sink failed", { o with mode := .ok }, ?_, rfl, rfl, rfl⟩
    show Sink.write t o = _
    rw [Sink.write, ho]

end LineShell
