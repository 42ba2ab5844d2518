import LineShell.Console.Sink

/-! # Consoles in working order

Some consoles never fail once they are in working order, and keep all that is written to them.
`Console.Collects` says so of a type of consoles: `Works` singles out those in working order, and
`text` is what has been written to one.

* `putAll_works`, `display_works`   texts are written one behind the other
* `Sink`                            a sink that is not set up to fail is in working order -/

namespace LineShell

/-- Consoles that never fail as long as they are in working order, which is `Works`, and then keep
    all that is written to them, which is `text`. -/
class Console.Collects (ω : Type) [Console ω] where
  /-- Is the console in working order? -/
  Works : ω → Prop
  /-- All that has been written. -/
  text : ω → String
  write_works (t : String) {o : ω} : Works o →
    ∃ o', Console.write t o = (.ok (), o') ∧ Works o' ∧ text o' = text o ++ t
  flush_works {o : ω} : Works o →
    ∃ o', Console.flush o = (.ok (), o') ∧ Works o' ∧ text o' = text o
  log_works (r : Record) {o : ω} : Works o →
    Works (Console.log r o) ∧ text (Console.log r o) = text o

namespace Console

/-- A console on which the records `rs` have been noted in order. -/
def logAll {ω : Type} [Console ω] (rs : List Record) (o : ω) : ω :=
  rs.foldl (fun o r => log r o) o

open Collects

variable {ω : Type} [Console ω] [Collects ω]

/-- A console that `Works` takes a text, be it empty or not. -/
theorem put_works (t : String) {o : ω} (h : Works o) :
    ∃ o', put t o = (.ok (), o') ∧ Works o' ∧ text o' = text o ++ t := by
  unfold put
  split
  · -- An empty text is not written, and adds nothing.
    rename_i ht
    exact ⟨o, rfl, h, by simp [ht]⟩
  · exact write_works t h

/-- Texts that are written in order come behind each other. -/
theorem putAll_works (ts : List String) {o : ω} (h : Works o) :
    ∃ o', putAll ts o = (.ok (), o') ∧ Works o' ∧ text o' = text o ++ String.join ts := by
  induction ts generalizing o with
  | nil => exact ⟨o, rfl, h, by simp⟩
  | cons t ts ih =>
    obtain ⟨o₁, hput, h₁, ht₁⟩ := put_works t h
    obtain ⟨o₂, hall, h₂, ht₂⟩ := ih h₁
    refine ⟨o₂, ?_, h₂, ?_⟩
    · rw [putAll, hput]
      exact hall
    · rw [ht₂, ht₁, String.join_cons, String.append_assoc]

/-- A text that is shown is one that is written and flushed. -/
theorem display_works (t : String) {o : ω} (h : Works o) :
    ∃ o', display t o = (.ok (), o') ∧ Works o' ∧ text o' = text o ++ t := by
  obtain ⟨o₁, hput, h₁, ht₁⟩ := put_works t h
  obtain ⟨o₂, hflush, h₂, ht₂⟩ := flush_works h₁
  refine ⟨o₂, ?_, h₂, ?_⟩
  · rw [display, hput]
    exact hflush
  · rw [ht₂, ht₁]

/-- What is noted is not written. -/
theorem logAll_works (rs : List Record) {o : ω} (h : Works o) :
    Works (rs.foldl (fun o r => log r o) o) ∧
      text (rs.foldl (fun o r => log r o) o) = text o := by
  induction rs generalizing o with
  | nil => exact ⟨h, rfl⟩
  | cons r rs ih =>
    obtain ⟨h₁, ht₁⟩ := log_works r h
    obtain ⟨h₂, ht₂⟩ := ih h₁
    exact ⟨h₂, ht₂.trans ht₁⟩

/-! ### What stands beside a console -/

section Pair

variable {η : Type}

omit [Collects ω]

theorem put_pair (t : String) (o : ω) (w : η) :
    put t (o, w) = ((put t o).1, ((put t o).2, w)) := by
  unfold put
  split <;> rfl

/-- Writing does nothing to what stands beside a console. -/
theorem putAll_pair (ts : List String) (o : ω) (w : η) :
    putAll ts (o, w) = ((putAll ts o).1, ((putAll ts o).2, w)) := by
  induction ts generalizing o with
  | nil => rfl
  | cons t ts ih =>
    rw [putAll, putAll, put_pair]
    rcases put t o with ⟨f | ⟨⟩, o'⟩
    · rfl
    · exact ih o'

theorem flush_pair (o : ω) (w : η) : flush (o, w) = ((flush o).1, ((flush o).2, w)) := rfl

theorem display_pair (t : String) (o : ω) (w : η) :
    display t (o, w) = ((display t o).1, ((display t o).2, w)) := by
  rw [display, display, put_pair]
  rcases put t o with ⟨f | ⟨⟩, o'⟩ <;> rfl

/-- Noting does nothing to what stands beside a console. -/
theorem logAll_pair (rs : List Record) (o : ω) (w : η) :
    rs.foldl (fun p r => log r p) (o, w) = (rs.foldl (fun o r => log r o) o, w) := by
  induction rs generalizing o with
  | nil => rfl
  | cons r rs ih => exact ih (log r o)

end Pair

end Console

/-- A sink that is not set up to fail is in working order. -/
instance : Console.Collects Sink where
  Works s := s.mode = .ok
  text := Sink.text
  write_works t s h := by
    refine ⟨{ s with text := s.text ++ t }, ?_, h, rfl⟩
    show Sink.write t s = _
    rw [Sink.write, h]
  flush_works {s} h := by
    refine ⟨s, ?_, h, rfl⟩
    show Sink.flush s = _
    rw [Sink.flush, h]
    rfl
  log_works _ _ h := ⟨h, rfl⟩

end LineShell
