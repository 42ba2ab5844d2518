/-! # Decimal numerals

Whole numbers written in ASCII digits, with any number of leading zeros, and with an optional
sign in front.

* `digits?_append_singleton`   one digit more -/

namespace LineShell.Text

/-- The number that the digits `cs` write from the highest to the lowest, after a number `n`. -/
def digitsFrom (n : Nat) (cs : List Char) : Nat :=
  cs.foldl (fun n c => n * 10 + (c.toNat - '0'.toNat)) n

/-- The number that a text of one or more digits writes. -/
def digits? (cs : List Char) : Option Nat :=
  if cs ≠ [] ∧ cs.all Char.isDigit then some (digitsFrom 0 cs) else none

/-- The number that digits write after an optional `+` or `-`. -/
def integer? (s : String) : Option Int :=
  match s.toList with
  | '+' :: ds => (digits? ds).map Int.ofNat
  | '-' :: ds => (digits? ds).map fun n => -(n : Int)
  | ds => (digits? ds).map Int.ofNat

/-- The number that a text of one or more digits writes. -/
def natural? (s : String) : Option Nat := digits? s.toList

theorem digitsFrom_append (n : Nat) (cs ds : List Char) :
    digitsFrom n (cs ++ ds) = digitsFrom (digitsFrom n cs) ds := by
  simp [digitsFrom]

/-- One digit more at the end of `cs` multiplies by ten and adds. -/
theorem digits?_append_singleton {cs : List Char} {n : Nat} {c : Char} (h : digits? cs = some n)
    (hc : c.isDigit = true) : digits? (cs ++ [c]) = some (n * 10 + (c.toNat - '0'.toNat)) := by
  unfold digits? at h ⊢
  split at h
  · rename_i hcs
    obtain ⟨rfl⟩ := h
    have hall := hcs.2
    simp only [List.all_eq_true] at hall
    have : (cs ++ [c]).all Char.isDigit = true := by
      simp only [List.all_append, List.all_cons, List.all_nil, hc, Bool.and_true, List.all_eq_true]
      exact hall
    rw [if_pos ⟨by simp, this⟩, digitsFrom_append]
    rfl
  · cases h

end LineShell.Text
