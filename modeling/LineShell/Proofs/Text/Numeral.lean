import LineShell.Text.Numeral
import Mathlib.Data.List.Induction

/-! # Numerals

The grammar of whole numbers: decimal digits, with any number of leading zeros, after at most one
sign.  It says nothing of how numbers are read; what is read as a number is what the grammar allows,
and the decimal text of a number is read as that number.

* `digits?_eq_some_iff`    what is read as digits are digits
* `integer?_eq_some_iff`   what is read as a number is a numeral
* `numeral_toString`       the decimal text of a number is a numeral of that number -/

namespace LineShell.Text

/-- Digits, from the highest to the lowest, and the number that they write. -/
inductive Digits : List Char → Nat → Prop
  | one {d : Nat} (h : d < 10) : Digits [d.digitChar] d
  | more {cs : List Char} {n d : Nat} (front : Digits cs n) (h : d < 10) :
      Digits (cs ++ [d.digitChar]) (n * 10 + d)

/-- A whole number in decimal digits. -/
inductive Numeral : String → Int → Prop
  | unsigned {cs : List Char} {n : Nat} (h : Digits cs n) : Numeral (String.ofList cs) n
  | plus {cs : List Char} {n : Nat} (h : Digits cs n) : Numeral (String.ofList ('+' :: cs)) n
  | minus {cs : List Char} {n : Nat} (h : Digits cs n) : Numeral (String.ofList ('-' :: cs)) (-n)

/-! ### Digits -/

/-- A digit is `Nat.digitChar` of a number below ten. -/
private theorem exists_digitChar {c : Char} (h : c.isDigit = true) :
    ∃ d < 10, c = d.digitChar := by
  have hrange : 48 ≤ c.toNat ∧ c.toNat ≤ 57 := by
    simpa [Char.isDigit, UInt32.le_iff_toNat_le] using h
  have hlt : c.toNat - 48 < 10 := by omega
  refine ⟨c.toNat - 48, hlt, Char.toNat_inj.mp ?_⟩
  rw [Nat.toNat_digitChar_of_lt_ten hlt]
  omega

private theorem value_digitChar {d : Nat} (h : d < 10) : d.digitChar.toNat - '0'.toNat = d := by
  rw [Nat.toNat_digitChar_of_lt_ten h]
  exact Nat.add_sub_cancel_left 48 d

private theorem isDigit_digitChar {d : Nat} (h : d < 10) : d.digitChar.isDigit = true := by
  simpa [Nat.isDigit_digitChar] using h

/-- `Digits` are read by `digits?` as the number that they write. -/
theorem Digits.digits?_eq {cs : List Char} {n : Nat} (h : Digits cs n) : digits? cs = some n := by
  induction h with
  | @one d h =>
    have hvalue : digitsFrom 0 [d.digitChar] = d := (Nat.zero_add _).trans (value_digitChar h)
    simp [digits?, isDigit_digitChar h, hvalue]
  | more front h ih =>
    rw [digits?_append_singleton ih (isDigit_digitChar h), value_digitChar h]

/-- What `digits?` reads are `Digits`, and of the number that it gives. -/
theorem digits?_eq_some_iff {cs : List Char} {n : Nat} : digits? cs = some n ↔ Digits cs n := by
  refine ⟨fun h => ?_, Digits.digits?_eq⟩
  -- The last digit comes off the end.
  induction cs using List.reverseRecOn generalizing n with
  | nil => cases h
  | append_singleton cs c ih =>
    obtain ⟨⟨-, hall⟩, hn⟩ := (Option.ite_none_right_eq_some ..).mp h
    obtain rfl : digitsFrom 0 (cs ++ [c]) = n := Option.some.inj hn
    have hdigits : (∀ c ∈ cs, c.isDigit = true) ∧ c.isDigit = true := by
      simpa [or_imp, forall_and] using hall
    obtain ⟨d, hd, rfl⟩ := exists_digitChar hdigits.2
    have hvalue : digitsFrom 0 (cs ++ [d.digitChar]) = digitsFrom 0 cs * 10 + d := by
      rw [digitsFrom_append]
      exact congrArg (digitsFrom 0 cs * 10 + ·) (value_digitChar hd)
    rw [hvalue]
    by_cases hcs : cs = []
    · subst hcs
      simpa [digitsFrom] using Digits.one hd
    · have hfront : digits? cs = some (digitsFrom 0 cs) := if_pos ⟨hcs, by simpa using hdigits.1⟩
      exact .more (ih hfront) hd

/-- `Digits` begin with a digit, so there is one. -/
theorem Digits.exists_cons {cs : List Char} {n : Nat} (h : Digits cs n) :
    ∃ c rest, cs = c :: rest ∧ c.isDigit = true := by
  induction h with
  | one h => exact ⟨_, [], rfl, isDigit_digitChar h⟩
  | more front h ih =>
    obtain ⟨c, rest, rfl, hc⟩ := ih
    exact ⟨c, rest ++ [_], rfl, hc⟩

/-- The decimal digits `Nat.toDigits 10 n` of a number write it. -/
theorem digits_toDigits (n : Nat) : Digits (Nat.toDigits 10 n) n := by
  rw [← digits?_eq_some_iff]
  have hvalue : digitsFrom 0 (Nat.toDigits 10 n) = n := by
    have h := Nat.ofDigitChars_toDigits (n := n) (b := 10) (by decide) (by decide)
    rw [Nat.ofDigitChars] at h
    simpa only [digitsFrom, Nat.mul_comm] using h
  have hall : (Nat.toDigits 10 n).all Char.isDigit = true := by
    rw [List.all_eq_true]
    intro c hc
    exact Nat.isDigit_of_mem_toDigits (by decide) (by decide) hc
  exact (if_pos ⟨Nat.toDigits_ne_nil, hall⟩).trans (congrArg some hvalue)

/-! ### Numbers -/

/-- A `Numeral` is read by `integer?` as the number that it writes. -/
theorem Numeral.integer?_eq {s : String} {v : Int} (h : Numeral s v) : integer? s = some v := by
  cases h with
  | @unsigned cs n h =>
    obtain ⟨c, rest, rfl, hc⟩ := h.exists_cons
    unfold integer?
    -- A digit is no sign.
    split
    · rename_i hsign
      rw [String.toList_ofList] at hsign
      cases hsign
      exact absurd hc (by decide)
    · rename_i hsign
      rw [String.toList_ofList] at hsign
      cases hsign
      exact absurd hc (by decide)
    · rw [String.toList_ofList, h.digits?_eq]
      rfl
  | plus h => simp [integer?, h.digits?_eq]
  | minus h => simp [integer?, h.digits?_eq]

/-- What `integer?` reads as a number is a `Numeral` of it. -/
theorem integer?_eq_some_iff {s : String} {v : Int} : integer? s = some v ↔ Numeral s v := by
  refine ⟨fun h => ?_, Numeral.integer?_eq⟩
  have hs : s = String.ofList s.toList := (String.ofList_toList).symm
  rw [hs]
  unfold integer? at h
  -- A plus, a minus, or neither: each is a numeral of its own kind.
  split at h
  · rename_i cs hlist
    obtain ⟨n, hn, rfl⟩ := Option.map_eq_some_iff.mp h
    rw [hlist]
    exact .plus (digits?_eq_some_iff.mp hn)
  · rename_i cs hlist
    rw [hlist]
    cases hn : digits? cs with
    | none =>
      rw [hn] at h
      cases h
    | some n =>
      rw [hn] at h
      obtain rfl : -(n : Int) = v := Option.some.inj h
      exact .minus (digits?_eq_some_iff.mp hn)
  · obtain ⟨n, hn, rfl⟩ := Option.map_eq_some_iff.mp h
    exact .unsigned (digits?_eq_some_iff.mp hn)

/-- The decimal text `toString v` of a number is a numeral of it. -/
theorem numeral_toString (v : Int) : Numeral (toString v) v := by
  have hrepr (n : Nat) : n.repr = String.ofList (Nat.toDigits 10 n) := by
    rw [← Nat.toList_repr, String.ofList_toList]
  rw [Int.toString_eq_repr]
  -- Only a number below 0 has a sign.
  cases v with
  | ofNat n =>
    show Numeral n.repr n
    rw [hrepr]
    exact .unsigned (digits_toDigits n)
  | negSucc n =>
    have htext : "-" ++ (n + 1).repr = String.ofList ('-' :: Nat.toDigits 10 (n + 1)) := by
      rw [hrepr, ← String.toList_inj]
      simp
    show Numeral ("-" ++ (n + 1).repr) (-((n + 1 : Nat) : Int))
    rw [htext]
    exact .minus (digits_toDigits (n + 1))

end LineShell.Text
