import Mathlib.Tactic.SplitIfs
import LineShell.Text.Utf8

/-! # Characters as bytes

A character is written as one to four bytes.  Reading bytes one by one gives a character exactly if
they are the bytes of the character.

* `scan_eq_char`    the bytes that are read as a character are those it is written as -/

namespace LineShell.Text

/-- What a byte says after a character has begun: it is the last one, or there is more to come, or
    it is `invalid`. -/
def Awaiting.next (a : Awaiting) (b : UInt8) : Lead :=
  if a.low ≤ b ∧ b ≤ a.high then
    match a.more with
    | 0 => .char (Char.ofNat (a.bits * 64 + (b.toNat - 0x80)))
    | more + 1 => .opens ⟨more, 0x80, 0xBF, a.bits * 64 + (b.toNat - 0x80)⟩
  else .invalid

/-- What bytes say that go on with a character, by `Awaiting.next` for each. -/
def Lead.follow : Lead → List UInt8 → Lead
  | l, [] => l
  | opens a, b :: bs => (a.next b).follow bs
  | _, _ :: _ => invalid

/-- What some bytes say together: the `lead`, and what follows it. -/
def scan : List UInt8 → Lead
  | [] => .invalid
  | b :: bs => (lead b).follow bs

/-- The byte for a group of six bits of a number, the last of which has the number 0. -/
def group (k v : Nat) : UInt8 := UInt8.ofNat (v >>> (6 * k) % 64 + 0x80)

/-- The bytes for the last `k` groups of six bits of a number. -/
def groups : Nat → Nat → List UInt8
  | 0, _ => []
  | k + 1, v => group k v :: groups k v

/-- What is above the group `k` of a number is what is left when its six bits are taken away. -/
theorem shift_succ (k v : Nat) : v >>> (6 * (k + 1)) = v >>> (6 * k) / 64 := by
  rw [Nat.mul_succ, Nat.shiftRight_add, Nat.shiftRight_eq_div_pow _ 6]

/-- A `group` is a number below 64, and its byte is `0x80` more. -/
theorem toNat_group (k v : Nat) : (group k v).toNat = v >>> (6 * k) % 64 + 0x80 := by
  have hlt := Nat.mod_lt (v >>> (6 * k)) (show 0 < 64 by decide)
  rw [group, UInt8.toNat_ofNat_of_lt']
  show _ < 256
  omega

/-- A `group` is a byte with which a character can go on. -/
theorem group_range (k v : Nat) : 0x80 ≤ group k v ∧ group k v ≤ 0xBF := by
  simp only [UInt8.le_iff_toNat_le, toNat_group]
  have hlt := Nat.mod_lt (v >>> (6 * k)) (show 0 < 64 by decide)
  constructor
  · show 128 ≤ _
    omega
  · show _ ≤ 191
    omega

/-- A byte with which a character can go on is that of a `group`. -/
theorem group_eq {k v : Nat} {b : UInt8} (hlow : 0x80 ≤ b) (hhigh : b ≤ 0xBF) :
    group k v = b ↔ v >>> (6 * k) % 64 = b.toNat - 0x80 := by
  have hge : 128 ≤ b.toNat := hlow
  have hle : b.toNat ≤ 191 := hhigh
  rw [← UInt8.toNat_inj, toNat_group]
  omega

@[simp] theorem follow_nil (l : Lead) : l.follow [] = l := by cases l <;> rfl

@[simp] theorem follow_invalid (bs : List UInt8) : Lead.invalid.follow bs = .invalid := by
  cases bs <;> rfl

@[simp] theorem follow_char {c c' : Char} {bs : List UInt8} :
    (Lead.char c').follow bs = .char c ↔ bs = [] ∧ c' = c := by
  cases bs <;> simp [Lead.follow]

/-- The last byte of a character, by `follow`. -/
theorem follow_last {low high b : UInt8} {bits : Nat} {bs : List UInt8} {c : Char} :
    (Lead.opens ⟨0, low, high, bits⟩).follow (b :: bs) = .char c ↔
      (low ≤ b ∧ b ≤ high) ∧ bs = [] ∧ Char.ofNat (bits * 64 + (b.toNat - 0x80)) = c := by
  rw [Lead.follow, Awaiting.next]
  by_cases hrange : low ≤ b ∧ b ≤ high <;> simp [hrange]

/-- A byte before the last one of a character, by `follow`. -/
theorem follow_more {more bits : Nat} {low high b : UInt8} {bs : List UInt8} {c : Char} :
    (Lead.opens ⟨more + 1, low, high, bits⟩).follow (b :: bs) = .char c ↔
      (low ≤ b ∧ b ≤ high) ∧
        (Lead.opens ⟨more, 0x80, 0xBF, bits * 64 + (b.toNat - 0x80)⟩).follow bs = .char c := by
  rw [Lead.follow, Awaiting.next]
  by_cases hrange : low ≤ b ∧ b ≤ high <;> simp [hrange]

/-- What goes on with a character, up to its end, are the `groups` of six bits of a number that
    begins as is awaited. -/
theorem follow_opens {more bits : Nat} {low high : UInt8} (hlow : 0x80 ≤ low) (hhigh : high ≤ 0xBF)
    {bs : List UInt8} {c : Char} :
    (Lead.opens ⟨more, low, high, bits⟩).follow bs = .char c ↔
      ∃ v, c = Char.ofNat v ∧ v >>> (6 * (more + 1)) = bits ∧
        (low ≤ group more v ∧ group more v ≤ high) ∧ bs = groups (more + 1) v := by
  -- The induction is on the bytes that are awaited, and the number is built up from the front.
  induction more generalizing low high bits bs with
  | zero =>
    cases bs with
    | nil => simp [groups]
    | cons b bs =>
      rw [follow_last]
      constructor
      · rintro ⟨hrange, rfl, rfl⟩
        have hge : 128 ≤ b.toNat := UInt8.le_trans hlow hrange.1
        have hle : b.toNat ≤ 191 := UInt8.le_trans hrange.2 hhigh
        have hgroup : group 0 (bits * 64 + (b.toNat - 0x80)) = b :=
          (group_eq hge hle).mpr (by omega)
        refine ⟨_, rfl, by omega, ?_, ?_⟩
        · rwa [hgroup]
        · rw [groups, hgroup]
          rfl
      · rintro ⟨v, rfl, rfl, hrange, hbs⟩
        obtain ⟨rfl, rfl⟩ := List.cons.inj hbs
        refine ⟨hrange, rfl, congrArg Char.ofNat ?_⟩
        rw [toNat_group, Nat.mul_zero, Nat.shiftRight_zero]
        omega
  | succ m ih =>
    cases bs with
    | nil => simp [groups]
    | cons b bs =>
      rw [follow_more, ih (by decide) (by decide)]
      constructor
      · rintro ⟨hrange, v, rfl, hv, -, rfl⟩
        have hge : 128 ≤ b.toNat := UInt8.le_trans hlow hrange.1
        have hle : b.toNat ≤ 191 := UInt8.le_trans hrange.2 hhigh
        have hgroup : group (m + 1) v = b := (group_eq hge hle).mpr (by omega)
        refine ⟨v, rfl, ?_, ?_, ?_⟩
        · rw [shift_succ]
          omega
        · rwa [hgroup]
        · rw [← hgroup]
          rfl
      · rintro ⟨v, rfl, rfl, hrange, hbs⟩
        obtain ⟨rfl, rfl⟩ := List.cons.inj hbs
        refine ⟨hrange, v, rfl, ?_, group_range m v, rfl⟩
        rw [toNat_group, shift_succ (m + 1)]
        omega

/-- What the character with a number is written as: its `groups`, behind a first byte. -/
theorem encode_ofNat {v : Nat} (hv : v.isValidChar) :
    String.utf8EncodeChar (Char.ofNat v) =
      if v < 0x80 then [UInt8.ofNat v]
      else if v < 0x800 then UInt8.ofNat (v / 64 % 32 + 0xC0) :: groups 1 v
      else if v < 0x10000 then UInt8.ofNat (v / 4096 % 16 + 0xE0) :: groups 2 v
      else UInt8.ofNat (v / 262144 % 8 + 0xF0) :: groups 3 v := by
  have htoNat : (Char.ofNat v).val.toNat = v := by
    rw [Char.ofNat, dif_pos hv]
    rfl
  simp only [String.utf8EncodeChar, htoNat, groups, group, Nat.shiftRight_eq_div_pow,
    Nat.reduceMul, Nat.reducePow, Nat.div_one, ← Nat.lt_succ_iff, Nat.succ_eq_add_one,
    Nat.reduceAdd]

/-! ### First bytes -/

/-- The first byte of a character of two, from `0xC2` on. -/
theorem lead_two {q : Nat} (hge : 2 ≤ q) (hlt : q < 32) :
    lead (UInt8.ofNat (q + 0xC0)) = .opens ⟨0, 0x80, 0xBF, q⟩ := by
  have h : ∀ q < 32, 2 ≤ q → lead (UInt8.ofNat (q + 0xC0)) = .opens ⟨0, 0x80, 0xBF, q⟩ := by decide
  exact h q hlt hge

/-- The first byte of a character of three, from `0xE0` on. -/
theorem lead_three {q : Nat} (hlt : q < 16) :
    lead (UInt8.ofNat (q + 0xE0)) =
      .opens ⟨1, if q = 0 then 0xA0 else 0x80, if q = 13 then 0x9F else 0xBF, q⟩ := by
  have h : ∀ q < 16, lead (UInt8.ofNat (q + 0xE0)) =
      .opens ⟨1, if q = 0 then 0xA0 else 0x80, if q = 13 then 0x9F else 0xBF, q⟩ := by decide
  exact h q hlt

/-- The first byte of a character of four, from `0xF0` to `0xF4`. -/
theorem lead_four {q : Nat} (hlt : q < 5) :
    lead (UInt8.ofNat (q + 0xF0)) =
      .opens ⟨2, if q = 0 then 0x90 else 0x80, if q = 4 then 0x8F else 0xBF, q⟩ := by
  have h : ∀ q < 5, lead (UInt8.ofNat (q + 0xF0)) =
      .opens ⟨2, if q = 0 then 0x90 else 0x80, if q = 4 then 0x8F else 0xBF, q⟩ := by decide
  exact h q hlt

/-- Every byte is a character, or the first byte of a character of two, three or four bytes, or no
    first byte. -/
theorem lead_cases (b : UInt8) :
    (b.toNat < 0x80 ∧ lead b = .char (Char.ofNat b.toNat)) ∨
      (∃ q, 2 ≤ q ∧ q < 32 ∧ b = UInt8.ofNat (q + 0xC0)) ∨
      (∃ q < 16, b = UInt8.ofNat (q + 0xE0)) ∨ (∃ q < 5, b = UInt8.ofNat (q + 0xF0)) ∨
      lead b = .invalid := by
  have hq {n : Nat} (hn : n ≤ b.toNat) : b = UInt8.ofNat (b.toNat - n + n) := by
    rw [Nat.sub_add_cancel hn, UInt8.ofNat_toNat]
  -- The bounds between the kinds of first bytes, from below.
  by_cases h1 : b.toNat < 0x80
  · exact .inl ⟨h1, by simp [lead, h1]⟩
  by_cases h2 : b.toNat < 0xC2
  · exact .inr (.inr (.inr (.inr (by simp [lead, h1, h2]))))
  by_cases h3 : b.toNat < 0xE0
  · exact .inr (.inl ⟨b.toNat - 0xC0, by omega, by omega, hq (by omega)⟩)
  by_cases h4 : b.toNat < 0xF0
  · exact .inr (.inr (.inl ⟨b.toNat - 0xE0, by omega, hq (by omega)⟩))
  by_cases h5 : b.toNat < 0xF5
  · exact .inr (.inr (.inr (.inl ⟨b.toNat - 0xF0, by omega, hq (by omega)⟩)))
  · refine .inr (.inr (.inr (.inr ?_)))
    unfold lead
    dsimp only
    split_ifs <;> first | rfl | omega

/-- What the range of the second byte of three means for the number: it is no surrogate, and not
    shorter. -/
theorem range_three {v : Nat} (hv : v / 4096 < 16) :
    ((if v / 4096 = 0 then 0xA0 else 0x80) ≤ group 1 v ∧
        group 1 v ≤ if v / 4096 = 13 then 0x9F else 0xBF) ↔
      0x800 ≤ v ∧ (v < 0xD800 ∨ 0xDFFF < v) := by
  split_ifs <;> simp only [UInt8.le_iff_toNat_le, toNat_group, UInt8.reduceToNat] <;> omega

/-- What the range of the second byte of four means for the number: it is not shorter, and not too
    large. -/
theorem range_four {v : Nat} (hv : v / 262144 < 5) :
    ((if v / 262144 = 0 then 0x90 else 0x80) ≤ group 2 v ∧
        group 2 v ≤ if v / 262144 = 4 then 0x8F else 0xBF) ↔
      0x10000 ≤ v ∧ v < 0x110000 := by
  split_ifs <;> simp only [UInt8.le_iff_toNat_le, toNat_group, UInt8.reduceToNat] <;> omega

/-- A character is read by `scan` from the bytes that `String.utf8EncodeChar` writes. -/
theorem scan_encode {v : Nat} (hv : v.isValidChar) :
    scan (String.utf8EncodeChar (Char.ofNat v)) = .char (Char.ofNat v) := by
  have hvalid : v < 0xD800 ∨ 0xDFFF < v ∧ v < 0x110000 := hv
  rw [encode_ofNat hv]
  -- One case for each length, and the range of the second byte is that of the number.
  split_ifs with h1 h2 h3
  · have hb : (UInt8.ofNat v).toNat = v := UInt8.toNat_ofNat_of_lt' (Nat.lt_trans h1 (by decide))
    simp [scan, lead, hb, h1]
  · have hq : v / 64 % 32 = v / 64 := by omega
    rw [scan, hq, lead_two (by omega) (by omega), follow_opens (by decide) (by decide)]
    exact ⟨v, rfl, Nat.shiftRight_eq_div_pow v 6, group_range _ _, rfl⟩
  · have hq : v / 4096 % 16 = v / 4096 := by omega
    rw [scan, hq, lead_three (by omega), follow_opens (by split <;> decide) (by split <;> decide)]
    exact ⟨v, rfl, Nat.shiftRight_eq_div_pow v 12, (range_three (by omega)).mpr (by omega), rfl⟩
  · have hq : v / 262144 % 8 = v / 262144 := by omega
    rw [scan, hq, lead_four (by omega), follow_opens (by split <;> decide) (by split <;> decide)]
    exact ⟨v, rfl, Nat.shiftRight_eq_div_pow v 18, (range_four (by omega)).mpr (by omega), rfl⟩

/-- The bytes that `scan` reads as a character are those it is written as. -/
theorem scan_eq_char {bs : List UInt8} {c : Char} :
    scan bs = .char c ↔ String.utf8EncodeChar c = bs := by
  constructor
  · intro h
    cases bs with
    | nil => cases h
    | cons b bs =>
      rw [scan] at h
      obtain ⟨hb, hlead⟩ | ⟨q, hge, hlt, rfl⟩ | ⟨q, hlt, rfl⟩ | ⟨q, hlt, rfl⟩ | hlead :=
        lead_cases b
      · rw [hlead] at h
        obtain ⟨rfl, rfl⟩ := follow_char.mp h
        rw [encode_ofNat (.inl (by omega)), if_pos hb, UInt8.ofNat_toNat]
      · rw [lead_two hge hlt, follow_opens (by decide) (by decide)] at h
        obtain ⟨v, rfl, hq, -, rfl⟩ := h
        have hq' : v / 64 = q := (Nat.shiftRight_eq_div_pow v 6).symm.trans hq
        have hmod : v / 64 % 32 = q := by omega
        rw [encode_ofNat (.inl (by omega)), if_neg (by omega), if_pos (by omega), hmod]
      · rw [lead_three hlt, follow_opens (by split <;> decide) (by split <;> decide)] at h
        obtain ⟨v, rfl, hq, hrange, rfl⟩ := h
        obtain rfl : v / 4096 = q := (Nat.shiftRight_eq_div_pow v 12).symm.trans hq
        have hv := (range_three hlt).mp hrange
        have hmod : v / 4096 % 16 = v / 4096 := by omega
        rw [encode_ofNat (hv.2.imp_right (⟨·, by omega⟩)), if_neg (by omega), if_neg (by omega),
          if_pos (by omega), hmod]
      · rw [lead_four hlt, follow_opens (by split <;> decide) (by split <;> decide)] at h
        obtain ⟨v, rfl, hq, hrange, rfl⟩ := h
        obtain rfl : v / 262144 = q := (Nat.shiftRight_eq_div_pow v 18).symm.trans hq
        have hv := (range_four hlt).mp hrange
        have hmod : v / 262144 % 8 = v / 262144 := by omega
        rw [encode_ofNat (.inr ⟨by omega, hv.2⟩), if_neg (by omega), if_neg (by omega),
          if_neg (by omega), hmod]
      · rw [hlead, follow_invalid] at h
        cases h
  · rintro rfl
    rw [← Char.ofNat_toNat c]
    exact scan_encode c.valid

end LineShell.Text
