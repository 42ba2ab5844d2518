import LineShell.Proofs.Text.Encoding

/-! # The rule of replacement

Bytes that hold more than characters are read all the same: where no character stands, the longest
piece that begins one gives way to a replacement character.  `Decodes` states the rule without
reading byte by byte, and `decode` is what it determines.

* `decodes_iff`        reading byte by byte follows the rule, and the rule leaves no choice
* `decode_encode`      what is written as characters is read as them
* `decode_ascii`       a byte of one of the first 128 characters is that character everywhere -/

namespace LineShell.Text

/-- Some character is written by `String.utf8EncodeChar` with these bytes first. -/
def Begins (part : List UInt8) : Prop := ∃ c, part <+: String.utf8EncodeChar c

/-- Some bytes decode to some characters. -/
inductive Decodes : List UInt8 → List Char → Prop
  | nil : Decodes [] []
  /-- The bytes of a character. -/
  | char (c : Char) {rest : List UInt8} {cs : List Char} (h : Decodes rest cs) :
      Decodes (String.utf8EncodeChar c ++ rest) (c :: cs)
  /-- Where no character stands, the longest piece that begins one is replaced, or a single byte. -/
  | replaced {part rest : List UInt8} {cs : List Char} (nonempty : part ≠ [])
      (begins : Begins part ∨ part.length = 1)
      (whole : ∀ c, ¬String.utf8EncodeChar c <+: part ++ rest)
      (longest : ∀ longer, longer <+: part ++ rest → Begins longer → longer.length ≤ part.length)
      (h : Decodes rest cs) : Decodes (part ++ rest) (replacement :: cs)

/-! ### Pieces that begin a character -/

/-- Bytes go on with what the bytes in front of them say: `follow` is a fold. -/
theorem follow_append (l : Lead) (bs bs' : List UInt8) :
    l.follow (bs ++ bs') = (l.follow bs).follow bs' := by
  induction bs generalizing l with
  | nil => rw [List.nil_append, follow_nil]
  | cons b bs ih =>
    cases l with
    | opens a => exact ih (a.next b)
    | char c => simp [Lead.follow]
    | invalid => simp

/-- What bytes say together is what the first of them say, followed by the others: `scan`, then
    `follow`. -/
theorem scan_append {bs : List UInt8} (hne : bs ≠ []) (bs' : List UInt8) :
    scan (bs ++ bs') = (scan bs).follow bs' := by
  obtain ⟨b, bs, rfl⟩ := List.exists_cons_of_ne_nil hne
  exact follow_append _ _ _

/-- What is awaited can come: there are bytes from `low` to `high`, and each of them is one with
    which a character can go on. -/
structure Awaiting.Sound (a : Awaiting) : Prop where
  low : 0x80 ≤ a.low
  high : a.high ≤ 0xBF
  range : a.low ≤ a.high

theorem sound_wide (more bits : Nat) : (⟨more, 0x80, 0xBF, bits⟩ : Awaiting).Sound :=
  ⟨UInt8.le_refl _, UInt8.le_refl _, (by decide : (0x80 : UInt8) ≤ 0xBF)⟩

/-- What `lead` awaits after a first byte can come. -/
theorem sound_of_lead {b : UInt8} {a : Awaiting} (h : lead b = .opens a) : a.Sound := by
  obtain ⟨-, hlead⟩ | ⟨q, hge, hlt, rfl⟩ | ⟨q, hlt, rfl⟩ | ⟨q, hlt, rfl⟩ | hlead := lead_cases b
  · rw [hlead] at h
    cases h
  · rw [lead_two hge hlt] at h
    cases h
    exact sound_wide _ _
  · rw [lead_three hlt] at h
    cases h
    constructor <;> dsimp only <;> split_ifs <;> first | decide | omega
  · rw [lead_four hlt] at h
    cases h
    constructor <;> dsimp only <;> split_ifs <;> first | decide | omega
  · rw [hlead] at h
    cases h

/-- What `next` awaits after a later byte can come. -/
theorem sound_of_next {a a' : Awaiting} {b : UInt8} (h : a.next b = .opens a') : a'.Sound := by
  unfold Awaiting.next at h
  split at h
  · split at h
    · cases h
    · cases h
      exact sound_wide _ _
  · cases h

theorem sound_of_follow {l : Lead} (hl : ∀ a, l = .opens a → a.Sound) {bs : List UInt8}
    {a : Awaiting} (h : l.follow bs = .opens a) : a.Sound := by
  induction bs generalizing l with
  | nil =>
    rw [follow_nil] at h
    exact hl a h
  | cons b bs ih =>
    cases l with
    | opens a' => exact ih (fun _ => sound_of_next) h
    | char c => cases h
    | invalid => cases h

/-- Whatever `scan` has begun can come to its end. -/
theorem sound_of_scan {bs : List UInt8} {a : Awaiting} (h : scan bs = .opens a) : a.Sound := by
  cases bs with
  | nil => cases h
  | cons b bs => exact sound_of_follow (fun _ => sound_of_lead) h

/-- A state that is `Sound` is completed to some character by some bytes. -/
theorem Awaiting.Sound.exists_follow {a : Awaiting} (h : a.Sound) :
    ∃ bs c, (Lead.opens a).follow bs = .char c := by
  obtain ⟨more, low, high, bits⟩ := a
  obtain ⟨hlow, hhigh, hrange⟩ := h
  have hge : 128 ≤ low.toNat := hlow
  have hle : low.toNat ≤ 191 := UInt8.le_trans hrange hhigh
  -- The number whose next group is the least byte that is awaited, with nothing but zeros behind.
  let v := (bits * 64 + (low.toNat - 0x80)) <<< (6 * more)
  have hv : v >>> (6 * more) = bits * 64 + (low.toNat - 0x80) := Nat.shiftLeft_shiftRight _ _
  have hgroup : group more v = low := (group_eq hge hle).mpr (by omega)
  refine ⟨groups (more + 1) v, Char.ofNat v, (follow_opens hlow hhigh).mpr ⟨v, rfl, ?_, ?_, rfl⟩⟩
  · rw [shift_succ]
    omega
  · rw [hgroup]
    exact ⟨UInt8.le_refl _, hrange⟩

/-- Bytes begin a character as long as `scan` does not find them `invalid`. -/
theorem begins_iff {bs : List UInt8} (hne : bs ≠ []) : Begins bs ↔ scan bs ≠ .invalid := by
  constructor
  · rintro ⟨c, rest, hc⟩ hinvalid
    have hscan := scan_eq_char.mpr hc.symm
    rw [scan_append hne, hinvalid, follow_invalid] at hscan
    cases hscan
  · intro hscan
    cases h : scan bs with
    | invalid => exact absurd h hscan
    | char c => exact ⟨c, [], by rw [scan_eq_char.mp h, List.append_nil]⟩
    | opens a =>
      obtain ⟨rest, c, hrest⟩ := (sound_of_scan h).exists_follow
      refine ⟨c, rest, ?_⟩
      rw [← h, ← scan_append hne] at hrest
      exact (scan_eq_char.mp hrest).symm

/-- No byte below `0x80` goes on with a character. -/
theorem not_begins_concat {bs : List UInt8} (hne : bs ≠ []) {b : UInt8} (hb : b < 0x80) :
    ¬Begins (bs ++ [b]) := by
  rw [begins_iff (by simp), scan_append hne, Classical.not_not]
  cases h : scan bs with
  | invalid => rfl
  | char c => rfl
  | opens a =>
    have hlow : ¬a.low ≤ b := fun hle =>
      absurd (UInt8.lt_of_lt_of_le hb (sound_of_scan h).low) (UInt8.not_lt.mpr hle)
    rw [Lead.follow, Awaiting.next, if_neg fun hrange => hlow hrange.1, follow_nil]

/-- What `Begins` a character does so with its first bytes, too. -/
theorem Begins.shorten {part longer : List UInt8} (h : Begins longer) (hpart : part <+: longer) :
    Begins part :=
  let ⟨c, hc⟩ := h
  ⟨c, hpart.trans hc⟩

/-! ### Reading byte by byte follows the rule -/

/-- What comes first in two lists in a row comes first in the first list, or goes beyond it. -/
private theorem prefix_append_cases {α : Type} {xs part rest : List α} (h : xs <+: part ++ rest) :
    xs <+: part ∨ ∃ b, rest.head? = some b ∧ part ++ [b] <+: xs := by
  obtain hle | ⟨more, rfl⟩ := List.prefix_or_prefix_of_prefix h (List.prefix_append part rest)
  · exact .inl hle
  · rw [List.prefix_append_right_inj] at h
    cases more with
    | nil => exact .inl (by simp)
    | cons b more =>
      obtain ⟨rest', rfl⟩ := h
      exact .inr ⟨b, rfl, by simp⟩

/-- The piece that is replaced ends where the next byte does not go on with a character:
    `Decodes.replaced` with the longest piece told by one byte. -/
theorem Decodes.of_next {part rest : List UInt8} {cs : List Char} (nonempty : part ≠ [])
    (begins : Begins part ∨ part.length = 1) (whole : ∀ c, ¬String.utf8EncodeChar c <+: part)
    (next : ∀ b, rest.head? = some b → ¬Begins (part ++ [b])) (h : Decodes rest cs) :
    Decodes (part ++ rest) (replacement :: cs) := by
  refine .replaced nonempty begins (fun c hc => ?_) (fun longer hlonger hbegins => ?_) h
  · obtain hc | ⟨b, hb, hc⟩ := prefix_append_cases hc
    · exact whole c hc
    · exact next b hb ⟨c, hc⟩
  · obtain hle | ⟨b, hb, hle⟩ := prefix_append_cases hlonger
    · exact hle.length_le
    · exact absurd (hbegins.shorten hle) (next b hb)

/-- No character comes first in bytes that cannot be read as one. -/
private theorem not_prefix_of_scan {bs : List UInt8} {c : Char} (h : ∀ c, scan bs ≠ .char c)
    (hlen : scan bs = .invalid → bs.length = 1) : ¬String.utf8EncodeChar c <+: bs := by
  rintro ⟨rest, rfl⟩
  have hne : String.utf8EncodeChar c ≠ [] := String.utf8EncodeChar_ne_nil
  have hscan := scan_append hne rest
  rw [scan_eq_char.mpr rfl] at hscan
  cases rest with
  | nil => exact h c hscan
  | cons b rest =>
    have hone := hlen hscan
    have hpos := List.length_pos_iff.mpr hne
    rw [List.length_append, List.length_cons] at hone
    omega

/-- A byte after a character has begun: it goes on with the character, or it is read as if nothing
    had begun, behind a `replacement`. -/
theorem decodeByte_some (a : Awaiting) (b : UInt8) :
    decodeByte (some a) b =
      match a.next b with
      | .invalid => (replacement :: (lead b).start.1, (lead b).start.2)
      | l => l.start := by
  obtain ⟨more, low, high, bits⟩ := a
  unfold decodeByte Awaiting.next
  by_cases hrange : low ≤ b ∧ b ≤ high
  · cases more <;> simp [hrange, Lead.start]
  · simp [hrange]

/-- A character that has begun and breaks off is replaced: the case of `.opens` in
    `decodes_decodeFrom`. -/
private theorem decodes_of_opens {part rest : List UInt8} {cs : List Char} {a : Awaiting}
    (hpart : scan part = .opens a) (hnext : ∀ b, rest.head? = some b → a.next b = .invalid)
    (h : Decodes rest cs) : Decodes (part ++ rest) (replacement :: cs) := by
  have hne : part ≠ [] := by
    rintro rfl
    cases hpart
  refine .of_next hne (.inl ?_) (fun c => not_prefix_of_scan ?_ ?_) (fun b hb => ?_) h
  · rw [begins_iff hne, hpart]
    nofun
  · simp [hpart]
  · simp [hpart]
  · rw [begins_iff (by simp), scan_append hne, hpart, Classical.not_not]
    simpa [Lead.follow] using hnext b hb

/-- Reading on with `decodeFrom` follows the rule, whatever has begun. -/
theorem decodes_decodeFrom (rest : List UInt8) :
    Decodes rest (decode rest) ∧
      ∀ part a, scan part = .opens a → Decodes (part ++ rest) (decodeFrom (some a) rest) := by
  induction rest with
  | nil => exact ⟨.nil, fun part a hpart => decodes_of_opens hpart nofun .nil⟩
  | cons b rest ih =>
    obtain ⟨hdecode, hfrom⟩ := ih
    have hfirst : Decodes (b :: rest) (decode (b :: rest)) := by
      show Decodes ([b] ++ rest) ((lead b).start.1 ++ decodeFrom (lead b).start.2 rest)
      have hscan : scan [b] = lead b := follow_nil _
      -- The first byte is a character, opens one, or is replaced alone.
      cases hlead : lead b with
      | char c =>
        rw [← scan_eq_char.mp (hscan.trans hlead)]
        exact .char c hdecode
      | opens a => exact hfrom [b] a (hscan.trans hlead)
      | invalid =>
        refine .of_next (by simp) (.inr rfl) (fun c => not_prefix_of_scan ?_ fun _ => rfl)
          (fun b' _ => ?_) hdecode
        · simp [hscan, hlead]
        · rw [begins_iff (by simp), scan_append (by simp), hscan, hlead, Classical.not_not]
          rfl
    refine ⟨hfirst, fun part a hpart => ?_⟩
    have hne : part ≠ [] := by
      rintro rfl
      cases hpart
    have hscan : scan (part ++ [b]) = a.next b := by
      rw [scan_append hne, hpart]
      exact follow_nil _
    have hsplit : part ++ b :: rest = (part ++ [b]) ++ rest := by simp
    rw [decodeFrom, decodeByte_some]
    -- The byte completes the character, goes on with it, or breaks it off and is read anew.
    cases hnext : a.next b with
    | char c =>
      rw [hsplit, ← scan_eq_char.mp (hscan.trans hnext)]
      exact .char c hdecode
    | opens a' =>
      rw [hsplit]
      exact hfrom _ a' (hscan.trans hnext)
    | invalid =>
      refine decodes_of_opens hpart (fun b' hb' => ?_) hfirst
      obtain rfl := Option.some.inj hb'
      exact hnext

/-- No character is written as the beginning of another one. -/
private theorem eq_of_encode_begins {c c' : Char}
    (h : String.utf8EncodeChar c <+: String.utf8EncodeChar c') : c = c' := by
  obtain ⟨rest, hrest⟩ := h
  have hscan := scan_append (String.utf8EncodeChar_ne_nil (c := c)) rest
  rw [scan_eq_char.mpr hrest.symm, scan_eq_char.mpr rfl] at hscan
  exact (follow_char.mp hscan.symm).2

/-- A piece that begins a character, or a single byte, is no longer than the longest one. -/
private theorem length_le_longest {part part' rest : List UInt8} (nonempty : part ≠ [])
    (longest : ∀ longer, longer <+: rest → Begins longer → longer.length ≤ part.length)
    (begins' : Begins part' ∨ part'.length = 1) (hpart' : part' <+: rest) :
    part'.length ≤ part.length := by
  obtain hbegins | hone := begins'
  · exact longest part' hpart' hbegins
  · rw [hone]
    exact List.length_pos_iff.mpr nonempty

/-- The rule leaves no choice: `Decodes` relates bytes to one list of characters at most. -/
theorem Decodes.unique {bytes : List UInt8} {cs cs' : List Char} (h : Decodes bytes cs)
    (h' : Decodes bytes cs') : cs = cs' := by
  -- The induction is on the one reading, and the other one has to take the same first step.
  induction h generalizing cs' with
  | nil =>
    generalize hbytes : ([] : List UInt8) = bytes at h'
    cases h' with
    | nil => rfl
    | char c h' => exact absurd hbytes (by simp [String.utf8EncodeChar_ne_nil])
    | replaced nonempty _ _ _ _ => exact absurd hbytes (by simp [nonempty])
  | @char c rest cs h ih =>
    generalize hbytes : String.utf8EncodeChar c ++ rest = bytes at h'
    cases h' with
    | nil => exact absurd hbytes (by simp [String.utf8EncodeChar_ne_nil])
    | @char c' rest' cs' h' =>
      obtain rfl : c = c' := by
        have hprefix := List.prefix_append (String.utf8EncodeChar c) rest
        rw [hbytes] at hprefix
        obtain hle | hle := List.prefix_or_prefix_of_prefix hprefix (List.prefix_append _ rest')
        · exact eq_of_encode_begins hle
        · exact (eq_of_encode_begins hle).symm
      obtain rfl := List.append_cancel_left hbytes
      rw [ih h']
    | replaced _ _ whole _ _ => exact absurd ⟨rest, hbytes⟩ (whole c)
  | @replaced part rest cs nonempty begins whole longest h ih =>
    generalize hbytes : part ++ rest = bytes at h'
    cases h' with
    | nil => exact absurd hbytes (by simp [nonempty])
    | @char c rest' cs' h' => exact absurd ⟨rest', hbytes.symm⟩ (whole c)
    | @replaced part' rest' cs' nonempty' begins' whole' longest' h' =>
      rw [← hbytes] at longest'
      have hge := length_le_longest nonempty longest begins'
        (hbytes ▸ List.prefix_append part' rest')
      have hle := length_le_longest nonempty' longest' begins (List.prefix_append part rest)
      obtain ⟨rfl, rfl⟩ := List.append_inj hbytes (Nat.le_antisymm hle hge)
      rw [ih h']

/-- Bytes decode to what `decode` reads, and to nothing else. -/
theorem decodes_iff {bytes : List UInt8} {cs : List Char} :
    Decodes bytes cs ↔ decode bytes = cs := by
  constructor
  · exact (decodes_decodeFrom bytes).1.unique
  · rintro rfl
    exact (decodes_decodeFrom bytes).1

/-! ### Texts and their bytes -/

/-- What `String.utf8EncodeChar` writes is what `decode` reads. -/
theorem decode_encode (cs : List Char) : decode (cs.flatMap String.utf8EncodeChar) = cs := by
  rw [← decodes_iff]
  induction cs with
  | nil => exact .nil
  | cons c cs ih => exact .char c ih

/-- Every byte counts: only `[]` decodes to no characters. -/
theorem decode_eq_nil {bytes : List UInt8} : decode bytes = [] ↔ bytes = [] := by
  rw [← decodes_iff]
  constructor
  · intro h
    generalize hcs : ([] : List Char) = cs at h
    cases h with
    | nil => rfl
    | char _ _ => cases hcs
    | replaced _ _ _ _ _ => cases hcs
  · rintro rfl
    exact .nil

/-- The first 128 characters are single bytes for `String.utf8EncodeChar`. -/
theorem encode_ascii {c : Char} (hc : c.toNat < 0x80) :
    String.utf8EncodeChar c = [UInt8.ofNat c.toNat] := by
  have hencode := encode_ofNat (v := c.toNat) c.valid
  rwa [if_pos hc, Char.ofNat_toNat] at hencode

/-- One of the first 128 characters is in `decode bytes` only where its byte stands. -/
theorem mem_of_mem_decode {bytes : List UInt8} {c : Char} (h : c ∈ decode bytes)
    (hc : c.toNat < 0x80) : UInt8.ofNat c.toNat ∈ bytes := by
  have hdecodes := decodes_iff.mpr (rfl : decode bytes = decode bytes)
  generalize decode bytes = cs at h hdecodes
  -- A replacement is not among the first 128, so the character comes from bytes of its own.
  induction hdecodes with
  | nil => cases h
  | char c' hrest ih =>
    obtain rfl | h := List.mem_cons.mp h
    · rw [encode_ascii hc]
      exact List.mem_append_left _ (List.mem_singleton_self _)
    · exact List.mem_append_right _ (ih h)
  | replaced _ _ _ _ hrest ih =>
    obtain rfl | h := List.mem_cons.mp h
    · exact absurd hc (by decide)
    · exact List.mem_append_right _ (ih h)

/-- The byte of one of the first 128 characters is that character wherever it stands, whatever is
    around it. -/
theorem decode_ascii {c : Char} (hc : c.toNat < 0x80) (before after : List UInt8) :
    decode (before ++ UInt8.ofNat c.toNat :: after) = decode before ++ c :: decode after := by
  have hbefore := decodes_iff.mpr (rfl : decode before = decode before)
  have hafter := decodes_iff.mpr (rfl : decode after = decode after)
  rw [← decodes_iff]
  generalize decode before = cs at hbefore ⊢
  have hbyte : UInt8.ofNat c.toNat < 0x80 := by
    rw [UInt8.lt_iff_toNat_lt, UInt8.toNat_ofNat_of_lt' (Nat.lt_trans hc (by decide))]
    exact hc
  induction hbefore with
  | nil =>
    show Decodes ([UInt8.ofNat c.toNat] ++ after) _
    rw [← encode_ascii hc]
    exact .char c hafter
  | char c' h ih =>
    rw [List.append_assoc]
    exact .char c' ih
  | @replaced part rest cs nonempty begins whole longest h ih =>
    rw [List.append_assoc]
    refine .of_next nonempty begins (fun c' hc' => whole c' (hc'.trans (List.prefix_append _ _)))
      (fun b hb hbegins => ?_) ih
    -- The next byte is that of the text before, or the one of the character.
    cases rest with
    | nil =>
      obtain rfl := Option.some.inj hb
      exact not_begins_concat nonempty hbyte hbegins
    | cons b' rest =>
      obtain rfl := Option.some.inj hb
      have hlen := longest (part ++ [b']) (by simp) hbegins
      rw [List.length_append, List.length_singleton] at hlen
      omega

end LineShell.Text
