import LineShell.Path.Basic
import LineShell.Proofs.Text.Decoding
import LineShell.Text.Octets

/-! # Texts as octets

`Octets.ofText` writes a text as octets, and `Octets.toText` reads octets as far as they are text.
Writing loses nothing, and commutes with all that is done to paths at separators, which are ASCII
characters: their octets stand for nothing else.

* `toText_ofText`      what is written is read again
* `mem_ofText_iff`     an ASCII character is written where it stands, and nowhere else
* `pieces_ofText`      cutting at an ASCII character commutes with writing
* `Path.join_ofText`   and so does going into a directory -/

namespace LineShell

namespace Octets

/-! ### Writing and reading -/

/-- The octets `ofText` of a text are the bytes of its characters, one by one. -/
theorem toList_ofText (s : String) :
    (ofText s).toList =
      (s.toList.flatMap String.utf8EncodeChar).map fun b => Char.ofNat b.toNat := by
  rw [ofText, ofBytes, String.toList_ofList]

/-- The `bytes` of a text are those of its characters. -/
theorem bytes_ofText (s : String) :
    bytes (ofText s) = s.toList.flatMap String.utf8EncodeChar := by
  have hbyte (b : UInt8) : UInt8.ofNat (Char.ofNat b.toNat).toNat = b := by
    have hvalid : b.toNat.isValidChar := .inl (Nat.lt_trans b.toNat_lt (by decide))
    rw [Char.ofNat, dif_pos hvalid]
    exact UInt8.ofNat_toNat
  rw [bytes, toList_ofText, List.map_map]
  exact (List.map_congr_left fun b _ => hbyte b).trans (List.map_id _)

/-- What `ofText` writes is read again by `toText`. -/
@[simp] theorem toText_ofText (s : String) : toText (ofText s) = s := by
  rw [toText, bytes_ofText, Text.decode_encode, String.ofList_toList]

/-- Two texts are never written alike: `ofText` is injective. -/
theorem ofText_inj {s t : String} : ofText s = ofText t ↔ s = t :=
  ⟨fun h => by simpa using congrArg toText h, congrArg ofText⟩

/-- Texts are written one behind the other: `ofText` of `++` is `++`. -/
theorem ofText_append (s t : String) : ofText (s ++ t) = ofText s ++ ofText t := by
  rw [← String.toList_inj]
  simp only [String.toList_append, toList_ofText, List.flatMap_append, List.map_append]

/-- Only the empty text is written as nothing. -/
@[simp] theorem ofText_eq_empty_iff {s : String} : ofText s = "" ↔ s = "" := by
  exact ofText_inj (t := "")

/-- Octets hold a text if they are `ofText` of one. -/
theorem isText_iff {s : Octets} : isText s = true ↔ ∃ t, s = ofText t := by
  rw [isText, beq_iff_eq]
  constructor
  · intro h
    exact ⟨toText s, h.symm⟩
  · rintro ⟨t, rfl⟩
    rw [toText_ofText]

/-! ### ASCII characters -/

section Ascii

variable {c : Char} (hc : c.toNat < 0x80)
include hc

/-- An ASCII character is its own octet for `ofText`. -/
theorem ofText_singleton : ofText (String.singleton c) = String.singleton c := by
  have hbyte : (UInt8.ofNat c.toNat).toNat = c.toNat :=
    UInt8.toNat_ofNat_of_lt' (Nat.lt_trans hc (by decide))
  rw [← String.toList_inj, toList_ofText, String.toList_singleton, List.flatMap_singleton,
    Text.encode_ascii hc, List.map_singleton, hbyte, Char.ofNat_toNat]

/-- An ASCII character is in `toText` of octets where its octet stands. -/
theorem mem_toText {s : Octets} (h : c ∈ s.toList) : c ∈ (toText s).toList := by
  obtain ⟨before, after, hs⟩ := List.append_of_mem h
  rw [toText, String.toList_ofList, bytes, hs, List.map_append, List.map_cons,
    Text.decode_ascii hc]
  simp

/-- An ASCII character is in `ofText` of a text where it stands, and nowhere else. -/
theorem mem_ofText_iff {s : String} : c ∈ (ofText s).toList ↔ c ∈ s.toList := by
  constructor
  · intro h
    simpa using mem_toText hc h
  · intro h
    obtain ⟨before, after, hs⟩ := List.append_of_mem h
    -- The text is cut at the character, and the octet is in what is written between the two parts.
    have hcut : s = String.ofList before ++ String.singleton c ++ String.ofList after := by
      rw [← String.toList_inj, hs]
      simp
    rw [hcut, ofText_append, ofText_append, ofText_singleton hc]
    simp

/-- An ASCII character begins a text exactly if it begins `ofText` of it. -/
theorem head?_ofText_iff {s : String} :
    (ofText s).toList.head? = some c ↔ s.toList.head? = some c := by
  constructor
  · intro h
    -- What is written is read again, and an ASCII character in front is read at once.
    obtain ⟨cs, hcs⟩ := List.head?_eq_some_iff.mp h
    have hread := congrArg String.toList (toText_ofText s)
    rw [toText, String.toList_ofList, bytes, hcs, List.map_cons] at hread
    have hfirst := Text.decode_ascii hc [] (cs.map fun c => UInt8.ofNat c.toNat)
    rw [List.nil_append] at hfirst
    rw [← hread, hfirst]
    rfl
  · intro h
    obtain ⟨cs, hcs⟩ := List.head?_eq_some_iff.mp h
    have hcut : s = String.singleton c ++ String.ofList cs := by
      rw [← String.toList_inj, hcs]
      simp
    rw [hcut, ofText_append, ofText_singleton hc]
    simp

/-- An ASCII character ends a text exactly if it ends `ofText` of it. -/
theorem getLast?_ofText_iff {s : String} :
    (ofText s).toList.getLast? = some c ↔ s.toList.getLast? = some c := by
  constructor
  · intro h
    obtain ⟨cs, hcs⟩ := List.getLast?_eq_some_iff.mp h
    have hread := congrArg String.toList (toText_ofText s)
    rw [toText, String.toList_ofList, bytes, hcs, List.map_append, List.map_singleton,
      Text.decode_ascii hc] at hread
    rw [← hread]
    exact List.getLast?_concat
  · intro h
    obtain ⟨cs, hcs⟩ := List.getLast?_eq_some_iff.mp h
    have hcut : s = String.ofList cs ++ String.singleton c := by
      rw [← String.toList_inj, hcs]
      simp
    rw [hcut, ofText_append, ofText_singleton hc]
    simp

/-- What is left without the ASCII characters `c` in front is written as what is left of the
    octets. -/
theorem dropWhile_ofText (cs : List Char) :
    (ofText (String.ofList cs)).toList.dropWhile (· = c) =
      (ofText (String.ofList (cs.dropWhile (· = c)))).toList := by
  induction cs with
  | nil =>
    rw [List.dropWhile_nil, String.ofList_nil, ofText_nil]
    rfl
  | cons d cs ih =>
    by_cases hd : d = c
    · -- the character is its own octet, and both lose it
      subst hd
      have hcut : ofText (String.ofList (d :: cs)) =
          String.singleton d ++ ofText (String.ofList cs) := by
        have hfront : String.ofList (d :: cs) = String.singleton d ++ String.ofList cs := by
          rw [← String.toList_inj]
          simp
        rw [hfront, ofText_append, ofText_singleton hc]
      rw [hcut, String.toList_append, String.toList_singleton, List.singleton_append,
        List.dropWhile_cons_of_pos (by simp), List.dropWhile_cons_of_pos (by simp), ih]
    · -- neither begins with the character
      rw [List.dropWhile_cons_of_neg (by simpa using hd)]
      have hhead : (ofText (String.ofList (d :: cs))).toList.head? ≠ some c := by
        rw [Ne, head?_ofText_iff hc, String.toList_ofList]
        simpa using hd
      cases hwritten : (ofText (String.ofList (d :: cs))).toList with
      | nil => rfl
      | cons e es =>
        rw [hwritten] at hhead
        exact List.dropWhile_cons_of_neg (by simpa using hhead)

/-- Pieces are joined as they are written: `Text.join` and `ofText` commute. -/
theorem join_map_ofText (ps : List String) :
    Text.join c (ps.map ofText) = ofText (Text.join c ps) := by
  induction ps with
  | nil => rfl
  | cons p ps ih =>
    by_cases hps : ps = []
    · rw [hps, List.map_singleton, Text.join_singleton, Text.join_singleton]
    · rw [List.map_cons, Text.join_cons _ (by simpa using hps), Text.join_cons _ hps, ih,
        ofText_append, ofText_append, ofText_singleton hc]

/-- Cutting at an ASCII character commutes with writing: `Text.pieces` and `ofText` do. -/
theorem pieces_ofText (s : String) :
    Text.pieces c (ofText s) = (Text.pieces c s).map ofText := by
  have hne : (Text.pieces c s).map ofText ≠ [] := by
    simp [Text.pieces, Text.cut_ne_nil]
  have hwhole : ∀ p ∈ (Text.pieces c s).map ofText, c ∉ p.toList := by
    intro p hp
    obtain ⟨q, hq, rfl⟩ := List.mem_map.mp hp
    rw [mem_ofText_iff hc]
    exact Text.not_mem_of_mem_pieces hq
  have hjoin : Text.join c ((Text.pieces c s).map ofText) = ofText s := by
    rw [join_map_ofText hc, Text.join_pieces]
  -- Joined, the written pieces are the written text, and none of them holds the separator.
  rw [← hjoin, Text.pieces_join hne hwhole]

/-- The `Text.pieces` of a text are texts. -/
theorem isText_of_mem_pieces {s p : Octets} (hs : isText s = true) (hp : p ∈ Text.pieces c s) :
    isText p = true := by
  obtain ⟨t, rfl⟩ := isText_iff.mp hs
  rw [pieces_ofText hc] at hp
  obtain ⟨q, -, rfl⟩ := List.mem_map.mp hp
  exact isText_iff.mpr ⟨q, rfl⟩

end Ascii

end Octets

namespace Path

/-- A path begins at the root if `ofText` of it does. -/
theorem isAbsolute_ofText (p : String) : isAbsolute (Octets.ofText p) = isAbsolute p := by
  rw [Bool.eq_iff_iff, isAbsolute, isAbsolute, beq_iff_eq, beq_iff_eq,
    Octets.head?_ofText_iff (by decide)]

/-- The slash between two paths is one octet, for `ofText` too. -/
theorem ofText_slash (p q : String) :
    Octets.ofText (p ++ "/" ++ q) = Octets.ofText p ++ "/" ++ Octets.ofText q := by
  have hslash : Octets.ofText "/" = "/" := Octets.ofText_singleton (c := '/') (by decide)
  rw [Octets.ofText_append, Octets.ofText_append, hslash]

/-- Going into a directory commutes with writing: `join` and `ofText` do. -/
theorem join_ofText (dir name : String) :
    join (Octets.ofText dir) (Octets.ofText name) = Octets.ofText (join dir name) := by
  unfold join
  simp only [isAbsolute_ofText, Octets.ofText_eq_empty_iff,
    Octets.getLast?_ofText_iff (c := '/') (by decide)]
  split
  · rfl
  · split
    · rw [Octets.ofText_append]
    · rw [ofText_slash]

/-- A path inside a directory is a text if both are: `join` of `isText` octets. -/
theorem isText_join {dir name : Octets} (hdir : Octets.isText dir = true)
    (hname : Octets.isText name = true) : Octets.isText (join dir name) = true := by
  obtain ⟨d, rfl⟩ := Octets.isText_iff.mp hdir
  obtain ⟨n, rfl⟩ := Octets.isText_iff.mp hname
  exact Octets.isText_iff.mpr ⟨join d n, join_ofText d n⟩

end Path

end LineShell
