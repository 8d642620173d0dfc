import Migration.Proofs.Text.Bytes

/-!
# Bytes read as a text

Bytes are read one by one, with a state that tells how much of a character has been read. A byte
below 128 is a character of its own wherever it stands, and no other bytes give such a character.
So a text that is read can be cut at any such character, a dot or a slash, and the parts are read
from the bytes on both sides (`lossyFrom_append_cons`, `mem_of_mem_lossyFrom`).

The bytes of a text are read as that text (`lossy_bytes`). Other bytes are not told apart when they
are read: all that is no character becomes the same replacement.
-/

namespace Migration.Text

/-! ## Characters of one byte -/

theorem character_toNat (c : Char) : character c.toNat = c := by
  have hvalid : c.toNat.isValidChar := c.valid
  rw [character, if_pos hvalid, Char.ofNat_toNat]

theorem toNat_character {code : Nat} (h : (character code).toNat < 0x80) :
    (character code).toNat = code := by
  unfold character at h ⊢
  split at h
  case isTrue hvalid =>
    rw [if_pos hvalid, Char.ofNat, dif_pos hvalid]
    rfl
  case isFalse => exact absurd h (by decide)

section Step

variable {byte : UInt8} {state : Option Unfinished} {c : Char}

theorem readFirst_of_lt (h : byte.toNat < 0x80) :
    readFirst byte = ([character byte.toNat], none) := by
  rw [readFirst, if_pos h]

/-- A byte between characters is one of its own, begins one or is replaced. -/
theorem readFirst_cases (byte : UInt8) :
    readFirst byte = ([character byte.toNat], none) ∨
      (∃ unfinished, readFirst byte = ([], some unfinished)) ∨
      readFirst byte = ([replacement], none) := by
  unfold readFirst
  dsimp only
  split
  · exact .inl rfl
  split
  · exact .inr (.inl ⟨_, rfl⟩)
  split
  · exact .inr (.inl ⟨_, rfl⟩)
  split
  · exact .inr (.inl ⟨_, rfl⟩)
  · exact .inr (.inr rfl)

/-- A byte finishes a character or goes on with it, or it breaks it off. -/
theorem readByte_cases (unfinished : Unfinished) (byte : UInt8) :
    (∃ code, 0x80 ≤ code ∧ readByte (some unfinished) byte = ([character code], none)) ∨
      (∃ next, readByte (some unfinished) byte = ([], some next)) ∨
      readByte (some unfinished) byte =
        (replacement :: (readFirst byte).1, (readFirst byte).2) := by
  have hgreat := unfinished.great
  rw [readByte]
  dsimp only
  split
  case isTrue hbounds =>
    split
    case isTrue hmore => exact .inl ⟨_, by omega, rfl⟩
    case isFalse => exact .inr (.inl ⟨_, rfl⟩)
  case isFalse => exact .inr (.inr rfl)

/-- A byte below 128 breaks off the character before it, if that is not finished, and is one itself.
    -/
theorem readByte_of_lt (state : Option Unfinished) (h : byte.toNat < 0x80) :
    readByte state byte = (lossyFrom state [] ++ [character byte.toNat], none) := by
  cases state with
  | none => exact readFirst_of_lt h
  | some unfinished =>
    have hlow : ¬(unfinished.low ≤ byte.toNat ∧ byte.toNat ≤ unfinished.high) := fun hbounds =>
      Nat.not_lt.2 (unfinished.low_ge.trans hbounds.1) h
    rw [readByte]
    simp only [dif_neg hlow, readFirst_of_lt h]
    rfl

theorem fst_readFirst_ne_nil (h : (readFirst byte).2 = none) : (readFirst byte).1 ≠ [] := by
  rcases readFirst_cases byte with hread | ⟨unfinished, hread⟩ | hread <;> simp_all

/-- Every byte gives a character or begins one. -/
theorem fst_readByte_ne_nil (h : (readByte state byte).2 = none) :
    (readByte state byte).1 ≠ [] := by
  cases state with
  | none => exact fst_readFirst_ne_nil h
  | some unfinished =>
    rcases readByte_cases unfinished byte with ⟨code, -, hread⟩ | ⟨next, hread⟩ | hread <;>
      simp_all

theorem replacement_ne (hlt : c.toNat < 0x80) : c ≠ replacement := by
  rintro rfl
  exact absurd hlt (by decide)

theorem mem_readFirst (hc : c ∈ (readFirst byte).1) (hlt : c.toNat < 0x80) :
    byte.toNat = c.toNat := by
  rcases readFirst_cases byte with hread | ⟨unfinished, hread⟩ | hread
  · rw [hread] at hc
    obtain rfl := List.mem_singleton.1 hc
    exact (toNat_character hlt).symm
  · rw [hread] at hc
    cases hc
  · rw [hread] at hc
    exact absurd (List.mem_singleton.1 hc) (replacement_ne hlt)

/-- Only a byte of its own gives a character below 128. -/
theorem mem_readByte (hc : c ∈ (readByte state byte).1) (hlt : c.toNat < 0x80) :
    byte.toNat = c.toNat := by
  cases state with
  | none => exact mem_readFirst hc hlt
  | some unfinished =>
    rcases readByte_cases unfinished byte with ⟨code, hcode, hread⟩ | ⟨next, hread⟩ | hread
    · rw [hread] at hc
      obtain rfl := List.mem_singleton.1 hc
      exact absurd ((toNat_character hlt).symm ▸ hlt) (Nat.not_lt.2 hcode)
    · rw [hread] at hc
      cases hc
    · rw [hread] at hc
      exact mem_readFirst ((List.mem_cons.1 hc).resolve_left (replacement_ne hlt)) hlt

end Step

section Cut

variable {state : Option Unfinished} {bytes rest : List UInt8}

/-- What is read before a byte below 128 and behind it does not depend on the other side. -/
theorem lossyFrom_append_cons {byte : UInt8} (h : byte.toNat < 0x80) :
    lossyFrom state (bytes ++ byte :: rest) =
      lossyFrom state bytes ++ character byte.toNat :: lossyFrom none rest := by
  induction bytes generalizing state with
  | nil =>
    rw [List.nil_append, lossyFrom, readByte_of_lt state h, List.append_assoc,
      List.singleton_append]
  | cons first bytes ih =>
    rw [List.cons_append, lossyFrom, ih, lossyFrom, List.append_assoc]

theorem lossy_append_cons {byte : UInt8} (h : byte.toNat < 0x80) (a b : List UInt8) :
    lossy (a ++ byte :: b) = lossy a ++ String.ofList [character byte.toNat] ++ lossy b := by
  rw [← String.toList_inj]
  simp only [lossy, String.toList_append, String.toList_ofList]
  rw [lossyFrom_append_cons h, List.append_assoc, List.singleton_append]

theorem lossyFrom_ne_nil (h : state ≠ none ∨ bytes ≠ []) : lossyFrom state bytes ≠ [] := by
  induction bytes generalizing state with
  | nil =>
    cases state with
    | none => simp at h
    | some unfinished => exact List.cons_ne_nil _ _
  | cons byte bytes ih =>
    rw [lossyFrom]
    intro hnil
    obtain ⟨hfirst, hrest⟩ := List.append_eq_nil_iff.1 hnil
    by_cases hstate : (readByte state byte).2 = none
    · exact fst_readByte_ne_nil hstate hfirst
    · exact ih (.inl hstate) hrest

theorem mem_of_mem_lossyFrom {c : Char} (hc : c ∈ lossyFrom state bytes) (hlt : c.toNat < 0x80) :
    ∃ byte ∈ bytes, byte.toNat = c.toNat := by
  induction bytes generalizing state with
  | nil =>
    cases state with
    | none => cases hc
    | some unfinished =>
      obtain rfl := List.mem_singleton.1 hc
      exact absurd hlt (by decide)
  | cons byte bytes ih =>
    rw [lossyFrom, List.mem_append] at hc
    rcases hc with hc | hc
    · exact ⟨byte, List.mem_cons_self, mem_readByte hc hlt⟩
    · obtain ⟨other, hother, hcode⟩ := ih hc
      exact ⟨other, List.mem_cons_of_mem _ hother, hcode⟩

end Cut

/-! ## Characters of more bytes -/

section Tail

variable (byte : UInt8) {bytes : List UInt8} {unfinished : Unfinished}

/-- A character of two bytes has begun. -/
theorem lossyFrom_two (h : 0xC2 ≤ byte.toNat ∧ byte.toNat ≤ 0xDF) :
    ∃ unfinished : Unfinished, lossyFrom none (byte :: bytes) = lossyFrom (some unfinished) bytes ∧
      unfinished.code = byte.toNat - 0xC0 ∧ unfinished.low = 0x80 ∧ unfinished.high = 0xBF ∧
      unfinished.more = 0 := by
  rw [lossyFrom, readByte, readFirst, if_neg (by omega), dif_pos h]
  exact ⟨_, rfl, rfl, rfl, rfl, rfl⟩

/-- A character of three bytes has begun. -/
theorem lossyFrom_three (h : 0xE0 ≤ byte.toNat ∧ byte.toNat ≤ 0xEF) :
    ∃ unfinished : Unfinished, lossyFrom none (byte :: bytes) = lossyFrom (some unfinished) bytes ∧
      unfinished.code = byte.toNat - 0xE0 ∧
      unfinished.low = (if byte.toNat = 0xE0 then 0xA0 else 0x80) ∧
      unfinished.high = (if byte.toNat = 0xED then 0x9F else 0xBF) ∧ unfinished.more = 1 := by
  rw [lossyFrom, readByte, readFirst, if_neg (by omega), dif_neg (by omega), dif_pos h]
  exact ⟨_, rfl, rfl, rfl, rfl, rfl⟩

/-- A character of four bytes has begun. -/
theorem lossyFrom_four (h : 0xF0 ≤ byte.toNat ∧ byte.toNat ≤ 0xF4) :
    ∃ unfinished : Unfinished, lossyFrom none (byte :: bytes) = lossyFrom (some unfinished) bytes ∧
      unfinished.code = byte.toNat - 0xF0 ∧
      unfinished.low = (if byte.toNat = 0xF0 then 0x90 else 0x80) ∧
      unfinished.high = (if byte.toNat = 0xF4 then 0x8F else 0xBF) ∧ unfinished.more = 2 := by
  rw [lossyFrom, readByte, readFirst, if_neg (by omega), dif_neg (by omega), dif_neg (by omega),
    dif_pos h]
  exact ⟨_, rfl, rfl, rfl, rfl, rfl⟩

/-- A character goes on. -/
theorem lossyFrom_more (h : unfinished.low ≤ byte.toNat ∧ byte.toNat ≤ unfinished.high)
    (hmore : unfinished.more ≠ 0) :
    ∃ next : Unfinished,
      lossyFrom (some unfinished) (byte :: bytes) = lossyFrom (some next) bytes ∧
      next.code = unfinished.code * 64 + (byte.toNat - 0x80) ∧ next.low = 0x80 ∧
      next.high = 0xBF ∧ next.more = unfinished.more - 1 := by
  rw [lossyFrom, readByte]
  dsimp only
  rw [dif_pos h, if_neg hmore]
  exact ⟨_, rfl, rfl, rfl, rfl, rfl⟩

/-- A character is finished. -/
theorem lossyFrom_last (h : unfinished.low ≤ byte.toNat ∧ byte.toNat ≤ unfinished.high)
    (hmore : unfinished.more = 0) :
    lossyFrom (some unfinished) (byte :: bytes) =
      character (unfinished.code * 64 + (byte.toNat - 0x80)) :: lossyFrom none bytes := by
  rw [lossyFrom, readByte]
  dsimp only
  rw [dif_pos h, if_pos hmore]
  rfl

end Tail

/-- The bytes of a character are read as the character. -/
theorem lossyFrom_utf8EncodeChar (c : Char) (rest : List UInt8) :
    lossyFrom none (String.utf8EncodeChar c ++ rest) = c :: lossyFrom none rest := by
  have hvalid : c.toNat.isValidChar := c.valid
  have hc := character_toNat c
  have hval : c.val.toNat = c.toNat := rfl
  rw [Nat.isValidChar] at hvalid
  have hbyte {n : Nat} (hn : n < 256) : (UInt8.ofNat n).toNat = n := UInt8.toNat_ofNat_of_lt' hn
  simp only [String.utf8EncodeChar, hval]
  generalize c.toNat = v at hc hvalid
  -- One case for every number of bytes; the bounds hold since the code is that of a character.
  split_ifs with hone htwo hthree
  · have hfirst := hbyte (n := v) (by omega)
    rw [List.singleton_append, lossyFrom, readByte, readFirst_of_lt (by omega), hfirst, hc]
    rfl
  · have hfirst := hbyte (n := v / 64 % 32 + 192) (by omega)
    have hlast := hbyte (n := v % 64 + 128) (by omega)
    generalize UInt8.ofNat (v / 64 % 32 + 192) = first at hfirst
    generalize UInt8.ofNat (v % 64 + 128) = last at hlast
    obtain ⟨begun, hbegun, hcode, hlow, hhigh, hmore⟩ := lossyFrom_two first (by omega)
    have hv : begun.code * 64 + (last.toNat - 0x80) = v := by omega
    rw [List.cons_append, List.singleton_append, hbegun, lossyFrom_last last (by omega) hmore, hv,
      hc]
  · have hfirst := hbyte (n := v / 4096 % 16 + 224) (by omega)
    have hsecond := hbyte (n := v / 64 % 64 + 128) (by omega)
    have hlast := hbyte (n := v % 64 + 128) (by omega)
    generalize UInt8.ofNat (v / 4096 % 16 + 224) = first at hfirst
    generalize UInt8.ofNat (v / 64 % 64 + 128) = second at hsecond
    generalize UInt8.ofNat (v % 64 + 128) = last at hlast
    obtain ⟨begun, hbegun, hcode, hlow, hhigh, hmore⟩ := lossyFrom_three first (by omega)
    obtain ⟨next, hnext, hcode', hlow', hhigh', hmore'⟩ :=
      lossyFrom_more second (by rw [hlow, hhigh]; split_ifs <;> omega) (by omega)
    have hv : next.code * 64 + (last.toNat - 0x80) = v := by omega
    rw [List.cons_append, List.cons_append, List.singleton_append, hbegun, hnext,
      lossyFrom_last last (by omega) (by omega), hv, hc]
  · have hfirst := hbyte (n := v / 262144 % 8 + 240) (by omega)
    have hsecond := hbyte (n := v / 4096 % 64 + 128) (by omega)
    have hthird := hbyte (n := v / 64 % 64 + 128) (by omega)
    have hlast := hbyte (n := v % 64 + 128) (by omega)
    generalize UInt8.ofNat (v / 262144 % 8 + 240) = first at hfirst
    generalize UInt8.ofNat (v / 4096 % 64 + 128) = second at hsecond
    generalize UInt8.ofNat (v / 64 % 64 + 128) = third at hthird
    generalize UInt8.ofNat (v % 64 + 128) = last at hlast
    obtain ⟨begun, hbegun, hcode, hlow, hhigh, hmore⟩ := lossyFrom_four first (by omega)
    obtain ⟨next, hnext, hcode', hlow', hhigh', hmore'⟩ :=
      lossyFrom_more second (by rw [hlow, hhigh]; split_ifs <;> omega) (by omega)
    obtain ⟨after, hafter, hcode'', hlow'', hhigh'', hmore''⟩ :=
      lossyFrom_more third (by rw [hlow', hhigh']; omega) (by omega)
    have hv : after.code * 64 + (last.toNat - 0x80) = v := by omega
    rw [List.cons_append, List.cons_append, List.cons_append, List.singleton_append, hbegun, hnext,
      hafter, lossyFrom_last last (by omega) (by omega), hv, hc]

/-- The bytes of a text are read as the text. -/
theorem lossy_bytes (text : String) : lossy (bytes text) = text := by
  have hchars (chars : List Char) :
      lossyFrom none (chars.flatMap String.utf8EncodeChar) = chars := by
    induction chars with
    | nil => rfl
    | cons c chars ih => rw [List.flatMap_cons, lossyFrom_utf8EncodeChar, ih]
  rw [lossy, bytes_eq_flatMap, hchars, String.ofList_toList]

end Migration.Text
