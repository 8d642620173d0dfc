import Mathlib.Data.List.Infix
import Mathlib.Data.String.Basic
import Migration.Text.Lines
import Migration.Text.Bytes

/-!
# Texts and their bytes

Offsets count the bytes of the UTF-8 form of a text, and names are sorted by these bytes, while the
definitions work on characters. Nothing is lost by that:

* `byteLength` is the number of bytes of the encoded text (`byteLength_eq_utf8ByteSize`), and every
  character has at least one, so that offsets tell places apart (`byteLength_lt`);
* comparing texts character by character is comparing their bytes (`lt_iff_bytes_lt`): of two
  different characters, the greater one is also encoded greater, whatever follows
  (`utf8EncodeChar_append_lt`);
* so the first bytes of a text tell its first character, and a text starts with another if and only
  if its bytes do (`bytes_prefix_iff`);
* a byte is a line feed only if it is the whole of a character (`count_lineFeed_bytes`).
-/

namespace Migration.Text

/-! ## Counting bytes -/

@[simp] theorem byteLength_nil : byteLength [] = 0 := rfl

@[simp] theorem byteLength_cons (c : Char) (text : List Char) :
    byteLength (c :: text) = c.utf8Size + byteLength text := rfl

@[simp] theorem byteLength_append (a b : List Char) :
    byteLength (a ++ b) = byteLength a + byteLength b := by
  induction a with
  | nil => rw [List.nil_append, byteLength_nil, Nat.zero_add]
  | cons c a ih => rw [List.cons_append, byteLength_cons, ih, byteLength_cons, Nat.add_assoc]

/-- A text that is not empty has at least one byte. -/
theorem byteLength_pos {text : List Char} (h : text ≠ []) : 0 < byteLength text := by
  cases text with
  | nil => exact absurd rfl h
  | cons c text =>
    rw [byteLength_cons]
    exact Nat.add_pos_left c.utf8Size_pos _

/-- A place further back in a text has a greater offset. -/
theorem byteLength_lt {front inner : List Char} (h : inner ≠ []) :
    byteLength front < byteLength (front ++ inner) := by
  rw [byteLength_append]
  exact Nat.lt_add_of_pos_right (byteLength_pos h)

/-- The bytes that are counted are those of the encoded text. -/
theorem byteLength_eq_utf8ByteSize (text : List Char) :
    byteLength text = (String.ofList text).utf8ByteSize := by
  rw [String.utf8ByteSize_ofList]
  induction text with
  | nil => rfl
  | cons c text ih => rw [byteLength_cons, ih, String.utf8Len_cons, Nat.add_comm]

theorem byteLength_toList (text : String) : byteLength text.toList = text.utf8ByteSize := by
  rw [byteLength_eq_utf8ByteSize, String.ofList_toList]

/-! ## Comparing bytes -/

theorem bytes_eq_flatMap (text : String) :
    bytes text = text.toList.flatMap String.utf8EncodeChar := by
  conv_lhs => rw [← String.ofList_toList (s := text)]
  rw [bytes, String.toByteArray_ofList, List.utf8Encode, List.toList_data_toByteArray]

theorem bytes_append (a b : String) : bytes (a ++ b) = bytes a ++ bytes b := by
  rw [bytes_eq_flatMap, bytes_eq_flatMap, bytes_eq_flatMap, String.toList_append,
    List.flatMap_append]

theorem ofNat_lt_ofNat_iff {m n : Nat} (hm : m < 256) (hn : n < 256) :
    UInt8.ofNat m < UInt8.ofNat n ↔ m < n := by
  rw [UInt8.lt_iff_toNat_lt, UInt8.toNat_ofNat_of_lt' hm, UInt8.toNat_ofNat_of_lt' hn]

theorem ofNat_eq_ofNat_iff {m n : Nat} (hm : m < 256) (hn : n < 256) :
    UInt8.ofNat m = UInt8.ofNat n ↔ m = n := by
  rw [← UInt8.toNat_inj, UInt8.toNat_ofNat_of_lt' hm, UInt8.toNat_ofNat_of_lt' hn]

/-- Numbers are compared by what stands above their lowest six bits, then by these. -/
theorem div_lt_or_mod_lt {v w : Nat} (h : v < w) :
    v / 64 < w / 64 ∨ v / 64 = w / 64 ∧ v % 64 < w % 64 := by
  omega

/-- The lesser of two characters is encoded lesser, whatever follows. -/
theorem utf8EncodeChar_append_lt {c d : Char} (h : c < d) (s t : List UInt8) :
    String.utf8EncodeChar c ++ s < String.utf8EncodeChar d ++ t := by
  have hlt : c.val.toNat < d.val.toNat := h
  have hmax : d.val.toNat < 0x110000 := d.valid.elim (Nat.lt_trans · (by decide)) And.right
  generalize hv : c.val.toNat = v at hlt
  generalize hw : d.val.toNat = w at hlt hmax
  -- The digits to base 64 of the two code points, from the highest on.
  have hv₃ : v / 262144 % 8 = v / 262144 := Nat.mod_eq_of_lt (by omega)
  have hw₃ : w / 262144 % 8 = w / 262144 := Nat.mod_eq_of_lt (by omega)
  have h₀ := div_lt_or_mod_lt hlt
  have h₁ := @div_lt_or_mod_lt (v / 64) (w / 64)
  have h₂ := @div_lt_or_mod_lt (v / 64 / 64) (w / 64 / 64)
  simp only [Nat.div_div_eq_div_mul, Nat.reduceMul] at h₁ h₂
  simp only [String.utf8EncodeChar, hv, hw]
  -- One case for every two lengths. Of different lengths, the first bytes decide.
  split_ifs <;>
    simp only [List.cons_append, List.nil_append, List.cons_lt_cons_iff] <;>
    simp (disch := omega) only [ofNat_lt_ofNat_iff, ofNat_eq_ofNat_iff] <;>
    omega

/-- The lesser of two texts is encoded lesser: either it ends first, or the texts differ first at
    a character. -/
theorem flatMap_utf8EncodeChar_lt {a b : List Char} (h : a < b) :
    a.flatMap String.utf8EncodeChar < b.flatMap String.utf8EncodeChar := by
  induction h with
  | @nil d b =>
    obtain ⟨byte, more, hd⟩ := List.exists_cons_of_ne_nil (String.utf8EncodeChar_ne_nil (c := d))
    rw [List.flatMap_nil, List.flatMap_cons, hd]
    exact List.nil_lt_cons _ _
  | rel h => exact utf8EncodeChar_append_lt h _ _
  | cons _ ih => exact List.append_left_lt ih

/-- Texts are in the same order as their bytes. -/
theorem lt_iff_bytes_lt {a b : String} : a < b ↔ bytes a < bytes b := by
  have mono {a b : String} (h : a < b) : bytes a < bytes b := by
    rw [bytes_eq_flatMap, bytes_eq_flatMap]
    exact flatMap_utf8EncodeChar_lt (String.lt_iff_toList_lt.1 h)
  refine ⟨mono, fun h => ?_⟩
  rcases lt_trichotomy a b with hlt | rfl | hgt
  · exact hlt
  · exact absurd h (List.lt_irrefl _)
  · exact absurd h (List.lt_asymm (mono hgt))

/-! ## Bytes at the front -/

/-- The encoded form of a text tells its first character. -/
theorem eq_of_utf8EncodeChar_append_eq {c d : Char} {s t : List UInt8}
    (h : String.utf8EncodeChar c ++ s = String.utf8EncodeChar d ++ t) : c = d := by
  rcases lt_trichotomy c d with hlt | heq | hgt
  · exact absurd (h ▸ utf8EncodeChar_append_lt hlt s t) (List.lt_irrefl _)
  · exact heq
  · exact absurd (h ▸ utf8EncodeChar_append_lt hgt t s) (List.lt_irrefl _)

theorem flatMap_utf8EncodeChar_prefix_iff {a b : List Char} :
    a.flatMap String.utf8EncodeChar <+: b.flatMap String.utf8EncodeChar ↔ a <+: b := by
  constructor
  · intro h
    induction a generalizing b with
    | nil => exact List.nil_prefix
    | cons c a ih =>
      rw [List.flatMap_cons] at h
      cases b with
      | nil =>
        rw [List.flatMap_nil, List.prefix_nil, List.append_eq_nil_iff] at h
        exact absurd h.1 String.utf8EncodeChar_ne_nil
      | cons d b =>
        rw [List.flatMap_cons] at h
        obtain ⟨more, hmore⟩ := h
        rw [List.append_assoc] at hmore
        obtain rfl := eq_of_utf8EncodeChar_append_eq hmore
        exact List.cons_prefix_cons.2 ⟨rfl, ih ⟨more, List.append_cancel_left hmore⟩⟩
  · rintro ⟨more, rfl⟩
    rw [List.flatMap_append]
    exact List.prefix_append _ _

/-- A text starts with another if and only if its bytes do. -/
theorem bytes_prefix_iff {a b : String} : bytes a <+: bytes b ↔ a.toList <+: b.toList := by
  rw [bytes_eq_flatMap, bytes_eq_flatMap, flatMap_utf8EncodeChar_prefix_iff]

/-- The bytes of two texts up to the end of the first one. -/
theorem take_bytes_append (a b : String) : (bytes (a ++ b)).take a.utf8ByteSize = bytes a := by
  rw [bytes_append]
  exact List.take_left

/-! ## Bytes of line feeds -/

/-- In a character of several bytes, none has the value of a line feed. -/
theorem count_lineFeed_utf8EncodeChar (c : Char) :
    (String.utf8EncodeChar c).count 0x0A = [c].count '\n' := by
  have hfeed : c = '\n' ↔ c.val.toNat = 10 := by
    rw [← Char.toNat_inj]
    rfl
  have hbyte {n : Nat} (hn : n < 256) : UInt8.ofNat n = 0x0A ↔ n = 10 :=
    ofNat_eq_ofNat_iff hn (by decide)
  generalize hv : c.val.toNat = v at hfeed
  simp only [String.utf8EncodeChar, hv]
  -- One case for every number of bytes. From two on, all bytes are at least 128.
  split_ifs <;>
    simp only [List.count_cons, List.count_nil, beq_iff_eq, hfeed] <;>
    simp (disch := omega) only [hbyte] <;>
    grind

/-- No byte before the last one of a character is a line feed. -/
theorem count_lineFeed_take_utf8EncodeChar {c : Char} {reach : Nat} (h : reach < c.utf8Size) :
    ((String.utf8EncodeChar c).take reach).count 0x0A = 0 := by
  by_cases hfeed : c = '\n'
  · subst hfeed
    obtain rfl : reach = 0 := Nat.lt_one_iff.1 h
    rfl
  · have hnone : (String.utf8EncodeChar c).count 0x0A = 0 := by
      rw [count_lineFeed_utf8EncodeChar]
      exact List.count_eq_zero.2 fun hmem => hfeed (List.mem_singleton.1 hmem).symm
    exact Nat.eq_zero_of_le_zero (hnone ▸ (List.take_sublist reach _).count_le 0x0A)

/-- The line feeds of a text are the bytes with their value. -/
theorem count_lineFeed_bytes (text : String) :
    (bytes text).count 0x0A = text.toList.count '\n' := by
  rw [bytes_eq_flatMap]
  induction text.toList with
  | nil => rfl
  | cons c text ih =>
    rw [List.flatMap_cons, List.count_append, ih, count_lineFeed_utf8EncodeChar,
      ← List.count_append]
    rfl

end Migration.Text
