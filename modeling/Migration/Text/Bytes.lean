/-!
# Texts and bytes

Texts are compared character by character, by code point. For texts in UTF-8 that is the same as
comparing them byte by byte.

The system knows no texts but only bytes, in the names of files for one. Where bytes are shown as a
text they are read as UTF-8 as far as they go. What is no character becomes a replacement character:
one for every byte that no character begins with, and one for all that has been read of a character
when it is broken off.
-/

namespace Migration.Text

/-! ## Order -/

/-- Whether `a` does not come after `b`. -/
def ascending (a b : String) : Bool := decide (a ≤ b)

/-- Whether `text` starts with `start`. -/
def startsWith (start text : String) : Bool := start.toList.isPrefixOf text.toList

theorem nodup_eraseDups (names : List String) : names.eraseDups.Nodup := by
  induction h : names.length using Nat.strongRecOn generalizing names with
  | ind n ih =>
    cases names with
    | nil => simp
    | cons name names =>
      rw [List.eraseDups_cons, List.nodup_cons]
      refine ⟨by simp [List.mem_eraseDups], ih _ ?_ _ rfl⟩
      have := List.length_filter_le (fun b => !b == name) names
      simp only [List.length_cons] at h
      omega

/-! ## Bytes -/

/-- The bytes of a text. -/
def bytes (text : String) : List UInt8 := text.toByteArray.data.toList

/-- The character that stands for bytes that are none. -/
def replacement : Char := '�'

/-- The character with a code. -/
def character (code : Nat) : Char := if code.isValidChar then Char.ofNat code else replacement

/-- A character of which some bytes have been read: its code so far, the bounds of the next byte,
    and the number of those behind it. -/
structure Unfinished where
  code : Nat
  low : Nat := 0x80
  high : Nat := 0xBF
  more : Nat
  /-- No byte behind the first is a character of its own. -/
  low_ge : 0x80 ≤ low
  /-- The code is too great for one byte, whatever follows. -/
  great : 2 ≤ code ∨ more ≠ 0 ∧ 0x82 ≤ code * 64 + low

/-- What the first byte of a character tells: the characters that are read with it, and the one that
    is not finished. -/
def readFirst (byte : UInt8) : List Char × Option Unfinished :=
  let b := byte.toNat
  if b < 0x80 then ([character b], none)
  else if h : 0xC2 ≤ b ∧ b ≤ 0xDF then
    ([], some { code := b - 0xC0, more := 0, low_ge := by decide, great := by omega })
  else if h : 0xE0 ≤ b ∧ b ≤ 0xEF then
    -- The bounds leave out codes that fewer bytes could tell, and those that are no characters.
    ([], some {
      code := b - 0xE0, more := 1
      low := if b = 0xE0 then 0xA0 else 0x80
      high := if b = 0xED then 0x9F else 0xBF
      low_ge := by split <;> decide
      great := by split <;> omega })
  else if h : 0xF0 ≤ b ∧ b ≤ 0xF4 then
    ([], some {
      code := b - 0xF0, more := 2
      low := if b = 0xF0 then 0x90 else 0x80
      high := if b = 0xF4 then 0x8F else 0xBF
      low_ge := by split <;> decide
      great := by split <;> omega })
  else ([replacement], none)

/-- What the next byte tells, given the character that is not finished. -/
def readByte (state : Option Unfinished) (byte : UInt8) : List Char × Option Unfinished :=
  match state with
  | none => readFirst byte
  | some unfinished =>
    let b := byte.toNat
    if h : unfinished.low ≤ b ∧ b ≤ unfinished.high then
      let code := unfinished.code * 64 + (b - 0x80)
      if unfinished.more = 0 then ([character code], none)
      else
        ([], some {
          code, more := unfinished.more - 1, low_ge := by decide
          great := by have := unfinished.great; have := unfinished.low_ge; omega })
    else (replacement :: (readFirst byte).1, (readFirst byte).2)

/-- The characters of bytes, given the one that is not finished. -/
def lossyFrom : Option Unfinished → List UInt8 → List Char
  | none, [] => []
  | some _, [] => [replacement]
  | state, byte :: bytes => (readByte state byte).1 ++ lossyFrom (readByte state byte).2 bytes

/-- The text of bytes, with replacement characters for what is none. -/
def lossy (bytes : List UInt8) : String := String.ofList (lossyFrom none bytes)

end Migration.Text
