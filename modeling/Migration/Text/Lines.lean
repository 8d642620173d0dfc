/-!
# Lines and byte offsets

Positions in a text are counted in bytes of its UTF-8 form. Lines end at a line feed and are
numbered from 1. `LineIndex` is the table of the offsets at which lines start; the number of the
line that an offset lies in is the number of starts not after it, found by halving. An offset may
also lie inside a character or beyond the end of the text.
-/

namespace Migration.Text

/-- The number of bytes of the UTF-8 form of a text. -/
def byteLength : List Char → Nat
  | [] => 0
  | c :: text => c.utf8Size + byteLength text

/-- The offsets just after the line feeds of a text that starts at `offset`. -/
def lineStartsFrom : (offset : Nat) → List Char → List Nat
  | _, [] => []
  | offset, c :: text =>
    if c = '\n' then (offset + 1) :: lineStartsFrom (offset + 1) text
    else lineStartsFrom (offset + c.utf8Size) text

/-- The offsets at which the lines of a text start, in ascending order. -/
structure LineIndex where
  starts : Array Nat

namespace LineIndex

/-- The line starts of a text: the first line starts at 0. -/
def ofText (text : List Char) : LineIndex := ⟨(0 :: lineStartsFrom 0 text).toArray⟩

/-- The number of starts not after `offset`, where those before position `low` are known to be so
    and those from position `high` on are known not to be. -/
def countFrom (index : LineIndex) (offset low high : Nat) (h : high ≤ index.starts.size) : Nat :=
  if hlt : low < high then
    let middle := (low + high) / 2
    if index.starts[middle] ≤ offset then index.countFrom offset (middle + 1) high h
    else index.countFrom offset low middle (by omega)
  else low
termination_by high - low

/-- The number of the line that `offset` lies in. -/
def lineOf (index : LineIndex) (offset : Nat) : Nat :=
  index.countFrom offset 0 index.starts.size (Nat.le_refl _)

end LineIndex

end Migration.Text
