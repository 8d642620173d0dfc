/-!
# Sets of code points, and blanks

A property of characters is given by the code points that have it, and these come in runs: `CodeSet`
is a list of closed intervals, in ascending order and with gaps between them. The tables beside this
module are its values.

The smallest of them is here. A *blank* is a white-space character of any script: the space, the
tab, the line breaks, and the spaces of fixed or zero width that typesetting knows. Trimming takes
blanks off both ends of a text and leaves those inside.
-/

namespace Migration.Text

/-- A set of code points: the intervals from a first to a last code point, both included. -/
abbrev CodeSet := List (Nat × Nat)

/-- Whether the set holds the code point of `c`. -/
def CodeSet.holds (s : CodeSet) (c : Char) : Bool :=
  s.any fun interval => interval.1 ≤ c.toNat && c.toNat ≤ interval.2

/-! ## Blanks -/

/-- The blank code points. -/
def blankCodes : CodeSet := [
  (0x9, 0xD), (0x20, 0x20), (0x85, 0x85), (0xA0, 0xA0), (0x1680, 0x1680), (0x2000, 0x200A),
  (0x2028, 0x2029), (0x202F, 0x202F), (0x205F, 0x205F), (0x3000, 0x3000)]

/-- Whether `c` is a blank. -/
def isBlank (c : Char) : Bool := blankCodes.holds c

/-- Whether `c` is a space or a tab, the blanks that do not end a line. -/
def isIndent (c : Char) : Bool := c == ' ' || c == '\t'

/-- The text without the blanks at its front. -/
def trimStart (text : List Char) : List Char := text.dropWhile isBlank

/-- The text without the blanks at its back. -/
def trimEnd (text : List Char) : List Char := (text.reverse.dropWhile isBlank).reverse

/-- The text without the blanks at its two ends. -/
def trim (text : List Char) : List Char := trimEnd (trimStart text)

end Migration.Text
