import Migration.Index.Naming
import Migration.Text.Bytes

/-!
# Provenance marks

A test that has been carried over to the target is marked there with a comment that names the test
it comes from:

    // Original: def test_place_room(self, builder):

The text up to the bracket after the name is all that the two code bases agree on. It may stand
anywhere in a line, and what follows the bracket is not looked at. The marks of a target text are
the set of the names marked in it; that a test is marked twice says nothing more.
-/

namespace Migration

open Text

/-- The names that are marked in a target text, each once. Their order has no meaning. -/
structure Marks where
  names : List String
  nodup : names.Nodup
deriving DecidableEq, Repr

namespace Marks

/-- The text that stands before the name in a mark. -/
def opening : List Char := "// Original: def ".toList

/-- The mark of a test whose name begins with `beginning`; its value is the name. -/
def pattern (beginning : List Char) : Pattern (List Char) := enclosedName opening beginning '('

/-- The set of the given names. -/
def ofNames (names : List String) : Marks := ⟨names.eraseDups, nodup_eraseDups names⟩

/-- The marks in a target text, of tests whose names begin with `functionPrefix`. -/
def scan (functionPrefix target : String) : Marks :=
  ofNames (((pattern functionPrefix.toList).scan target.toList).map fun found =>
    String.ofList found.value)

/-- Whether a name is marked. -/
def contains (marks : Marks) (name : String) : Bool := marks.names.contains name

/-- The number of names that are marked. -/
def size (marks : Marks) : Nat := marks.names.length

/-- Whether no name is marked. -/
def isEmpty (marks : Marks) : Bool := marks.names.isEmpty

/-- The marked names in ascending order. -/
def sorted (marks : Marks) : List String := marks.names.mergeSort ascending

end Marks

end Migration
