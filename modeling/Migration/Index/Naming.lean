import Migration.Text.Pattern
import Migration.Text.WordChar

/-!
# How tests are named, and class headings

Test classes and test functions are recognised by how their names begin. A name is the given
beginning followed by at least one word character, and it goes on as long as word characters do. The
beginning is taken literally and may hold any characters.

A test class opens with a heading such as `class TestRooms:` at the very start of a line. A class
with a list of bases is no test class, so the colon follows the name directly.
-/

namespace Migration

/-- How the names of test classes and of test functions begin. -/
structure TestNaming where
  classPrefix : String := "Test"
  functionPrefix : String := "test_"
deriving DecidableEq, Repr

open Text

/-- The name at the front of a text that begins with `beginning`, and what follows it. -/
def nameAt? (beginning text : List Char) : Option (List Char × List Char) := do
  let rest ← after? beginning text
  let (word, rest) := run isWordChar rest
  if word.isEmpty then none else some (beginning ++ word, rest)

/-- A name that begins with `beginning`, between the text `opening` and the character `closing`; the
    value of the pattern is the name. -/
def enclosedName (opening beginning : List Char) (closing : Char) : Pattern (List Char) where
  read? text := do
    let rest ← after? opening text
    let (name, rest) ← nameAt? beginning rest
    let _ ← after? [closing] rest
    return name
  written name := opening ++ name ++ [closing]

/-- A class heading: the byte offset of its line and the name of the class. -/
structure ClassHeading where
  offset : Nat
  name : String
deriving DecidableEq, Repr

namespace ClassHeading

/-- The heading of a class whose name begins with `beginning`; its value is the name. -/
def pattern (beginning : List Char) : Pattern (List Char) :=
  enclosedName "class ".toList beginning ':'

/-- The class headings of a source text, in order. -/
def scan (naming : TestNaming) (source : List Char) : List ClassHeading :=
  ((pattern naming.classPrefix.toList).scanLines source).map fun found =>
    ⟨found.offset, String.ofList found.value⟩

end ClassHeading

end Migration
