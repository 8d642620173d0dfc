import Migration.Index.Naming
import Migration.Text.CodeSet

/-!
# Declarations of test functions

A test function is declared on a line of its own, at any indentation:

    async def test_place_room(self, room) -> None:

`async` and the annotation of the result may be missing. The parameters are everything up to the
first closing bracket, also across lines, and are kept as they are written. A declaration remembers
how it is spaced, so `Declaration.written` gives back its text character by character.
-/

namespace Migration

open Text

/-- A declaration, part by part. -/
structure Declaration where
  /-- The spaces and tabs before it. -/
  indent : List Char
  /-- The spaces and tabs after `async`, if it is there. -/
  asyncGap : Option (List Char)
  name : List Char
  params : List Char
  /-- The annotation of the result, if it is there: the spaces and tabs before its arrow, and the
      text between the arrow and the colon. -/
  result : Option (List Char × List Char)
deriving DecidableEq, Repr

namespace Declaration

/-- The text of `async` and of what stands between it and `def`. -/
def asyncText : Option (List Char) → List Char
  | some gap => "async".toList ++ gap
  | none => []

/-- The text of the annotation of the result. -/
def resultText : Option (List Char × List Char) → List Char
  | some (gap, hint) => gap ++ "->".toList ++ hint
  | none => []

/-- The text of a declaration, from the start of its line to the colon. -/
def written (d : Declaration) : List Char :=
  d.indent ++ asyncText d.asyncGap ++ "def ".toList ++ d.name ++ ['('] ++ d.params ++ [')']
    ++ resultText d.result ++ [':']

/-- The word `async` and the spaces and tabs after it, at least one, if it is there. -/
def readAsync? (text : List Char) : Option (Option (List Char) × List Char) :=
  match after? "async".toList text with
  | none => some (none, text)
  | some rest =>
    let (gap, rest) := run isIndent rest
    if gap.isEmpty then none else some (some gap, rest)

/-- The annotation of the result, if it is there, and the colon. -/
def readEnd? (text : List Char) : Option (Option (List Char × List Char)) :=
  let (gap, rest) := run isIndent text
  match after? "->".toList rest with
  | some rest =>
    let (hint, rest) := run (fun c => c != ':' && c != '\n') rest
    (after? [':'] rest).map fun _ => some (gap, hint)
  | none => (after? [':'] text).map fun _ => none

/-- The declaration of a function whose name begins with `beginning`. -/
def pattern (beginning : List Char) : Pattern Declaration where
  read? text := do
    let (indent, rest) := run isIndent text
    let (asyncGap, rest) ← readAsync? rest
    let rest ← after? "def ".toList rest
    let (name, rest) ← nameAt? beginning rest
    let rest ← after? ['('] rest
    let (params, rest) := run (· != ')') rest
    let rest ← after? [')'] rest
    let result ← readEnd? rest
    return { indent, asyncGap, name, params, result }
  written := written

/-- The declarations of test functions in a source text, in order. -/
def scan (naming : TestNaming) (source : List Char) : List (Found Declaration) :=
  (pattern naming.functionPrefix.toList).scanLines source

end Declaration

end Migration
