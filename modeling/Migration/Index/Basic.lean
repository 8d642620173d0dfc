import Migration.Index.Declaration
import Migration.Index.Docstring
import Migration.Index.Naming
import Migration.Text.Dictionary

/-!
# The index of the origin's tests

The index lists the test functions of a source text in the order of their declarations. Each test
belongs to the class whose heading comes last before it; nesting is not looked at, which is enough
for test files that are flat. Tests before the first heading belong to no known class.

Headings and declarations are found by two scans that do not know of each other. Since both give
their finds in order, one pass over the two lists tells every declaration its class.
-/

namespace Migration

open Text

/-- The name of the class of tests that stand before every heading. -/
def unknownClass : String := "Unknown"

/-- A test of the origin. -/
structure IndexedTest where
  className : String := ""
  name : String := ""
  /-- The parameters, as they are written. -/
  params : String := ""
  /-- The first line of the docstring, or nothing. -/
  doc : String := ""
  /-- The byte offset of the line of the declaration. -/
  offset : Nat := 0
  /-- The number of that line. -/
  line : Nat := 1
deriving DecidableEq, Repr

/-- The name of a test together with its class, as reports show it. -/
def IndexedTest.qualifiedName (test : IndexedTest) : String :=
  test.className ++ "::" ++ test.name

/-- The class of every declaration, given that of the text before, `current`, and the headings still
    ahead. -/
def withClass {α : Type} (current : String) (headings : List ClassHeading) :
    List (Found α) → List (String × Found α)
  | [] => []
  | found :: rest =>
    let passed := headings.takeWhile fun heading => heading.offset ≤ found.offset
    let ahead := headings.dropWhile fun heading => heading.offset ≤ found.offset
    let here := (passed.getLast?.map ClassHeading.name).getD current
    (here, found) :: withClass here ahead rest

/-- The tests of a source text, in order. -/
def indexTests (naming : TestNaming) (source : String) : List IndexedTest :=
  let text := source.toList
  let lines := LineIndex.ofText text
  let found := withClass unknownClass (ClassHeading.scan naming text) (Declaration.scan naming text)
  found.map fun (className, declaration) => {
    className
    name := String.ofList declaration.value.name
    params := String.ofList declaration.value.params
    doc := String.ofList (Docstring.line declaration.rest)
    offset := declaration.offset
    line := lines.lineOf declaration.offset }

/-- What a pass over tests has found: the classes with their tests, and where in that list a class
    stands. -/
structure ClassGroups where
  groups : List (String × List IndexedTest) := []
  slots : Dictionary Nat := .empty

/-- What has been found, with a group for a class; if there is none yet, it is made at the end. -/
def ClassGroups.opened (found : ClassGroups) (className : String) : ClassGroups :=
  if (found.slots.get? className).isSome then found
  else
    { groups := found.groups ++ [(className, [])]
      slots := found.slots.insert className found.groups.length }

/-- A step of the pass: the test goes behind the others of its class. -/
def ClassGroups.add (found : ClassGroups) (test : IndexedTest) : ClassGroups :=
  let opened := found.opened test.className
  let slot := (opened.slots.get? test.className).getD 0
  { opened with groups := opened.groups.modify slot fun group => (group.1, group.2 ++ [test]) }

/-- The tests class by class, classes in the order of their first test. -/
def byClass (tests : List IndexedTest) : List (String × List IndexedTest) :=
  (tests.foldl ClassGroups.add {}).groups

/-- What a pass over names has found: how often each has come up, and those that have come up a
    second time. -/
structure NameCounts where
  counts : Dictionary Nat := .empty
  repeated : List String := []

/-- A step of the pass. -/
def NameCounts.add (found : NameCounts) (name : String) : NameCounts :=
  let count := (found.counts.get? name).getD 0 + 1
  { counts := found.counts.insert name count
    repeated := if count = 2 then found.repeated ++ [name] else found.repeated }

/-- What a pass over names finds. -/
def NameCounts.ofNames (names : List String) : NameCounts := names.foldl NameCounts.add {}

/-- The names that two tests or more carry, in the order of their second occurrence. -/
def repeatedNames (tests : List IndexedTest) : List String :=
  (NameCounts.ofNames (tests.map IndexedTest.name)).repeated

end Migration
