import Migration.Index.Basic
import Migration.Marks

/-!
# Origin tests against marks

The comparison tells which tests of the origin have no mark in the target, in the order of the
source, and which marks name no test of the origin. Only the name of a test counts: two classes that
have a test of the same name have one test between them as far as marks go, and one mark settles
both.
-/

namespace Migration

/-- A test of the origin that has no mark. -/
structure MissingTest where
  className : String := ""
  name : String := ""
  doc : String := ""
deriving DecidableEq, Repr

/-- What is said of a test that has no mark. -/
def MissingTest.ofTest (test : IndexedTest) : MissingTest where
  className := test.className
  name := test.name
  doc := test.doc

/-- What has been carried over and what has not. -/
structure Comparison where
  /-- The number of tests of the origin. -/
  total : Nat := 0
  /-- The number of names that are marked. -/
  marked : Nat := 0
  /-- The number of tests of the origin whose name is marked. -/
  matched : Nat := 0
  /-- The tests without a mark, in the order of the source. -/
  missing : List MissingTest := []
  /-- The marked names that no test has, in ascending order. -/
  stale : List String := []
deriving DecidableEq, Repr

namespace Comparison

/-- The comparison of tests with marks. -/
def ofTests (tests : List IndexedTest) (marks : Marks) : Comparison :=
  let missing := (tests.filter fun test => !marks.contains test.name).map MissingTest.ofTest
  let known := tests.map IndexedTest.name
  { total := tests.length
    marked := marks.size
    matched := tests.length - missing.length
    missing
    stale := marks.sorted.filter fun name => !known.contains name }

/-- The share of the tests whose name is marked, in percent; all of them if there are none. -/
def completion (comparison : Comparison) : Float :=
  if comparison.total = 0 then 100.0
  else comparison.matched.toUInt64.toFloat * 100.0 / comparison.total.toUInt64.toFloat

end Comparison

end Migration
