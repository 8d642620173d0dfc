import Migration.Comparison
import Migration.Survey
import Migration.Report.Style

/-!
# Reports

A report is a list of lines. Each of the three reports starts with its counts; headings are set off
by a style, and everything else is plain.
-/

namespace Migration

namespace Report

/-- The text of a list of lines, each ended by a line feed. -/
def unlines (lines : List String) : String := String.join (lines.map (· ++ "\n"))

/-- A number, moved to the right end of a field of `width` characters. -/
def padded (width n : Nat) : String :=
  let digits := toString n
  "".pushn ' ' (width - digits.length) ++ digits

end Report

open Report

namespace Survey

/-- The lines of one group: at most `limit` modules, and how many more there are. -/
def groupLines (coloured : Bool) (limit : Nat) (group : SurveyGroup) : List String :=
  let count := group.rows.length
  let heading := group.top ++ " (" ++ toString count ++ " modules):"
  ["", Style.cyan.apply coloured heading]
    ++ (group.rows.take limit).map (fun row => "  - " ++ row.path.dotted ++ " -> " ++ row.place)
    ++ (if limit < count then ["  ... and " ++ toString (count - limit) ++ " more"] else [])

/-- The report on a survey. -/
def report (coloured : Bool) (limit : Nat) (survey : Survey) : String :=
  unlines <|
    ["Found " ++ toString survey.originCount ++ " origin modules",
      "Found " ++ toString survey.targetCount ++ " target files",
      "",
      Style.bold.apply coloured "=== Module Analysis ==="]
    ++ survey.groups.flatMap (groupLines coloured limit)
    ++ ["",
      "Namespaces with target files: "
        ++ toString survey.coveredCount ++ "/" ++ toString survey.placeCount]

end Survey

/-- The report on the tests of the origin: a numbered list. -/
def testReport (coloured : Bool) (tests : List IndexedTest) : String :=
  unlines <|
    ["Total tests: " ++ toString tests.length,
      "",
      Style.bold.apply coloured "Test list:"]
    ++ tests.zipIdx.map fun (test, position) =>
      padded 3 (position + 1) ++ ". " ++ test.qualifiedName

namespace Comparison

/-- The lines with the counts, and the heading of the missing tests. -/
def countLines (coloured : Bool) (comparison : Comparison) : List String :=
  ["Total origin tests: " ++ toString comparison.total,
    "Ported: " ++ toString comparison.marked,
    "Missing: " ++ toString comparison.missing.length,
    "",
    Style.bold.apply coloured "Missing test names:"]

/-- The line that documents a test, if there is something on it. -/
def docLines (doc : String) : List String := if doc.isEmpty then [] else ["    " ++ doc]

/-- The lines on stale names: none, or an empty line, a heading and the names. -/
def staleLines (coloured : Bool) (stale : List String) : List String :=
  if stale.isEmpty then []
  else ["", Style.yellow.apply coloured "Stale markers (no matching origin test):"] ++ stale

/-- The lines behind the counts: every missing test with the line that documents it, and the stale
    names. -/
def bodyLines (coloured : Bool) (missing : List MissingTest) (stale : List String) : List String :=
  missing.flatMap (fun test => test.name :: docLines test.doc) ++ staleLines coloured stale

/-- The report on a comparison. -/
def report (coloured : Bool) (comparison : Comparison) : String :=
  unlines <|
    comparison.countLines coloured ++ bodyLines coloured comparison.missing comparison.stale

end Comparison

end Migration
