import Migration.Fault
import Migration.Settings.Load

/-!
# A file of settings to start from

The template spells out every setting with its default, so that a user has something to change.
-/

namespace Migration

/-- The lines of the template. -/
def templateLines : List String := [
  "# Porttrack Configuration",
  "",
  "[paths]",
  "# Origin library sources, mapped by `porttrack modules`",
  "origin_root = \"vendor/PyKotor/Libraries/PyKotor/src\"",
  "origin_extension = \"py\"",
  "target_root = \"src/CSharpKOTOR\"",
  "target_extension = \"cs\"",
  "",
  "# Test files compared by `porttrack tests` and `porttrack missing`",
  "origin_tests = \"vendor/PyKotor/Tools/HolocronToolset/tests/gui/windows/test_indoor_builder.py\"",
  "target_tests = \"src/Tests/HolocronToolset.Tests/Windows/IndoorBuilderTests.cs\"",
  "",
  "[mapping]",
  "root_prefix = \"pykotor\"",
  "utility_prefix = \"utility\"",
  "utility_namespace = \"Utility\"",
  "formats_pair = [\"resource\", \"formats\"]",
  "formats_namespace = \"Formats\"",
  "separator = \".\"",
  "",
  "[indexer]",
  "class_prefix = \"Test\"",
  "function_prefix = \"test_\"",
  "",
  "[discovery]",
  "ignore = [",
  "    \"**/__pycache__/**\",",
  "    \"**/__init__.py\"",
  "]",
  "",
  "[report]",
  "group_limit = 10"]

/-- The text of the template. -/
def template : String := String.join (templateLines.map fun line => line ++ "\n")

/-- The file system after the template has been written to a path, and why that failed, if it did.
    What is there already is only overwritten if forced. -/
def FileSystem.writeTemplate (fs : FileSystem) (storage : Storage) (workDir : Location)
    (path : Path) (force : Bool) : FileSystem × Option Failure :=
  if fs.exists? workDir path && !force then (fs, some .settingsExist)
  else
    let (files, error) := fs.writeText storage workDir path template
    (files, error.map fun error => .fault [] (.ofOpen path error))

end Migration
