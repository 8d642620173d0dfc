import Migration.FileSystem.Path
import Migration.Index.Naming
import Migration.Module.Namespace

/-!
# Settings

The settings say where origin and target are, how their names relate, and how much a report shows.
Every value has a default. Two values cannot be used, a report that shows no module of a group and
an empty separator; they are replaced by their defaults, and the user is told.
-/

namespace Migration

/-- Where origin and target are. Relative paths are meant from the directory of the settings. -/
structure Locations where
  originRoot : Path := .ofText "vendor/PyKotor/Libraries/PyKotor/src"
  originExtension : String := "py"
  targetRoot : Path := .ofText "src/CSharpKOTOR"
  targetExtension : String := "cs"
  /-- The origin's file of tests. -/
  originTests : Path :=
    .ofText "vendor/PyKotor/Tools/HolocronToolset/tests/gui/windows/test_indoor_builder.py"
  /-- The target's file of tests, which holds the marks. -/
  targetTests : Path := .ofText "src/Tests/HolocronToolset.Tests/Windows/IndoorBuilderTests.cs"
deriving DecidableEq, Repr

/-- All settings. -/
structure Settings where
  locations : Locations := {}
  rules : NamespaceRules := {}
  naming : TestNaming := {}
  /-- The patterns of files of the origin that are no modules. -/
  ignore : List String := ["**/__pycache__/**", "**/__init__.py"]
  /-- The number of modules that a report shows of a group. -/
  groupLimit : Nat := 10
deriving DecidableEq, Repr

namespace Settings

/-- A value that was replaced because it cannot be used. -/
inductive Fix where
  | groupLimit
  | separator
deriving DecidableEq, Repr

/-- What the user is told about a replaced value. -/
def Fix.message : Fix → String
  | groupLimit => "report.group_limit must be at least 1, using 10"
  | separator => "mapping.separator must not be empty, using \".\""

/-- The values that have to be replaced. -/
def fixes (settings : Settings) : List Fix :=
  (if settings.groupLimit = 0 then [.groupLimit] else [])
    ++ (if settings.rules.separator = "" then [.separator] else [])

/-- The settings with one value replaced. -/
def apply (settings : Settings) : Fix → Settings
  | .groupLimit => { settings with groupLimit := 10 }
  | .separator => { settings with rules := { settings.rules with separator := "." } }

/-- The settings with every value replaced that cannot be used. -/
def normalize (settings : Settings) : Settings := settings.fixes.foldl apply settings

end Settings

end Migration
