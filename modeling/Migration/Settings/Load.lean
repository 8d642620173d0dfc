import Migration.Fault
import Migration.Remark
import Migration.Settings.Decode

/-!
# Finding the settings

The settings are in a file of a fixed name. It is looked for in the working directory and in the
directories above it, ten in all; the first file that can be read and understood gives the settings,
and without one they are the defaults. A file that the user names is read instead of a search, and
then it is a fault if it cannot be used.

What the user should know is told on the way: values that were replaced, files that were passed
over.
-/

namespace Migration

/-- Settings that are in force: where relative paths start, and the file that they are from. -/
structure LoadedSettings where
  settings : Settings
  baseDir : Path
  source : Option Path
deriving DecidableEq, Repr

namespace LoadedSettings

/-- The name of the file of settings. -/
def fileName : Path := .ofText ".porttrack.toml"

/-- How many directories are looked into. -/
def searchDepth : Nat := 10

/-- The defaults, for paths that start at a directory. -/
def defaults (baseDir : Path) : LoadedSettings := ⟨{}, baseDir, none⟩

/-- A path of the settings, taken from where relative paths start. -/
def resolve (loaded : LoadedSettings) (path : Path) : Path := loaded.baseDir.join path

/-- The settings that a text gives, with the remarks on values that were replaced. -/
def read? (text : String) : Option (Settings × List Remark) :=
  (Settings.parse? text).map fun settings =>
    (settings.normalize, settings.fixes.map fun fix => .warning fix.message)

/-- The settings in a file that may be missing, with the remarks on it. -/
def consider (fs : FileSystem) (workDir : Location) (path : Path) :
    Option Settings × List Remark :=
  match fs.readText workDir path with
  | .error .notFound => (none, [])
  | .error error =>
    (none, [.warn ("Failed to read config file " ++ path.shown ++ ": " ++ error.message)])
  | .ok text =>
    match read? text with
    | some (settings, remarks) => (some settings, remarks)
    | none => (none, [.warning "Failed to parse .porttrack.toml. Using defaults."])

/-- The settings of the first directory that has usable ones. -/
def search (fs : FileSystem) (workDir : Location) : List Path → Option LoadedSettings × List Remark
  | [] => (none, [])
  | dir :: dirs =>
    let path := dir.join fileName
    match consider fs workDir path with
    | (some settings, remarks) => (some ⟨settings, dir, some path⟩, remarks)
    | (none, remarks) =>
      let (found, more) := search fs workDir dirs
      (found, remarks ++ more)

/-- The files that are looked for, from a directory upwards. -/
def candidates (start : Path) : List Path :=
  (start.ancestors searchDepth).map fun dir => dir.join fileName

/-- The settings in force in a directory. -/
def inDirectory (fs : FileSystem) (workDir : Location) (start : Path) :
    LoadedSettings × List Remark :=
  let (found, remarks) := search fs workDir (start.ancestors searchDepth)
  (found.getD (defaults start), remarks)

/-- Where relative paths start for the settings in a file: in its directory, which is written as a
    dot if its path is empty. -/
def baseOf (path : Path) : Path :=
  match path.parent? with
  | some parent => if parent.bytes.isEmpty then .ofText "." else parent
  | none => .ofText "."

/-- The settings in a file that the user names. -/
def ofFile (fs : FileSystem) (workDir : Location) (path : Path) :
    Except Fault (LoadedSettings × List Remark) :=
  match fs.readSource workDir path with
  | .error fault => .error fault
  | .ok text =>
    match read? text with
    | none => .error (.settings path)
    | some (settings, remarks) => .ok (⟨settings, baseOf path, some path⟩, remarks)

end LoadedSettings

end Migration
