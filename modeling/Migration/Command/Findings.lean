import Migration.Command.Basic
import Migration.Comparison
import Migration.Discovery.SourceFile
import Migration.Settings.Load
import Migration.Survey

/-!
# Findings

Each inquiry reads files and comes to a finding, or fails. Remarks are made on the way in either
case.
-/

namespace Migration

/-- What a look into files comes to, with the remarks made on the way. -/
structure Findings (α : Type) where
  remarks : List Remark
  result : Except Failure α

/-- The findings in the form of a report, with one more remark on them. -/
def Findings.reported {α : Type} (findings : Findings α) (remark : α → Remark)
    (report : α → String) : Findings String :=
  match findings.result with
  | .error failure => ⟨findings.remarks, .error failure⟩
  | .ok found => ⟨findings.remarks ++ [remark found], .ok (report found)⟩

namespace LoadedSettings

variable (loaded : LoadedSettings)

/-- The path of the origin's tests. -/
def originTests (given : Option Path) : Path :=
  given.getD (loaded.resolve loaded.settings.locations.originTests)

/-- The path of the target's tests. -/
def targetTests (given : Option Path) : Path :=
  given.getD (loaded.resolve loaded.settings.locations.targetTests)

/-- The path of the origin's modules. -/
def originRoot (given : Option Path) : Path :=
  given.getD (loaded.resolve loaded.settings.locations.originRoot)

/-- The path of the target's files. -/
def targetRoot (given : Option Path) : Path :=
  given.getD (loaded.resolve loaded.settings.locations.targetRoot)

variable (fs : FileSystem) (workDir : Location)

/-- The tests of the origin. Names that are declared more than once are remarked on. -/
def findTests (origin : Option Path) : Findings (List IndexedTest) :=
  let path := loaded.originTests origin
  match fs.readSource workDir path with
  | .error fault => ⟨[], .error (.fault [] fault)⟩
  | .ok source =>
    let tests := indexTests loaded.settings.naming source
    { remarks := (repeatedNames tests).map fun name =>
        .warn (name ++ " is declared more than once in " ++ path.shown)
      result := .ok tests }

/-- The comparison of the tests of the origin with the marks in the target. -/
def findMissing (origin target : Option Path) : Findings Comparison where
  remarks := []
  result := do
    let naming := loaded.settings.naming
    let originSource ← (fs.readSource workDir (loaded.originTests origin)).mapError (.fault [])
    let targetSource ← (fs.readSource workDir (loaded.targetTests target)).mapError (.fault [])
    return Comparison.ofTests (indexTests naming originSource)
      (Marks.scan naming.functionPrefix targetSource)

/-- The remark on a text that is no pattern. -/
def patternRemark (bad : String × GlobError) : Remark :=
  .warn ("Ignoring invalid discovery pattern " ++ Text.shown bad.1 ++ ": " ++ bad.2.message)

/-- The remarks on directories below a root that cannot be opened. -/
def closedRemarks (root : Path) : List Remark :=
  (SourceFile.closedDirectories fs workDir root).map fun (path, error) =>
    .warn ("Skipping unreadable entry under " ++ root.shown ++ ": " ++ path.shown ++
      ": IO error for operation on " ++ path.shown ++ ": " ++ error.message)

/-- The survey of the modules of the origin. Without a tree of the target, it has no files. -/
def findModules (originRoot targetRoot : Option Path) : Findings Survey :=
  let settings := loaded.settings
  let root := loaded.originRoot originRoot
  let remarks := (SourceFile.badPatterns settings.ignore).map patternRemark ++
    closedRemarks fs workDir root
  match SourceFile.discover fs workDir root settings.locations.originExtension
      settings.ignore with
  | .error fault =>
    ⟨remarks, .error (.fault ["Failed to discover origin modules in " ++ root.shown] fault)⟩
  | .ok origin =>
    let survey := fun target : List SourceFile =>
      Survey.build settings.rules (origin.map SourceFile.module) (target.map SourceFile.module)
    let root := loaded.targetRoot targetRoot
    let remarks := remarks ++ closedRemarks fs workDir root
    match SourceFile.discover fs workDir root settings.locations.targetExtension [] with
    | .ok target => ⟨remarks, .ok (survey target)⟩
    | .error fault =>
      ⟨remarks ++ [.warn (fault.message ++ "; reporting zero target files")], .ok (survey [])⟩

end LoadedSettings

end Migration
