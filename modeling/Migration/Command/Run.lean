import Migration.Command.Arguments
import Migration.Command.Findings
import Migration.Command.Template
import Migration.Number.Shortest
import Migration.Report.Render

/-!
# Running a command

A run takes the files as they are and ends with an exit code, an output, lines for the user beside
the output, and the files as they are then. The code is 0 if the command did what was asked, 1 if it
failed and 2 if the arguments cannot be understood. Nothing is put out unless the command succeeds,
and nothing is written but by the command that writes a file of settings, which fails if the storage
does not take all of it.
-/

namespace Migration

/-- How a run ends. -/
structure Ending where
  exitCode : Nat
  output : String
  /-- The lines for the user beside the output. -/
  notes : List String
  files : FileSystem

/-- The exit code for arguments that ask for nothing to run. -/
def Declined.exitCode : Declined → Nat
  | help | version => 0
  | _ => 2

/-- What is wrong with the arguments, if anything is. -/
def Declined.complaint? : Declined → Option String
  | help | version | nothingGiven => none
  | commandMissing => some "a command is missing"
  | unknownCommand => some "there is no such command"
  | unknownArgument => some "an argument is not expected here"
  | badValue => some "an option lacks its value"
  | surplusValue => some "an option takes no value"
  | repeated => some "an option is given more than once"

/-- The lines that tell how the program is used. -/
def usage : List String := [
  "Usage: porttrack [--config <PATH>] [-v] [--plain] <COMMAND>",
  "",
  "Commands:",
  "  modules [--origin-root <PATH>] [--target-root <PATH>]",
  "  tests [--origin <PATH>]",
  "  missing [--origin <PATH>] [--target <PATH>]",
  "  init [--force]"]

/-- The line that tells the version. -/
def versionLine : String := "porttrack 0.3.1"

/-- The end of a run whose arguments ask for nothing to run. -/
def Ending.declined (files : FileSystem) (declined : Declined) : Ending :=
  match declined with
  | .help => ⟨declined.exitCode, Report.unlines usage, [], files⟩
  | .version => ⟨declined.exitCode, versionLine ++ "\n", [], files⟩
  | other => ⟨declined.exitCode, "", (other.complaint?.map ("error: " ++ ·)).toList ++ usage, files⟩

/-- The end of a run that failed. -/
def Ending.failed (files : FileSystem) (notes : List String) (failure : Failure) : Ending :=
  ⟨1, "", notes ++ ["Error: " ++ failure.message], files⟩

/-- The finding of an inquiry as a report, with a remark on how much was found. -/
def Inquiry.answer (inquiry : Inquiry) (loaded : LoadedSettings) (fs : FileSystem)
    (workDir : Location) (coloured : Bool) : Findings String :=
  match inquiry with
  | .modules originRoot targetRoot =>
    (loaded.findModules fs workDir originRoot targetRoot).reported
      (fun survey => .log .info "module analysis complete"
        [("origin", toString survey.originCount), ("target", toString survey.targetCount),
          ("groups", toString survey.groups.length)])
      (fun survey => survey.report coloured loaded.settings.groupLimit)
  | .tests origin =>
    (loaded.findTests fs workDir origin).reported
      (fun tests => .log .info "indexed origin tests" [("tests", toString tests.length)])
      (testReport coloured)
  | .missing origin target =>
    (loaded.findMissing fs workDir origin target).reported
      (fun comparison => .log .info "diff complete"
        [("total", toString comparison.total), ("ported", toString comparison.marked),
          ("completion", Number.text comparison.completion)])
      (fun comparison => comparison.report coloured)

namespace Invocation

/-- The paths at which settings for a command are looked for. -/
def settingsPaths (invocation : Invocation) (workDir : Location) : List Path :=
  match invocation.settingsFile with
  | some path => [path]
  | none => LoadedSettings.candidates (Location.path workDir)

/-- The settings for a command: those in the file that is named, or those in force where it is run.
    -/
def loadSettings (invocation : Invocation) (fs : FileSystem) (workDir : Location) :
    Except Fault (LoadedSettings × List Remark) :=
  match invocation.settingsFile with
  | some path => LoadedSettings.ofFile fs workDir path
  | none => .ok (LoadedSettings.inDirectory fs workDir (Location.path workDir))

/-- The lines for remarks that are made, by a command if one is given. -/
def notes (invocation : Invocation) (command : Option String) (remarks : List Remark) :
    List String :=
  (remarks.filter (Remark.isMade invocation.tellsProgress)).map
    (Remark.line (if invocation.tellsProgress then command else none))

/-- Runs an inquiry. -/
def inquire (invocation : Invocation) (fs : FileSystem) (workDir : Location) (coloured : Bool)
    (inquiry : Inquiry) : Ending :=
  match invocation.loadSettings fs workDir with
  | .error fault => .failed fs [] (.fault [] fault)
  | .ok (loaded, remarks) =>
    let findings := inquiry.answer loaded fs workDir (coloured && !invocation.plain)
    let notes := invocation.notes none remarks ++
      invocation.notes (some inquiry.word) findings.remarks
    match findings.result with
    | .error failure => .failed fs notes failure
    | .ok report => ⟨0, report, notes, fs⟩

/-- Runs a command. -/
def run (invocation : Invocation) (fs : FileSystem) (storage : Storage) (workDir : Location)
    (coloured : Bool) : Ending :=
  match invocation.command with
  | .inquire inquiry => invocation.inquire fs workDir coloured inquiry
  | .init force =>
    match fs.writeTemplate storage workDir LoadedSettings.fileName force with
    | (files, some failure) => .failed files [] failure
    | (files, none) =>
      ⟨0, "Created " ++ LoadedSettings.fileName.shown ++ " configuration file\n", [], files⟩

end Invocation

/-- Runs the program: `storage` takes what is written, `environment` is the file of settings that
    the environment names, and the output may be coloured if `coloured`. -/
def run (fs : FileSystem) (storage : Storage) (workDir : Location) (coloured : Bool)
    (environment : Option String) (arguments : List String) : Ending :=
  match Arguments.parse environment arguments with
  | .error declined => .declined fs declined
  | .ok invocation => invocation.run fs storage workDir coloured

end Migration
