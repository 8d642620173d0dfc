import Migration.FileSystem.Access

/-!
# Faults

A fault says which input could not be used and why. A file that is missing and one that is no text
are told apart from other reasons, since they are the common ones and the user can act on them.
Where a fault ends a command, the message tells the reasons from the outside in, and a reason given
by the system is told once more at the end.
-/

namespace Migration

/-- The reasons of the system that are told apart. -/
inductive Reason where
  | notFound
  | notText
  | other
deriving DecidableEq, Repr

/-- Why an input could not be used. -/
inductive Fault where
  /-- A file or a directory does not exist. -/
  | missing (path : Path)
  /-- The bytes of a file are no text. -/
  | encoding (path : Path)
  /-- The system gives another reason. -/
  | refused (path : Path) (reason : String)
  /-- The settings in a file cannot be read. -/
  | settings (path : Path)
deriving DecidableEq, Repr

/-- The reason that an error in opening a file counts as. -/
def OpenError.kind : OpenError → Reason
  | .notFound => .notFound
  | .notText => .notText
  | _ => .other

namespace Fault

/-- The fault for a reason of the system. -/
def ofReason (path : Path) (text : String) : Reason → Fault
  | .notFound => missing path
  | .notText => encoding path
  | .other => refused path text

/-- The fault for an error in opening a file. -/
def ofOpen (path : Path) (error : OpenError) : Fault := ofReason path error.message error.kind

/-- Whether the fault is that an input does not exist. -/
def isMissing : Fault → Bool
  | missing _ => true
  | _ => false

/-- The message of a fault. -/
def message : Fault → String
  | missing path => path.shown ++ " not found"
  | encoding path => path.shown ++ " is not valid UTF-8 text"
  | refused path reason => "Failed to read " ++ path.shown ++ ": " ++ reason
  | settings path =>
    "Configuration error in " ++ path.shown ++ ": Failed to parse .porttrack.toml"

/-- The messages of a fault and of its causes, from the outside in. -/
def chain : Fault → List String
  | refused path reason => [(refused path reason).message, reason]
  | fault => [fault.message]

end Fault

/-- The text of a file that is looked into. -/
def FileSystem.readSource (fs : FileSystem) (workDir : Location) (path : Path) :
    Except Fault String :=
  (fs.readText workDir path).mapError (Fault.ofOpen path)

/-- Why a command failed: a fault, with what the command was doing, or a file of settings that is
    not to be overwritten. -/
inductive Failure where
  | fault (context : List String) (cause : Fault)
  | settingsExist
deriving DecidableEq, Repr

/-- The message of a failure: all that is known, from the outside in. -/
def Failure.message : Failure → String
  | fault context cause => ": ".intercalate (context ++ cause.chain)
  | settingsExist => "Configuration file already exists. Use --force to overwrite."

end Migration
