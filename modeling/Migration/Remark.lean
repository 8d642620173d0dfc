import Migration.Text.Shown

/-!
# Remarks

What the user should know besides the answer is told in remarks. A warning is one line of its own. A
line of the log has a level, a message and the values that it reports; while a command is at work
and the log tells its progress, the name of the command stands before the message.
-/

namespace Migration

/-- How urgent a line of the log is. -/
inductive Level where
  | warn
  | info
deriving DecidableEq, Repr

/-- The word for a level. -/
def Level.word : Level → String
  | warn => "WARN"
  | info => "INFO"

/-- A remark to the user: a warning, or a line of the log with the values that it reports. -/
inductive Remark where
  | warning (text : String)
  | log (level : Level) (text : String) (values : List (String × String))
deriving DecidableEq, Repr

namespace Remark

/-- A line of the log that something is wrong. -/
def warn (text : String) : Remark := log .warn text []

/-- Whether the remark is made; progress is only told if asked for. -/
def isMade (tellsProgress : Bool) : Remark → Bool
  | log .info _ _ => tellsProgress
  | _ => true

/-- The line for a remark, made while a command is at work if one is given. -/
def line (command : Option String) : Remark → String
  | warning text => "Warning: " ++ text
  | log level text values =>
    level.word ++ " " ++ (match command with | some word => word ++ ": " | none => "") ++
      Text.logged text ++ String.join (values.map fun (name, value) => " " ++ name ++ "=" ++ value)

end Remark

end Migration
