import Migration.FileSystem.Path

/-!
# Commands

The program is asked either to look something up, in which case it changes nothing, or to write a
file of settings to start from. Some options go with every command.
-/

namespace Migration

/-- What is looked up. A path that is not given is taken from the settings. -/
inductive Inquiry where
  /-- Which modules of the origin have files in the target. -/
  | modules (originRoot targetRoot : Option Path)
  /-- Which tests the origin has. -/
  | tests (origin : Option Path)
  /-- Which tests of the origin have no mark in the target. -/
  | missing (origin target : Option Path)
deriving DecidableEq, Repr

/-- What the program is asked to do. -/
inductive Command where
  /-- Look something up. -/
  | inquire (inquiry : Inquiry)
  /-- Write a file of settings, over an existing one only if forced. -/
  | init (force : Bool)
deriving DecidableEq, Repr

/-- A command with the options that go with every command. -/
structure Invocation where
  /-- A file of settings to use in place of the one that would be found. -/
  settingsFile : Option Path
  /-- How much is told in the log. -/
  verbosity : Nat
  /-- Whether the output is without colours in any case. -/
  plain : Bool
  command : Command
deriving DecidableEq, Repr

/-- The word for what is looked up. -/
def Inquiry.word : Inquiry → String
  | modules .. => "modules"
  | tests .. => "tests"
  | missing .. => "missing"

/-- Whether the log tells what was done, and not only what went wrong. -/
def Invocation.tellsProgress (invocation : Invocation) : Bool := 1 ≤ invocation.verbosity

/-- How much the log tells, in a word. -/
def Invocation.logLevel (invocation : Invocation) : String :=
  match invocation.verbosity with
  | 0 => "warn"
  | 1 => "info"
  | 2 => "debug"
  | _ => "trace"

end Migration
