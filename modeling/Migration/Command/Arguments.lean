import Migration.Command.Basic

/-!
# Arguments

The arguments are words, read from the left. Options come first, then the word for a command, then
the options of the command; the options that go with every command may stand on either side, and
those behind the command word win.

A word `--name` gives an option by its name, and `-abc` gives three options by their letters. The
value of an option is behind an equals sign or is the next word; a word that starts with a dash is
not taken for a value, unless it is the dash alone. An option is settled when the next one begins or
the words end, and a mistake in it only shows then. After the word `--` nothing is an option.

Reading stops at the first mistake or request for help.
-/

namespace Migration

/-- Why the arguments ask for nothing that could be run. -/
inductive Declined where
  /-- Help is asked for. -/
  | help
  /-- The version is asked for. -/
  | version
  /-- There is nothing at all. -/
  | nothingGiven
  /-- There are options, but no command. -/
  | commandMissing
  /-- The word for the command is none. -/
  | unknownCommand
  /-- There is no such option, or there is a word too many. -/
  | unknownArgument
  /-- The value of an option is missing or empty. -/
  | badValue
  /-- A value is given to an option that takes none. -/
  | surplusValue
  /-- An option is given twice. -/
  | repeated
deriving DecidableEq, Repr

/-- The options. -/
inductive Switch where
  | settingsFile
  | verbose
  | plain
  | help
  | version
  | originRoot
  | targetRoot
  | origin
  | target
  | force
deriving DecidableEq, Repr

/-- The words for commands. -/
inductive CommandWord where
  | modules
  | tests
  | missing
  | init
deriving DecidableEq, Repr

namespace Switch

/-- The name of an option. -/
def name : Switch → String
  | settingsFile => "config"
  | verbose => "verbose"
  | plain => "plain"
  | help => "help"
  | version => "version"
  | originRoot => "origin-root"
  | targetRoot => "target-root"
  | origin => "origin"
  | target => "target"
  | force => "force"

/-- The letter of an option, if it has one. -/
def letter? : Switch → Option Char
  | verbose => some 'v'
  | help => some 'h'
  | version => some 'V'
  | force => some 'f'
  | _ => none

/-- Whether an option has a value, which is a path. -/
def takesValue : Switch → Bool
  | settingsFile | originRoot | targetRoot | origin | target => true
  | _ => false

/-- The options that go with every command. -/
def shared : List Switch := [settingsFile, verbose, plain, help]

end Switch

namespace CommandWord

/-- The word as it is written. -/
def text : CommandWord → String
  | modules => "modules"
  | tests => "tests"
  | missing => "missing"
  | init => "init"

/-- The command for a word. -/
def ofText? (word : String) : Option CommandWord :=
  [modules, tests, missing, init].find? fun command => command.text == word

/-- The options that may stand behind a command. -/
def switches : CommandWord → List Switch
  | modules => [.originRoot, .targetRoot] ++ Switch.shared
  | tests => [.origin] ++ Switch.shared
  | missing => [.origin, .target] ++ Switch.shared
  | init => [.force] ++ Switch.shared

end CommandWord

namespace Arguments

/-- The kinds of words. -/
inductive Word where
  /-- `--` -/
  | dashes
  /-- `--name` or `--name=value` -/
  | named (name : String) (value : Option String)
  /-- `-abc` -/
  | letters (letters : List Char)
  | plain (text : String)
deriving DecidableEq, Repr

/-- The kind of a word. -/
def Word.ofText (text : String) : Word :=
  match text.toList with
  | ['-', '-'] => dashes
  | '-' :: '-' :: rest =>
    named (String.ofList (rest.takeWhile (· != '=')))
      (match rest.dropWhile (· != '=') with
        | [] => none
        | _ :: value => some (String.ofList value))
  | '-' :: c :: rest => letters (c :: rest)
  | _ => plain text

/-- The options that are settled, each with its value, which is empty if the option has none. -/
abbrev Given := List (Switch × String)

/-- Whether an option is given. -/
def Given.has (given : Given) (switch : Switch) : Bool := given.any fun entry => entry.1 == switch

/-- The path that is given as the value of an option. -/
def Given.path? (given : Given) (switch : Switch) : Option Path := (given.lookup switch).map .ofText

/-- The number of times that the log is asked to tell more, at most 255. -/
def Given.verbosity (given : Given) : Nat :=
  min 255 (given.countP fun entry => entry.1 == .verbose)

/-- The options with one more of them settled. -/
def Given.settle (given : Given) (switch : Switch) (value : Option String) :
    Except Declined Given :=
  match switch with
  | .help => .error .help
  | .version => .error .version
  | .verbose => .ok ((switch, "") :: given)
  | _ =>
    match switch.takesValue, value with
    | true, none => .error .badValue
    | true, some value =>
      if given.has switch then .error .repeated
      else if value.isEmpty then .error .badValue
      else .ok ((switch, value) :: given)
    | false, _ =>
      if given.has switch then .error .repeated else .ok ((switch, "") :: given)

/-- How far the words are read: the options that are settled, the last option if it is not yet, with
    its value once that is there, and whether the word `--` was read. -/
structure Progress where
  given : Given := []
  open? : Option (Switch × Option String) := none
  closed : Bool := false
deriving DecidableEq, Repr

namespace Progress

/-- Whether the next word is the value of an option. -/
def awaitsValue (progress : Progress) : Bool :=
  match progress.open? with
  | some (_, none) => true
  | _ => false

/-- The options when no more follows. -/
def settled (progress : Progress) : Except Declined Given :=
  match progress.open? with
  | none => .ok progress.given
  | some (switch, value) => progress.given.settle switch value

/-- An option follows, together with its value if it has one. -/
def take (progress : Progress) (switch : Switch) (value : Option String) :
    Except Declined Progress := do
  let given ← progress.settled
  let given ← given.settle switch value
  return { given }

/-- An option follows whose value is the next word. -/
def begin (progress : Progress) (switch : Switch) : Except Declined Progress := do
  let given ← progress.settled
  return { given, open? := some (switch, none) }

/-- Options follow that are given by their letters. -/
def takeLetters (known : List Switch) (progress : Progress) (letters : List Char) :
    Except Declined Progress :=
  letters.foldlM
    (fun progress letter =>
      match known.find? fun switch => switch.letter? == some letter with
      | none => .error .unknownArgument
      | some switch => progress.take switch none)
    progress

/-- One word follows, where the options in `known` may stand. A word that has no place there is the
    mistake `surplus`. -/
def read (known : List Switch) (surplus : Declined) (progress : Progress) (text : String) :
    Except Declined Progress :=
  if progress.closed then .error surplus
  else
    match Word.ofText text with
    | .dashes => .ok { progress with closed := true }
    | .named name value =>
      match known.find? fun switch => switch.name == name with
      | none => .error .unknownArgument
      | some switch =>
        match switch.takesValue, value with
        | true, none => progress.begin switch
        | true, some value => progress.take switch (some value)
        | false, none => progress.take switch none
        | false, some _ => .error .surplusValue
    | .letters letters => progress.takeLetters known letters
    | .plain text =>
      match progress.open? with
      | some (switch, none) => .ok { progress with open? := some (switch, some text) }
      | _ => .error surplus

/-- The options when no more follows, where the environment may name a file of settings. -/
def finish (environment : Option String) (progress : Progress) : Except Declined Given := do
  let given ← progress.settled
  if environment == some "" && !given.has .settingsFile then throw .badValue
  return given

end Progress

/-- What a request for help that names commands comes to. -/
def helpOn : List String → Declined
  | [] => .help
  | [word] => if word == "help" || (CommandWord.ofText? word).isSome then .help else .unknownCommand
  | _ => .unknownCommand

/-- The options that may stand before the command. -/
def leading : List Switch := .version :: Switch.shared

/-- Reads words up to a command and gives the command with the words behind it, if there is one. -/
def readLeading (progress : Progress) :
    List String → Except Declined (Progress × Option (CommandWord × List String))
  | [] => .ok (progress, none)
  | text :: rest =>
    let command := CommandWord.ofText? text
    if progress.closed then
      .error (if text == "help" || command.isSome then .unknownArgument else .unknownCommand)
    else if text == "help" && !progress.awaitsValue then .error (helpOn rest)
    else
      match command, progress.awaitsValue with
      | some command, false => .ok (progress, some (command, rest))
      | _, _ => do
        let progress ← progress.read leading .unknownCommand text
        readLeading progress rest

/-- Reads the words behind a command. -/
def readBehind (environment : Option String) (command : CommandWord) (words : List String) :
    Except Declined Given := do
  let progress ← words.foldlM (Progress.read command.switches .unknownArgument) {}
  progress.finish environment

/-- The command that a word and the options behind it give. -/
def commandOf (given : Given) : CommandWord → Command
  | .modules => .inquire (.modules (given.path? .originRoot) (given.path? .targetRoot))
  | .tests => .inquire (.tests (given.path? .origin))
  | .missing => .inquire (.missing (given.path? .origin) (given.path? .target))
  | .init => .init (given.has .force)

/-- What the arguments ask for, given the file of settings that the environment names. -/
def parse (environment : Option String) (words : List String) : Except Declined Invocation := do
  let (progress, command) ← readLeading {} words
  match command with
  | none =>
    let before ← progress.finish environment
    throw (if before.isEmpty && environment.isNone then .nothingGiven else .commandMissing)
  | some (command, rest) =>
    let behind ← readBehind environment command rest
    let before ← progress.finish environment
    return {
      settingsFile := behind.path? .settingsFile <|> before.path? .settingsFile <|>
        environment.map .ofText
      verbosity := if behind.has .verbose then behind.verbosity else before.verbosity
      plain := behind.has .plain || before.has .plain
      command := commandOf behind command }

end Arguments

end Migration
