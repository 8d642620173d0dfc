/-!
# TOML strings

A string is written in one of four ways: between quotes or between apostrophes, and on one line or,
with three delimiters, over several. Between quotes a backslash starts an escape. Each way of
writing is a small machine that takes one character at a time, so reading never looks back; `Step`
says what the machine does with a character, and `readWith` runs it.

In a string over several lines the line break right after the opening is dropped, up to two
delimiters may stand before the closing three, and between quotes a backslash at the end of a line
swallows the blanks and line breaks that follow.
-/

namespace Migration.Toml

/-- Whether a character may stand in a text as it is: not a control character, except for the tab.
    -/
def isTextChar (c : Char) : Bool := c == '\t' || (0x20 ≤ c.toNat && c.toNat != 0x7F)

/-- Whether a character is a space or a tab. -/
def isGap (c : Char) : Bool := c == ' ' || c == '\t'

/-- The value of a hexadecimal digit. -/
def hexDigit? (c : Char) : Option Nat :=
  if c.isDigit then some (c.toNat - '0'.toNat)
  else if 'a' ≤ c ∧ c ≤ 'f' then some (c.toNat - 'a'.toNat + 10)
  else if 'A' ≤ c ∧ c ≤ 'F' then some (c.toNat - 'A'.toNat + 10)
  else none

/-- The character with a given code point, if there is one. -/
def charAt? (n : Nat) : Option Char := if n.isValidChar then some (Char.ofNat n) else none

namespace Quoted

/-- Where in a string a machine is. -/
inductive Mode where
  /-- Among ordinary characters. -/
  | plain
  /-- Behind a backslash. -/
  | escape
  /-- In the digits of a code point: how many are left, and the value of those before. -/
  | code (left value : Nat)
  /-- Behind a carriage return, which a line feed has to follow. -/
  | lineBreak
  /-- In the blanks behind a backslash at the end of a line; whether the line has ended. -/
  | continued (ended : Bool)
  /-- The same, behind a carriage return. -/
  | continuedBreak
  /-- Behind so many delimiters. -/
  | delimiters (count : Nat)
deriving DecidableEq, Repr

/-- What a machine does with a character: it fails, or adds to the string and goes on, or adds to
    the string and is done, with the character taken or not. -/
inductive Step where
  | fail
  | go (added : List Char) (next : Mode)
  | stop (added : List Char) (taken : Bool)

/-- The string that a machine reads, and what follows it. The end of the text is shown to the
    machine as `none`. -/
def readWith (step : Mode → Option Char → Step) : Mode → List Char → Option (List Char × List Char)
  | mode, [] =>
    match step mode none with
    | .stop added _ => some (added, [])
    | _ => none
  | mode, c :: rest =>
    match step mode (some c) with
    | .fail => none
    | .go added next => (readWith step next rest).map fun (text, rest) => (added ++ text, rest)
    | .stop added taken => some (added, if taken then rest else c :: rest)

/-- The character that a one-letter escape stands for. -/
def letterEscape? : Char → Option Char
  | 'b' => some '\x08'
  | 't' => some '\t'
  | 'n' => some '\n'
  | 'f' => some '\x0c'
  | 'r' => some '\r'
  | 'e' => some '\x1b'
  | '"' => some '"'
  | '\\' => some '\\'
  | _ => none

/-- The step behind a backslash. -/
def escapeStep (c : Char) : Step :=
  match letterEscape? c with
  | some e => .go [e] .plain
  | none =>
    match c with
    | 'x' => .go [] (.code 2 0)
    | 'u' => .go [] (.code 4 0)
    | 'U' => .go [] (.code 8 0)
    | _ => .fail

/-- The step at a digit of a code point. -/
def codeStep (left value : Nat) (c : Char) : Step :=
  match hexDigit? c with
  | none => .fail
  | some digit =>
    let value := value * 16 + digit
    if left = 1 then
      match charAt? value with
      | some e => .go [e] .plain
      | none => .fail
    else .go [] (.code (left - 1) value)

/-- The machine of a string between quotes on one line. -/
def basicStep : Mode → Option Char → Step
  | .plain, some c =>
    if c == '"' then .stop [] true
    else if c == '\\' then .go [] .escape
    else if isTextChar c then .go [c] .plain
    else .fail
  | .escape, some c => escapeStep c
  | .code left value, some c => codeStep left value c
  | _, _ => .fail

/-- The machine of a string between apostrophes on one line. -/
def literalStep : Mode → Option Char → Step
  | .plain, some c =>
    if c == '\'' then .stop [] true else if isTextChar c then .go [c] .plain else .fail
  | _, _ => .fail

/-- The step at an ordinary place of a string over several lines, `added` being read already. -/
def linesPlain (delimiter : Char) (added : List Char) (c : Char) : Step :=
  if c == delimiter then .go added (.delimiters 1)
  else if c == '\\' && delimiter == '"' then .go added .escape
  else if c == '\r' then .go added .lineBreak
  else if c == '\n' || isTextChar c then .go (added ++ [c]) .plain
  else .fail

/-- The step in the blanks behind a backslash at the end of a line. -/
def continuedStep (ended : Bool) (c : Char) : Step :=
  if c == ' ' || c == '\t' then .go [] (.continued ended)
  else if c == '\n' then .go [] (.continued true)
  else if c == '\r' then .go [] .continuedBreak
  else if ended then linesPlain '"' [] c
  else .fail

/-- The machine of a string over several lines, between quotes or apostrophes. -/
def linesStep (delimiter : Char) : Mode → Option Char → Step
  | .plain, some c => linesPlain delimiter [] c
  | .escape, some c =>
    if c == ' ' || c == '\t' || c == '\n' || c == '\r' then continuedStep false c else escapeStep c
  | .code left value, some c => codeStep left value c
  | .lineBreak, some c => if c == '\n' then .go ['\r', '\n'] .plain else .fail
  | .continued ended, some c => continuedStep ended c
  | .continuedBreak, some c => if c == '\n' then .go [] (.continued true) else .fail
  | .delimiters count, some c =>
    if c == delimiter then
      if count = 4 then .stop [delimiter, delimiter] true else .go [] (.delimiters (count + 1))
    else if 3 ≤ count then .stop (List.replicate (count - 3) delimiter) false
    else linesPlain delimiter (List.replicate count delimiter) c
  | .delimiters count, none =>
    if 3 ≤ count then .stop (List.replicate (count - 3) delimiter) true else .fail
  | _, none => .fail

/-- The text without a line break at its front. -/
def dropLineBreak : List Char → List Char
  | '\n' :: rest => rest
  | '\r' :: '\n' :: rest => rest
  | text => text

/-- The string at the front of a text that may only be written on one line, and what follows it. -/
def readLine? : List Char → Option (List Char × List Char)
  | '"' :: rest => readWith basicStep .plain rest
  | '\'' :: rest => readWith literalStep .plain rest
  | _ => none

/-- The string at the front of a text, and what follows it. -/
def read? : List Char → Option (List Char × List Char)
  | '"' :: '"' :: '"' :: rest => readWith (linesStep '"') .plain (dropLineBreak rest)
  | '\'' :: '\'' :: '\'' :: rest => readWith (linesStep '\'') .plain (dropLineBreak rest)
  | text => readLine? text

end Quoted

end Migration.Toml
