import Migration.Text.CodeSet
import Migration.Text.Pattern

/-!
# Docstrings

The docstring of a function is the string that comes first in its body. Between the colon of the
declaration and the opening quote there may be a comment on the declaration's line, then blanks and
line breaks, and one letter that marks the kind of string. The string is delimited by three quotes
of either kind and may go over several lines; of it, only the first line that is not blank is kept.
-/

namespace Migration.Docstring

open Text

/-- What follows the line that `text` starts in, if nothing is left of that line but spaces, tabs
    and a comment. -/
def nextLine? (text : List Char) : Option (List Char) :=
  match text.dropWhile isIndent with
  | '#' :: comment => after? ['\n'] (comment.dropWhile (· != '\n'))
  | '\r' :: '\n' :: rest => some rest
  | '\n' :: rest => some rest
  | _ => none

/-- The text without the letter that marks the kind of a string, if it starts with one. -/
def dropKind : List Char → List Char
  | c :: text => if c == 'r' || c == 'R' || c == 'u' || c == 'U' then text else c :: text
  | [] => []

/-- The text before the first place where `mark` stands. -/
def before? (mark : List Char) : List Char → Option (List Char)
  | [] => if mark.isEmpty then some [] else none
  | c :: text =>
    if (after? mark (c :: text)).isSome then some [] else (before? mark text).map (c :: ·)

/-- The delimiters of a docstring. -/
def delimiters : List (List Char) := ["\"\"\"".toList, "'''".toList]

/-- The text between a delimiter at the front of `text` and the next place where it stands. -/
def quoted? (text : List Char) : Option (List Char) :=
  delimiters.findSome? fun mark => (after? mark text).bind (before? mark)

/-- The docstring of a declaration, given the text that follows its colon. -/
def body? (text : List Char) : Option (List Char) :=
  (nextLine? text).bind fun rest => quoted? (dropKind (trimStart rest))

/-- The first line of a docstring, blanks at its ends left out. -/
def firstLine (body : List Char) : List Char := trim ((trim body).takeWhile (· != '\n'))

/-- The line that documents a declaration, given the text that follows its colon; empty if there is
    none. -/
def line (text : List Char) : List Char :=
  match body? text with
  | some body => firstLine body
  | none => []

end Migration.Docstring
