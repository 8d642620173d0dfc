/-!
# Emphasis

Headings of a report are set in bold or in a colour if the report goes to a reader who wants that. A
piece of text is emphasised by the control sequence of its style before it and a reset after it. A
reset that the text itself holds would end the style early, so the style is set again behind it.
-/

namespace Migration

/-- How a heading is set off. -/
inductive Style where
  | bold
  | cyan
  | yellow
deriving DecidableEq, Repr

namespace Style

/-- The control sequence that switches a style on. -/
def sequence : Style → List Char
  | bold => "\x1b[1m".toList
  | cyan => "\x1b[36m".toList
  | yellow => "\x1b[33m".toList

/-- The control sequence that switches every style off. -/
def reset : List Char := "\x1b[0m".toList

/-- The text with `inserted` behind every place where the reset sequence stands, of which the first
    `skip` characters belong to the place before. -/
def afterResets (inserted : List Char) : (skip : Nat) → List Char → List Char
  | _, [] => []
  | skip + 1, c :: text =>
    if skip = 0 then c :: inserted ++ afterResets inserted 0 text
    else c :: afterResets inserted skip text
  | 0, c :: text =>
    if reset.isPrefixOf (c :: text) then c :: afterResets inserted (reset.length - 1) text
    else c :: afterResets inserted 0 text

/-- A piece of text in a style, or as it is if `coloured` does not hold. -/
def apply (style : Style) (coloured : Bool) (text : String) : String :=
  if coloured then
    String.ofList (style.sequence ++ afterResets style.sequence 0 text.toList ++ reset)
  else text

end Style

end Migration
