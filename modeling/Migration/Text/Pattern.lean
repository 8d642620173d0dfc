import Migration.Text.Lines

/-!
# Patterns and their matches in a text

A *pattern* reads a value at the front of a text, and knows the text that a value was read from. A
scan finds its matches from left to right: it takes the first place at which the pattern can be
read, and goes on behind the text that was read there, so that matches never overlap. Some patterns
are read at the start of a line only, others anywhere.
-/

namespace Migration.Text

/-- What follows `literal`, if the text starts with it. -/
def after? : (literal text : List Char) → Option (List Char)
  | [], text => some text
  | _ :: _, [] => none
  | l :: literal, c :: text => if l = c then after? literal text else none

/-- The longest run of characters of one kind at the front of a text, and what follows it. -/
@[inline] def run (kind : Char → Bool) (text : List Char) : List Char × List Char :=
  (text.takeWhile kind, text.dropWhile kind)

/-- How a value is read at the front of a text, and the text that it was read from. -/
structure Pattern (α : Type) where
  read? : List Char → Option α
  written : α → List Char

/-- A value read in a text, with its byte offset and the text that follows it. -/
structure Found (α : Type) where
  offset : Nat
  value : α
  rest : List Char

namespace Pattern

variable {α : Type}

/-- The matches in a text that starts at `offset`. The first `skip` characters belong to the match
    before; a match may start at the front only if `here` holds, and behind a character only if
    `behind` admits that character. -/
def scanFrom (p : Pattern α) (behind : Char → Bool) :
    (skip offset : Nat) → (here : Bool) → List Char → List (Found α)
  | _, _, _, [] => []
  | skip + 1, offset, _, c :: text =>
    p.scanFrom behind skip (offset + c.utf8Size) (behind c) text
  | 0, offset, here, c :: text =>
    match if here then p.read? (c :: text) else none with
    | some value =>
      let length := (p.written value).length
      ⟨offset, value, (c :: text).drop length⟩ ::
        p.scanFrom behind (length - 1) (offset + c.utf8Size) (behind c) text
    | none => p.scanFrom behind 0 (offset + c.utf8Size) (behind c) text

/-- The matches of a pattern that is read at the start of a line. -/
def scanLines (p : Pattern α) (text : List Char) : List (Found α) :=
  p.scanFrom (· == '\n') 0 0 true text

/-- The matches of a pattern that is read anywhere. -/
def scan (p : Pattern α) (text : List Char) : List (Found α) :=
  p.scanFrom (fun _ => true) 0 0 true text

end Pattern

end Migration.Text
