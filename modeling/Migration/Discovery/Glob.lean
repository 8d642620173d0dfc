/-!
# Patterns of file paths

A pattern is matched against a whole path, written with slashes:

* `?` stands for any character and `*` for any run of characters, slashes included;
* `**` stands for any directories. It has to be a whole part of the pattern, between slashes;
* `[abc]` stands for one of the characters listed and `[!abc]` for one that is not. A range is
  written `a-z`, and a closing bracket that comes first is listed;
* every other character stands for itself.

No character is an escape. A text that breaks these rules is no pattern; the error says where.
-/

namespace Migration

/-- A piece of a pattern. -/
inductive GlobToken where
  /-- The character itself. -/
  | char (c : Char)
  /-- Any character. -/
  | anyChar
  /-- Any run of characters. -/
  | anyRun
  /-- Any run of directories. -/
  | anyDirectories
  /-- A character in one of the ranges, or in none if `negated`. -/
  | oneOf (negated : Bool) (ranges : List (Char × Char))
deriving DecidableEq, Repr

/-- Why a text is no pattern. -/
inductive GlobFault where
  | tooManyStars
  | starsInPart
  | openRange
deriving DecidableEq, Repr

/-- Where a text stops being a pattern, and why. -/
structure GlobError where
  position : Nat
  fault : GlobFault
deriving DecidableEq, Repr

/-- The text of an error. -/
def GlobError.message (error : GlobError) : String :=
  "Pattern syntax error near position " ++ toString error.position ++ ": " ++
    match error.fault with
    | .tooManyStars => "wildcards are either regular `*` or recursive `**`"
    | .starsInPart => "recursive wildcards must form a single path component"
    | .openRange => "invalid range pattern"

/-- A pattern of file paths. -/
structure Glob where
  tokens : List GlobToken
deriving DecidableEq, Repr

namespace Glob

/-- The ranges that the characters between brackets list. -/
def ranges : List Char → List (Char × Char)
  | first :: '-' :: last :: rest => (first, last) :: ranges rest
  | c :: rest => (c, c) :: ranges rest
  | [] => []

/-- The characters listed between brackets, given the text behind the opening one: at least one
    character, then everything up to the closing one. -/
def listed? : List Char → Option (List Char)
  | first :: rest =>
    if rest.contains ']' then some (first :: rest.takeWhile (· != ']')) else none
  | [] => none

/-- A list in brackets and the number of characters behind the opening one that it takes. -/
def range? : List Char → Option (GlobToken × Nat)
  | '!' :: rest => (listed? rest).map fun cs => (.oneOf true (ranges cs), cs.length + 2)
  | rest => (listed? rest).map fun cs => (.oneOf false (ranges cs), cs.length + 1)

/-- The tokens with one more, the last one first. Several runs of directories behind each other are
    one, unless they come first. -/
def push (token : GlobToken) (made : List GlobToken) : List GlobToken :=
  match token, made with
  | .anyDirectories, .anyDirectories :: _ :: _ => made
  | _, _ => token :: made

/-- The tokens of a text from `position` on, given those `made` before, the last one first. The
    first `skip` characters are part of the token before; `before` is the character before them. -/
def tokensFrom : (skip position : Nat) → (before : Option Char) → (made : List GlobToken) →
    List Char → Except GlobError (List GlobToken)
  | _, _, _, made, [] => .ok made.reverse
  | skip + 1, position, _, made, c :: text => tokensFrom skip (position + 1) (some c) made text
  | 0, position, before, made, c :: text =>
    if c = '?' then tokensFrom 0 (position + 1) (some c) (push .anyChar made) text
    else if c = '*' then
      match text.takeWhile (· == '*') with
      | [] => tokensFrom 0 (position + 1) (some c) (push .anyRun made) text
      | [_] =>
        if before.any (· != '/') then .error ⟨position - 1, .starsInPart⟩
        else
          match text.drop 1 with
          | [] => tokensFrom 1 (position + 1) (some c) (push .anyDirectories made) text
          | '/' :: _ => tokensFrom 2 (position + 1) (some c) (push .anyDirectories made) text
          | _ => .error ⟨position + 2, .starsInPart⟩
      | _ => .error ⟨position + 2, .tooManyStars⟩
    else if c = '[' then
      match range? text with
      | some (token, taken) => tokensFrom taken (position + 1) (some c) (push token made) text
      | none => .error ⟨position, .openRange⟩
    else tokensFrom 0 (position + 1) (some c) (push (.char c) made) text

/-- The pattern that a text writes. -/
def parse (text : String) : Except GlobError Glob :=
  (tokensFrom 0 0 none [] text.toList).map Glob.mk

/-- Whether a token that stands for one character admits it. -/
def admits : GlobToken → Char → Bool
  | .char d, c => c == d
  | .anyChar, _ => true
  | .oneOf negated ranges, c => (ranges.any fun r => r.1 ≤ c && c ≤ r.2) != negated
  | _, _ => false

/-- How tokens fit a text. -/
inductive Fit where
  /-- They match all of it. -/
  | whole
  /-- They do not match it. -/
  | differs
  /-- The text has ended while they ask for more, so they match no shorter text either. -/
  | ended
deriving DecidableEq, Repr

/-- The first rest of the text that settles how tokens fit. -/
def fitRest (fit : List Char → Fit) : List Char → Fit
  | [] => fit []
  | c :: text =>
    match fit (c :: text) with
    | .differs => fitRest fit text
    | settled => settled

/-- The first rest of the text behind a slash, or the empty one, that settles how tokens fit. -/
def fitInner (fit : List Char → Fit) : List Char → Fit
  | [] => fit []
  | c :: text =>
    match if c = '/' then fit text else .differs with
    | .differs => fitInner fit text
    | settled => settled

/-- How tokens fit a text. -/
def fitTokens : List GlobToken → List Char → Fit
  | [], text => if text.isEmpty then .whole else .differs
  | .anyRun :: tokens, text => fitRest (fitTokens tokens) text
  | .anyDirectories :: tokens, text =>
    match fitTokens tokens text with
    | .differs => fitInner (fitTokens tokens) text
    | settled => settled
  | token :: tokens, c :: text => if admits token c then fitTokens tokens text else .differs
  | _ :: _, [] => .ended

/-- Whether a pattern matches a path written with slashes. -/
def accepts (glob : Glob) (path : String) : Bool := fitTokens glob.tokens path.toList == .whole

end Glob

end Migration
