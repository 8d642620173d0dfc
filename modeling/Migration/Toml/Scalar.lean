import Migration.Toml.Quoted
import Migration.Toml.Value

/-!
# TOML values without quotes

Numbers, dates, times and the two truth values are written without quotes. They are told apart by
their form alone:

* an integer is decimal, with an optional sign and no needless zero in front, or has one of the
  marks `0x`, `0o` and `0b` and no sign;
* a floating-point number has a fraction, an exponent or both, or is `inf` or `nan`;
* a date is `2024-02-29`, a time `07:32`, `07:32:00` or `07:32:00.5`, and a moment joins the two by
  a `T` or a space and may end with an offset. A date has to be one of the calendar.

Digits may be set off by single underscores between them.

A value goes on to the end of its last word: words with only a gap between them are one value. That
is how a date comes to its time.

Where the form of an integer is clear, its digits are not looked at closely: a mark may be followed
by nothing, and behind an underscore only the characters next to one have to look like digits; the
others may be anything but a space. Such an integer has no number.
-/

namespace Migration.Toml.Scalar

/-- The digits of a run in which underscores stand only between digits; at least one. -/
def digits? (isDigit : Char → Bool) (text : List Char) : Option (List Char) :=
  let parts := text.splitOn '_'
  if parts.all fun part => !part.isEmpty && part.all isDigit then some parts.flatten else none

/-- The number that digits write in a base. -/
def number (base : Nat) (digits : List Char) : Nat :=
  digits.foldl (fun n c => n * base + (hexDigit? c).getD 0) 0

/-- The digits of a decimal number without a needless zero in front. -/
def decimal? (text : List Char) : Option (List Char) :=
  (digits? Char.isDigit text).filter fun digits => digits.length = 1 || digits.head? != some '0'

/-- A sign, if there is one, and what follows it. -/
def sign : List Char → Option Char × List Char
  | '-' :: rest => (some '-', rest)
  | '+' :: rest => (some '+', rest)
  | text => (none, text)

/-- The integer that digits write behind a sign. -/
def signed (sign : Option Char) (digits : List Char) : Int :=
  if sign = some '-' then -(number 10 digits : Int) else number 10 digits

/-- Whether a character looks like a digit of some base. -/
def isDigitLike (c : Char) : Bool := (hexDigit? c).isSome

/-- Whether the parts behind underscores look like digits where they meet an underscore. -/
def meetDigits : List (List Char) → Bool
  | [] => true
  | [part] => part.head?.any isDigitLike
  | part :: parts =>
    part.head?.any isDigitLike && part.getLast?.any isDigitLike && meetDigits parts

/-- Whether a character marks a fraction or an exponent. -/
def isRealMark (c : Char) : Bool := c == '.' || c == 'e' || c == 'E'

/-- Whether a text behind a sign has the form of a decimal integer set off by underscores. -/
def isSetOff (text : List Char) : Bool :=
  match text.splitOn '_' with
  | first :: part :: parts =>
    !first.isEmpty && first.all Char.isDigit && first.head? != some '0' &&
      meetDigits (part :: parts) && !text.any fun c => c == ' ' || isRealMark c
  | _ => false

/-- An integer behind the mark of its base. -/
def marked? (base : Nat) (isDigit : Char → Bool) (text : List Char) : Option Value :=
  if text.isEmpty then some .numberless
  else (digits? isDigit text).map fun digits => .integer (number base digits)

/-- A decimal integer. -/
def unmarked? (text : List Char) : Option Value :=
  let (sign, rest) := sign text
  match decimal? rest with
  | some digits => some (.integer (signed sign digits))
  | none => if isSetOff rest then some .numberless else none

/-- An integer. -/
def integer? (text : List Char) : Option Value :=
  match text with
  | '0' :: 'x' :: rest => marked? 16 isDigitLike rest
  | '0' :: 'o' :: rest => marked? 8 (fun c => '0' ≤ c ∧ c ≤ '7') rest
  | '0' :: 'b' :: rest => marked? 2 (fun c => c == '0' || c == '1') rest
  | _ => unmarked? text

/-- An exponent, if there is one, behind its `e`. -/
def exponent? : List Char → Option Int
  | [] => some 0
  | _ :: text =>
    let (sign, rest) := sign text
    (digits? Char.isDigit rest).map (signed sign)

/-- A floating-point number. -/
def real? (text : List Char) : Option Real :=
  let (_, rest) := sign text
  if rest = "inf".toList || rest = "nan".toList then some .special
  else
    let isExponent := fun c => c == 'e' || c == 'E'
    let mantissa := rest.takeWhile fun c => !isExponent c
    let exponent := rest.dropWhile fun c => !isExponent c
    match mantissa.splitOn '.' with
    | [whole] =>
      if exponent.isEmpty then none
      else do return .decimal (number 10 (← decimal? whole)) (← exponent? exponent)
    | [whole, fraction] => do
      let whole ← decimal? whole
      let fraction ← digits? Char.isDigit fraction
      return .decimal (number 10 (whole ++ fraction)) ((← exponent? exponent) - fraction.length)
    | _ => none

/-- The number of a run of exactly `count` digits at the front, and what follows. -/
def fixed? (count : Nat) (text : List Char) : Option (Nat × List Char) :=
  let digits := text.take count
  if digits.length = count && digits.all Char.isDigit then
    some (number 10 digits, text.drop count)
  else none

/-- What follows a given character at the front. -/
def expect? (c : Char) : List Char → Option (List Char)
  | d :: rest => if c = d then some rest else none
  | [] => none

/-- The number of days of a month. -/
def daysIn (year month : Nat) : Nat :=
  if month = 2 then if year % 4 = 0 && (year % 100 != 0 || year % 400 = 0) then 29 else 28
  else if month = 4 || month = 6 || month = 9 || month = 11 then 30
  else 31

/-- What follows a date of the calendar at the front. -/
def date? (text : List Char) : Option (List Char) := do
  let (year, rest) ← fixed? 4 text
  let (month, rest) ← fixed? 2 (← expect? '-' rest)
  let (day, rest) ← fixed? 2 (← expect? '-' rest)
  if 1 ≤ month && month ≤ 12 && 1 ≤ day && day ≤ daysIn year month then some rest else none

/-- What follows a fraction of a second at the front, if there is one. -/
def fraction? : List Char → Option (List Char)
  | '.' :: rest =>
    if (rest.takeWhile Char.isDigit).isEmpty then none else some (rest.dropWhile Char.isDigit)
  | text => some text

/-- What follows the seconds of a time at the front, if there are any. -/
def seconds? : List Char → Option (List Char)
  | ':' :: rest => do
    let (second, rest) ← fixed? 2 rest
    if second ≤ 60 then fraction? rest else none
  | text => some text

/-- What follows hours and minutes at the front. -/
def clock? (text : List Char) : Option (List Char) := do
  let (hour, rest) ← fixed? 2 text
  let (minute, rest) ← fixed? 2 (← expect? ':' rest)
  if hour ≤ 23 && minute ≤ 59 then some rest else none

/-- What follows a time at the front. -/
def time? (text : List Char) : Option (List Char) := (clock? text).bind seconds?

/-- Whether a text is an offset from universal time, or nothing. -/
def isOffset : List Char → Bool
  | [] => true
  | ['Z'] => true
  | ['z'] => true
  | '+' :: rest => clock? rest = some []
  | '-' :: rest => clock? rest = some []
  | _ => false

/-- Whether a text is a date, a time, or both. -/
def isMoment (text : List Char) : Bool :=
  match date? text with
  | some [] => true
  | some (c :: rest) =>
    (c == 'T' || c == 't' || c == ' ') &&
      match time? rest with
      | some rest => isOffset rest
      | none => false
  | none => time? text = some []

/-- Whether a character ends a value without quotes. -/
def isEnd (c : Char) : Bool := "=,[]\x7b\x7d#\r\n".toList.contains c

/-- The value that an unquoted text writes. -/
def value? (text : List Char) : Option Value :=
  if text = "true".toList then some (.boolean true)
  else if text = "false".toList then some (.boolean false)
  else if isMoment text then some .moment
  else
    match integer? text with
    | some value => some value
    | none => (real? text).map .real

/-- The unquoted text at the front, and what follows it, if `gap` stands before. A gap belongs to
    the text if a word follows it that does not start with a quote or an apostrophe. -/
def wordsFrom (gap : List Char) : List Char → List Char × List Char
  | [] => ([], gap)
  | c :: rest =>
    if isGap c then wordsFrom (gap ++ [c]) rest
    else if isEnd c || (!gap.isEmpty && (c == '"' || c == '\'')) then ([], gap ++ c :: rest)
    else
      let (words, rest) := wordsFrom [] rest
      (gap ++ c :: words, rest)

/-- The unquoted value at the front, and what follows it. -/
def read? (text : List Char) : Option (Value × List Char) :=
  let (words, rest) := wordsFrom [] text
  (value? words).map fun value => (value, rest)

end Migration.Toml.Scalar
