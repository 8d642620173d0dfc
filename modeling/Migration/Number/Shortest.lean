/-!
# Floating-point numbers in decimal

A number is written with as few digits as tell it apart from every other floating-point number, and
among those of that many digits the nearest to it is taken. Numbers from 10⁻⁴ up to 10¹⁶ are written
positionally, always with a digit behind the point; others have an exponent.

The digits are found exactly: a number is a natural number times a power of two, and the numbers
that are read back as it form an interval around it, with its ends half a step away.
-/

namespace Migration.Number

/-- A positive number: `significand` times two to the `exponent`. The step to the number below is
    half of that above if `narrow`. -/
structure Binary where
  significand : Nat
  exponent : Int
  narrow : Bool
deriving DecidableEq, Repr

/-- The parts of a positive floating-point number, given its bits without the sign. -/
def Binary.ofBits (bits : Nat) : Binary :=
  let fraction : Nat := bits % Nat.pow 2 52
  let field : Nat := bits / Nat.pow 2 52
  if field = 0 then ⟨fraction, -1074, false⟩
  else ⟨Nat.pow 2 52 + fraction, (field : Int) - 1075, fraction = 0 && 1 < field⟩

/-- A positive decimal number: `digits` times ten to the `exponent`. -/
structure Decimal where
  digits : Nat
  exponent : Int
deriving DecidableEq, Repr

/-- The decimal number `d * 10 ^ e` in quarters of the unit `2 ^ q`, as a fraction of natural
    numbers. -/
def scaled (d : Nat) (e q : Int) : Nat × Nat :=
  let top := 4 * d * Nat.pow 10 e.toNat * Nat.pow 2 (-q).toNat
  let bottom := Nat.pow 10 (-e).toNat * Nat.pow 2 q.toNat
  (top, bottom)

/-- Whether a decimal number is read back as the binary one. -/
def Binary.holds (b : Binary) (d : Decimal) : Bool :=
  let (top, bottom) := scaled d.digits d.exponent b.exponent
  let low := 4 * b.significand - (if b.narrow then 1 else 2)
  let high := 4 * b.significand + 2
  if b.significand % 2 = 0 then low * bottom ≤ top && top ≤ high * bottom
  else low * bottom < top && top < high * bottom

/-- The decimal number of the given exponent next below the binary one. -/
def Binary.floor (b : Binary) (e : Int) : Decimal :=
  ⟨b.significand * Nat.pow 2 b.exponent.toNat * Nat.pow 10 (-e).toNat /
    (Nat.pow 2 (-b.exponent).toNat * Nat.pow 10 e.toNat), e⟩

/-- Whether the decimal number below is at least as near as the one above. -/
def Binary.nearerBelow (b : Binary) (below : Decimal) : Bool :=
  -- The middle of the two is not below the number.
  let (top, bottom) := scaled (2 * below.digits + 1) below.exponent b.exponent
  8 * b.significand * bottom ≤ top

/-- The nearest decimal number of the given exponent that is read back as the binary one. -/
def Binary.atExponent? (b : Binary) (e : Int) : Option Decimal :=
  let below := b.floor e
  let above : Decimal := ⟨below.digits + 1, e⟩
  match b.holds below, b.holds above with
  | true, true => if b.nearerBelow below then some below else some above
  | true, false => some below
  | false, true => some above
  | false, false => none

/-- The decimal number of the largest exponent from `e` down that is read back as the binary one. -/
def Binary.shortestFrom (b : Binary) (e : Int) : (steps : Nat) → Decimal
  | 0 => b.floor e
  | steps + 1 =>
    match b.atExponent? e with
    | some d => d
    | none => b.shortestFrom (e - 1) steps

/-- The shortest decimal number that is read back as the binary one. -/
def Binary.shortest (b : Binary) : Decimal :=
  -- Ten to the 309 is above every number, and the least one has 324 places behind the point.
  b.shortestFrom 309 700

/-- The digits of a decimal number without zeros at the end, and the place of its point behind the
    first of them. -/
def Decimal.parts (d : Decimal) : List Char × Int :=
  let digits := Nat.toDigits 10 d.digits
  let kept := (digits.reverse.dropWhile (· == '0')).reverse
  (if kept.isEmpty then ['0'] else kept, digits.length + d.exponent)

/-- The decimal number written positionally. -/
def Decimal.positional (d : Decimal) : List Char :=
  let (digits, point) := d.parts
  if point ≤ 0 then "0.".toList ++ List.replicate (-point).toNat '0' ++ digits
  else
    let whole := digits.take point.toNat
    let fraction := digits.drop point.toNat
    whole ++ List.replicate (point.toNat - whole.length) '0' ++ ['.'] ++
      (if fraction.isEmpty then ['0'] else fraction)

/-- The decimal number written with an exponent. -/
def Decimal.scientific (d : Decimal) : List Char :=
  let (digits, point) := d.parts
  digits.take 1 ++ (if digits.length = 1 then [] else '.' :: digits.drop 1) ++
    ['e'] ++ (toString (point - 1)).toList

/-- A floating-point number in decimal. -/
def text (x : Float) : String :=
  let bits := x.toBits.toNat
  let minus := if Nat.pow 2 63 ≤ bits then "-" else ""
  let size := bits % Nat.pow 2 63
  if x.isNaN then "NaN"
  else if x.isInf then minus ++ "inf"
  else if size = 0 then minus ++ "0.0"
  else
    let d := (Binary.ofBits size).shortest
    let (_, point) := d.parts
    minus ++ String.ofList (if -4 < point && point ≤ 16 then d.positional else d.scientific)

end Migration.Number
