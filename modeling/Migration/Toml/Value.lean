/-!
# TOML values

A TOML document is a table of values. Beside its entries a table remembers how it came about, since
that decides whether a later line of the document may add to it:

* a table that a header names, `[a.b]`, is opened once and by no other header;
* a table that is only on the way to such a name, as `a` is there, may still be opened;
* a table that the dots of a key imply, `a.b = 1`, takes further keys with the same dots;
* a table in braces is complete.

Numbers are kept exactly. Of a date or a time it is only kept that it is one.

Some texts have the form of an integer but write no number, such as `0x` and `1_0f`. They are values
all the same, and only refused where the number is asked for.
-/

namespace Migration.Toml

/-- How a table came about. -/
inductive TableKind where
  /-- A header names it, or it is the document. -/
  | header
  /-- It is on the way to a table that a header names. -/
  | implied
  /-- The dots of a key imply it. -/
  | dotted
  /-- It is written in braces. -/
  | inline
deriving DecidableEq, Repr

/-- A floating-point number as it is written: an infinity or no number, or `digits` with the decimal
    point moved by `exponent` places. The sign is left out. -/
inductive Real where
  | special
  | decimal (digits : Nat) (exponent : Int)
deriving DecidableEq, Repr

/-- A value. An array that is built by headers in double brackets is `ofTables`. -/
inductive Value where
  | string (text : String)
  | integer (n : Int)
  /-- An integer by its form, whose digits write no number. -/
  | numberless
  | real (x : Real)
  | boolean (b : Bool)
  | moment
  | array (ofTables : Bool) (items : List Value)
  | table (kind : TableKind) (entries : List (String × Value))

/-- Whether a number can be read as a double without becoming infinite. -/
def Real.fits : Real → Bool
  | special => true
  | decimal digits exponent =>
    if digits = 0 then true
    else
      let places := (Nat.toDigits 10 digits).length + exponent
      if places < 300 then true
      else if places > 310 then false
      else
        -- The first value that rounds to infinity lies half a step above the largest double.
        let limit := Nat.pow 2 1024 - Nat.pow 2 970
        if 0 ≤ exponent then digits * Nat.pow 10 exponent.toNat < limit
        else digits < limit * Nat.pow 10 (-exponent).toNat

mutual

/-- Whether every number in a value is one that a reader of any type could take: an integer that has
    a number of at most 128 bits, a double that is not infinite by its size. -/
def Value.fits : Value → Bool
  | .integer n => if 0 ≤ n then n.natAbs < Nat.pow 2 128 else n.natAbs ≤ Nat.pow 2 127
  | .numberless => false
  | .real x => x.fits
  | .array _ items => Value.fitsAll items
  | .table _ entries => Value.fitsEntries entries
  | _ => true

/-- `Value.fits` for every item of an array. -/
def Value.fitsAll : List Value → Bool
  | [] => true
  | item :: items => item.fits && Value.fitsAll items

/-- `Value.fits` for every entry of a table. -/
def Value.fitsEntries : List (String × Value) → Bool
  | [] => true
  | (_, item) :: entries => item.fits && Value.fitsEntries entries

end

end Migration.Toml
