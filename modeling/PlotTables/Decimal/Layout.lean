import PlotTables.Decimal.Shortest

set_option autoImplicit false

namespace PlotTables

attribute [local instance] corePower

def pointed (coefficient places : Nat) : List Char :=
  let digits := Nat.toDigits 10 coefficient
  let padded := List.replicate (places + 1 - digits.length) '0' ++ digits
  let cut := padded.length - places
  padded.take cut ++ '.' :: padded.drop cut

namespace Decimal

def digits (d : Decimal) : List Char := Nat.toDigits 10 d.coefficient

def leading (d : Decimal) : Int := d.exponent + d.digits.length - 1

def positional (d : Decimal) : List Char :=
  let places := max 1 (-d.exponent).toNat
  pointed (d.coefficient * 10 ^ (d.exponent + places).toNat) places

def scientific (d : Decimal) (plus : List Char) : List Char :=
  let mantissa :=
    match d.digits with
    | first :: second :: rest => first :: '.' :: second :: rest
    | short => short
  let sign := if d.leading < 0 then ['-'] else plus
  mantissa ++ 'e' :: sign ++ Nat.toDigits 10 d.leading.natAbs

end Decimal

structure Layout where
  tie : Tie
  -- The range of leading powers of ten written in positional form.
  least : Int
  greatest : Int
  -- What stands before an exponent that is not negative.
  plus : List Char
  nan : List Char
  infinity : List Char
  negativeInfinity : List Char

namespace Layout

def magnitudeText (layout : Layout) (m : Magnitude) : List Char :=
  if m.significand = 0 then ['0', '.', '0']
  else
    let decimal := m.shortest layout.tie
    if layout.least ≤ decimal.leading ∧ decimal.leading ≤ layout.greatest then decimal.positional
    else decimal.scientific layout.plus

def chars (layout : Layout) : Binary64 → List Char
  | .nan => layout.nan
  | .infinity false => layout.infinity
  | .infinity true => layout.negativeInfinity
  | .finite false m => layout.magnitudeText m
  | .finite true m => '-' :: layout.magnitudeText m

def text (layout : Layout) (x : Binary64) : String := String.ofList (layout.chars x)

def identifier : Layout where
  tie := .up
  least := -4
  greatest := 15
  plus := []
  nan := "NaN".toList
  infinity := "inf".toList
  negativeInfinity := "-inf".toList

end Layout

def fixedPlaces (places : Nat) : Binary64 → String
  | .nan => "NaN"
  | .infinity negative => if negative then "-inf" else "inf"
  | .finite negative m =>
      let digits := pointed (roundHalfEven (m.scaled * 10 ^ places) Magnitude.unit) places
      String.ofList (if negative then '-' :: digits else digits)

end PlotTables
