import PlotTables.Binary64
import PlotTables.Json.Value

set_option autoImplicit false

namespace PlotTables.Json.Number

attribute [local instance] corePower

def toWord? (n : Number) : Option Nat :=
  let value := Nat.ofDigitChars 10 n.whole 0
  if n.negative = false ∧ n.fraction = [] ∧ n.exponent = [] ∧ value < 2 ^ (64 : Nat) then some value
  else none

def takeDigits : Nat → List Char → Nat × List Char
  | significand, [] => (significand, [])
  | significand, digit :: rest =>
      let next := significand * 10 + (digit.toNat - 48)
      if next < 2 ^ (64 : Nat) then takeDigits next rest else (significand, digit :: rest)

def largestPower : Nat := 308

def powerOfTen (n : Nat) : Binary64 := Binary64.ofNat (10 ^ n)

-- Divides by `10 ^ power` in steps of the largest power while the value is not zero.
def scaleDown (x : Binary64) : Nat → Nat → Binary64
  | 0, power => x.div (powerOfTen power)
  | steps + 1, power =>
      if power ≤ largestPower then x.div (powerOfTen power)
      else if x.isZero then x
      else scaleDown (x.div (powerOfTen largestPower)) steps (power - largestPower)

def scale? (significand : Nat) (power : Int) : Option Binary64 :=
  -- Digits and power are rounded apart, so the result may miss the nearest double.
  let x := Binary64.ofNat significand
  match power with
  | .ofNat n =>
      if n ≤ largestPower then
        match x.mul (powerOfTen n) with
        | .finite negative m => some (.finite negative m)
        | _ => none
      else if x.isZero then some x
      else none
  | .negSucc n => some (scaleDown x ((n + 1) / largestPower) (n + 1))

def exponentValue (n : Number) : Int :=
  let value : Int := Nat.ofDigitChars 10 n.exponent 0
  if n.exponentNegative then -value else value

def toBinary64? (n : Number) : Option Binary64 :=
  -- Whole digits that do not fit count as tens; further fraction digits may still fit.
  let (whole, left) := takeDigits 0 n.whole
  let (significand, unused) := takeDigits whole n.fraction
  let taken : Int := n.fraction.length - unused.length
  (scale? significand (left.length - taken + n.exponentValue)).map fun x =>
    if n.negative then x.negate else x

end PlotTables.Json.Number
