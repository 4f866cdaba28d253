import PlotTables.Binary64

set_option autoImplicit false

namespace PlotTables

attribute [local instance] corePower

structure Literal where
  negative : Bool
  whole : List Char
  fraction : List Char
  exponent : Int
deriving DecidableEq

namespace Literal

def digits (l : Literal) : Nat := Nat.ofDigitChars 10 (l.whole ++ l.fraction) 0

def shift (l : Literal) : Int := l.exponent - l.fraction.length

def readSign : List Char → Bool × List Char
  | '-' :: rest => (true, rest)
  | '+' :: rest => (false, rest)
  | text => (false, text)

def exponentValue (digits : List Char) : Nat :=
  -- Digits after it has reached `2 ^ 16` do not count.
  digits.foldl (fun value c => if value < 65536 then 10 * value + (c.toNat - 48) else value) 0

def readExponent? : List Char → Option Int
  | [] => some 0
  | mark :: rest =>
      let (negative, digits) := readSign rest
      if (mark = 'e' ∨ mark = 'E') ∧ digits ≠ [] ∧ digits.all Char.isDigit then
        some (if negative then -(exponentValue digits) else exponentValue digits)
      else none

def readFraction : List Char → List Char × List Char
  | '.' :: rest => (rest.takeWhile Char.isDigit, rest.dropWhile Char.isDigit)
  | text => ([], text)

/-- An optional sign, digits with an optional point, at least one digit, an optional exponent. -/
def read? (text : List Char) : Option Literal :=
  let (negative, unsigned) := readSign text
  let whole := unsigned.takeWhile Char.isDigit
  let (fraction, rest) := readFraction (unsigned.dropWhile Char.isDigit)
  if whole = [] ∧ fraction = [] then none
  else (readExponent? rest).map fun exponent => ⟨negative, whole, fraction, exponent⟩

end Literal

namespace Binary64

def ofDecimal (negative : Bool) (digits : Nat) (shift : Int) : Binary64 :=
  -- The exact value is one quotient, and only that is rounded.
  ofScaledRatio negative (digits * 10 ^ shift.toNat * Magnitude.unit) (10 ^ (-shift).toNat)

def ofLiteral (l : Literal) : Binary64 := ofDecimal l.negative l.digits l.shift

def read? (text : List Char) : Option Binary64 :=
  let (negative, rest) := Literal.readSign text
  let word := rest.map Char.toLower
  if word = ['i', 'n', 'f'] ∨ word = ['i', 'n', 'f', 'i', 'n', 'i', 't', 'y'] then
    some (.infinity negative)
  else if word = ['n', 'a', 'n'] then some .nan
  else (Literal.read? text).map ofLiteral

end Binary64

end PlotTables
