import PlotTables.Decimal.Literal
import PlotTables.Failure
import PlotTables.Text.Basic

set_option autoImplicit false

namespace PlotTables.Count

attribute [local instance] corePower

def readWord? (text : List Char) : Option UInt64 :=
  let digits :=
    match text with
    | '+' :: rest => rest
    | _ => text
  let value := Nat.ofDigitChars 10 digits 0
  if digits ≠ [] ∧ digits.all Char.isDigit ∧ value < 2 ^ (64 : Nat) then
    some (UInt64.ofNat value)
  else none

def exactLimit : Nat :=
  -- Doubles from here on need not be the integer that was written.
  2 ^ (53 : Nat)

def ofBinary64? : Binary64 → Option UInt64
  | .finite negative m =>
      let whole := m.scaled / Magnitude.unit
      if m.scaled % Magnitude.unit = 0 ∧ (negative = false ∨ whole = 0) ∧ whole < exactLimit then
        some (UInt64.ofNat whole)
      else none
  | .nan | .infinity _ => none

def read? (text : List Char) : Option UInt64 :=
  let trimmed := trimBlanks text
  match readWord? trimmed with
  | some count => some count
  -- A count may have passed through a float-typed tool, as `10.0` or `1e3`.
  | none => (Binary64.read? trimmed).bind ofBinary64?

def parse (raw : String) (row : Nat) (column : String) : Except Failure UInt64 :=
  -- The row and the column are for the message only.
  match read? raw.toList with
  | some count => .ok count
  | none => .error (.invalidCount raw row column)

def parseWord (raw : String) (row : Nat) (column : String) : Except Failure UInt64 :=
  match readWord? (trimBlanks raw.toList) with
  | some count => .ok count
  | none => .error (.invalidCount raw row column)

def text (count : UInt64) : String := count.toNat.repr

end PlotTables.Count
