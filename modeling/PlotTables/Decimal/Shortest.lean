import PlotTables.Binary64

set_option autoImplicit false

namespace PlotTables

attribute [local instance] corePower

structure Decimal where
  coefficient : Nat
  exponent : Int
deriving DecidableEq

inductive Tie where
  | even
  | up
deriving DecidableEq

def Tie.round (tie : Tie) (num den : Nat) : Nat :=
  match tie with
  | .even => roundHalfEven num den
  | .up => (2 * num + den) / (2 * den)

/-- The nearest multiple of the step, of the two around the value, that reads back. -/
def Tie.multiple? (tie : Tie) (readsBack : Nat → Bool) (value step : Nat) : Option Nat :=
  -- Were any multiple to read back, one of these two would.
  let below := value / step
  match readsBack (below * step), readsBack ((below + 1) * step) with
  | true, true => some (tie.round value step)
  | true, false => some below
  | false, true => some (below + 1)
  | false, false => none

/-- The point of the coarsest grid that has one; the finest grid has the value. -/
def Decimal.coarsest (points : Nat → Option Nat) (value : Nat) : Nat → Decimal
  | 0 => ⟨value, -1074⟩
  | grid + 1 =>
      match points (grid + 1) with
      | some coefficient => ⟨coefficient, (grid + 1 : Nat) - 1074⟩
      | none => coarsest points value grid

namespace Magnitude

-- In units of `10 ^ -1074` every double is a whole number.
def decimalUnit : Nat := 5 ^ (1074 : Nat)

def decimalScaled (m : Magnitude) : Nat := m.scaled * decimalUnit

def isReadFrom (m : Magnitude) (n : Nat) : Bool := ofRatio? n decimalUnit == some m

def onGrid? (m : Magnitude) (tie : Tie) (grid : Nat) : Option Nat :=
  tie.multiple? m.isReadFrom m.decimalScaled (10 ^ grid)

def widestGrid (m : Magnitude) : Nat :=
  -- Its step exceeds the value, by `2 ^ 93 < 10 ^ 28`.
  (m.decimalScaled.log2 + 1) * 28 / 93 + 1

def shortest (m : Magnitude) (tie : Tie) : Decimal :=
  .coarsest (m.onGrid? tie) m.decimalScaled m.widestGrid

end Magnitude

end PlotTables
