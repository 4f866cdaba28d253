set_option autoImplicit false

namespace PlotTables

-- The power of the core library, so that definitions mean the same beside any other library.
abbrev corePower : Pow Nat Nat := instPowNat

def roundHalfEven (num den : Nat) : Nat :=
  let quotient := num / den
  let remainder := num % den
  if 2 * remainder < den then quotient
  else if den < 2 * remainder then quotient + 1
  else quotient + quotient % 2

theorem div_le_roundHalfEven (num den : Nat) : num / den ≤ roundHalfEven num den := by
  simp only [roundHalfEven]
  split
  next => omega
  next => split <;> omega

theorem roundHalfEven_le_succ (num den : Nat) : roundHalfEven num den ≤ num / den + 1 := by
  simp only [roundHalfEven]
  split
  next => omega
  next => split <;> omega

theorem roundHalfEven_mul_left (num den : Nat) (positive : 0 < den) :
    roundHalfEven (num * den) den = num := by
  simp [roundHalfEven, Nat.mul_div_cancel _ positive, positive]

attribute [local instance] corePower

/-- A finite double without its sign, a whole number of units of `2 ^ -1074`. -/
structure Magnitude where
  significand : Nat
  exponent : Nat
  significand_lt : significand < 2 ^ (53 : Nat)
  exponent_le : exponent ≤ 2045
  canonical : exponent = 0 ∨ 2 ^ (52 : Nat) ≤ significand
deriving DecidableEq

/-- A payload of a NaN cannot be observed, so there is one NaN. -/
inductive Binary64 where
  | nan
  | infinity (negative : Bool)
  | finite (negative : Bool) (magnitude : Magnitude)
deriving DecidableEq

namespace Magnitude

-- How many units of `2 ^ -1074` make one.
def unit : Nat := 2 ^ (1074 : Nat)

def scaled (m : Magnitude) : Nat := m.significand * 2 ^ m.exponent

def zero : Magnitude := ⟨0, 0, by decide, by decide, .inl rfl⟩

-- At this exponent the quotient has 53 significant bits, or fewer at zero.
def exponentOf (num den : Nat) : Nat := (num / den).log2 - 52

theorem div_lt_of_exponentOf (num den : Nat) :
    num / (den * 2 ^ exponentOf num den) < 2 ^ (53 : Nat) := by
  rw [← Nat.div_div_eq_div_mul]
  apply Nat.div_lt_of_lt_mul
  rw [← Nat.pow_add]
  have below := Nat.lt_log2_self (n := num / den)
  have wide : 2 ^ ((num / den).log2 + 1) ≤ 2 ^ (exponentOf num den + 53) := by
    apply Nat.pow_le_pow_right (by decide)
    simp only [exponentOf]
    omega
  omega

theorem le_div_of_exponentOf (num den : Nat) (positive : exponentOf num den ≠ 0) :
    2 ^ (52 : Nat) ≤ num / (den * 2 ^ exponentOf num den) := by
  rw [← Nat.div_div_eq_div_mul]
  have nonzero : num / den ≠ 0 := by
    intro none
    simp [exponentOf, none] at positive
  rw [Nat.le_div_iff_mul_le (Nat.two_pow_pos _), ← Nat.pow_add]
  have above := Nat.log2_self_le nonzero
  have exact : 52 + exponentOf num den = (num / den).log2 := by
    simp only [exponentOf] at positive ⊢
    omega
  rw [exact]
  exact above

theorem canonical_of_exponentOf (num den : Nat) :
    exponentOf num den = 0 ∨
      2 ^ (52 : Nat) ≤ roundHalfEven num (den * 2 ^ exponentOf num den) := by
  by_cases low : exponentOf num den = 0
  · exact .inl low
  · exact .inr (Nat.le_trans (le_div_of_exponentOf num den low) (div_le_roundHalfEven _ _))

/--
The magnitude nearest to `num / den` units, a tie going to the even significand; none when that
is out of range.
-/
def ofRatio? (num den : Nat) : Option Magnitude :=
  let exponent := exponentOf num den
  let significand := roundHalfEven num (den * 2 ^ exponent)
  if below : significand < 2 ^ (53 : Nat) then
    if range : exponent ≤ 2045 then
      some ⟨significand, exponent, below, range, canonical_of_exponentOf num den⟩
    else none
  else if range : exponent + 1 ≤ 2045 then
    -- Rounding reached the next power of two.
    some ⟨2 ^ (52 : Nat), exponent + 1, by decide, range, .inr (Nat.le_refl _)⟩
  else none

end Magnitude

namespace Binary64

def ofScaledRatio (negative : Bool) (num den : Nat) : Binary64 :=
  match Magnitude.ofRatio? num den with
  | some magnitude => .finite negative magnitude
  | none => .infinity negative

def ofRatio (num den : Nat) : Binary64 := ofScaledRatio false (num * Magnitude.unit) den

def ofNat (n : Nat) : Binary64 := ofRatio n 1

def ofBits (bits : UInt64) : Binary64 :=
  let negative := decide (2 ^ (63 : Nat) ≤ bits.toNat)
  let exponent := bits.toNat / 2 ^ (52 : Nat) % 2 ^ (11 : Nat)
  let fraction := bits.toNat % 2 ^ (52 : Nat)
  if special : exponent = 2 ^ (11 : Nat) - 1 then
    if fraction = 0 then .infinity negative else .nan
  else if exponent = 0 then
    .finite negative ⟨fraction, 0, by omega, by decide, .inl rfl⟩
  else
    .finite negative ⟨2 ^ (52 : Nat) + fraction, exponent - 1, by omega, by omega, .inr (by omega)⟩

def negate : Binary64 → Binary64
  | .nan => .nan
  | .infinity negative => .infinity !negative
  | .finite negative magnitude => .finite (!negative) magnitude

def mul : Binary64 → Binary64 → Binary64
  | .finite s a, .finite t b => ofScaledRatio (s != t) (a.scaled * b.scaled) Magnitude.unit
  | .finite s a, .infinity t => if a.significand = 0 then .nan else .infinity (s != t)
  | .infinity s, .finite t b => if b.significand = 0 then .nan else .infinity (s != t)
  | .infinity s, .infinity t => .infinity (s != t)
  | .nan, _ | _, .nan => .nan

def div : Binary64 → Binary64 → Binary64
  | .finite s a, .finite t b =>
      if b.significand = 0 then
        if a.significand = 0 then .nan else .infinity (s != t)
      else ofScaledRatio (s != t) (a.scaled * Magnitude.unit) b.scaled
  | .finite s _, .infinity t => .finite (s != t) .zero
  | .infinity s, .finite t _ => .infinity (s != t)
  | .infinity _, .infinity _ | .nan, _ | _, .nan => .nan

def wordMax : Nat := 2 ^ (64 : Nat) - 1

def truncate : Binary64 → Nat
  | .finite false magnitude => min (magnitude.scaled / Magnitude.unit) wordMax
  | .infinity false => wordMax
  | .nan | .finite true _ | .infinity true => 0

def isZero : Binary64 → Bool
  | .finite _ magnitude => magnitude.significand == 0
  | _ => false

end Binary64

end PlotTables
