import Mathlib.Algebra.Group.Nat.Defs
import Mathlib.Logic.ExistsUnique
import PlotTables.Binary64

set_option autoImplicit false

namespace PlotTables

theorem Magnitude.eq_of_fields (m n : Magnitude) (significand : m.significand = n.significand)
    (exponent : m.exponent = n.exponent) : m = n := by
  cases m
  cases n
  cases significand
  cases exponent
  rfl

namespace Binary64

def signWord (negative : Bool) : Nat := if negative then 2 ^ 63 else 0

-- The pattern as a word, for a NaN one of those that it may have.
def word : Binary64 → Nat
  | .nan => 2047 * 2 ^ 52 + 1
  | .infinity negative => signWord negative + 2047 * 2 ^ 52
  -- The leading bit of a normal significand adds the one by which its exponent is biased.
  | .finite negative m => signWord negative + m.exponent * 2 ^ 52 + m.significand

theorem signWord_le (negative : Bool) : signWord negative ≤ 2 ^ 63 := by
  cases negative <;> decide

theorem word_lt (x : Binary64) : x.word < 2 ^ 64 := by
  cases x with
  | nan => decide
  | infinity negative =>
    have sign := signWord_le negative
    simp only [word]
    omega
  | finite negative m =>
    have sign := signWord_le negative
    have significand := m.significand_lt
    have exponent := m.exponent_le
    simp only [word]
    omega

theorem signWord_top (bits : Nat) (range : bits < 2 ^ 64) :
    signWord (decide (2 ^ 63 ≤ bits)) + bits % 2 ^ 63 = bits := by
  by_cases high : 2 ^ 63 ≤ bits
  next =>
    simp only [signWord, high, decide_true, if_true]
    omega
  next =>
    simp only [signWord, high, decide_false, Bool.false_eq_true, if_false]
    omega

theorem signWord_add (negative : Bool) (rest : Nat) (range : rest < 2 ^ 63) :
    decide (2 ^ 63 ≤ signWord negative + rest) = negative ∧
      (signWord negative + rest) % 2 ^ 63 = rest := by
  cases negative with
  | true =>
    simp only [signWord, if_true, decide_eq_true_eq]
    omega
  | false =>
    simp only [signWord, Bool.false_eq_true, if_false, decide_eq_false_iff_not]
    omega

theorem word_ofBits (bits : UInt64) (number : ofBits bits ≠ .nan) :
    (ofBits bits).word = bits.toNat := by
  have sign := signWord_top bits.toNat bits.toNat_lt
  simp only [ofBits] at number ⊢
  split
  next special =>
    rw [dif_pos special] at number
    split
    next whole =>
      simp only [word]
      omega
    next payload =>
      rw [if_neg payload] at number
      exact absurd rfl number
  next =>
    split
    next =>
      simp only [word]
      omega
    next =>
      simp only [word]
      omega

theorem ofBits_word (x : Binary64) (number : x ≠ .nan) : ofBits (UInt64.ofNat x.word) = x := by
  have exact : (UInt64.ofNat x.word).toNat = x.word := UInt64.toNat_ofNat_of_lt' x.word_lt
  cases x with
  | nan => exact absurd rfl number
  | infinity negative => cases negative <;> rfl
  | finite negative m =>
    have significand := m.significand_lt
    have exponent := m.exponent_le
    have canonical := m.canonical
    have sum : (finite negative m).word =
        signWord negative + (m.exponent * 2 ^ 52 + m.significand) := Nat.add_assoc _ _ _
    obtain ⟨sign, rest⟩ :=
      signWord_add negative (m.exponent * 2 ^ 52 + m.significand) (by omega)
    rw [← sum] at sign rest
    have field : (finite negative m).word / 2 ^ 52 % 2 ^ 11 =
        m.exponent + m.significand / 2 ^ 52 := by omega
    have fraction : (finite negative m).word % 2 ^ 52 = m.significand % 2 ^ 52 := by omega
    simp only [ofBits, exact, sign, field, fraction]
    rw [dif_neg (by omega)]
    by_cases normal : 2 ^ 52 ≤ m.significand
    next =>
      rw [if_neg (by omega)]
      congr 1
      apply Magnitude.eq_of_fields
      · change 2 ^ 52 + m.significand % 2 ^ 52 = m.significand
        omega
      · change m.exponent + m.significand / 2 ^ 52 - 1 = m.exponent
        omega
    next =>
      rw [if_pos (by omega)]
      congr 1
      apply Magnitude.eq_of_fields
      · exact Nat.mod_eq_of_lt (Nat.lt_of_not_le normal)
      · exact (canonical.resolve_right normal).symm

theorem ofBits_inj (bits other : UInt64) (number : ofBits bits ≠ .nan) :
    ofBits other = ofBits bits ↔ other = bits := by
  constructor
  next =>
    intro same
    rw [← UInt64.toNat_inj, ← word_ofBits bits number, ← same, word_ofBits other (same ▸ number)]
  next =>
    intro same
    rw [same]

theorem existsUnique_ofBits (x : Binary64) (number : x ≠ .nan) : ∃! bits, ofBits bits = x := by
  have bits := ofBits_word x number
  rw [← bits] at number
  refine ⟨UInt64.ofNat x.word, bits, ?_⟩
  intro other same
  rw [← bits] at same
  exact (ofBits_inj _ other number).mp same

end Binary64

end PlotTables
