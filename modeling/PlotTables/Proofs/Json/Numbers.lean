import Mathlib.Algebra.Group.Nat.Defs
import PlotTables.Json.Number

set_option autoImplicit false

namespace PlotTables.Json

section Digits

variable (digits rest : List Char)

def EndsDigits : Prop := ∀ c after, rest = c :: after → c.isDigit = false

theorem span_digits (all : ∀ c ∈ digits, c.isDigit = true) (ends : EndsDigits rest) :
    (digits ++ rest).takeWhile Char.isDigit = digits ∧
      (digits ++ rest).dropWhile Char.isDigit = rest := by
  rw [List.takeWhile_append_of_pos all, List.dropWhile_append_of_pos all]
  cases rest with
  | nil => simp
  | cons c after => simp [ends c after rfl]

theorem le_ofDigitChars (start : Nat) : start ≤ Nat.ofDigitChars 10 digits start := by
  induction digits generalizing start with
  | nil => exact Nat.le_refl _
  | cons c others ih =>
    rw [Nat.ofDigitChars_cons]
    have more := ih (10 * start + (c.toNat - '0'.toNat))
    omega

end Digits

namespace Number

theorem takeDigits_all (digits : List Char) (start : Nat)
    (fits : Nat.ofDigitChars 10 digits start < 2 ^ 64) :
    takeDigits start digits = (Nat.ofDigitChars 10 digits start, []) := by
  induction digits generalizing start with
  | nil => rfl
  | cons c others ih =>
    have same : start * 10 + (c.toNat - 48) = 10 * start + (c.toNat - '0'.toNat) := by
      rw [Nat.mul_comm]
      rfl
    rw [Nat.ofDigitChars_cons] at fits ⊢
    have first := Nat.lt_of_le_of_lt (le_ofDigitChars others _) fits
    simp only [takeDigits, same]
    rw [if_pos first, ih _ fits]

def coefficient (n : Number) : Nat := Nat.ofDigitChars 10 (n.whole ++ n.fraction) 0

def power (n : Number) : Int := n.exponentValue - n.fraction.length

def signed (negative : Bool) (x : Binary64) : Binary64 := if negative then x.negate else x

theorem toBinary64?_of_fits (n : Number) (fits : n.coefficient < 2 ^ 64) :
    n.toBinary64? = (scale? n.coefficient n.power).map (signed n.negative) := by
  rw [coefficient, Nat.ofDigitChars_append] at fits
  have whole := Nat.lt_of_le_of_lt (le_ofDigitChars n.fraction _) fits
  have shift : (([] : List Char).length : Int) - (n.fraction.length - ([] : List Char).length) +
      n.exponentValue = n.power := by
    simp only [power, List.length_nil]
    omega
  simp only [toBinary64?, takeDigits_all _ _ whole, takeDigits_all _ _ fits, shift, coefficient,
    Nat.ofDigitChars_append]
  rfl

def fractionText : List Char → List Char
  | [] => []
  | digits => '.' :: digits

theorem fractionText_some (digits : List Char) (some' : 0 < digits.length) :
    fractionText digits = '.' :: digits := by
  cases digits with
  | nil => cases some'
  | cons first others => rfl

def exponentText (negative : Bool) : List Char → List Char
  | [] => []
  | digits => 'e' :: (if negative then '-' else '+') :: digits

def text (n : Number) : List Char :=
  (if n.negative then ['-'] else []) ++
    (n.whole ++ (fractionText n.fraction ++ exponentText n.exponentNegative n.exponent))

structure WellFormed (n : Number) : Prop where
  whole : ∀ c ∈ n.whole, c.isDigit = true
  leading : n.whole = ['0'] ∨ ∃ first rest, n.whole = first :: rest ∧ first ≠ '0'
  fraction : ∀ c ∈ n.fraction, c.isDigit = true
  exponent : ∀ c ∈ n.exponent, c.isDigit = true
  unsigned : n.exponent = [] → n.exponentNegative = false

end Number

def EndsNumber (rest : List Char) : Prop :=
  ∀ c after, rest = c :: after → c.isDigit = false ∧ c ≠ '.' ∧ c ≠ 'e' ∧ c ≠ 'E'

theorem EndsNumber.digits (rest : List Char) (ends : EndsNumber rest) : EndsDigits rest := by
  intro c after shape
  exact (ends c after shape).1

theorem readWhole?_digits (digits rest : List Char) (all : ∀ c ∈ digits, c.isDigit = true)
    (leading : digits = ['0'] ∨ ∃ first others, digits = first :: others ∧ first ≠ '0')
    (ends : EndsDigits rest) : readWhole? (digits ++ rest) = some (digits, rest) := by
  obtain ⟨taken, left⟩ := span_digits digits rest all ends
  simp only [readWhole?, taken, left]
  rcases leading with rfl | ⟨first, others, rfl, nonzero⟩
  next => rfl
  next =>
    split
    next empty => cases empty
    next zero => exact absurd (List.cons.inj zero).1 nonzero
    next => rfl

theorem readFraction?_text (digits rest : List Char) (all : ∀ c ∈ digits, c.isDigit = true)
    (ends : EndsDigits rest) (noPoint : ∀ after, rest ≠ '.' :: after) :
    readFraction? (Number.fractionText digits ++ rest) = some (digits, rest) := by
  cases digits with
  | nil =>
    simp only [Number.fractionText, List.nil_append]
    unfold readFraction?
    split
    next after => exact absurd rfl (noPoint after)
    next => rfl
  | cons first others =>
    obtain ⟨taken, left⟩ := span_digits (first :: others) rest all ends
    simp only [Number.fractionText, List.cons_append] at taken left ⊢
    simp only [readFraction?, taken, left, reduceCtorEq, if_false]

theorem readExponent?_text (negative : Bool) (digits rest : List Char)
    (all : ∀ c ∈ digits, c.isDigit = true) (unsigned : digits = [] → negative = false)
    (ends : EndsNumber rest) :
    readExponent? (Number.exponentText negative digits ++ rest) =
      some ((negative, digits), rest) := by
  cases digits with
  | nil =>
    rw [unsigned rfl]
    simp only [Number.exponentText, List.nil_append]
    cases rest with
    | nil => rfl
    | cons c after =>
      obtain ⟨_, _, notLower, notUpper⟩ := ends c after rfl
      simp [readExponent?, notLower, notUpper]
  | cons first others =>
    obtain ⟨taken, left⟩ := span_digits (first :: others) rest all ends.digits
    simp only [List.cons_append] at taken left
    cases negative <;> simp [Number.exponentText, readExponent?, taken, left]

theorem endsDigits_exponentText (negative : Bool) (digits rest : List Char) (ends : EndsNumber rest) :
    EndsDigits (Number.exponentText negative digits ++ rest) := by
  cases digits with
  | nil => exact ends.digits
  | cons first others =>
    intro c after shape
    cases shape
    decide

theorem exponentText_ne_point (negative : Bool) (digits rest after : List Char)
    (ends : EndsNumber rest) : Number.exponentText negative digits ++ rest ≠ '.' :: after := by
  cases digits with
  | nil =>
    intro shape
    exact (ends '.' after shape).2.1 rfl
  | cons first others =>
    intro shape
    cases shape

theorem endsDigits_fractionText (digits rest : List Char) (ends : EndsDigits rest) :
    EndsDigits (Number.fractionText digits ++ rest) := by
  cases digits with
  | nil => exact ends
  | cons first others =>
    intro c after shape
    cases shape
    decide

namespace Number

variable (n : Number) (rest : List Char) (formed : n.WellFormed)

include formed

theorem WellFormed.first : ∃ first others, n.whole = first :: others ∧ first.isDigit = true := by
  rcases formed.leading with zero | ⟨first, others, shape, _⟩
  · exact ⟨'0', [], zero, rfl⟩
  · exact ⟨first, others, shape, formed.whole first (by simp [shape])⟩

theorem text_first : ∃ first others, n.text = first :: others ∧
    (first = '-' ∨ first.isDigit = true) := by
  obtain ⟨first, others, shape, digit⟩ := formed.first
  cases sign : n.negative with
  | true => exact ⟨'-', _, by simp only [text, sign, if_true]; rfl, .inl rfl⟩
  | false => exact ⟨first, _, by simp only [text, sign, shape]; rfl, .inr digit⟩

theorem readNumber?_text (ends : EndsNumber rest) :
    readNumber? (n.text ++ rest) = some (n, rest) := by
  have afterFraction := endsDigits_exponentText n.exponentNegative n.exponent rest ends
  have afterWhole := endsDigits_fractionText n.fraction _ afterFraction
  have whole := readWhole?_digits n.whole _ formed.whole formed.leading afterWhole
  have fraction := readFraction?_text n.fraction _ formed.fraction afterFraction
    fun after => exponentText_ne_point n.exponentNegative n.exponent rest after ends
  have exponent := readExponent?_text n.exponentNegative n.exponent rest formed.exponent
    formed.unsigned ends
  obtain ⟨first, others, shape, digit⟩ := formed.first
  have noSign : first ≠ '-' := by
    rintro rfl
    cases digit
  cases sign : n.negative with
  | true =>
    simp only [text, sign, if_true, List.cons_append, List.nil_append, List.append_assoc,
      readNumber?]
    simp only [whole, fraction, exponent, bind, Option.bind, pure, ← sign]
  | false =>
    rw [shape, List.cons_append] at whole
    simp only [text, sign, shape, Bool.false_eq_true, if_false, List.cons_append, List.nil_append,
      List.append_assoc, readNumber?]
    split
    next after same => exact absurd (List.cons.inj same).1 noSign
    next => simp only [whole, fraction, exponent, bind, Option.bind, pure, ← sign, ← shape]

end Number

end PlotTables.Json
