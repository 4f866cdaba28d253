import Mathlib.Data.List.TakeWhile
import PlotTables.Decimal.Literal
import PlotTables.Proofs.Count
import PlotTables.Proofs.Decimal.Shortest
import PlotTables.Proofs.Json.Numbers

set_option autoImplicit false

namespace PlotTables.Literal

inductive SignText : Bool → List Char → Prop
  | none : SignText false []
  | plus : SignText false ['+']
  | minus : SignText true ['-']

inductive FractionText : List Char → List Char → Prop
  | none : FractionText [] []
  | point (digits : List Char) : FractionText digits ('.' :: digits)

def signed (negative : Bool) (n : Nat) : Int := if negative then -n else n

inductive PowerText : Int → List Char → Prop
  | none : PowerText 0 []
  | power (mark : Char) (negative : Bool) (sign digits : List Char)
      (letter : mark = 'e' ∨ mark = 'E') (signText : SignText negative sign)
      (nonempty : digits ≠ []) (all : ∀ c ∈ digits, c.isDigit = true) :
      PowerText (signed negative (Nat.ofDigitChars 10 digits 0)) (mark :: (sign ++ digits))

/-- What stands around the whole digits of a numeral. -/
structure Parts (l : Literal) (sign fraction power : List Char) : Prop where
  sign : SignText l.negative sign
  whole : ∀ c ∈ l.whole, c.isDigit = true
  fraction : FractionText l.fraction fraction
  fractionDigits : ∀ c ∈ l.fraction, c.isDigit = true
  nonempty : l.whole ≠ [] ∨ l.fraction ≠ []
  power : PowerText l.exponent power

/-- The text is the numeral of this literal, with all digits of its exponent. -/
def WrittenAs (l : Literal) (text : List Char) : Prop :=
  ∃ sign fraction power, Parts l sign fraction power ∧
    text = sign ++ (l.whole ++ (fraction ++ power))

def decimal (l : Literal) : Decimal := ⟨l.digits, l.shift⟩

def value (l : Literal) : ℚ := if l.negative then -l.decimal.value else l.decimal.value

theorem abs_value (l : Literal) : |l.value| = l.decimal.value := by
  have nonneg := l.decimal.value_nonneg
  unfold value
  split
  next => rw [abs_neg, abs_of_nonneg nonneg]
  next => exact abs_of_nonneg nonneg

theorem value_whole (digits : List Char) :
    value ⟨false, digits, [], 0⟩ = Nat.ofDigitChars 10 digits 0 := by
  simp [value, decimal, Literal.digits, shift, Decimal.value]

section Sign

variable (negative : Bool) (sign : List Char) (first : Char) (others : List Char)

theorem unsigned_of_isDigit (digit : first.isDigit = true) : first ≠ '-' ∧ first ≠ '+' := by
  constructor
  all_goals
    rintro rfl
    cases digit

theorem readSign_unsigned (unsigned : first ≠ '-' ∧ first ≠ '+') :
    readSign (first :: others) = (false, first :: others) := by
  unfold readSign
  split
  next shape => exact absurd (List.cons.inj shape).1 unsigned.1
  next shape => exact absurd (List.cons.inj shape).1 unsigned.2
  next => rfl

theorem readSign_text (signText : SignText negative sign)
    (unsigned : first ≠ '-' ∧ first ≠ '+') :
    readSign (sign ++ first :: others) = (negative, first :: others) := by
  cases signText with
  | none => exact readSign_unsigned first others unsigned
  | plus => rfl
  | minus => rfl

theorem readSign_sound (text : List Char) :
    ∃ sign, SignText (readSign text).1 sign ∧ text = sign ++ (readSign text).2 := by
  unfold readSign
  split
  next rest => exact ⟨['-'], .minus, rfl⟩
  next rest => exact ⟨['+'], .plus, rfl⟩
  next => exact ⟨[], .none, rfl⟩

end Sign

/-- How an exponent is read: as it is, or as one closer to zero that is still out of range. -/
def CutTo (exact read : Int) : Prop :=
  read = exact ∨ 65536 ≤ read ∧ read ≤ exact ∨ exact ≤ read ∧ read ≤ -65536

theorem CutTo.eq_of_lt (exact read : Int) (cut : CutTo exact read)
    (small : exact.natAbs < 65536 ∨ read.natAbs < 65536) : read = exact := by
  unfold CutTo at cut
  omega

section Exponent

def takeExponent (value : Nat) (c : Char) : Nat :=
  if value < 65536 then 10 * value + (c.toNat - 48) else value

theorem foldl_takeExponent_full (digits : List Char) (value : Nat) (full : 65536 ≤ value) :
    digits.foldl takeExponent value = value := by
  induction digits with
  | nil => rfl
  | cons c others ih =>
    rw [List.foldl_cons, takeExponent, if_neg (Nat.not_lt.mpr full)]
    exact ih

theorem foldl_takeExponent (digits : List Char) (value : Nat) :
    digits.foldl takeExponent value = Nat.ofDigitChars 10 digits value ∨
      65536 ≤ digits.foldl takeExponent value ∧
        digits.foldl takeExponent value ≤ Nat.ofDigitChars 10 digits value := by
  induction digits generalizing value with
  | nil => exact .inl rfl
  | cons c others ih =>
    rcases Nat.lt_or_ge value 65536 with room | full
    next =>
      rw [List.foldl_cons, takeExponent, if_pos room, Nat.ofDigitChars_cons]
      exact ih _
    next =>
      rw [foldl_takeExponent_full _ _ full]
      exact .inr ⟨full, Json.le_ofDigitChars (c :: others) value⟩

theorem exponentValue_cut (negative : Bool) (digits : List Char) :
    CutTo (signed negative (Nat.ofDigitChars 10 digits 0))
      (signed negative (exponentValue digits)) := by
  have cut := foldl_takeExponent digits 0
  change exponentValue digits = _ ∨ 65536 ≤ exponentValue digits ∧ exponentValue digits ≤ _ at cut
  unfold CutTo signed
  split <;> omega

theorem PowerText.first (exact : Int) (text : List Char) (written : PowerText exact text) (c : Char)
    (after : List Char) (shape : text = c :: after) : c = 'e' ∨ c = 'E' := by
  cases written with
  | none => cases shape
  | power mark negative sign digits letter =>
    cases shape
    exact letter

theorem PowerText.endsDigits (exact : Int) (text : List Char) (written : PowerText exact text) :
    Json.EndsDigits text := by
  intro c after shape
  rcases written.first exact text c after shape with rfl | rfl <;> decide

theorem readExponent?_sound (text : List Char) (read : Int)
    (found : readExponent? text = some read) :
    ∃ exact, PowerText exact text ∧ CutTo exact read := by
  cases text with
  | nil =>
    cases found
    exact ⟨0, .none, .inl rfl⟩
  | cons mark rest =>
    obtain ⟨sign, signText, shape⟩ := readSign_sound rest
    simp only [readExponent?] at found
    split at found
    next wellFormed =>
      obtain ⟨letter, nonempty, all⟩ := wellFormed
      cases found
      have written :=
        PowerText.power mark _ sign _ letter signText nonempty (List.all_eq_true.mp all)
      rw [← shape] at written
      exact ⟨_, written, exponentValue_cut _ _⟩
    next => cases found

theorem readExponent?_text (exact : Int) (text : List Char) (written : PowerText exact text) :
    ∃ read, readExponent? text = some read ∧ CutTo exact read := by
  cases written with
  | none => exact ⟨0, rfl, .inl rfl⟩
  | power mark negative sign digits letter signText nonempty all =>
    refine ⟨_, ?_, exponentValue_cut negative digits⟩
    obtain ⟨first, others, shape⟩ := List.exists_cons_of_ne_nil nonempty
    have digit := all first (by simp [shape])
    have read : readSign (sign ++ digits) = (negative, digits) := by
      rw [shape]
      exact readSign_text negative sign first others signText (unsigned_of_isDigit first digit)
    simp only [readExponent?, read]
    rw [if_pos ⟨letter, nonempty, List.all_eq_true.mpr all⟩]
    rfl

end Exponent

section Fraction

variable (digits fraction power : List Char) (exponent : Int)

theorem FractionText.of_nonempty (pointed : FractionText digits fraction) (nonempty : digits ≠ []) :
    fraction = '.' :: digits := by
  cases pointed with
  | none => exact absurd rfl nonempty
  | point => rfl

theorem FractionText.endsDigits (pointed : FractionText digits fraction)
    (scaled : PowerText exponent power) : Json.EndsDigits (fraction ++ power) := by
  cases pointed with
  | none => exact scaled.endsDigits
  | point =>
    intro c after shape
    cases shape
    decide

theorem readFraction_text (pointed : FractionText digits fraction)
    (all : ∀ c ∈ digits, c.isDigit = true) (scaled : PowerText exponent power) :
    readFraction (fraction ++ power) = (digits, power) := by
  cases pointed with
  | point =>
    obtain ⟨taken, left⟩ := Json.span_digits digits power all scaled.endsDigits
    simp only [List.cons_append, readFraction, taken, left]
  | none =>
    rw [List.nil_append]
    unfold readFraction
    split
    next after =>
      have mark := scaled.first _ _ '.' after rfl
      simp at mark
    next => rfl

theorem readFraction_sound (text : List Char) : ∃ fraction,
    FractionText (readFraction text).1 fraction ∧ text = fraction ++ (readFraction text).2 ∧
      ∀ c ∈ (readFraction text).1, c.isDigit = true := by
  unfold readFraction
  split
  next rest =>
    refine ⟨'.' :: rest.takeWhile Char.isDigit, .point _, ?_, fun c => List.mem_takeWhile_imp⟩
    rw [List.cons_append, List.takeWhile_append_dropWhile]
  next => exact ⟨[], .none, rfl, by simp⟩

end Fraction

theorem Parts.first (l : Literal) (sign fraction power : List Char)
    (parts : Parts l sign fraction power) :
    ∃ first others, l.whole ++ (fraction ++ power) = first :: others ∧
      first ≠ '-' ∧ first ≠ '+' := by
  cases shape : l.whole with
  | cons first others =>
    exact ⟨first, _, rfl, unsigned_of_isDigit first (parts.whole first (by simp [shape]))⟩
  | nil =>
    have digits := parts.nonempty.resolve_left (not_not.mpr shape)
    rw [parts.fraction.of_nonempty _ _ digits]
    exact ⟨'.', _, rfl, by decide, by decide⟩

theorem read?_sound (text : List Char) (l : Literal) (read : read? text = some l) :
    ∃ exact, CutTo exact l.exponent ∧ WrittenAs { l with exponent := exact } text := by
  obtain ⟨sign, signText, shape⟩ := readSign_sound text
  simp only [read?] at read
  split at read
  next => cases read
  next hasDigits =>
    obtain ⟨exponent, scaled, rfl⟩ := Option.map_eq_some_iff.mp read
    obtain ⟨fraction, pointed, rest, digits⟩ :=
      readFraction_sound ((readSign text).2.dropWhile Char.isDigit)
    obtain ⟨exact, power, cut⟩ := readExponent?_sound _ _ scaled
    refine ⟨exact, cut, sign, fraction, _, ⟨signText, fun c => List.mem_takeWhile_imp, pointed,
      digits, not_and_or.mp hasDigits, power⟩, ?_⟩
    rw [← rest, List.takeWhile_append_dropWhile, ← shape]

theorem read?_written (l : Literal) (text : List Char) (written : l.WrittenAs text) :
    ∃ exponent, CutTo l.exponent exponent ∧ read? text = some { l with exponent := exponent } := by
  obtain ⟨sign, fraction, power, parts, rfl⟩ := written
  obtain ⟨exponent, scaled, cut⟩ := readExponent?_text l.exponent power parts.power
  obtain ⟨first, others, shape, unsigned⟩ := parts.first
  have signRead := readSign_text l.negative sign first others parts.sign unsigned
  rw [← shape] at signRead
  obtain ⟨taken, left⟩ := Json.span_digits l.whole (fraction ++ power) parts.whole
    (parts.fraction.endsDigits _ _ _ _ parts.power)
  have fractional := readFraction_text l.fraction fraction power l.exponent parts.fraction
    parts.fractionDigits parts.power
  refine ⟨exponent, cut, ?_⟩
  simp only [read?, signRead, taken, left, fractional, scaled]
  rw [if_neg (not_and_or.mpr parts.nonempty), Option.map_some]

theorem read?_unique (l read : Literal) (text : List Char) (written : l.WrittenAs text)
    (found : read? text = some read) :
    CutTo l.exponent read.exponent ∧ read = { l with exponent := read.exponent } := by
  obtain ⟨exponent, cut, same⟩ := read?_written l text written
  rw [found] at same
  cases same
  exact ⟨cut, rfl⟩

theorem eq_of_read? (l read : Literal) (text : List Char) (written : l.WrittenAs text)
    (found : read? text = some read) (small : read.exponent.natAbs < 65536) : l = read := by
  obtain ⟨cut, same⟩ := read?_unique l read text written found
  rw [same, cut.eq_of_lt _ _ (.inr small)]

theorem read?_of_parts (l : Literal) (sign fraction power : List Char)
    (parts : Parts l sign fraction power) (small : l.exponent.natAbs < 65536) :
    read? (sign ++ (l.whole ++ (fraction ++ power))) = some l := by
  obtain ⟨exponent, cut, read⟩ := read?_written l _ ⟨sign, fraction, power, parts, rfl⟩
  rwa [cut.eq_of_lt _ _ (.inl small)] at read

theorem ofDigitChars_lt (digits : List Char) (start : Nat)
    (all : ∀ c ∈ digits, c.isDigit = true) :
    Nat.ofDigitChars 10 digits start < (start + 1) * 10 ^ digits.length := by
  induction digits generalizing start with
  | nil => simp
  | cons c others ih =>
    have range := Count.isDigit_range c (all c (by simp))
    have rest := ih (10 * start + (c.toNat - '0'.toNat)) fun c member => all c (by simp [member])
    have place : 10 * start + (c.toNat - '0'.toNat) + 1 ≤ (start + 1) * 10 := by
      have zero : '0'.toNat = 48 := rfl
      omega
    rw [Nat.ofDigitChars_cons, List.length_cons, Nat.pow_succ', ← Nat.mul_assoc]
    exact Nat.lt_of_lt_of_le rest (Nat.mul_le_mul_right _ place)

theorem WrittenAs.digits_lt (l : Literal) (text : List Char) (written : l.WrittenAs text) :
    l.digits < 10 ^ (l.whole ++ l.fraction).length := by
  obtain ⟨sign, fraction, power, parts, _⟩ := written
  have below := ofDigitChars_lt (l.whole ++ l.fraction) 0 fun c member =>
    (List.mem_append.mp member).elim (parts.whole c) (parts.fractionDigits c)
  rwa [Nat.zero_add, Nat.one_mul] at below

end PlotTables.Literal
