import PlotTables.Count

set_option autoImplicit false

namespace PlotTables.Count

theorem isDigit_range (c : Char) (digit : c.isDigit = true) : 48 ≤ c.toNat ∧ c.toNat ≤ 57 := by
  simp only [Char.isDigit, Bool.and_eq_true, decide_eq_true_eq] at digit
  exact ⟨UInt32.le_iff_toNat_le.mp digit.1, UInt32.le_iff_toNat_le.mp digit.2⟩

theorem isBlank_of_isDigit (c : Char) (digit : c.isDigit = true) : isBlank c = false := by
  have range := isDigit_range c digit
  simp only [isBlank, Bool.or_eq_false_iff, Bool.and_eq_false_iff, beq_eq_false_iff_ne,
    decide_eq_false_iff_not]
  omega

theorem dropWhile_none {α : Type} (p : α → Bool) (items : List α)
    (refused : ∀ item ∈ items, p item = false) : items.dropWhile p = items := by
  cases items with
  | nil => rfl
  | cons item rest => simp [refused item]

theorem trimBlanks_of_visible (text : List Char) (visible : ∀ c ∈ text, isBlank c = false) :
    trimBlanks text = text := by
  rw [trimBlanks, dropWhile_none _ text visible, dropWhile_none _ text.reverse fun c member =>
    visible c (List.mem_reverse.mp member), List.reverse_reverse]

theorem trimBlanks_of_digits (text : List Char) (digits : ∀ c ∈ text, c.isDigit = true) :
    trimBlanks text = text := by
  apply trimBlanks_of_visible
  intro c member
  exact isBlank_of_isDigit c (digits c member)

theorem readWord?_digits (count : UInt64) :
    readWord? (Nat.toDigits 10 count.toNat) = some count := by
  have digits (c : Char) (member : c ∈ Nat.toDigits 10 count.toNat) : c.isDigit = true :=
    Nat.isDigit_of_mem_toDigits (by decide) (by decide) member
  unfold readWord?
  split
  next rest shape =>
    have plus := digits '+' (by simp [shape])
    cases plus
  next =>
    simp only [Nat.ofDigitChars_ten_toDigits]
    rw [if_pos ⟨Nat.toDigits_ne_nil, List.all_eq_true.mpr digits, count.toNat_lt⟩,
      UInt64.ofNat_toNat]

theorem parse_error (raw : String) (row : Nat) (column : String) (failure : Failure) :
    parse raw row column = .error failure ↔
      read? raw.toList = none ∧ failure = .invalidCount raw row column := by
  rw [parse]
  cases read? raw.toList with
  | some count => simp
  | none => simp [eq_comm]

theorem parse_text (count : UInt64) (row : Nat) (column : String) :
    parse (text count) row column = .ok count := by
  have digits (c : Char) (member : c ∈ Nat.toDigits 10 count.toNat) : c.isDigit = true :=
    Nat.isDigit_of_mem_toDigits (by decide) (by decide) member
  have read : read? (text count).toList = some count := by
    simp only [read?, text, Nat.toList_repr, trimBlanks_of_digits _ digits, readWord?_digits]
  rw [parse, read]

end PlotTables.Count
