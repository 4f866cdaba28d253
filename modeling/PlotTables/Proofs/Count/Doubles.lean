import PlotTables.Proofs.Count.Completeness

set_option autoImplicit false

namespace PlotTables

namespace Literal

def Visible (text : List Char) : Prop := ∀ c ∈ text, isBlank c = false

theorem Visible.of_all (text : List Char) (all : text.all (fun c => !isBlank c) = true) :
    Visible text := by
  simpa [Visible] using all

theorem Visible.append (left right : List Char) (leftVisible : Visible left)
    (rightVisible : Visible right) : Visible (left ++ right) := by
  intro c member
  exact (List.mem_append.mp member).elim (leftVisible c) (rightVisible c)

theorem Visible.of_digits (digits : List Char) (all : ∀ c ∈ digits, c.isDigit = true) :
    Visible digits := by
  intro c member
  exact Count.isBlank_of_isDigit c (all c member)

theorem SignText.visible (negative : Bool) (text : List Char) (written : SignText negative text) :
    Visible text := by
  cases written <;> exact .of_all _ (by decide)

theorem FractionText.visible (digits text : List Char) (written : FractionText digits text)
    (all : ∀ c ∈ digits, c.isDigit = true) : Visible text := by
  cases written with
  | none => exact .of_all [] rfl
  | point => exact Visible.append ['.'] digits (.of_all _ (by decide)) (.of_digits digits all)

theorem PowerText.visible (exponent : Int) (text : List Char) (written : PowerText exponent text) :
    Visible text := by
  cases written with
  | none => exact .of_all [] rfl
  | power mark negative sign digits letter signText nonempty all =>
    apply Visible.append [mark]
    · rcases letter with rfl | rfl <;> exact .of_all _ (by decide)
    · exact .append sign digits signText.visible (.of_digits digits all)

theorem WrittenAs.visible (l : Literal) (text : List Char) (written : l.WrittenAs text) :
    Visible text := by
  obtain ⟨sign, fraction, power, parts, rfl⟩ := written
  apply Visible.append
  · exact parts.sign.visible
  · apply Visible.append
    · exact .of_digits _ parts.whole
    · exact .append _ _ (parts.fraction.visible _ _ parts.fractionDigits) parts.power.visible

end Literal

namespace Layout

theorem magnitudeText_marked (layout : Layout) (m : Magnitude) :
    ∃ c ∈ layout.magnitudeText m, c = '.' ∨ c = 'e' := by
  have positional (d : Decimal) : '.' ∈ d.positional := by simp [Decimal.positional, pointed]
  have scientific (d : Decimal) : 'e' ∈ d.scientific layout.plus := by simp [Decimal.scientific]
  unfold magnitudeText
  split
  next => exact ⟨'.', by simp, .inl rfl⟩
  next =>
    simp only
    split
    next => exact ⟨'.', positional _, .inl rfl⟩
    next => exact ⟨'e', scientific _, .inr rfl⟩

theorem identifier_marked (x : Binary64) :
    ∃ c ∈ (identifier.text x).toList, c.isDigit = false ∧ c ≠ '+' := by
  rw [text, String.toList_ofList]
  cases x with
  | nan => exact ⟨'N', by decide⟩
  | infinity negative => exact ⟨'i', by cases negative <;> decide⟩
  | finite negative m =>
    obtain ⟨c, member, mark⟩ := identifier.magnitudeText_marked m
    refine ⟨c, ?_, ?_⟩
    · cases negative <;> simp [chars, member]
    · rcases mark with rfl | rfl <;> decide

theorem identifier_visible (x : Binary64) : Literal.Visible (identifier.text x).toList := by
  cases x with
  | nan => exact .of_all _ (by decide +kernel)
  | infinity negative => exact .of_all _ (by cases negative <;> decide +kernel)
  | finite negative m =>
    obtain ⟨l, read, _⟩ := Binary64.read?_finite _ negative m (identifier_reads_back _)
    obtain ⟨exact, _, written⟩ := Literal.read?_sound _ l read
    exact written.visible

end Layout

/-- What a finite double stands for. -/
def Binary64.number? : Binary64 → Option ℚ
  | .finite negative m => some (if negative then -m.value else m.value)
  | .nan | .infinity _ => none

namespace Count

theorem readWord?_marked (text : List Char) (c : Char) (member : c ∈ text)
    (other : c.isDigit = false) (noPlus : c ≠ '+') : readWord? text = none := by
  obtain ⟨sign, digits, unsigned, rfl, same⟩ := readWord?_unsigned text
  have inDigits : c ∈ digits := by
    cases unsigned <;> simpa [noPlus] using member
  rw [same, if_neg]
  intro word
  have digit := List.all_eq_true.mp word.2.1 c inDigits
  rw [other] at digit
  cases digit

theorem read?_identifier (x : Binary64) :
    read? (Layout.identifier.text x).toList = ofBinary64? x := by
  obtain ⟨c, member, other, noPlus⟩ := Layout.identifier_marked x
  have trimmed := trimBlanks_of_visible _ (Layout.identifier_visible x)
  rw [read?_fallback, trimmed, Layout.identifier_reads_back, Option.bind_some]
  rw [trimmed]
  exact readWord?_marked _ c member other noPlus

theorem ofBinary64?_iff (x : Binary64) (count : UInt64) :
    ofBinary64? x = some count ↔
      x.number? = some (count.toNat : ℚ) ∧ count.toNat < 2 ^ 53 := by
  constructor
  next =>
    intro taken
    obtain ⟨negative, m, rfl, value, small, sign⟩ := ofBinary64?_sound x count taken
    refine ⟨?_, small⟩
    cases negative with
    | false => simp [Binary64.number?, value]
    | true => simp [Binary64.number?, value, sign rfl]
  next =>
    intro ⟨number, small⟩
    cases x with
    | nan => cases number
    | infinity negative => cases number
    | finite negative m =>
      have exact : m.value = count.toNat ∧ (negative = false ∨ count.toNat = 0) := by
        cases negative with
        | false => exact ⟨Option.some.inj number, .inl rfl⟩
        | true =>
          -- Only zero may have a sign.
          have value : -m.value = count.toNat := Option.some.inj number
          have nonneg := m.value_nonneg
          have natural : (0 : ℚ) ≤ count.toNat := Nat.cast_nonneg _
          have zero : (count.toNat : ℚ) = 0 := by linarith
          exact ⟨by linarith, .inr (by exact_mod_cast zero)⟩
      rw [ofBinary64?_whole negative m count.toNat exact.1 small exact.2, UInt64.ofNat_toNat]

theorem ofBinary64?_none (x : Binary64) :
    ofBinary64? x = none ↔ ¬∃ n : Nat, x.number? = some (n : ℚ) ∧ n < 2 ^ 53 := by
  rw [Option.eq_none_iff_forall_ne_some]
  constructor
  next =>
    intro refused whole
    obtain ⟨n, number, small⟩ := whole
    have word : (UInt64.ofNat n).toNat = n :=
      UInt64.toNat_ofNat_of_lt' (Nat.lt_trans small (by decide))
    apply refused (UInt64.ofNat n)
    rw [ofBinary64?_iff, word]
    exact ⟨number, small⟩
  next =>
    intro refused count taken
    exact refused ⟨count.toNat, (ofBinary64?_iff x count).mp taken⟩

theorem parse_identifier (x : Binary64) (row : Nat) (column : String) :
    (∀ count, parse (Layout.identifier.text x) row column = .ok count ↔
      x.number? = some (count.toNat : ℚ) ∧ count.toNat < 2 ^ 53) ∧
    ∀ failure, parse (Layout.identifier.text x) row column = .error failure ↔
      (¬∃ n : Nat, x.number? = some (n : ℚ) ∧ n < 2 ^ 53) ∧
        failure = .invalidCount (Layout.identifier.text x) row column := by
  constructor
  next =>
    intro count
    rw [← ofBinary64?_iff, ← read?_identifier, parse]
    cases read? (Layout.identifier.text x).toList <;> simp
  next =>
    intro failure
    rw [parse_error, read?_identifier, ofBinary64?_none]

example : parse (Layout.identifier.text (.finite true .zero)) 0 "Count" = .ok 0 := by
  decide +kernel

end Count

end PlotTables
