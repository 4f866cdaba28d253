import PlotTables.Proofs.Json.Doubles
import PlotTables.Proofs.Json.Objects
import PlotTables.Proofs.Json.Scaling
import PlotTables.Report.Reading

set_option autoImplicit false

namespace PlotTables

open Magnitude Json

namespace Json.Number

def ofWord (n : Nat) : Number := ⟨false, Nat.toDigits 10 n, [], false, []⟩

variable (n : Nat)

theorem ofWord_text : (ofWord n).text = Nat.toDigits 10 n := by
  simp [text, ofWord, fractionText, exponentText]

theorem ofWord_formed : (ofWord n).WellFormed :=
  ⟨toDigits_isDigit n, toDigits_leading n, by simp [ofWord], by simp [ofWord], fun _ => rfl⟩

theorem toWord?_ofWord (word : n < 2 ^ 64) : (ofWord n).toWord? = some n := by
  simp only [toWord?, ofWord, Nat.ofDigitChars_ten_toDigits, word, and_self, if_true]

end Json.Number

namespace Report

def members (r : Report) (ratio : Number) : List Member :=
  [⟨"total_rows".toList, Nat.toDigits 10 r.totalRows, .number (.ofWord r.totalRows)⟩,
    ⟨"interval".toList, Nat.toDigits 10 r.interval, .number (.ofWord r.interval)⟩,
    ⟨"selection_ratio".toList, ratio.text, .number ratio⟩,
    ⟨"selected_rows".toList, Nat.toDigits 10 r.selectedRows, .number (.ofWord r.selectedRows)⟩,
    ⟨"first_count_matches".toList, boolText r.firstCountMatches, .bool r.firstCountMatches⟩]

section Members

variable (r : Report) (ratio : Number)

theorem shows_word (n : Nat) : Shows (Nat.toDigits 10 n) (.number (.ofWord n)) := by
  rw [← Number.ofWord_text]
  exact shows_number _ (Number.ofWord_formed n)

theorem members_readable (formed : ratio.WellFormed) :
    ∀ member ∈ r.members ratio, member.Readable := by
  simp only [members, List.forall_mem_cons]
  exact ⟨⟨show Plain "total_rows".toList by decide, shows_word _⟩,
    ⟨show Plain "interval".toList by decide, shows_word _⟩,
    ⟨show Plain "selection_ratio".toList by decide, shows_number ratio formed⟩,
    ⟨show Plain "selected_rows".toList by decide, shows_word _⟩,
    ⟨show Plain "first_count_matches".toList by decide, shows_bool _⟩, by simp⟩

theorem line_text (name value : String) (shown : Value) :
    (s!"  \"{name}\": {value}").toList = Member.line ⟨name.toList, value.toList, shown⟩ := by
  change ("  \"" ++ name ++ "\": " ++ value).toList = _
  simp [Member.line]

theorem toList_truth (b : Bool) : (truth b).toList = boolText b := by
  cases b <;> rfl

theorem renderJson_text (printed : Layout.json.chars r.selectionRatio = ratio.text) :
    r.renderJson.toList = '{' :: membersText (r.members ratio) := by
  simp only [renderJson, entries, members, membersText, List.map_cons, List.map_nil,
    String.toList_append, String.toList_intercalate, line_text _ _ .null, Member.line,
    Nat.toList_repr, Layout.text, String.toList_ofList, printed, toList_truth]
  rfl

theorem named?_read (printed : List Member) : named? (printed.map Member.read) =
    some (printed.map fun member => (member.name, member.value)) := by
  induction printed with
  | nil => rfl
  | cons first others ih =>
    rw [named?] at ih ⊢
    rw [List.map_cons, List.mapM_cons, ih, Member.read]
    simp only [decodeString?_plain]
    rfl

theorem ofJson?_members :
    ofJson? (.object ((r.members ratio).map Member.read)) =
      ofValues? (.number (.ofWord r.totalRows)) (.number (.ofWord r.interval)) (.number ratio)
        (.number (.ofWord r.selectedRows)) (.bool r.firstCountMatches) := by
  simp only [ofJson?, named?_read]
  rfl

end Members

theorem parse_renderJson (r : Report) (negative : Bool) (m n : Magnitude)
    (total : r.totalRows < 2 ^ 64) (interval : r.interval < 2 ^ 64)
    (selected : r.selectedRows < 2 ^ 64) (ratio : r.selectionRatio = .finite negative m)
    (scaled : Number.scale? m.written.coefficient m.written.exponent = some (.finite false n)) :
    parse r.renderJson = .ok { r with selectionRatio := .finite negative n } := by
  obtain ⟨number, writes⟩ := m.magnitudeText_writes negative
  have printed : Layout.json.chars r.selectionRatio = number.text := by
    rw [ratio, writes.text]
    cases negative <;> rfl
  have fits : number.coefficient < 2 ^ 64 := by
    have few := m.written_coefficient_lt
    rw [writes.coefficient]
    omega
  have read : number.toBinary64? = some (.finite negative n) := by
    rw [number.toBinary64?_of_fits fits, writes.coefficient, writes.power, scaled, writes.negative]
    cases negative <;> rfl
  have object : parse? ('{' :: membersText (r.members number)) =
      some (.object ((r.members number).map Member.read)) :=
    parse?_object _ _ (r.members_readable number writes.formed)
  simp only [parse, renderJson_text r number printed, object, Option.bind_some, ofJson?_members,
    ofValues?, word?, double?, truth?, Number.toWord?_ofWord _ total,
    Number.toWord?_ofWord _ interval, Number.toWord?_ofWord _ selected, read]
  rfl

theorem ratio_kept (r : Report) (negative : Bool) (m n : Magnitude)
    (ratio : r.selectionRatio = .finite negative m) :
    { r with selectionRatio := .finite negative n } = r ↔ n = m := by
  constructor
  next =>
    intro same
    have ratios := congrArg selectionRatio same
    rw [ratio] at ratios
    cases ratios
    rfl
  next =>
    rintro rfl
    rw [← ratio]

theorem written_range (m : Magnitude) : m.written.exponent ≤ Number.largestPower := by
  cases sign : m.written.exponent with
  | ofNat power =>
    obtain ⟨nonzero, same⟩ := m.written_of_nat power sign
    rw [same] at sign
    have near := Number.shortest_power_le m _ power (Decimal.eta _ _ sign)
      (m.shortest_coefficient_pos .even nonzero)
    exact Int.ofNat_le.mpr near
  | negSucc less => exact (Int.negSucc_lt_zero less).le.trans (Int.natCast_nonneg _)

theorem written_scales (m : Magnitude) :
    ∃ n, Number.scale? m.written.coefficient m.written.exponent = some (.finite false n) := by
  have few := m.written_coefficient_lt
  cases sign : m.written.exponent with
  | ofNat power =>
    obtain ⟨nonzero, same⟩ := m.written_of_nat power sign
    rw [same] at sign ⊢
    exact Number.scale?_shortest m _ power (Decimal.eta _ _ sign)
      (m.shortest_coefficient_pos .even nonzero)
  | negSucc less => exact Number.scale?_negative _ less (by omega)

theorem parse_render (r : Report) (negative : Bool) (m : Magnitude)
    (total : r.totalRows < 2 ^ 64) (interval : r.interval < 2 ^ 64)
    (selected : r.selectedRows < 2 ^ 64) (ratio : r.selectionRatio = .finite negative m) :
    ∃ n, parse (r.render .json) = .ok { r with selectionRatio := .finite negative n } ∧
      (parse (r.render .json) = .ok r ↔ n = m) ∧
      Number.scale? m.written.coefficient m.written.exponent = some (.finite false n) ∧
      (m.written.coefficient < 2 ^ 53 → m.written.exponent.natAbs ≤ 22 → n = m) ∧
      (1 / 2 ^ 64 ≤ m.value → |n.value - m.value| ≤ m.value / 2 ^ 50) := by
  obtain ⟨n, scaled⟩ := written_scales m
  have read := parse_renderJson r negative m n total interval selected ratio scaled
  refine ⟨n, read, ?_, scaled, ?_, ?_⟩
  · rw [render, read, Except.ok.injEq, ratio_kept r negative m n ratio]
  · intro few near
    rw [Number.scale?_exact m.written m m.written_value few near] at scaled
    cases scaled
    rfl
  · intro large
    exact Number.scale?_error m.written m n m.written_value m.written_coefficient_lt
      (written_range m) large scaled

def eleventh : Magnitude := ⟨6550690367084358, 1018, by decide, by decide, .inr (by decide)⟩

theorem ofIndices_eleven : (ofIndices 11 [0] true).selectionRatio = .finite false eleventh := by
  decide +kernel

theorem parse_render_eleven : ∃ n,
    parse ((ofIndices 11 [0] true).render .json) =
      .ok { ofIndices 11 [0] true with selectionRatio := .finite false n } ∧
    |n.value - eleventh.value| ≤ eleventh.value / 2 ^ 50 := by
  obtain ⟨n, read, _, _, _, close⟩ := parse_render (ofIndices 11 [0] true) false eleventh (by decide)
    (by decide) (by decide) ofIndices_eleven
  refine ⟨n, read, close ?_⟩
  rw [value, div_le_div_iff₀ (by norm_num) unit_rat_pos, one_mul]
  have large : unit ≤ eleventh.scaled * 2 ^ 64 := by decide +kernel
  exact_mod_cast large

theorem parse_render_eleven_differs :
    parse ((ofIndices 11 [0] true).render .json) ≠ .ok (ofIndices 11 [0] true) := by
  have written : eleventh.written = ⟨9090909090909091, -17⟩ := by decide +kernel
  let above : Magnitude := ⟨6550690367084359, 1018, by decide, by decide, .inr (by decide)⟩
  have scaled : Number.scale? eleventh.written.coefficient eleventh.written.exponent =
      some (.finite false above) := by
    rw [written]
    decide +kernel
  have read := parse_renderJson (ofIndices 11 [0] true) false eleventh above (by decide) (by decide)
    (by decide) ofIndices_eleven scaled
  rw [render, read, Ne, Except.ok.injEq, ratio_kept _ false eleventh above ofIndices_eleven]
  decide

end Report

end PlotTables
