import Mathlib.Data.List.Forall2
import PlotTables.Delimited
import PlotTables.Proofs.Delimited.Scan

set_option autoImplicit false

namespace PlotTables.Delimited

def Separates (delimiter : UInt8) : Prop := delimiter ≠ quote ∧ endsLine delimiter = false

def Plain (delimiter : UInt8) (field : List UInt8) : Prop :=
  ∀ b ∈ field, b ≠ delimiter ∧ b ≠ quote ∧ endsLine b = false

inductive Spelled (delimiter : UInt8) : List UInt8 → List UInt8 → Prop where
  | bare (field : List UInt8) (plain : Plain delimiter field) : Spelled delimiter field field
  | quoted (field : List UInt8) : Spelled delimiter field (quoteField field)

abbrev SpelledRecord (delimiter : UInt8) : List (List UInt8) → List (List UInt8) → Prop :=
  List.Forall₂ (Spelled delimiter)

theorem doubleQuotes_cons (b : UInt8) (rest : List UInt8) :
    doubleQuotes (b :: rest) = (if b = quote then [quote, quote] else [b]) ++ doubleQuotes rest :=
  List.flatMap_cons

theorem joined_cons (delimiter : UInt8) (first second : List UInt8) (rest : List (List UInt8)) :
    [delimiter].intercalate (first :: second :: rest) =
      first ++ [delimiter] ++ [delimiter].intercalate (second :: rest) := by
  simp [List.intercalate]

namespace Scan

variable (delimiter : UInt8)

theorem run_bare (s : Scan) (field : List UInt8) (mode : s.mode = .bare)
    (plain : Plain delimiter field) :
    run delimiter s field = { s with bytes := field.reverse ++ s.bytes } := by
  induction field generalizing s with
  | nil => rfl
  | cons b rest ih =>
    obtain ⟨notDelimiter, _, notEnd⟩ := plain b (by simp)
    have kept : s.advance delimiter b = s.keep .bare b := by
      simp [advance, mode, unquoted, notDelimiter, notEnd]
    rw [run_cons, kept, ih _ rfl fun c member => plain c (by simp [member])]
    simp [keep, mode]

theorem run_doubled (s : Scan) (field : List UInt8) (mode : s.mode = .quoted) :
    run delimiter s (doubleQuotes field) = { s with bytes := field.reverse ++ s.bytes } := by
  induction field generalizing s with
  | nil => rfl
  | cons b rest ih =>
    have kept : run delimiter s (if b = quote then [quote, quote] else [b]) = s.keep .quoted b := by
      by_cases quoting : b = quote <;> simp [quoting, advance, mode, keep]
    rw [doubleQuotes_cons, run_append, kept, ih _ rfl]
    simp [keep, mode]

theorem run_spelled (s : Scan) (field text : List UInt8)
    (mode : s.mode = .recordStart ∨ s.mode = .fieldStart) (empty : s.bytes = [])
    (spelled : Spelled delimiter field text) :
    ∃ after, run delimiter s text = { s with mode := after, bytes := field.reverse } ∧
      (after = .bare ∨ after = .closing ∨ text = [] ∧ after = s.mode) := by
  cases spelled with
  | bare plain =>
    cases field with
    | nil =>
      refine ⟨s.mode, ?_, .inr (.inr ⟨rfl, rfl⟩)⟩
      rw [run_nil, List.reverse_nil, ← empty]
    | cons b rest =>
      obtain ⟨notDelimiter, notQuote, notEnd⟩ := plain b (by simp)
      have kept : s.advance delimiter b = s.keep .bare b := by
        rcases mode with mode | mode <;>
          simp [advance, mode, opening, unquoted, notDelimiter, notQuote, notEnd]
      refine ⟨.bare, ?_, .inl rfl⟩
      rw [run_cons, kept, run_bare delimiter _ rest rfl fun c member => plain c (by simp [member])]
      simp [keep, empty]
  | quoted =>
    refine ⟨.closing, ?_, .inr (.inl rfl)⟩
    have opened : s.advance delimiter quote = { s with mode := .quoted } := by
      have notEnd : endsLine quote = false := by decide
      rcases mode with mode | mode <;> simp [advance, mode, opening, notEnd]
    rw [quoteField, List.cons_append, run_cons, opened, run_append,
      run_doubled delimiter _ field rfl]
    simp [advance, empty]

theorem run_cell (s : Scan) (field text : List UInt8)
    (mode : s.mode = .recordStart ∨ s.mode = .fieldStart) (empty : s.bytes = [])
    (separates : Separates delimiter) (spelled : Spelled delimiter field text) :
    run delimiter s (text ++ [delimiter]) = ⟨.fieldStart, s.records, field :: s.fields, []⟩ := by
  obtain ⟨after, ran, place⟩ := run_spelled delimiter s field text mode empty spelled
  have outside : after = .bare ∨ after = .closing ∨ after = .recordStart ∨ after = .fieldStart := by
    rcases place with bare | closing | ⟨_, same⟩
    · exact .inl bare
    · exact .inr (.inl closing)
    · exact .inr (.inr (same ▸ mode))
  rw [run_append, ran]
  rcases outside with rfl | rfl | rfl | rfl <;>
    simp [advance, opening, unquoted, endField, separates.1, separates.2]

theorem run_last_cell (s : Scan) (field text : List UInt8) (ending : UInt8)
    (mode : s.mode = .recordStart ∧ text ≠ [] ∨ s.mode = .fieldStart) (empty : s.bytes = [])
    (separates : Separates delimiter) (ends : endsLine ending = true)
    (spelled : Spelled delimiter field text) :
    run delimiter s (text ++ [ending]) =
      ⟨.recordStart, (s.fields.reverse ++ [field]) :: s.records, [], []⟩ := by
  have notDelimiter : ending ≠ delimiter := by
    rintro rfl
    simp [separates.2] at ends
  have notQuote : ending ≠ quote := by
    rintro rfl
    simp [show endsLine quote = false by decide] at ends
  obtain ⟨after, ran, place⟩ := run_spelled delimiter s field text
    (mode.imp_left And.left) empty spelled
  have outside : after = .bare ∨ after = .closing ∨ after = .fieldStart := by
    rcases place with bare | closing | ⟨nothing, same⟩
    · exact .inl bare
    · exact .inr (.inl closing)
    · rcases mode with ⟨_, something⟩ | start
      · exact absurd nothing something
      · exact .inr (.inr (same.trans start))
  rw [run_append, ran]
  rcases outside with rfl | rfl | rfl <;>
    simp [advance, opening, unquoted, endRecord, notDelimiter, notQuote, ends]

theorem run_joined (s : Scan) (fields texts : List (List UInt8)) (ending : UInt8)
    (mode : s.mode = .recordStart ∧ [delimiter].intercalate texts ≠ [] ∨ s.mode = .fieldStart)
    (empty : s.bytes = []) (separates : Separates delimiter) (ends : endsLine ending = true)
    (cells : fields ≠ []) (spelled : SpelledRecord delimiter fields texts) :
    run delimiter s ([delimiter].intercalate texts ++ [ending]) =
      ⟨.recordStart, (s.fields.reverse ++ fields) :: s.records, [], []⟩ := by
  induction spelled generalizing s with
  | nil => exact absurd rfl cells
  | @cons field text others rest first spelledRest ih =>
    cases spelledRest with
    | nil =>
      have single : [delimiter].intercalate [text] = text := by simp [List.intercalate]
      rw [single] at mode ⊢
      exact run_last_cell delimiter s field text ending mode empty separates ends first
    | @cons second secondText moreFields moreTexts secondSpelled moreSpelled =>
      have start : s.mode = .recordStart ∨ s.mode = .fieldStart := mode.imp_left And.left
      rw [joined_cons, List.append_assoc, run_append,
        run_cell delimiter s field text start empty separates first,
        ih _ (.inr rfl) rfl (by simp)]
      simp

theorem finish_joined (records : List (List (List UInt8))) (fields texts : List (List UInt8))
    (something : [delimiter].intercalate texts ≠ []) (separates : Separates delimiter)
    (cells : fields ≠ []) (spelled : SpelledRecord delimiter fields texts) :
    (run delimiter ⟨.recordStart, records, [], []⟩ ([delimiter].intercalate texts)).finish =
      records.reverse ++ [fields] := by
  have feed : endsLine lineFeed = true := by decide
  have ended := run_joined delimiter ⟨.recordStart, records, [], []⟩ fields texts lineFeed
    (.inl ⟨rfl, something⟩) rfl separates feed cells spelled
  rw [run_append, run_cons, run_nil] at ended
  have other : delimiter ≠ lineFeed := by
    intro same
    simp [separates.2, ← same] at feed
  have outside : (run delimiter ⟨.recordStart, records, [], []⟩
      ([delimiter].intercalate texts)).mode ≠ .quoted := by
    intro quoting
    have inside : (advance delimiter (run delimiter ⟨.recordStart, records, [], []⟩
        ([delimiter].intercalate texts)) lineFeed).mode = .quoted := by
      simp [advance, quoting, keep, show lineFeed ≠ quote by decide]
    rw [ended] at inside
    cases inside
  rw [← finish_lineFeed delimiter _ other outside, ended]
  simp [finish]

end Scan

end PlotTables.Delimited
