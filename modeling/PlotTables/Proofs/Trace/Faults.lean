import PlotTables.Proofs.Count.Completeness
import PlotTables.Proofs.Table.Reading
import PlotTables.Proofs.Text.Decoding
import PlotTables.Proofs.Trace.Lines

set_option autoImplicit false

namespace PlotTables

open Delimited Utf8

theorem TraceFormat.countOfCells_error (format : TraceFormat) (row : Nat) (cells : List String)
    (failure : Failure) : format.countOfCells row cells = .error failure ↔
      ∃ cell, cells.find? format.isMarked = some cell ∧
        ¬Count.PlainWord (trimBlanks (format.valueOf cell).toList) ∧
        failure = .invalidCount (format.valueOf cell) row format.marker := by
  rw [countOfCells]
  cases cells.find? format.isMarked with
  | none => simp
  | some cell => simp [Count.parseWord_error]

namespace Trace

theorem exists_ending (line : List UInt8) :
    ∃ ending, line = withoutEnd line ++ ending ∧ ∀ b ∈ ending, b.toNat < 0x80 := by
  unfold withoutEnd
  split
  next rest shape =>
    obtain rfl : line = rest.reverse ++ [13, 10] := by simpa using congrArg List.reverse shape
    exact ⟨[13, 10], rfl, by simp⟩
  next rest _ shape =>
    obtain rfl : line = rest.reverse ++ [10] := by simpa using congrArg List.reverse shape
    exact ⟨[10], rfl, by simp⟩
  next => exact ⟨[], by simp, by simp⟩

theorem isText_withoutEnd (line : List UInt8) : IsText (withoutEnd line) ↔ IsText line := by
  obtain ⟨ending, shape, low⟩ := exists_ending line
  have same := isText_append_ascii (withoutEnd line) ending low
  rw [← shape] at same
  exact same.symm

/-- The cells of the only record of a line that counts. -/
def FirstCells (delimiter : UInt8) (line : List UInt8) (cells : List String) : Prop :=
  ∃ record rest, rawRecords delimiter (withoutEnd line) = record :: rest ∧
    record.fields = cells.map encode

theorem FirstCells.unique (delimiter : UInt8) (line : List UInt8) (cells others : List String)
    (first : FirstCells delimiter line cells) (second : FirstCells delimiter line others) :
    cells = others := by
  obtain ⟨record, rest, shape, fields⟩ := first
  obtain ⟨_, _, again, otherFields⟩ := second
  rw [shape] at again
  cases again
  have decoded := Table.decode_encoded record cells fields
  rw [Table.decode_encoded record others otherFields] at decoded
  cases decoded
  rfl

inductive LineFault (format : TraceFormat) (row : Nat) (line : List UInt8) : Failure → Prop
  | notUtf8 (broken : ¬IsText line) : LineFault format row line .lineNotUtf8
  | badCount (cells : List String) (cell : String) (valid : IsText line)
      (first : FirstCells format.delimiter line cells)
      (marked : cells.find? format.isMarked = some cell)
      (bad : ¬Count.PlainWord (trimBlanks (format.valueOf cell).toList)) :
      LineFault format row line (.invalidCount (format.valueOf cell) row format.marker)

def FirstFault (format : TraceFormat) (items : List (List UInt8)) (failure : Failure) : Prop :=
  ∃ row line, items[row]? = some line ∧ LineFault format row line failure ∧
    ∀ earlier other, earlier < row → items[earlier]? = some other →
      ∀ refused, ¬LineFault format earlier other refused

section Faults

variable (format : TraceFormat) (ascii : format.delimiter.toNat < 128)

include ascii

theorem countOfLine_text (row : Nat) (line : List UInt8) (valid : IsText line) :
    (∃ cells, FirstCells format.delimiter line cells ∧
      countOfLine format row line = format.countOfCells row cells) ∨
    rawRecords format.delimiter (withoutEnd line) = [] ∧ countOfLine format row line = .ok 0 := by
  have inside := (isText_withoutEnd line).mpr valid
  have decodes := (isText_iff _).mp inside
  obtain ⟨text, written⟩ := inside
  have readable := rawRecords_readable format.delimiter ascii text
  rw [written] at readable
  simp only [countOfLine, decodes, Bool.false_eq_true, if_false]
  cases shape : rawRecords format.delimiter (withoutEnd line) with
  | nil => exact .inr ⟨rfl, rfl⟩
  | cons record rest =>
    rw [shape] at readable
    obtain ⟨cells, fields⟩ := exists_texts record.fields (readable record (by simp))
    refine .inl ⟨cells, ⟨record, rest, shape, fields⟩, ?_⟩
    simp only [Table.decode_encoded record cells fields]

theorem countOfLine_error (row : Nat) (line : List UInt8) (failure : Failure) :
    countOfLine format row line = .error failure ↔ LineFault format row line failure := by
  by_cases valid : IsText line
  next =>
    rcases countOfLine_text format ascii row line valid with ⟨cells, first, same⟩ | ⟨nothing, same⟩
    next =>
      rw [same, TraceFormat.countOfCells_error]
      constructor
      next =>
        rintro ⟨cell, marked, bad, rfl⟩
        exact .badCount cells cell valid first marked bad
      next =>
        intro fault
        cases fault with
        | notUtf8 broken => exact absurd valid broken
        | badCount others cell _ again marked bad =>
          obtain rfl := first.unique format.delimiter line cells others again
          exact ⟨cell, marked, bad, rfl⟩
    next =>
      rw [same]
      constructor
      next =>
        intro failed
        cases failed
      next =>
        intro fault
        cases fault with
        | notUtf8 broken => exact absurd valid broken
        | badCount cells cell _ first =>
          obtain ⟨record, rest, shape, _⟩ := first
          rw [nothing] at shape
          cases shape
  next =>
    have broken : (decode? (withoutEnd line)).isNone = true := by
      rw [← isText_withoutEnd, isText_iff] at valid
      simpa using valid
    simp only [countOfLine, broken, if_true, Except.error.injEq]
    constructor
    next =>
      rintro rfl
      exact .notUtf8 valid
    next =>
      intro fault
      cases fault with
      | notUtf8 => rfl
      | badCount _ _ text => exact absurd text valid

theorem countOfLine_ok (row : Nat) (line : List UInt8) :
    (∃ count, countOfLine format row line = .ok count) ↔
      ∀ failure, ¬LineFault format row line failure := by
  simp only [← countOfLine_error format ascii]
  cases countOfLine format row line <;> simp

theorem counts_error (content : List UInt8) (failure : Failure) :
    counts format content = .error failure ↔ FirstFault format (lines content) failure := by
  rw [counts, mapM_error]
  constructor
  next =>
    rintro ⟨row, ⟨line, number⟩, there, fails, before⟩
    obtain ⟨there, same⟩ := (zipIdx_at _ _ _).mp there
    obtain rfl : number = row := same
    refine ⟨number, line, there, (countOfLine_error format ascii number line failure).mp fails, ?_⟩
    intro earlier other less found
    exact (countOfLine_ok format ascii earlier other).mp
      (before earlier (other, earlier) less ((zipIdx_at _ _ _).mpr ⟨found, rfl⟩))
  next =>
    rintro ⟨row, line, there, fault, before⟩
    refine ⟨row, (line, row), (zipIdx_at _ _ _).mpr ⟨there, rfl⟩,
      (countOfLine_error format ascii row line failure).mpr fault, ?_⟩
    rintro earlier ⟨other, number⟩ less found
    obtain ⟨found, same⟩ := (zipIdx_at _ _ _).mp found
    obtain rfl : number = earlier := same
    exact (countOfLine_ok format ascii number other).mpr (before number other less found)

theorem counts_ok (content : List UInt8) : (∃ found, counts format content = .ok found) ↔
    ∀ row line, (lines content)[row]? = some line →
      ∀ failure, ¬LineFault format row line failure := by
  constructor
  next =>
    rintro ⟨found, counted⟩ row line there
    obtain ⟨count, _, one⟩ :=
      mapM_at _ _ _ counted row (line, row) ((zipIdx_at _ _ _).mpr ⟨there, rfl⟩)
    exact (countOfLine_ok format ascii row line).mp ⟨count, one⟩
  next =>
    intro fine
    cases result : counts format content with
    | ok found => exact ⟨found, rfl⟩
    | error failure =>
      obtain ⟨row, line, there, fault, _⟩ := (counts_error format ascii content failure).mp result
      exact absurd fault (fine row line there failure)

theorem counts_faults (content : List UInt8) :
    ((∃ found, counts format content = .ok found) ↔
      ∀ row line, (lines content)[row]? = some line →
        ∀ failure, ¬LineFault format row line failure) ∧
    (∀ failure, counts format content = .error failure ↔
      FirstFault format (lines content) failure) ∧
    ∀ failure, counts format content = .error failure →
      failure = .lineNotUtf8 ∨ ∃ value row, failure = .invalidCount value row format.marker := by
  have refused := counts_error format ascii content
  refine ⟨counts_ok format ascii content, refused, ?_⟩
  intro failure failed
  obtain ⟨row, line, _, fault, _⟩ := (refused failure).mp failed
  cases fault with
  | notUtf8 => exact .inl rfl
  | badCount => exact .inr ⟨_, _, rfl⟩

end Faults

-- Where quotes or line feeds are delimiters, and the line after the first fault has another one.
theorem counts_faults_delimiters :
    (counts ⟨"Freq:", ':', quote⟩ (Utf8.encode "Freq:1\nx\"Freq: 2a \n" ++ [0xFF]) =
        .error (.invalidCount " 2a " 1 "Freq:") ∧
      FirstFault ⟨"Freq:", ':', quote⟩
        (lines (Utf8.encode "Freq:1\nx\"Freq: 2a \n" ++ [0xFF]))
        (.invalidCount " 2a " 1 "Freq:")) ∧
    FirstFault ⟨"Freq:", ':', lineFeed⟩ (lines ([0xED, 0xA0, 0x80] ++ Utf8.encode "\nFreq:x"))
      .lineNotUtf8 := by
  obtain ⟨_, quoted, _⟩ := counts_faults ⟨"Freq:", ':', quote⟩ (by decide)
    (Utf8.encode "Freq:1\nx\"Freq: 2a \n" ++ [0xFF])
  obtain ⟨_, broken, _⟩ := counts_faults ⟨"Freq:", ':', lineFeed⟩ (by decide)
    ([0xED, 0xA0, 0x80] ++ Utf8.encode "\nFreq:x")
  have failed : counts ⟨"Freq:", ':', quote⟩ (Utf8.encode "Freq:1\nx\"Freq: 2a \n" ++ [0xFF]) =
      .error (.invalidCount " 2a " 1 "Freq:") := by
    decide +kernel
  exact ⟨⟨failed, (quoted _).mp failed⟩, (broken _).mp (by decide +kernel)⟩

end Trace

end PlotTables
