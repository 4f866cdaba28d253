import PlotTables.Proofs.Delimited.Scan
import PlotTables.Proofs.Text.Encoding

set_option autoImplicit false

namespace PlotTables.Delimited

open Utf8

namespace Scan

structure Readable (s : Scan) : Prop where
  bytes : IsText s.bytes.reverse
  fields : ∀ field ∈ s.fields, IsText field
  records : ∀ record ∈ s.records, ∀ field ∈ record, IsText field

variable (delimiter : UInt8) (s : Scan) (b : UInt8)

section Readable

variable (readable : s.Readable)

include readable

theorem Readable.inMode (mode : Mode) : Readable { s with mode := mode } :=
  ⟨readable.bytes, readable.fields, readable.records⟩

theorem Readable.keep (mode : Mode) (low : b.toNat < 0x80) : (s.keep mode b).Readable := by
  refine ⟨?_, readable.fields, readable.records⟩
  change IsText (b :: s.bytes).reverse
  rw [List.reverse_cons]
  exact readable.bytes.append _ _ (IsText.ascii b low)

theorem Readable.endField : s.endField.Readable := by
  refine ⟨⟨"", rfl⟩, ?_, readable.records⟩
  intro field member
  rcases List.mem_cons.mp member with rfl | before
  · exact readable.bytes
  · exact readable.fields field before

theorem Readable.endRecord : s.endRecord.Readable := by
  refine ⟨⟨"", rfl⟩, by simp [Scan.endRecord], ?_⟩
  intro record member
  rcases List.mem_cons.mp member with rfl | before
  · intro field inside
    exact readable.endField.fields field (List.mem_reverse.mp inside)
  · exact readable.records record before

theorem Readable.unquoted (low : b.toNat < 0x80) : (s.unquoted delimiter b).Readable := by
  unfold Scan.unquoted
  split
  next => exact readable.endField
  next =>
    split
    next => exact readable.endRecord
    next => exact readable.keep _ _ .bare low

theorem Readable.opening (low : b.toNat < 0x80) : (s.opening delimiter b).Readable := by
  unfold Scan.opening
  split
  next => exact readable.inMode _ .quoted
  next => exact readable.unquoted _ _ _ low

theorem Readable.advance (low : b.toNat < 0x80) : (s.advance delimiter b).Readable := by
  unfold Scan.advance
  split
  next =>
    split
    next => exact readable.inMode _ .closing
    next => exact readable.keep _ _ .quoted low
  next =>
    split
    next => exact readable.keep _ _ .quoted low
    next => exact readable.unquoted _ _ _ low
  next => exact readable.unquoted _ _ _ low
  next => exact readable.opening _ _ _ low
  next =>
    split
    next => exact readable
    next => exact readable.opening _ _ _ low

end Readable

theorem advance_high (ascii : delimiter.toNat < 0x80) (high : 0x80 ≤ b.toNat) :
    ∃ mode, s.advance delimiter b = s.keep mode b := by
  have noDelimiter : b ≠ delimiter := by
    rintro rfl
    omega
  have noQuote : b ≠ quote := by
    rintro rfl
    exact absurd high (by decide)
  have noEnd : endsLine b = false := by
    simp only [endsLine, Bool.or_eq_false_iff, beq_eq_false_iff_ne]
    constructor <;> rintro rfl <;> exact absurd high (by decide)
  cases place : s.mode with
  | recordStart =>
    exact ⟨.bare, by simp [advance, place, opening, unquoted, noDelimiter, noQuote, noEnd]⟩
  | fieldStart =>
    exact ⟨.bare, by simp [advance, place, opening, unquoted, noDelimiter, noQuote, noEnd]⟩
  | bare => exact ⟨.bare, by simp [advance, place, unquoted, noDelimiter, noEnd]⟩
  | quoted => exact ⟨.quoted, by simp [advance, place, noQuote]⟩
  | closing => exact ⟨.bare, by simp [advance, place, unquoted, noDelimiter, noQuote, noEnd]⟩

theorem run_high (ascii : delimiter.toNat < 0x80) (bytes : List UInt8)
    (high : ∀ b ∈ bytes, 0x80 ≤ b.toNat) :
    ∃ mode, s.run delimiter bytes = { s with mode := mode, bytes := bytes.reverse ++ s.bytes } := by
  induction bytes generalizing s with
  | nil => exact ⟨s.mode, rfl⟩
  | cons b rest ih =>
    obtain ⟨mode, first⟩ := advance_high delimiter s b ascii (high b (by simp))
    obtain ⟨last, later⟩ := ih (s.keep mode b) fun other member => high other (by simp [member])
    exact ⟨last, by rw [run_cons, first, later]; simp [keep]⟩

theorem Readable.run_char (ascii : delimiter.toNat < 0x80) (readable : s.Readable) (c : Char) :
    (s.run delimiter (encodeChar c)).Readable := by
  -- The bytes of a longer character have no meaning between fields, so they stay together.
  by_cases high : 0x80 ≤ c.toNat
  next =>
    obtain ⟨mode, kept⟩ := s.run_high delimiter ascii (encodeChar c) (encodeChar_high c high)
    rw [kept]
    refine ⟨?_, readable.fields, readable.records⟩
    rw [List.reverse_append, List.reverse_reverse]
    exact readable.bytes.append _ _ ⟨String.ofList [c], by simp [encode]⟩
  next =>
    have low : c.toNat < 0x80 := Nat.lt_of_not_le high
    have single : encodeChar c = [byte c.toNat] := by rw [encodeChar, if_pos low]
    rw [single]
    exact readable.advance _ _ _ (by rwa [byte_toNat _ (by omega)])

theorem Readable.run_text (ascii : delimiter.toNat < 0x80) (readable : s.Readable)
    (text : List Char) : (s.run delimiter (text.flatMap encodeChar)).Readable := by
  induction text generalizing s with
  | nil => exact readable
  | cons c rest ih =>
    rw [List.flatMap_cons, run_append]
    exact ih _ (readable.run_char delimiter s ascii c)

theorem Readable.finish (readable : s.Readable) :
    ∀ record ∈ s.finish, ∀ field ∈ record, IsText field := by
  intro record member
  unfold Scan.finish at member
  split at member
  · exact readable.records record (List.mem_reverse.mp member)
  · exact readable.endRecord.records record (List.mem_reverse.mp member)

end Scan

theorem withoutMark_encode (text : String) : ∃ rest, withoutMark (encode text) = encode rest := by
  unfold withoutMark
  split
  next marked =>
    obtain ⟨rest, split⟩ := List.isPrefixOf_iff_prefix.mp marked
    obtain ⟨tail, _, shape⟩ := mark_prefix_encode text rest split.symm
    refine ⟨String.ofList tail, ?_⟩
    rw [← split, List.drop_left, shape, encode, String.toList_ofList]
  next => exact ⟨text, rfl⟩

theorem rawRecords_readable (delimiter : UInt8) (ascii : delimiter.toNat < 0x80) (text : String) :
    ∀ record ∈ rawRecords delimiter (encode text), ∀ field ∈ record.fields, IsText field := by
  intro record member
  have inside : record.fields ∈ (rawRecords delimiter (encode text)).map RawRecord.fields :=
    List.mem_map_of_mem member
  obtain ⟨rest, kept⟩ := withoutMark_encode text
  rw [rawRecords_fields, kept] at inside
  have start : Scan.start.Readable := ⟨⟨"", rfl⟩, by simp [Scan.start], by simp [Scan.start]⟩
  exact (start.run_text delimiter _ ascii rest.toList).finish _ _ inside

theorem exists_texts (fields : List (List UInt8)) (readable : ∀ field ∈ fields, IsText field) :
    ∃ texts : List String, fields = texts.map encode := by
  induction fields with
  | nil => exact ⟨[], rfl⟩
  | cons field rest ih =>
    obtain ⟨text, rfl⟩ := readable field (by simp)
    obtain ⟨texts, rfl⟩ := ih fun other member => readable other (by simp [member])
    exact ⟨text :: texts, rfl⟩

end PlotTables.Delimited
