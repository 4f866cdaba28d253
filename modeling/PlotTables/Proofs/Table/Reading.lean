import PlotTables.Proofs.Delimited.Readable
import PlotTables.Proofs.Table.RoundTrip

set_option autoImplicit false

namespace PlotTables

open Delimited Utf8

namespace Delimited.RawRecord

theorem decodeFrom_length (place : Place) (index : Nat) (fields : List (List UInt8))
    (texts : List String) (decoded : decodeFrom place index fields = .ok texts) :
    texts.length = fields.length := by
  induction fields generalizing index texts with
  | nil =>
    cases decoded
    rfl
  | cons field rest ih =>
    rw [decodeFrom] at decoded
    split at decoded
    next text _ =>
      cases more : decodeFrom place (index + 1) rest with
      | error fault =>
        rw [more] at decoded
        cases decoded
      | ok others =>
        rw [more] at decoded
        cases decoded
        rw [List.length_cons, List.length_cons, ih (index + 1) others more]
    next => cases decoded

theorem decode_readable (record : RawRecord) (readable : ∀ field ∈ record.fields, IsText field) :
    ∃ texts, record.decode = .ok texts := by
  obtain ⟨texts, fields⟩ := exists_texts record.fields readable
  exact ⟨texts, Table.decode_encoded record texts fields⟩

theorem decodeWidth_ok (record : RawRecord) (width : Nat) (texts : List String)
    (decoded : record.decodeWidth width = .ok texts) :
    record.fields.length = width ∧ texts.length = width := by
  unfold decodeWidth at decoded
  split at decoded
  next same => exact ⟨same, same ▸ decodeFrom_length _ _ _ _ decoded⟩
  next => cases decoded

end Delimited.RawRecord

namespace Table

/-- The first thing that keeps records from being a table. -/
inductive ReadFault : List RawRecord → Failure → Prop where
  | noHeader : ReadFault [] .noHeader
  | header (first : RawRecord) (rest : List RawRecord) (fault : RecordFault)
      (refused : first.decode = .error fault) : ReadFault (first :: rest) (.records fault)
  | record (first : RawRecord) (rest : List RawRecord) (names : List String) (position : Nat)
      (bad : RawRecord) (fault : RecordFault) (named : first.decode = .ok names)
      (there : rest[position]? = some bad) (refused : bad.decodeWidth names.length = .error fault)
      (before : ∀ (earlier : Nat) (other : RawRecord), earlier < position →
        rest[earlier]? = some other → ∃ row, other.decodeWidth names.length = .ok row) :
      ReadFault (first :: rest) (.records fault)

theorem ofRows_of_wide (headers : List String) (rows : List (List String))
    (wide : ∀ row ∈ rows, row.length = headers.length) :
    ∃ t, ofRows headers rows = .ok t ∧ t.headers = headers ∧ t.rows = rows :=
  ⟨⟨headers, rows, wide⟩, ofRows_rectangular ⟨headers, rows, wide⟩, rfl, rfl⟩

theorem decoded_wide (records : List RawRecord) (width : Nat) (rows : List (List String))
    (decoded : records.mapM (RawRecord.decodeWidth width) = .ok rows) :
    ∀ row ∈ rows, row.length = width := by
  intro row member
  obtain ⟨record, _, one⟩ := mapM_member _ _ _ decoded row member
  exact (record.decodeWidth_ok width row one).2

theorem read_error (content : List UInt8) (failure : Failure) :
    read content = .error failure ↔ ReadFault (rawRecords tab content) failure := by
  rw [read]
  generalize rawRecords tab content = records
  cases records with
  | nil =>
    constructor
    next =>
      intro failed
      cases failed
      exact .noHeader
    next =>
      intro fault
      cases fault
      rfl
  | cons first rest =>
    simp only [bind_error, mapError_error, mapError_ok]
    constructor
    next =>
      rintro (⟨fault, refused, rfl⟩ | ⟨names, named, later⟩)
      · exact .header first rest fault refused
      · rcases later with ⟨fault, refused, rfl⟩ | ⟨rows, decoded, failed⟩
        · obtain ⟨position, bad, there, fails, before⟩ := (mapM_error _ _ _).mp refused
          exact .record first rest names position bad fault named there fails before
        -- The finished rows have been measured one by one.
        · obtain ⟨t, made, _⟩ := ofRows_of_wide names rows (decoded_wide rest _ rows decoded)
          rw [made] at failed
          cases failed
    next =>
      intro fault
      cases fault with
      | header _ _ fault refused => exact .inl ⟨fault, refused, rfl⟩
      | record _ _ names position bad fault named there refused before =>
        exact .inr ⟨names, named, .inl ⟨fault,
          (mapM_error _ _ _).mpr ⟨position, bad, there, refused, before⟩, rfl⟩⟩

theorem read_ne_dimensionMismatch (content : List UInt8) (expected actual : Nat) :
    read content ≠ .error (.dimensionMismatch expected actual) := by
  rw [Ne, read_error]
  generalize rawRecords tab content = records
  intro fault
  cases fault

theorem headers_ne_nil (content : List UInt8) (t : Table) (loaded : read content = .ok t) :
    t.headers ≠ [] := by
  intro unnamed
  obtain ⟨first, rest, records, decoded, _⟩ := read_ok content t loaded
  have width := RawRecord.decodeFrom_length _ _ _ _ decoded
  rw [unnamed, List.length_nil] at width
  exact rawRecords_ne_nil tab content first (by simp [records])
    (List.eq_nil_of_length_eq_zero width.symm)

structure FirstRagged (first : RawRecord) (rest : List RawRecord) (position : Nat)
    (bad : RawRecord) : Prop where
  there : rest[position]? = some bad
  unequal : bad.fields.length ≠ first.fields.length
  before : ∀ (earlier : Nat) (other : RawRecord), earlier < position →
    rest[earlier]? = some other → other.fields.length = first.fields.length

section Ragged

variable (first : RawRecord) (rest : List RawRecord)
  (ragged : ∃ record ∈ rest, record.fields.length ≠ first.fields.length)

include ragged

theorem read_ragged (content : List UInt8) (records : rawRecords tab content = first :: rest) :
    ∃ fault, read content = .error (.records fault) := by
  cases result : read content with
  | ok t =>
    obtain ⟨record, member, unequal⟩ := ragged
    obtain ⟨_, _, shape, headers, rows⟩ := read_ok content t result
    rw [records] at shape
    cases shape
    obtain ⟨row, one⟩ := mapM_each _ _ _ rows record member
    have same := (record.decodeWidth_ok _ row one).1
    exact absurd (same.trans (RawRecord.decodeFrom_length _ _ _ _ headers)) unequal
  | error failure =>
    rw [read_error, records] at result
    cases result with
    | header _ _ fault _ => exact ⟨fault, rfl⟩
    | record _ _ _ _ _ fault _ _ _ _ => exact ⟨fault, rfl⟩

theorem read_ragged_text (text : String)
    (records : rawRecords tab (encode text) = first :: rest) :
    ∃ position bad, FirstRagged first rest position bad ∧ read (encode text) =
      .error (.records (.unequalWidth bad.place bad.fields.length first.fields.length)) := by
  have readable := rawRecords_readable tab (by decide) text
  rw [records] at readable
  obtain ⟨fault, refused⟩ := read_ragged first rest ragged (encode text) records
  have why := (read_error _ _).mp refused
  rw [records] at why
  cases why with
  | header _ _ fault refused =>
    obtain ⟨names, named⟩ := first.decode_readable (readable first (by simp))
    rw [named] at refused
    cases refused
  | record _ _ names position bad fault named there fails before =>
    have width : names.length = first.fields.length := RawRecord.decodeFrom_length _ _ _ _ named
    rw [width] at fails before
    obtain ⟨texts, decoded⟩ := bad.decode_readable
      (readable bad (List.mem_cons_of_mem _ (List.mem_of_getElem? there)))
    unfold RawRecord.decodeWidth at fails
    split at fails
    next =>
      rw [decoded] at fails
      cases fails
    next unequal =>
      cases fails
      refine ⟨position, bad, ⟨there, unequal, ?_⟩, refused⟩
      intro earlier other less found
      obtain ⟨row, one⟩ := before earlier other less found
      exact (other.decodeWidth_ok _ row one).1

end Ragged

end Table

end PlotTables
