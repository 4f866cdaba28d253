import PlotTables.Proofs.Delimited.RoundTrip
import PlotTables.Proofs.Sequence
import PlotTables.Table

set_option autoImplicit false

namespace PlotTables.Table

open Delimited Utf8

def BeginsWithMark (text : String) : Prop := text.toList.head? = some (Char.ofNat 0xFEFF)

def IsBare (text : String) : Prop :=
  ∀ c ∈ text.toList, c ≠ '\t' ∧ c ≠ '"' ∧ c ≠ '\r' ∧ c ≠ '\n'

theorem needsQuotes_iff (field : List UInt8) :
    needsQuotes field = false ↔
      tab ∉ field ∧ quote ∉ field ∧ carriageReturn ∉ field ∧ lineFeed ∉ field := by
  simp only [needsQuotes, endsLine, List.any_eq_false, Bool.or_eq_true, beq_iff_eq, not_or]
  constructor
  next =>
    intro plain
    refine ⟨fun member => ?_, fun member => ?_, fun member => ?_, fun member => ?_⟩ <;>
      simpa using plain _ member
  next =>
    rintro ⟨noTab, noQuote, noReturn, noFeed⟩ b member
    refine ⟨⟨?_, ?_⟩, ?_, ?_⟩ <;> rintro rfl <;> contradiction

theorem needsQuotes_encode (text : String) : needsQuotes (encode text) = false ↔ IsBare text := by
  rw [needsQuotes_iff, mem_encode_ascii text tab (by decide), mem_encode_ascii text quote (by decide),
    mem_encode_ascii text carriageReturn (by decide), mem_encode_ascii text lineFeed (by decide)]
  change '\t' ∉ text.toList ∧ '"' ∉ text.toList ∧ '\r' ∉ text.toList ∧ '\n' ∉ text.toList ↔ _
  constructor
  next =>
    rintro ⟨noTab, noQuote, noReturn, noFeed⟩ c member
    refine ⟨?_, ?_, ?_, ?_⟩ <;> rintro rfl <;> contradiction
  next =>
    intro bare
    refine ⟨fun member => ?_, fun member => ?_, fun member => ?_, fun member => ?_⟩ <;>
      simpa using bare _ member

theorem mark_encode (text : String) : mark <+: encode text ↔ BeginsWithMark text := by
  constructor
  next =>
    rintro ⟨rest, split⟩
    obtain ⟨tail, shape, _⟩ := mark_prefix_encode text rest split.symm
    rw [BeginsWithMark, shape, List.head?_cons]
  next =>
    intro begins
    rw [BeginsWithMark] at begins
    cases shape : text.toList with
    | nil => simp [shape] at begins
    | cons c tail =>
      rw [shape, List.head?_cons] at begins
      cases begins
      rw [encode, shape, List.flatMap_cons]
      exact ⟨tail.flatMap encodeChar, rfl⟩

theorem decodeFrom_encode (place : Place) (index : Nat) (texts : List String) :
    RawRecord.decodeFrom place index (texts.map encode) = .ok texts := by
  induction texts generalizing index with
  | nil => rfl
  | cons text rest ih => simp [RawRecord.decodeFrom, decode_encode, ih, Except.map]

theorem decode_encoded (record : RawRecord) (texts : List String)
    (fields : record.fields = texts.map encode) : record.decode = .ok texts := by
  rw [RawRecord.decode, fields, decodeFrom_encode]

theorem decodeWidth_encoded (records : List RawRecord) (rows : List (List String)) (width : Nat)
    (fields : records.map RawRecord.fields = rows.map (List.map encode))
    (wide : ∀ row ∈ rows, row.length = width) :
    records.mapM (RawRecord.decodeWidth width) = .ok rows := by
  induction records generalizing rows with
  | nil =>
    obtain rfl : rows = [] := by simpa using fields.symm
    rfl
  | cons record others ih =>
    cases rows with
    | nil => simp at fields
    | cons row rest =>
      simp only [List.map_cons, List.cons.injEq] at fields
      have decoded : record.decodeWidth width = .ok row := by
        rw [RawRecord.decodeWidth, fields.1, List.length_map, if_pos (wide row (by simp))]
        exact decode_encoded record row fields.1
      rw [List.mapM_cons, decoded, ih rest fields.2 fun other member => wide other (by simp [member])]
      rfl

theorem ofRows_rectangular (t : Table) : ofRows t.headers t.rows = .ok t := by
  unfold ofRows
  split
  next row unequal =>
    have different := List.find?_some unequal
    simp [t.rectangular row (List.mem_of_find?_eq_some unequal)] at different
  next => rfl

theorem read_of_fields (content : List UInt8) (t : Table)
    (fields : (rawRecords tab content).map RawRecord.fields =
      (t.headers :: t.rows).map (List.map encode)) :
    read content = .ok t := by
  rw [read]
  cases records : rawRecords tab content with
  | nil => simp [records] at fields
  | cons first rest =>
    rw [records, List.map_cons, List.map_cons, List.cons.injEq] at fields
    simp only [decode_encoded first t.headers fields.1, Except.mapError, bind, Except.bind,
      decodeWidth_encoded rest t.rows t.headers.length fields.2 t.rectangular]
    exact ofRows_rectangular t

theorem read_ok (content : List UInt8) (t : Table) (loaded : read content = .ok t) :
    ∃ first rest, rawRecords tab content = first :: rest ∧ first.decode = .ok t.headers ∧
      rest.mapM (RawRecord.decodeWidth t.headers.length) = .ok t.rows := by
  rw [read] at loaded
  cases records : rawRecords tab content with
  | nil => simp [records] at loaded
  | cons first rest =>
    simp only [records] at loaded
    refine ⟨first, rest, rfl, ?_⟩
    obtain ⟨names, headers, loaded⟩ := (bind_ok _ _ _).mp loaded
    obtain ⟨cells, rows, loaded⟩ := (bind_ok _ _ _).mp loaded
    rw [mapError_ok] at headers rows
    unfold ofRows at loaded
    split at loaded
    next => cases loaded
    next =>
      cases loaded
      exact ⟨headers, rows⟩

def encoded (t : Table) : List (List (List UInt8)) := (t.headers :: t.rows).map (List.map encode)

theorem write_encoded (t : Table) : t.write = t.encoded.flatMap writeRecord := by
  rw [write, Delimited.write, encoded, List.flatMap_map]

theorem scan_records (records : List (List (List UInt8))) :
    (Scan.start.run tab (records.flatMap writeRecord)).finish = records.map asRead := by
  rw [Scan.start, run_writeRecords]
  simp [Scan.finish]

theorem some_cell (t : Table) (columns : t.headers ≠ []) :
    ∀ record ∈ t.headers :: t.rows, record ≠ [] := by
  intro record member
  rcases List.mem_cons.mp member with rfl | row
  · exact columns
  · rintro rfl
    exact columns (List.eq_nil_of_length_eq_zero (t.rectangular [] row).symm)

theorem encoded_asRead (t : Table) (columns : t.headers ≠ []) :
    t.encoded.map asRead = t.encoded := by
  conv_rhs => rw [← List.map_id t.encoded]
  apply List.map_congr_left
  intro fields member
  obtain ⟨row, inTable, rfl⟩ := List.mem_map.mp member
  -- Only a record of no fields is read as another one.
  simp [asRead, t.some_cell columns row inTable]

theorem read_write (t : Table) (columns : t.headers ≠ [])
    (unmarked : ∀ first, t.headers.head? = some first → BeginsWithMark first → ¬IsBare first) :
    read t.write = .ok t := by
  have kept : withoutMark t.write = t.write := by
    rw [withoutMark]
    split
    next marked =>
      cases headers : t.headers with
      | nil => exact absurd headers columns
      | cons first names =>
        rw [List.isPrefixOf_iff_prefix, write_encoded, encoded, headers, List.map_cons,
          List.flatMap_cons, List.map_cons] at marked
        obtain ⟨begins, bare⟩ := mark_writeRecord _ _ _ marked
        rw [mark_encode] at begins
        rw [needsQuotes_encode] at bare
        exact absurd bare (unmarked first (by rw [headers]; rfl) begins)
    next => rfl
  apply read_of_fields
  rw [rawRecords_fields, kept, write_encoded, scan_records, encoded_asRead t columns]
  rfl

theorem headers_of_read (content : List UInt8) (t : Table) (texts : List String)
    (others : List (List (List UInt8))) (loaded : read content = .ok t)
    (fields : (rawRecords tab content).map RawRecord.fields = texts.map encode :: others) :
    t.headers = texts ∧ t.rows.length = others.length := by
  obtain ⟨first, rest, records, decoded, rows⟩ := read_ok content t loaded
  rw [records, List.map_cons, List.cons.injEq] at fields
  rw [decode_encoded first texts fields.1] at decoded
  refine ⟨(Except.ok.inj decoded).symm, ?_⟩
  rw [mapM_length _ _ _ rows, ← fields.2, List.length_map]

theorem read_write_no_columns (t : Table) (none' : t.headers = []) : read t.write ≠ .ok t := by
  intro loaded
  have kept : withoutMark t.write = t.write := by
    rw [write_encoded, encoded, none']
    rfl
  have fields : (rawRecords tab t.write).map RawRecord.fields =
      [""].map encode :: (t.rows.map (List.map encode)).map asRead := by
    rw [rawRecords_fields, kept, write_encoded, scan_records, encoded, none']
    rfl
  have headers := (headers_of_read t.write t _ _ loaded fields).1
  rw [none'] at headers
  cases headers

theorem withoutMark_write (t : Table) (first : String) (names : List String) (rest : List Char)
    (headers : t.headers = first :: names) (shape : first.toList = Char.ofNat 0xFEFF :: rest)
    (bare : IsBare first) :
    withoutMark t.write =
      (if rest = [] ∧ names = [] then [lineFeed]
        else writeRecord ((String.ofList rest :: names).map encode)) ++
      (t.rows.map (List.map encode)).flatMap writeRecord := by
  have front : encode first = mark ++ encode (String.ofList rest) := by
    rw [encode, shape, List.flatMap_cons, encode, String.toList_ofList]
    rfl
  have plain := (needsQuotes_encode first).mpr bare
  rw [front] at plain
  rw [write_encoded, encoded, headers, List.map_cons, List.flatMap_cons, List.map_cons, front,
    writeRecord_marked _ _ plain, List.append_assoc, withoutMark, if_pos (by simp),
    List.drop_left]
  simp only [List.map_eq_nil_iff, encode_eq_nil, String.toList_ofList, List.map_cons]

theorem read_write_marked (t : Table) (first : String) (headers : t.headers.head? = some first)
    (begins : BeginsWithMark first) (bare : IsBare first) : read t.write ≠ .ok t := by
  intro loaded
  obtain ⟨names, shown⟩ : ∃ names, t.headers = first :: names := by
    cases columns : t.headers with
    | nil => simp [columns] at headers
    | cons other names => exact ⟨names, by simpa [columns] using headers⟩
  obtain ⟨rest, shape⟩ : ∃ rest, first.toList = Char.ofNat 0xFEFF :: rest := by
    rw [BeginsWithMark] at begins
    cases chars : first.toList with
    | nil => simp [chars] at begins
    | cons c rest => exact ⟨rest, by simpa [chars] using begins⟩
  have stripped := withoutMark_write t first names rest shown shape bare
  by_cases alone : rest = [] ∧ names = []
  next =>
    -- The line of the header is empty and skipped, so that a row is missing.
    rw [if_pos alone] at stripped
    have fields : (rawRecords tab t.write).map RawRecord.fields =
        (t.rows.map (List.map encode)).map asRead := by
      rw [rawRecords_fields, stripped, Scan.run_append]
      exact scan_records (t.rows.map (List.map encode))
    obtain ⟨record, others, records, _, rows⟩ := read_ok t.write t loaded
    have count := mapM_length _ _ _ rows
    have lengths := congrArg List.length fields
    simp only [records, List.length_map, List.length_cons] at lengths
    omega
  next =>
    rw [if_neg alone] at stripped
    have fields : (rawRecords tab t.write).map RawRecord.fields =
        (String.ofList rest :: names).map encode :: (t.rows.map (List.map encode)).map asRead := by
      rw [rawRecords_fields, stripped, ← List.flatMap_cons, scan_records]
      rfl
    have other := (headers_of_read t.write t _ _ loaded fields).1
    rw [shown, List.cons.injEq] at other
    have shorter := congrArg String.toList other.1
    rw [shape, String.toList_ofList] at shorter
    exact absurd shorter (by simp)

theorem read_write_iff (t : Table) :
    read t.write = .ok t ↔ t.headers ≠ [] ∧
      ¬∃ first, t.headers.head? = some first ∧ BeginsWithMark first ∧ IsBare first := by
  constructor
  next =>
    intro survives
    refine ⟨fun none' => read_write_no_columns t none' survives, ?_⟩
    rintro ⟨first, headers, begins, bare⟩
    exact read_write_marked t first headers begins bare survives
  next =>
    rintro ⟨columns, unmarked⟩
    exact read_write t columns fun first headers begins bare =>
      unmarked ⟨first, headers, begins, bare⟩

end PlotTables.Table
