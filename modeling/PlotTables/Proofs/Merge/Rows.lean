import PlotTables.Labeled
import PlotTables.Proofs.Table.Cells

set_option autoImplicit false

namespace PlotTables

namespace Table

structure Countable (t : Table) : Prop where
  identified : idColumn ∈ t.headers
  counted : countColumn ∈ t.headers
  counts : ∀ row, row < t.rowCount → ∃ count, t.ReadsCount row count

structure LabelsRow (t : Table) (label : String) (row : Nat) (labeled : LabeledRow) : Prop where
  id : t.cellUnder idColumn row = some labeled.id
  label : labeled.label = label
  count : t.ReadsCount row labeled.count

/-- The first thing that keeps a table from being labeled. -/
inductive LabelFault (t : Table) : Failure → Prop where
  | unidentified (absent : idColumn ∉ t.headers) : LabelFault t (.missingColumn idColumn)
  | uncounted (identified : idColumn ∈ t.headers) (absent : countColumn ∉ t.headers) :
      LabelFault t (.missingColumn countColumn)
  | badCount (row : Nat) (raw : String) (identified : idColumn ∈ t.headers)
      (there : t.cellUnder countColumn row = some raw) (refused : Count.read? raw.toList = none)
      (before : ∀ earlier, earlier < row → ∃ count, t.ReadsCount earlier count) :
      LabelFault t (.invalidCount raw row countColumn)

theorem columnIndex_error (t : Table) (name : String) (failure : Failure) :
    t.columnIndex name = .error failure ↔ name ∉ t.headers ∧ failure = .missingColumn name := by
  rw [columnIndex]
  cases named : t.headers.idxOf? name with
  | some column => simp [mem_of_named t.headers name column named]
  | none => simp [List.idxOf?_eq_none_iff.mp named, eq_comm]

section Counts

variable (t : Table) (column : Nat) (named : t.headers.idxOf? countColumn = some column)

include named

theorem columnCounts_named : t.columnCounts column =
    (t.columnCells column).zipIdx.mapM fun cell => Count.parse cell.1 cell.2 countColumn := by
  rw [columnCounts, headers_getD t countColumn column named]

theorem zipIdx_columnCells (row : Nat) (cell : String × Nat) :
    (t.columnCells column).zipIdx[row]? = some cell ↔
      t.cellUnder countColumn row = some cell.1 ∧ cell.2 = row := by
  rw [zipIdx_at, columnCells_at t countColumn column row named]

theorem columnCounts_at (counts : List UInt64) (done : t.columnCounts column = .ok counts)
    (row : Nat) (inside : row < t.rowCount) :
    ∃ count, counts[row]? = some count ∧ t.ReadsCount row count := by
  rw [columnCounts_named t column named] at done
  obtain ⟨raw, there⟩ := cellUnder_inside t countColumn row
    (mem_of_named t.headers countColumn column named) inside
  obtain ⟨count, found, read⟩ := mapM_at _ _ _ done row (raw, row)
    ((zipIdx_columnCells t column named row (raw, row)).mpr ⟨there, rfl⟩)
  exact ⟨count, found, raw, there, read⟩

theorem columnCounts_length (counts : List UInt64) (done : t.columnCounts column = .ok counts) :
    counts.length = t.rowCount := by
  rw [columnCounts_named t column named] at done
  rw [mapM_length _ _ _ done]
  simp [columnCells, rowCount]

theorem columnCounts_error (failure : Failure) :
    t.columnCounts column = .error failure ↔ ∃ row raw, t.cellUnder countColumn row = some raw ∧
      Count.read? raw.toList = none ∧ failure = .invalidCount raw row countColumn ∧
      ∀ earlier, earlier < row → ∃ count, t.ReadsCount earlier count := by
  simp only [columnCounts_named t column named, mapM_error, zipIdx_columnCells t column named,
    Count.parse_error]
  constructor
  next =>
    rintro ⟨_, ⟨raw, row⟩, ⟨there, rfl⟩, ⟨refused, same⟩, before⟩
    refine ⟨row, raw, there, refused, same, ?_⟩
    intro earlier less
    obtain ⟨member, inside⟩ := inside_of_cellUnder t countColumn row raw there
    obtain ⟨other, found⟩ := cellUnder_inside t countColumn earlier member (by omega)
    obtain ⟨count, read⟩ := before earlier (other, earlier) less ⟨found, rfl⟩
    exact ⟨count, other, found, read⟩
  next =>
    rintro ⟨row, raw, there, refused, same, before⟩
    refine ⟨row, (raw, row), ⟨there, rfl⟩, ⟨refused, same⟩, ?_⟩
    rintro _ ⟨other, earlier⟩ less ⟨found, rfl⟩
    obtain ⟨count, again, same, read⟩ := before earlier less
    rw [found] at same
    cases same
    exact ⟨count, read⟩

end Counts

theorem labeledRows_ok (t : Table) (label : String) (rows : List LabeledRow) :
    t.labeledRows label = .ok rows ↔ ∃ idPlace countPlace counts,
      t.columnIndex idColumn = .ok idPlace ∧ t.columnIndex countColumn = .ok countPlace ∧
      t.columnCounts countPlace = .ok counts ∧
      rows = (t.columnCells idPlace).zipWith (fun id count => ⟨id, label, count⟩) counts := by
  simp only [labeledRows, bind_ok, pure, Except.pure, Except.ok.injEq, exists_and_left,
    eq_comm (b := rows)]

theorem labeledRows_labels (t : Table) (label : String) (rows : List LabeledRow)
    (done : t.labeledRows label = .ok rows) :
    rows.length = t.rowCount ∧ ∀ row, row < t.rowCount →
      ∃ labeled, rows[row]? = some labeled ∧ t.LabelsRow label row labeled := by
  obtain ⟨idPlace, countPlace, counts, identified, counted, read, rfl⟩ :=
    (labeledRows_ok t label rows).mp done
  have idNamed := t.columnIndex_named idColumn idPlace identified
  have countNamed := t.columnIndex_named countColumn countPlace counted
  constructor
  next => simp [columnCells, columnCounts_length t countPlace countNamed counts read, rowCount]
  next =>
    intro row inside
    obtain ⟨id, there⟩ := cellUnder_inside t idColumn row
      (mem_of_named t.headers idColumn idPlace idNamed) inside
    obtain ⟨count, found, reads⟩ := columnCounts_at t countPlace countNamed counts read row inside
    refine ⟨⟨id, label, count⟩, ?_, there, rfl, reads⟩
    rw [List.getElem?_zipWith, columnCells_at t idColumn idPlace row idNamed, there, found]

theorem labeledRows_error (t : Table) (label : String) (failure : Failure) :
    t.labeledRows label = .error failure ↔ t.LabelFault failure := by
  simp only [labeledRows, bind_error, columnIndex_error, pure, Except.pure]
  constructor
  next =>
    rintro (⟨absent, rfl⟩ | ⟨idPlace, identified, rest⟩)
    · exact .unidentified absent
    have identified := mem_of_named _ _ _ (t.columnIndex_named idColumn idPlace identified)
    rcases rest with ⟨absent, rfl⟩ | ⟨countPlace, counted, rest⟩
    · exact .uncounted identified absent
    have counted := t.columnIndex_named countColumn countPlace counted
    rcases rest with failed | ⟨counts, _, done⟩
    · obtain ⟨row, raw, there, refused, rfl, before⟩ :=
        (columnCounts_error t countPlace counted failure).mp failed
      exact .badCount row raw identified there refused before
    · cases done
  next =>
    intro fault
    cases fault with
    | unidentified absent => exact .inl ⟨absent, rfl⟩
    | uncounted identified absent =>
      obtain ⟨idPlace, named⟩ := named_of_mem t.headers idColumn identified
      exact .inr ⟨idPlace, t.columnIndex_ok idColumn idPlace named, .inl ⟨absent, rfl⟩⟩
    | badCount row raw identified there refused before =>
      obtain ⟨idPlace, idNamed⟩ := named_of_mem t.headers idColumn identified
      obtain ⟨countPlace, countNamed⟩ := named_of_mem t.headers countColumn
        (inside_of_cellUnder t countColumn row raw there).1
      have fails := (columnCounts_error t countPlace countNamed _).mpr
        ⟨row, raw, there, refused, rfl, before⟩
      exact .inr ⟨idPlace, t.columnIndex_ok idColumn idPlace idNamed,
        .inr ⟨countPlace, t.columnIndex_ok countColumn countPlace countNamed, .inl fails⟩⟩

theorem countable_iff (t : Table) (label : String) :
    (∃ rows, t.labeledRows label = .ok rows) ↔ t.Countable := by
  constructor
  next =>
    rintro ⟨rows, done⟩
    obtain ⟨idPlace, countPlace, _, identified, counted, _, _⟩ := (labeledRows_ok t label rows).mp done
    refine ⟨mem_of_named _ _ _ (t.columnIndex_named idColumn idPlace identified),
      mem_of_named _ _ _ (t.columnIndex_named countColumn countPlace counted), ?_⟩
    intro row inside
    obtain ⟨labeled, _, labels⟩ := (labeledRows_labels t label rows done).2 row inside
    exact ⟨labeled.count, labels.count⟩
  next =>
    intro countable
    cases done : t.labeledRows label with
    | ok rows => exact ⟨rows, rfl⟩
    | error failure =>
      cases (labeledRows_error t label failure).mp done with
      | unidentified absent => exact absurd countable.identified absent
      | uncounted _ absent => exact absurd countable.counted absent
      | badCount row raw _ there refused _ =>
        obtain ⟨count, again, same, read⟩ :=
          countable.counts row (inside_of_cellUnder t countColumn row raw there).2
        rw [there] at same
        cases same
        rw [Count.parse, refused] at read
        cases read

end Table

end PlotTables
