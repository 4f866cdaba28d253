import PlotTables.Labeled
import PlotTables.Proofs.Binary64.Bits
import PlotTables.Proofs.Decimal.Identifier
import PlotTables.Proofs.Subsample.Paths

set_option autoImplicit false

namespace PlotTables

namespace Table

theorem mapM_parse_text (counts : List UInt64) (column : String) (start : Nat) :
    ((counts.map Count.text).zipIdx start).mapM (fun cell => Count.parse cell.1 cell.2 column) =
      Except.ok counts := by
  induction counts generalizing start with
  | nil => rfl
  | cons count rest ih =>
    simp only [List.map_cons, List.zipIdx_cons, List.mapM_cons, Count.parse_text, ih]
    rfl

theorem columnCounts_text (t : Table) (column : Nat) (counts : List UInt64)
    (cells : t.columnCells column = counts.map Count.text) :
    t.columnCounts column = .ok counts := by
  rw [columnCounts, cells]
  exact mapM_parse_text counts _ 0

end Table

namespace LabeledTable

def cells (row : LabeledRow) : List String := [row.id, row.label, Count.text row.count]

def table (labeled : LabeledTable) : Table where
  headers := header
  rows := labeled.rows.map cells
  rectangular := by
    intro row member
    obtain ⟨labeledRow, _, rfl⟩ := List.mem_map.mp member
    rfl

theorem read_table (labeled : LabeledTable) : Table.read labeled.write = .ok labeled.table := by
  apply labeled.table.read_write
  · simp [table, header]
  · intro first named begins
    cases named
    cases begins

theorem table_labeledRows (labeled : LabeledTable) (label : String) :
    labeled.table.labeledRows label =
      .ok (labeled.rows.map fun row => ⟨row.id, label, row.count⟩) := by
  have ids : labeled.table.columnCells 0 = labeled.rows.map LabeledRow.id := by
    simp [Table.columnCells, table, cells]
  have texts : labeled.table.columnCells 2 =
      (labeled.rows.map LabeledRow.count).map Count.text := by
    simp [Table.columnCells, table, cells]
  have counts := labeled.table.columnCounts_text 2 _ texts
  have idPlace : labeled.table.columnIndex Table.idColumn = .ok 0 := rfl
  have countPlace : labeled.table.columnIndex Table.countColumn = .ok 2 := rfl
  simp [Table.labeledRows, idPlace, countPlace, counts, ids, bind, Except.bind, pure, Except.pure,
    List.zipWith_map, List.zipWith_self]

end LabeledTable

namespace SampleSeries

theorem table_counts (series : SampleSeries) :
    series.table.counts Table.countColumn = .ok series.counts := by
  apply series.table.columnCounts_text 1
  simp [Table.columnCells, table, row, counts]

theorem table_ids (series : SampleSeries) : series.table.columnCells 0 =
    series.points.map fun point => Layout.identifier.text point.id := by
  simp [Table.columnCells, table, row]

end SampleSeries

theorem Layout.identifier_reads_bits (x : Binary64) (number : x ≠ .nan) :
    ∃! bits, Binary64.ofBits bits = x ∧
      Binary64.read? (identifier.text x).toList = some (Binary64.ofBits bits) := by
  obtain ⟨bits, rfl, unique⟩ := x.existsUnique_ofBits number
  exact ⟨bits, ⟨rfl, identifier_reads _ number⟩, fun other same => unique other same.1⟩

theorem outputs_read_back :
    (∀ labeled : LabeledTable, ∃ t, Table.read labeled.write = .ok t ∧
      t.headers = ["ID", "Type", "Count"] ∧
      t.rows = labeled.rows.map (fun row => [row.id, row.label, row.count.toNat.repr]) ∧
      ∀ label, t.labeledRows label =
        .ok (labeled.rows.map fun row => ⟨row.id, label, row.count⟩)) ∧
    ∀ series : SampleSeries, ∃ t, Table.read series.write = .ok t ∧
      t.headers = ["ID", "Count"] ∧ t.counts "Count" = .ok series.counts ∧
      t.columnCells 0 = series.points.map (fun point => Layout.identifier.text point.id) ∧
      ∀ point ∈ series.points, point.id ≠ .nan →
        ∃! bits, Binary64.ofBits bits = point.id ∧
          Binary64.read? (Layout.identifier.text point.id).toList =
            some (Binary64.ofBits bits) := by
  constructor
  next =>
    intro labeled
    exact ⟨labeled.table, labeled.read_table, rfl, rfl, labeled.table_labeledRows⟩
  next =>
    intro series
    exact ⟨series.table, series.read_series, rfl, series.table_counts, series.table_ids,
      fun point _ => Layout.identifier_reads_bits point.id⟩

theorem outputs_read_back_awkward :
    (∃ t, Table.read (LabeledTable.mk [⟨"\uFEFFa\tb", "\"\r\n", 18446744073709551615⟩,
        ⟨"", "", 0⟩]).write = .ok t ∧
      t.labeledRows "Kept" =
        .ok [⟨"\uFEFFa\tb", "Kept", 18446744073709551615⟩, ⟨"", "Kept", 0⟩]) ∧
    ∃ t, Table.read (SampleSeries.mk [⟨.finite true .zero, 9007199254740993⟩, ⟨.nan, 0⟩]).write =
        .ok t ∧
      t.counts "Count" = .ok [9007199254740993, 0] ∧ t.columnCells 0 = ["-0.0", "NaN"] ∧
      ∃! bits, Binary64.ofBits bits = .finite true .zero ∧
        Binary64.read? ['-', '0', '.', '0'] = some (Binary64.ofBits bits) := by
  obtain ⟨labeled, sampled⟩ := outputs_read_back
  obtain ⟨t, read, _, _, labels⟩ := labeled
    ⟨[⟨"\uFEFFa\tb", "\"\r\n", 18446744073709551615⟩, ⟨"", "", 0⟩]⟩
  obtain ⟨s, reread, _, counts, ids, numbers⟩ := sampled
    ⟨[⟨.finite true .zero, 9007199254740993⟩, ⟨.nan, 0⟩]⟩
  have number := numbers ⟨.finite true .zero, 9007199254740993⟩ (by simp) (by simp)
  exact ⟨⟨t, read, labels "Kept"⟩, s, reread, counts, ids, number⟩

end PlotTables
