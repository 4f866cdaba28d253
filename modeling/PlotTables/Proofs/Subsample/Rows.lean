import PlotTables.Proofs.Spacing
import PlotTables.Proofs.Table.Edits
import PlotTables.Subsample

set_option autoImplicit false

namespace PlotTables

open Table (withColumn withCell)

theorem subsampleTable_invalid (t : Table) (target column : Nat)
    (named : t.headers.idxOf? Table.countColumn = some column)
    (invalid : target = 0 ∨ t.rowCount < target) :
    subsampleTable t target = .error (.invalidTarget target t.rowCount) := by
  rw [subsampleTable, Table.columnIndex_ok t _ column named, uniformIndices_invalid _ _ invalid]
  rfl

def sampledRow (t : Table) (counts : Nat → UInt64) (index : Nat) (id : Binary64) : List String :=
  withCell t.headers Table.idColumn
    (withCell t.headers Table.countColumn (t.rows.getD index []) (Count.text (counts index)))
    (Layout.identifier.text id)

theorem subsampleTable_selection (t : Table) (target column : Nat) (indices : List Nat)
    (counts : Nat → UInt64) (named : t.headers.idxOf? Table.countColumn = some column)
    (computed : uniformIndices t.rowCount target = .ok indices)
    (selection : StrictSelection t.rowCount target indices) (positive : 0 < t.rowCount)
    (counted : ∀ index ∈ indices, t.countAt index column = .ok (counts index)) :
    ∃ s, subsampleTable t target = .ok (s, Report.ofIndices t.rowCount indices true) ∧
      s.headers = withColumn t.headers Table.idColumn ∧
      s.rows = indices.zipWith (sampledRow t counts) (normalizedIds target) := by
  obtain ⟨others, shape⟩ : ∃ others, indices = 0 :: others := by
    have first := selection.first
    cases indices with
    | nil => cases first
    | cons index others =>
      cases first
      exact ⟨others, rfl⟩
  have taken := mapM_ok (fun row => t.countAt row column) counts indices counted
  obtain ⟨selected, selects, sameHeaders, rows⟩ :=
    t.selectRows_ok indices (selection.lt _ _ _ positive)
  obtain ⟨recounted, recounts, headers, cells⟩ :=
    selected.setColumn_ok Table.countColumn ((indices.map counts).map Count.text)
      (by simp [Table.rowCount, rows])
  obtain ⟨identified, identifies, finalHeaders, finalCells⟩ :=
    recounted.setColumn_ok Table.idColumn ((normalizedIds target).map Layout.identifier.text)
      (by simp [Table.rowCount, cells, rows, normalizedIds, selection.length])
  have kept : withColumn t.headers Table.countColumn = t.headers := by
    rw [withColumn, named]
  rw [sameHeaders, kept] at headers
  refine ⟨identified, ?_, ?_, ?_⟩
  · have first := counted 0 (by simp [shape])
    rw [subsampleTable, t.columnIndex_ok _ column named, computed]
    simp only [bind, Except.bind, taken, selects, recounts, identifies, first]
    simp [shape, pure, Except.pure]
  · rw [finalHeaders, headers]
  · rw [finalCells, headers, cells, rows, sameHeaders, List.map_map, List.zipWith_map,
      List.zipWith_self, List.zipWith_map]
    rfl

/-- How a subsampled table is made from the selected rows and the counts they hold. -/
structure Sampled (t s : Table) (target column : Nat) (indices : List Nat)
    (counts : Nat → UInt64) : Prop where
  named : t.headers.idxOf? Table.countColumn = some column
  computed : uniformIndices t.rowCount target = .ok indices
  selection : StrictSelection t.rowCount target indices
  positive : 1 ≤ target
  le : target ≤ t.rowCount
  counted : ∀ index ∈ indices, t.countAt index column = .ok (counts index)
  headers : s.headers = withColumn t.headers Table.idColumn
  rows : s.rows = indices.zipWith (sampledRow t counts) (normalizedIds target)

theorem Sampled.rowCount_pos {t s : Table} {target column : Nat} {indices : List Nat}
    {counts : Nat → UInt64} (sampled : Sampled t s target column indices counts) : 0 < t.rowCount :=
  Nat.lt_of_lt_of_le sampled.positive sampled.le

theorem subsampleTable_counts (t s : Table) (target : Nat) (report : Report)
    (sampled : subsampleTable t target = .ok (s, report)) :
    ∃ column indices counts, t.headers.idxOf? Table.countColumn = some column ∧
      uniformIndices t.rowCount target = .ok indices ∧
      indices.mapM (fun row => t.countAt row column) = .ok counts := by
  obtain ⟨column, found, sampled⟩ := (bind_ok _ _ _).mp sampled
  obtain ⟨indices, computed, sampled⟩ := (bind_ok _ _ _).mp sampled
  obtain ⟨counts, counted, _⟩ := (bind_ok _ _ _).mp sampled
  exact ⟨column, indices, counts, t.columnIndex_named _ column found, computed, counted⟩

theorem counts_by_row (t : Table) (column : Nat) (indices : List Nat) (found : List UInt64)
    (counted : indices.mapM (fun row => t.countAt row column) = .ok found) :
    ∃ counts : Nat → UInt64, ∀ index ∈ indices, t.countAt index column = .ok (counts index) := by
  refine ⟨fun index => (t.countAt index column).toOption.getD 0, ?_⟩
  intro index member
  obtain ⟨count, read⟩ := mapM_each _ indices found counted index member
  simp [read, Except.toOption]

theorem subsampleTable_sampled (t s : Table) (target : Nat) (report : Report)
    (small : t.rowCount ≤ 2 ^ 50) (sampled : subsampleTable t target = .ok (s, report)) :
    ∃ column indices counts, Sampled t s target column indices counts ∧
      report = Report.ofIndices t.rowCount indices true := by
  obtain ⟨column, indices, found, named, computed, counted⟩ :=
    subsampleTable_counts t s target report sampled
  have valid : ¬(target = 0 ∨ t.rowCount < target) := by
    intro invalid
    rw [uniformIndices_invalid _ _ invalid] at computed
    cases computed
  simp only [not_or, Nat.not_lt] at valid
  have positive : 1 ≤ target := Nat.one_le_iff_ne_zero.mpr valid.1
  obtain ⟨again, same, selection⟩ := uniformIndices_selection t.rowCount target (by omega) positive
    valid.2 (by omega)
  rw [computed] at same
  cases same
  obtain ⟨counts, each⟩ := counts_by_row t column indices found counted
  obtain ⟨made, makes, headers, rows⟩ := subsampleTable_selection t target column indices counts
    named computed selection (by omega) each
  rw [sampled] at makes
  cases makes
  exact ⟨column, indices, counts,
    ⟨named, computed, selection, positive, valid.2, each, headers, rows⟩, rfl⟩

end PlotTables
