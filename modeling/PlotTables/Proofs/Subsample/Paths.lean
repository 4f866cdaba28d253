import PlotTables.Proofs.Count
import PlotTables.Proofs.Subsample.Counts
import PlotTables.Proofs.Subsample.Rows
import PlotTables.Proofs.Table.RoundTrip
import PlotTables.Trace

set_option autoImplicit false

namespace PlotTables

namespace SampleSeries

def row (point : SamplePoint) : List String :=
  [Layout.identifier.text point.id, Count.text point.count]

def table (series : SampleSeries) : Table where
  headers := header
  rows := series.points.map row
  rectangular := by
    intro cells member
    obtain ⟨point, _, rfl⟩ := List.mem_map.mp member
    rfl

theorem table_headers (series : SampleSeries) : series.table.headers = header := rfl

theorem header_identified : Table.withColumn header Table.idColumn = header := rfl

theorem write_table (series : SampleSeries) : series.write = series.table.write := rfl

theorem read_series (series : SampleSeries) : Table.read series.write = .ok series.table := by
  rw [write_table]
  apply Table.read_write
  · simp [table, header]
  · intro first named begins
    cases named
    cases begins

theorem table_countAt (series : SampleSeries) (index : Nat) (point : SamplePoint)
    (there : series.points[index]? = some point) :
    series.table.countAt index 1 = .ok point.count := by
  have cell : series.table.cell index 1 = .ok (Count.text point.count) := by
    simp [Table.cell, table, there, row]
  rw [Table.countAt, cell]
  exact Count.parse_text point.count index _

end SampleSeries

def fullSeries (counts : List UInt64) : SampleSeries :=
  ⟨(normalizedIds counts.length).zipWith SamplePoint.mk counts⟩

theorem fullSeries_counts (counts : List UInt64) : (fullSeries counts).counts = counts :=
  SampleSeries.counts_zip _ _ (normalizedIds_length _).symm

theorem fullSeries_rowCount (counts : List UInt64) :
    (fullSeries counts).table.rowCount = counts.length := by
  simp [fullSeries, SampleSeries.table, Table.rowCount]

theorem fullSeries_countAt (counts : List UInt64) (index : Nat) (inside : index < counts.length) :
    (fullSeries counts).table.countAt index 1 = .ok (counts.getD index 0) := by
  have known := congrArg (fun kept => kept[index]?) (fullSeries_counts counts)
  simp only [SampleSeries.counts, List.getElem?_map] at known
  cases there : (fullSeries counts).points[index]? with
  | none => simp [there, inside] at known
  | some point =>
    rw [there, Option.map_some] at known
    rw [SampleSeries.table_countAt _ index point there, List.getD_eq_getElem?_getD, ← known,
      Option.getD_some]

theorem subsampleCounts_full (counts : List UInt64) (positive : 1 ≤ counts.length)
    (small : counts.length ≤ 2 ^ 50) :
    ∃ report, subsampleCounts counts counts.length = .ok (fullSeries counts, report) := by
  obtain ⟨indices, computed, selection⟩ := uniformIndices_selection counts.length counts.length
    (by omega) positive (Nat.le_refl _) small
  have whole : (List.range counts.length).map (counts.getD · 0) = counts := by
    apply List.ext_getElem
    · simp
    · intro position _ inside
      simp [inside]
  have subsampled := subsampleCounts_selection counts _ indices computed selection positive
  rw [selection.whole rfl, whole] at subsampled
  exact ⟨_, subsampled⟩

theorem sampledRow_series (series : SampleSeries) (counts : Nat → UInt64) (index : Nat)
    (id : Binary64) (inside : index < series.points.length) :
    sampledRow series.table counts index id = SampleSeries.row ⟨id, counts index⟩ := by
  have cells : series.table.rows.getD index [] = SampleSeries.row series.points[index] := by
    simp [SampleSeries.table, inside]
  rw [sampledRow, cells]
  rfl

theorem sampledRows_series (series : SampleSeries) (counts : Nat → UInt64) (indices : List Nat)
    (ids : List Binary64) (inside : ∀ index ∈ indices, index < series.points.length) :
    indices.zipWith (sampledRow series.table counts) ids =
      (ids.zipWith SamplePoint.mk (indices.map counts)).map SampleSeries.row := by
  induction indices generalizing ids with
  | nil => simp
  | cons index rest ih =>
    cases ids with
    | nil => rfl
    | cons id others =>
      have first := sampledRow_series series counts index id (inside index (by simp))
      simp [first, ih others fun other member => inside other (by simp [member])]

theorem paths_valid (counts : List UInt64) (target : Nat) (positive : 1 ≤ target)
    (le : target ≤ counts.length) (small : counts.length ≤ 2 ^ 50) :
    ∃ series report, subsampleCounts counts target = .ok (series, report) ∧
      subsampleTable (fullSeries counts).table target = .ok (series.table, report) := by
  obtain ⟨indices, computed, selection⟩ := uniformIndices_selection counts.length target
    (by omega) positive le (by omega)
  have inside := selection.lt _ _ _ (Nat.lt_of_lt_of_le positive le)
  have size := fullSeries_rowCount counts
  obtain ⟨selected, selects, headers, rows⟩ :=
    subsampleTable_selection (fullSeries counts).table target 1 indices (counts.getD · 0) rfl
      (by rw [size, computed]) (by rwa [size]) (by omega)
      fun index member => fullSeries_countAt counts index (inside index member)
  -- Each path numbers the same counts in the same order.
  have kept : selected = SampleSeries.table
      ⟨(normalizedIds target).zipWith SamplePoint.mk (indices.map (counts.getD · 0))⟩ := by
    apply Table.eq_of_cells
    · rw [headers, SampleSeries.table_headers, SampleSeries.header_identified,
        SampleSeries.table_headers]
    · rw [rows, sampledRows_series]
      · rfl
      · intro index member
        simpa [fullSeries] using inside index member
  rw [kept, size] at selects
  exact ⟨_, _, subsampleCounts_selection counts target indices computed selection (by omega), selects⟩

theorem paths_invalid (counts : List UInt64) (target : Nat)
    (invalid : target = 0 ∨ counts.length < target) :
    subsampleCounts counts target = .error (.invalidTarget target counts.length) ∧
      subsampleTable (fullSeries counts).table target =
        .error (.invalidTarget target counts.length) := by
  refine ⟨subsampleCounts_invalid counts target invalid, ?_⟩
  rw [← fullSeries_rowCount counts] at invalid ⊢
  exact subsampleTable_invalid _ target 1 rfl invalid

theorem subsample_paths_agree (files : Reader) (format : TraceFormat) (path : String) (target : Nat) :
    ∀ counts, Trace.load files format path = .ok counts → 1 ≤ counts.length →
      counts.length ≤ 2 ^ 50 → ∃ full fullReport stored,
        subsampleCounts counts counts.length = .ok (full, fullReport) ∧
        Table.read full.write = .ok stored ∧
        (1 ≤ target → target ≤ counts.length → ∃ series selected report,
          subsampleCounts counts target = .ok (series, report) ∧
          subsampleTable stored target = .ok (selected, report) ∧
          selected.write = series.write) ∧
        (target = 0 ∨ counts.length < target →
          subsampleCounts counts target = .error (.invalidTarget target counts.length) ∧
          subsampleTable stored target = .error (.invalidTarget target counts.length)) := by
  intro counts _ positive small
  obtain ⟨fullReport, full⟩ := subsampleCounts_full counts positive small
  refine ⟨fullSeries counts, fullReport, (fullSeries counts).table, full,
    (fullSeries counts).read_series, ?_, paths_invalid counts target⟩
  intro valid le
  obtain ⟨series, report, before, after⟩ := paths_valid counts target valid le small
  exact ⟨series, series.table, report, before, after, rfl⟩

theorem subsample_paths_agree_above_doubles :
    ∃ full fullReport stored series selected report,
      subsampleCounts [18446744073709551615, 0, 9] 3 = .ok (full, fullReport) ∧
      Table.read full.write = .ok stored ∧
      subsampleCounts [18446744073709551615, 0, 9] 2 = .ok (series, report) ∧
      subsampleTable stored 2 = .ok (selected, report) ∧ selected.write = series.write := by
  -- No double is the first count.
  have loaded : Trace.load
      (fun _ => .ok (.readable (Utf8.encode "x;Freq:18446744073709551615\n\nFreq:+9;Freq:1\n")))
      .standard "trace" = .ok [18446744073709551615, 0, 9] := by decide +kernel
  obtain ⟨full, fullReport, stored, wrote, reread, valid, _⟩ :=
    subsample_paths_agree _ _ _ 2 _ loaded (by decide) (by decide)
  obtain ⟨series, selected, report, paths⟩ := valid (by decide) (by decide)
  exact ⟨full, fullReport, stored, series, selected, report, wrote, reread, paths⟩

end PlotTables
