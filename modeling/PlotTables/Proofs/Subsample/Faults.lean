import PlotTables.Proofs.Subsample.Idempotence
import PlotTables.Proofs.Table.Cells

set_option autoImplicit false

namespace PlotTables

open Table (countColumn)

/-- The first selected row that holds no count, and what it holds instead. -/
structure FirstUncounted (t : Table) (indices : List Nat) (place row : Nat) (raw : String) :
    Prop where
  there : indices[place]? = some row
  cell : t.cellUnder countColumn row = some raw
  refused : Count.read? raw.toList = none
  before : ∀ earlier other : Nat, earlier < place → indices[earlier]? = some other →
    ∃ count, t.ReadsCount other count

/-- The first thing that keeps a table from being subsampled. -/
inductive SubsampleFault (t : Table) (target : Nat) : Failure → Prop where
  | uncounted (absent : countColumn ∉ t.headers) :
      SubsampleFault t target (.missingColumn countColumn)
  | outOfRange (counted : countColumn ∈ t.headers) (range : target = 0 ∨ t.rowCount < target) :
      SubsampleFault t target (.invalidTarget target t.rowCount)
  | badCount (indices : List Nat) (place row : Nat) (raw : String)
      (counted : countColumn ∈ t.headers)
      (selected : uniformIndices t.rowCount target = .ok indices)
      (first : FirstUncounted t indices place row raw) :
      SubsampleFault t target (.invalidCount raw row countColumn)

theorem subsampleTable_uncounted (t : Table) (target : Nat) (absent : countColumn ∉ t.headers) :
    subsampleTable t target = .error (.missingColumn countColumn) := by
  have missing := List.idxOf?_eq_none_iff.mpr absent
  simp [subsampleTable, Table.columnIndex, missing, bind, Except.bind]

section Valid

variable (t : Table) (target column : Nat) (indices : List Nat) (failure : Failure)
  (named : t.headers.idxOf? countColumn = some column)
  (computed : uniformIndices t.rowCount target = .ok indices)
  (selection : StrictSelection t.rowCount target indices)

include named computed

theorem subsampleTable_refused
    (refused : indices.mapM (fun row => t.countAt row column) = .error failure) :
    subsampleTable t target = .error failure := by
  rw [subsampleTable, t.columnIndex_ok _ column named, computed]
  simp only [bind, Except.bind, refused]

include selection

theorem subsampleTable_fails (positive : 0 < t.rowCount) :
    subsampleTable t target = .error failure ↔
      indices.mapM (fun row => t.countAt row column) = .error failure := by
  cases counted : indices.mapM fun row => t.countAt row column with
  | error found =>
    rw [subsampleTable_refused t target column indices found named computed counted]
    simp
  | ok found =>
    obtain ⟨counts, each⟩ := counts_by_row t column indices found counted
    obtain ⟨s, done, _⟩ := subsampleTable_selection t target column indices counts named computed
      selection positive each
    simp [done]

theorem subsampleTable_badCount (positive : 0 < t.rowCount) :
    subsampleTable t target = .error failure ↔ ∃ place row raw,
      FirstUncounted t indices place row raw ∧ failure = .invalidCount raw row countColumn := by
  rw [subsampleTable_fails t target column indices failure named computed selection positive,
    mapM_error]
  simp only [t.countAt_ok column _ named]
  constructor
  next =>
    intro fails
    obtain ⟨place, row, there, refused, before⟩ := fails
    have inside := selection.lt _ _ _ positive row (List.mem_of_getElem? there)
    obtain ⟨raw, cell, unread, same⟩ := (t.countAt_error column row named inside failure).mp refused
    exact ⟨place, row, raw, ⟨there, cell, unread, before⟩, same⟩
  next =>
    intro fails
    obtain ⟨place, row, raw, first, same⟩ := fails
    have inside := selection.lt _ _ _ positive row (List.mem_of_getElem? first.there)
    exact ⟨place, row, first.there, (t.countAt_error column row named inside failure).mpr
      ⟨raw, first.cell, first.refused, same⟩, first.before⟩

end Valid

namespace SubsampleFault

variable (t : Table) (target : Nat) (failure : Failure)

theorem iff_uncounted (absent : countColumn ∉ t.headers) :
    SubsampleFault t target failure ↔ failure = .missingColumn countColumn := by
  constructor
  next =>
    intro fault
    cases fault with
    | uncounted => rfl
    | outOfRange present => exact absurd present absent
    | badCount _ _ _ _ present => exact absurd present absent
  next =>
    intro same
    subst same
    exact .uncounted absent

theorem iff_outOfRange (counted : countColumn ∈ t.headers)
    (range : target = 0 ∨ t.rowCount < target) :
    SubsampleFault t target failure ↔ failure = .invalidTarget target t.rowCount := by
  constructor
  next =>
    intro fault
    cases fault with
    | uncounted absent => exact absurd counted absent
    | outOfRange => rfl
    | badCount indices _ _ _ _ selected =>
      rw [uniformIndices_invalid _ _ range] at selected
      cases selected
  next =>
    intro same
    subst same
    exact .outOfRange counted range

theorem iff_badCount (indices : List Nat) (counted : countColumn ∈ t.headers)
    (computed : uniformIndices t.rowCount target = .ok indices) :
    SubsampleFault t target failure ↔ ∃ place row raw,
      FirstUncounted t indices place row raw ∧ failure = .invalidCount raw row countColumn := by
  constructor
  next =>
    intro fault
    cases fault with
    | uncounted absent => exact absurd counted absent
    | outOfRange _ range =>
      rw [uniformIndices_invalid _ _ range] at computed
      cases computed
    | badCount others place row raw _ selected first =>
      rw [computed] at selected
      cases selected
      exact ⟨place, row, raw, first, rfl⟩
  next =>
    intro fails
    obtain ⟨place, row, raw, first, same⟩ := fails
    subst same
    exact .badCount indices place row raw counted computed first

end SubsampleFault

theorem subsampleTable_error (t : Table) (target : Nat) (failure : Failure)
    (small : t.rowCount ≤ 2 ^ 50) :
    subsampleTable t target = .error failure ↔ SubsampleFault t target failure := by
  -- The column is looked for first, then the target is tested, and the counts are read last.
  by_cases counted : countColumn ∈ t.headers
  next =>
    obtain ⟨column, named⟩ := Table.named_of_mem t.headers countColumn counted
    by_cases range : target = 0 ∨ t.rowCount < target
    next =>
      rw [subsampleTable_invalid t target column named range,
        SubsampleFault.iff_outOfRange t target failure counted range]
      simp [eq_comm]
    next =>
      obtain ⟨indices, computed, selection⟩ := uniformIndices_selection t.rowCount target
        (by omega) (by omega) (by omega) (by omega)
      rw [subsampleTable_badCount t target column indices failure named computed selection
        (by omega), SubsampleFault.iff_badCount t target failure indices counted computed]
  next =>
    rw [subsampleTable_uncounted t target counted,
      SubsampleFault.iff_uncounted t target failure counted]
    simp [eq_comm]

/-- Two tables that differ at most in rows that are not selected. -/
structure SameSelected (t u : Table) (target : Nat) : Prop where
  headers : u.headers = t.headers
  rowCount : u.rowCount = t.rowCount
  rows : ∀ indices, uniformIndices t.rowCount target = .ok indices →
    ∀ index ∈ indices, u.rows[index]? = t.rows[index]?

namespace SameSelected

variable {t u : Table} {target : Nat} (same : SameSelected t u target) (indices : List Nat)
  (selected : uniformIndices t.rowCount target = .ok indices)

include same selected

theorem cellUnder (name : String) (row : Nat) (member : row ∈ indices) :
    u.cellUnder name row = t.cellUnder name row := by
  rw [Table.cellUnder, Table.cellUnder, same.headers, same.rows indices selected row member]

theorem readsCount (row : Nat) (count : UInt64) (member : row ∈ indices)
    (reads : t.ReadsCount row count) : u.ReadsCount row count := by
  obtain ⟨raw, cell, parsed⟩ := reads
  exact ⟨raw, (same.cellUnder indices selected countColumn row member).trans cell, parsed⟩

theorem firstUncounted (place row : Nat) (raw : String)
    (first : FirstUncounted t indices place row raw) : FirstUncounted u indices place row raw where
  there := first.there
  cell := by
    rw [same.cellUnder indices selected countColumn row (List.mem_of_getElem? first.there)]
    exact first.cell
  refused := first.refused
  before earlier other less found := by
    obtain ⟨count, reads⟩ := first.before earlier other less found
    exact ⟨count, same.readsCount indices selected other count (List.mem_of_getElem? found) reads⟩

theorem sampledRow (counts : Nat → UInt64) (index : Nat) (id : Binary64) (member : index ∈ indices) :
    sampledRow u counts index id = sampledRow t counts index id := by
  rw [PlotTables.sampledRow, PlotTables.sampledRow, same.headers, List.getD_eq_getElem?_getD,
    same.rows indices selected index member, List.getD_eq_getElem?_getD]

theorem rowsMade (counts : Nat → UInt64) (ids : List Binary64) :
    indices.zipWith (PlotTables.sampledRow u counts) ids =
      indices.zipWith (PlotTables.sampledRow t counts) ids := by
  apply List.ext_getElem?
  intro i
  rw [List.getElem?_zipWith, List.getElem?_zipWith]
  cases there : indices[i]? with
  | none => rfl
  | some index =>
    have row := same.sampledRow indices selected counts index
    cases ids[i]? with
    | none => rfl
    | some id => simp only [row id (List.mem_of_getElem? there)]

omit selected

theorem fault (failure : Failure) (fault : SubsampleFault t target failure) :
    SubsampleFault u target failure := by
  cases fault with
  | uncounted absent => exact .uncounted (same.headers ▸ absent)
  | outOfRange counted range =>
    rw [← same.rowCount] at range ⊢
    exact .outOfRange (same.headers ▸ counted) range
  | badCount indices place row raw counted selected first =>
    exact .badCount indices place row raw (same.headers ▸ counted) (same.rowCount ▸ selected)
      (same.firstUncounted indices selected place row raw first)

theorem done (s : Table) (report : Report) (small : t.rowCount ≤ 2 ^ 50)
    (done : subsampleTable t target = .ok (s, report)) :
    subsampleTable u target = .ok (s, report) := by
  obtain ⟨column, indices, counts, sampled, rfl⟩ := subsampleTable_sampled t s target report small
    done
  have counted (index : Nat) (member : index ∈ indices) :
      u.countAt index column = .ok (counts index) := by
    have read := (t.countAt_ok column index sampled.named _).mp (sampled.counted index member)
    exact (u.countAt_ok column index (same.headers ▸ sampled.named) _).mpr
      (same.readsCount indices sampled.computed index _ member read)
  obtain ⟨made, makes, headers, rows⟩ := subsampleTable_selection u target column indices counts
    (same.headers ▸ sampled.named) (same.rowCount ▸ sampled.computed)
    (same.rowCount ▸ sampled.selection) (same.rowCount ▸ sampled.rowCount_pos) counted
  have unchanged : made = s := by
    apply Table.eq_of_cells
    · rw [headers, sampled.headers, same.headers]
    · rw [rows, sampled.rows, same.rowsMade indices sampled.computed]
  rw [makes, unchanged, same.rowCount]

theorem result (small : t.rowCount ≤ 2 ^ 50) : subsampleTable u target = subsampleTable t target := by
  cases result : subsampleTable t target with
  | ok made => exact same.done made.1 made.2 small result
  | error failure =>
    apply (subsampleTable_error u target failure (same.rowCount ▸ small)).mpr
    exact same.fault failure ((subsampleTable_error t target failure small).mp result)

end SameSelected

theorem subsampleTable_faults (t : Table) (target : Nat) (small : t.rowCount ≤ 2 ^ 50) :
    (∀ failure, subsampleTable t target = .error failure ↔ SubsampleFault t target failure) ∧
    ∀ u, SameSelected t u target → subsampleTable u target = subsampleTable t target := by
  constructor
  next =>
    intro failure
    exact subsampleTable_error t target failure small
  next =>
    intro u same
    exact same.result small

def otherMiddle : Table where
  headers := ["Count", "Note", "ID", "Count", "ID"]
  rows :=
    [["18446744073709551615", "a", "x", "-", ""],
      ["7", "", "", "", ""],
      [" 1e3", "c", "z", "+3", "\t"]]
  rectangular := by decide

theorem subsampleTable_faults_middle :
    repeatedHeaders.rowCount ≤ 2 ^ 50 ∧
    subsampleTable repeatedHeaders 3 = .error (.invalidCount "no count" 1 "Count") ∧
    SameSelected repeatedHeaders otherMiddle 2 ∧
    subsampleTable otherMiddle 2 = subsampleTable repeatedHeaders 2 := by
  have small : repeatedHeaders.rowCount ≤ 2 ^ 50 := by decide
  have all : uniformIndices 3 3 = .ok [0, 1, 2] := by decide +kernel
  have two : uniformIndices 3 2 = .ok [0, 2] := by decide +kernel
  have first : FirstUncounted repeatedHeaders [0, 1, 2] 1 1 "no count" := by
    refine ⟨rfl, by decide, by decide +kernel, ?_⟩
    intro earlier other less there
    obtain rfl : earlier = 0 := by omega
    cases there
    exact ⟨18446744073709551615, "18446744073709551615", by decide, by decide +kernel⟩
  have same : SameSelected repeatedHeaders otherMiddle 2 := by
    refine ⟨rfl, rfl, ?_⟩
    intro indices selected
    obtain rfl : indices = [0, 2] := Except.ok.inj (selected.symm.trans two)
    decide
  exact ⟨small,
    ((subsampleTable_faults repeatedHeaders 3 small).1 _).mpr
      (.badCount [0, 1, 2] 1 1 "no count" (by decide) all first),
    same, (subsampleTable_faults repeatedHeaders 2 small).2 otherMiddle same⟩

end PlotTables
