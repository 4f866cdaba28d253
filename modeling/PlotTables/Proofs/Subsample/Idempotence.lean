import Mathlib.Data.List.GetD
import PlotTables.Proofs.Count
import PlotTables.Proofs.Subsample.Counts
import PlotTables.Proofs.Subsample.Rows

set_option autoImplicit false

namespace PlotTables

open Magnitude Binary64
open Table (withColumn withCell)

section Row

variable (t : Table) (counts : Nat → UInt64) (index column : Nat) (id : Binary64)
  (inside : index < t.rowCount)

include inside

theorem row_wide : (t.rows.getD index []).length = t.headers.length := by
  apply t.rectangular
  rw [List.getD_eq_getElem _ _ inside]
  exact List.getElem_mem inside

theorem counted_wide :
    (withCell t.headers Table.countColumn (t.rows.getD index []) (Count.text (counts index))).length =
      (withColumn t.headers Table.countColumn).length :=
  Table.withCell_length _ _ _ _ (row_wide t index inside)

theorem sampledRow_count (named : t.headers.idxOf? Table.countColumn = some column) :
    (sampledRow t counts index id)[column]? = some (Count.text (counts index)) := by
  have kept := Table.withColumn_self t.headers Table.countColumn column named
  have wide := counted_wide t counts index inside
  rw [kept] at wide
  rw [sampledRow, Table.withCell_other _ _ _ _ _ column named (by decide) wide]
  apply Table.withCell_named _ _ _ _ _ (row_wide t index inside)
  rw [kept, named]

theorem sampledRow_id (named : t.headers.idxOf? Table.countColumn = some column) (place : Nat)
    (identified : (withColumn t.headers Table.idColumn).idxOf? Table.idColumn = some place) :
    (sampledRow t counts index id)[place]? = some (Layout.identifier.text id) := by
  have wide := counted_wide t counts index inside
  rw [Table.withColumn_self t.headers Table.countColumn column named] at wide
  exact Table.withCell_named _ _ _ _ place wide identified

end Row

namespace Sampled

variable {t s : Table} {target column : Nat} {indices : List Nat} {counts : Nat → UInt64}

theorem rowCount (sampled : Sampled t s target column indices counts) : s.rowCount = target := by
  simp [Table.rowCount, sampled.rows, sampled.selection.length]

theorem row (sampled : Sampled t s target column indices counts) (i : Nat) (inside : i < target) :
    ∃ id, (normalizedIds target)[i]? = some id ∧ indices.getD i 0 < t.rowCount ∧
      s.rows[i]? = some (sampledRow t counts (indices.getD i 0) id) := by
  have few : i < indices.length := by rwa [sampled.selection.length]
  have numbered : i < (normalizedIds target).length := by simpa using inside
  refine ⟨(normalizedIds target)[i], List.getElem?_eq_getElem numbered, ?_, ?_⟩
  · rw [List.getD_eq_getElem _ _ few]
    exact sampled.selection.lt _ _ _ sampled.rowCount_pos _ (List.getElem_mem few)
  · rw [List.getD_eq_getElem _ _ few, sampled.rows, List.getElem?_zipWith,
      List.getElem?_eq_getElem few, List.getElem?_eq_getElem numbered]

theorem named_again (sampled : Sampled t s target column indices counts) :
    s.headers.idxOf? Table.countColumn = some column := by
  rw [sampled.headers]
  exact Table.idxOf?_withColumn_other _ _ _ _ sampled.named

theorem countAt_again (sampled : Sampled t s target column indices counts) (i : Nat)
    (inside : i < target) : s.countAt i column = .ok (counts (indices.getD i 0)) := by
  obtain ⟨id, _, selected, there⟩ := sampled.row i inside
  have count := sampledRow_count t counts _ column id selected sampled.named
  have cell : s.cell i column = .ok (Count.text (counts (indices.getD i 0))) := by
    simp only [Table.cell, there, count]
  rw [Table.countAt, cell]
  exact Count.parse_text _ i _

theorem sampledRow_again (sampled : Sampled t s target column indices counts) (i : Nat)
    (id : Binary64) (inside : i < target) (numbered : (normalizedIds target)[i]? = some id) :
    s.rows[i]? = some (sampledRow s (fun i => counts (indices.getD i 0)) i id) := by
  obtain ⟨same, there, selected, row⟩ := sampled.row i inside
  rw [numbered] at there
  cases there
  obtain ⟨place, identified⟩ := Table.withColumn_named t.headers Table.idColumn
  have count := sampledRow_count t counts _ column id selected sampled.named
  have identifier := sampledRow_id t counts _ column id selected sampled.named place identified
  have kept : s.rows.getD i [] = sampledRow t counts (indices.getD i 0) id := by
    rw [List.getD_eq_getElem?_getD, row, Option.getD_some]
  rw [row, sampledRow.eq_def s, kept,
    Table.withCell_self _ _ _ _ column sampled.named_again count,
    Table.withCell_self _ _ _ _ place (sampled.headers ▸ identified) identifier]

theorem headers_again (sampled : Sampled t s target column indices counts) :
    withColumn s.headers Table.idColumn = s.headers := by
  obtain ⟨place, identified⟩ := Table.withColumn_named t.headers Table.idColumn
  rw [sampled.headers, Table.withColumn_self _ _ place identified]

theorem rows_again (sampled : Sampled t s target column indices counts) :
    (List.range target).zipWith (sampledRow s fun i => counts (indices.getD i 0))
      (normalizedIds target) = s.rows := by
  apply List.ext_getElem?
  intro i
  by_cases inside : i < target
  next =>
    obtain ⟨id, numbered, _, _⟩ := sampled.row i inside
    rw [sampled.sampledRow_again i id inside numbered, List.getElem?_zipWith, numbered]
    simp [inside]
  next =>
    have short : s.rows.length = target := sampled.rowCount
    rw [List.getElem?_eq_none, List.getElem?_eq_none]
    · omega
    · simp only [List.length_zipWith, List.length_range]
      omega

end Sampled

theorem div_self_ofNat (n : Nat) (positive : 1 ≤ n) (small : n < 2 ^ 53) :
    (ofNat n).div (ofNat n) = ofNat 1 := by
  obtain ⟨m, rounded, value⟩ := nearest?_natCast n small
  have nonzero : 0 < m.value := by
    rw [value]
    exact_mod_cast positive
  rw [div_ofNat n n m m rounded rounded nonzero, div_self nonzero.ne', ofNat_nearest 1,
    Nat.cast_one]

theorem Report.ofIndices_range (target : Nat) (positive : 1 ≤ target) (small : target < 2 ^ 53) :
    Report.ofIndices target (List.range target) true =
      { totalRows := target
        interval := 1
        selectionRatio := ofNat 1
        selectedRows := target
        firstCountMatches := true } := by
  have interval : (Report.ofIndices target (List.range target) true).interval = 1 := by
    match target with
    | 1 => rfl
    | more + 2 => simp [Report.ofIndices, List.range_succ_eq_map]
  simp only [Report.ofIndices, List.length_range] at interval ⊢
  rw [interval, div_self_ofNat target positive small]

theorem subsampleTable_idempotent (t s : Table) (target : Nat) (report : Report)
    (small : t.rowCount ≤ 2 ^ 50) (done : subsampleTable t target = .ok (s, report)) :
    subsampleTable s target =
      .ok (s,
        { totalRows := target
          interval := 1
          selectionRatio := ofNat 1
          selectedRows := target
          firstCountMatches := true }) := by
  obtain ⟨column, indices, counts, sampled, _⟩ := subsampleTable_sampled t s target report small done
  have positive := sampled.positive
  have le := sampled.le
  have size := sampled.rowCount
  obtain ⟨again, computed, selection⟩ := uniformIndices_selection target target (by omega) positive
    (Nat.le_refl target) (by omega)
  -- Every row is selected now, and holds the count and the number that it is given again.
  have whole : again = List.range target := selection.whole rfl
  subst whole
  obtain ⟨same, samples, headers, rows⟩ := subsampleTable_selection s target column
    (List.range target) (fun i => counts (indices.getD i 0)) sampled.named_again
    (by rwa [size]) (by rwa [size]) (by omega)
    fun i member => sampled.countAt_again i (List.mem_range.mp member)
  have unchanged : same = s := by
    apply Table.eq_of_cells
    · exact headers.trans sampled.headers_again
    · exact rows.trans sampled.rows_again
  rw [samples, unchanged, size, Report.ofIndices_range target positive (by omega)]

def repeatedHeaders : Table where
  headers := ["Count", "Note", "ID", "Count", "ID"]
  rows :=
    [["18446744073709551615", "a", "x", "-", ""],
      ["no count", "b", "y", "", ""],
      [" 1e3", "c", "z", "+3", "\t"]]
  rectangular := by decide

theorem subsampleTable_idempotent_repeated :
    ∃ s report, subsampleTable repeatedHeaders 2 = .ok (s, report) ∧
      s.rows =
        [["18446744073709551615", "a", "0.5", "-", ""], ["1000", "c", "1.0", "+3", "\t"]] ∧
      subsampleTable s 2 =
        .ok (s,
          { totalRows := 2
            interval := 1
            selectionRatio := ofNat 1
            selectedRows := 2
            firstCountMatches := true }) := by
  let s : Table :=
    { headers := repeatedHeaders.headers
      rows := [["18446744073709551615", "a", "0.5", "-", ""], ["1000", "c", "1.0", "+3", "\t"]]
      rectangular := by decide }
  have done : subsampleTable repeatedHeaders 2 = .ok (s, Report.ofIndices 3 [0, 2] true) := by
    decide +kernel
  exact ⟨s, _, done, rfl, subsampleTable_idempotent repeatedHeaders s 2 _ (by decide) done⟩

end PlotTables
