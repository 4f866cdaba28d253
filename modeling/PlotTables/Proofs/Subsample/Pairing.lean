import PlotTables.Proofs.Merge.Agreement
import PlotTables.Proofs.Subsample.Meaning

set_option autoImplicit false

namespace PlotTables

open Magnitude Binary64
open Table (countColumn idColumn)

theorem Table.ReadsCount.unique {t : Table} {row : Nat} {count other : UInt64}
    (one : t.ReadsCount row count) (two : t.ReadsCount row other) : count = other := by
  obtain ⟨raw, there, read⟩ := one
  obtain ⟨same, again, reread⟩ := two
  obtain rfl : raw = same := Option.some.inj (there.symm.trans again)
  exact Except.ok.inj (read.symm.trans reread)

namespace Sampled

variable {t s : Table} {target column : Nat} {indices : List Nat} {counts : Nat → UInt64}

theorem readsCount (sampled : Sampled t s target column indices counts) (i : Nat)
    (inside : i < target) : s.ReadsCount i (counts (indices.getD i 0)) :=
  (s.countAt_ok column i sampled.named_again _).mp (sampled.countAt_again i inside)

theorem countable (sampled : Sampled t s target column indices counts) : s.Countable where
  identified := by
    obtain ⟨place, found⟩ := Table.withColumn_named t.headers idColumn
    exact Table.mem_of_named _ _ place (sampled.headers ▸ found)
  counted := Table.mem_of_named _ _ column sampled.named_again
  counts row inside := ⟨_, sampled.readsCount row (sampled.rowCount ▸ inside)⟩

theorem labeled (sampled : Sampled t s target column indices counts) (label : String)
    (rows : List LabeledRow) (done : s.labeledRows label = .ok rows) (i : Nat) (id : Binary64)
    (inside : i < target) (numbered : (normalizedIds target)[i]? = some id) :
    rows[i]? = some ⟨Layout.identifier.text id, label, counts (indices.getD i 0)⟩ := by
  obtain ⟨⟨text, tag, count⟩, there, labels⟩ :=
    (s.labeledRows_labels label rows done).2 i (sampled.rowCount ▸ inside)
  have identifier := sampled.cellUnder_id i id inside numbered
  have sameText : text = Layout.identifier.text id :=
    Option.some.inj (labels.id.symm.trans identifier)
  have sameCount : count = counts (indices.getD i 0) :=
    labels.count.unique (sampled.readsCount i inside)
  have sameTag : tag = label := labels.label
  rw [there, sameText, sameTag, sameCount]

theorem origin (sampled : Sampled t s target column indices counts) (i : Nat)
    (inside : i < target) :
    indices[i]? = some (indices.getD i 0) ∧
      t.ReadsCount (indices.getD i 0) (counts (indices.getD i 0)) := by
  have few : i < indices.length := by rwa [sampled.selection.length]
  have there : indices.getD i 0 = indices[i] := List.getD_eq_getElem _ _ few
  have counted := sampled.counted indices[i] (List.getElem_mem few)
  rw [there, List.getElem?_eq_getElem few]
  exact ⟨rfl, (t.countAt_ok column _ sampled.named _).mp counted⟩

end Sampled

theorem subsampled_pair (a b first second : Table) (target : Nat)
    (firstReport secondReport : Report) (firstSmall : a.rowCount ≤ 2 ^ 50)
    (secondSmall : b.rowCount ≤ 2 ^ 50)
    (firstDone : subsampleTable a target = .ok (first, firstReport))
    (secondDone : subsampleTable b target = .ok (second, secondReport)) :
    ∃ merged firstIndices secondIndices, mergePair .standard first second = .ok merged ∧
      merged.size = 2 * target ∧ uniformIndices a.rowCount target = .ok firstIndices ∧
      uniformIndices b.rowCount target = .ok secondIndices ∧
      ∀ i < target, ∃ id j l x y, IsNearest ((i + 1 : Nat) / target) id ∧
        firstIndices[i]? = some j ∧ a.ReadsCount j x ∧
        secondIndices[i]? = some l ∧ b.ReadsCount l y ∧
        merged.rows[2 * i]? = some ⟨Layout.identifier.text (.finite false id), "With", x⟩ ∧
        merged.rows[2 * i + 1]? =
          some ⟨Layout.identifier.text (.finite false id), "Without", y⟩ := by
  obtain ⟨_, firstIndices, firstCounts, one, _⟩ :=
    subsampleTable_sampled a first target firstReport firstSmall firstDone
  obtain ⟨_, secondIndices, secondCounts, two, _⟩ :=
    subsampleTable_sampled b second target secondReport secondSmall secondDone
  have equal : first.rowCount = second.rowCount := one.rowCount.trans two.rowCount.symm
  obtain ⟨merged, done⟩ :=
    (mergePair_isOk .standard first second).mpr ⟨equal, one.countable, two.countable⟩
  obtain ⟨withRows, withoutRows, withDone, withoutDone, withSize, withoutSize, rows⟩ :=
    mergePair_alternate .standard first second merged done
  have size := alternate_length withRows withoutRows (withSize.trans withoutSize.symm)
  refine ⟨merged, firstIndices, secondIndices, done, ?_, one.computed, two.computed, ?_⟩
  · rw [LabeledTable.size, rows, size, withSize, one.rowCount]
  · intro i inside
    have le := one.le
    obtain ⟨id, numbered, nearest⟩ := normalizedIds_nearest target i (by omega) inside
    obtain ⟨selected, counted⟩ := one.origin i inside
    obtain ⟨otherSelected, otherCounted⟩ := two.origin i inside
    have places := alternate_get withRows withoutRows (withSize.trans withoutSize.symm) i
    rw [← rows, one.labeled _ withRows withDone i _ inside numbered,
      two.labeled _ withoutRows withoutDone i _ inside numbered] at places
    exact ⟨id, _, _, _, _, nearest, selected, counted, otherSelected, otherCounted, places⟩

def unidentified : Table where
  headers := ["Note", "Count", "Count"]
  rows :=
    [["a", "1e3", ""], ["b", "no count", "1"], ["c", "", "2"], ["d", "2.5", "3"],
      ["e", "18446744073709551615", "-"]]
  rectangular := by decide

theorem subsampled_pair_of_lengths : ∃ first second merged,
    (∃ report, subsampleTable repeatedHeaders 2 = .ok (first, report)) ∧
    (∃ report, subsampleTable unidentified 2 = .ok (second, report)) ∧
    repeatedHeaders.rowCount = 3 ∧ unidentified.rowCount = 5 ∧
    mergePair .standard first second = .ok merged ∧ merged.size = 4 ∧
    ∃ id x y, IsNearest ((1 + 1 : Nat) / (2 : Nat)) id ∧
      repeatedHeaders.ReadsCount 2 x ∧ unidentified.ReadsCount 4 y ∧
      merged.rows[2 * 1]? = some ⟨Layout.identifier.text (.finite false id), "With", x⟩ ∧
      merged.rows[2 * 1 + 1]? = some ⟨Layout.identifier.text (.finite false id), "Without", y⟩ := by
  let first : Table :=
    { headers := ["Count", "Note", "ID", "Count", "ID"]
      rows := [["18446744073709551615", "a", "0.5", "-", ""], ["1000", "c", "1.0", "+3", "\t"]]
      rectangular := by decide }
  let second : Table :=
    { headers := ["Note", "Count", "Count", "ID"]
      rows := [["a", "1000", "", "0.5"], ["e", "18446744073709551615", "-", "1.0"]]
      rectangular := by decide }
  have firstDone : subsampleTable repeatedHeaders 2 =
      .ok (first, Report.ofIndices 3 [0, 2] true) := by decide +kernel
  have secondDone : subsampleTable unidentified 2 =
      .ok (second, Report.ofIndices 5 [0, 4] true) := by decide +kernel
  obtain ⟨merged, firstIndices, secondIndices, done, size, firstSelects, secondSelects, rows⟩ :=
    subsampled_pair repeatedHeaders unidentified first second 2 _ _ (by decide) (by decide)
      firstDone secondDone
  have firstSelected : uniformIndices 3 2 = .ok [0, 2] := by decide +kernel
  have secondSelected : uniformIndices 5 2 = .ok [0, 4] := by decide +kernel
  obtain rfl : firstIndices = [0, 2] := Except.ok.inj (firstSelects.symm.trans firstSelected)
  obtain rfl : secondIndices = [0, 4] := Except.ok.inj (secondSelects.symm.trans secondSelected)
  obtain ⟨id, j, l, x, y, nearest, there, counted, otherThere, otherCounted, even, odd⟩ :=
    rows 1 (by decide)
  cases there
  cases otherThere
  exact ⟨first, second, merged, ⟨_, firstDone⟩, ⟨_, secondDone⟩, rfl, rfl, done, size, id, x, y,
    nearest, counted, otherCounted, even, odd⟩

end PlotTables
