import PlotTables.Proofs.Binary64.Shares
import PlotTables.Proofs.Decimal.Identifier
import PlotTables.Proofs.Subsample.Counts
import PlotTables.Proofs.Table.Cells

set_option autoImplicit false

namespace PlotTables

open Magnitude Binary64

theorem Layout.identifier_injective : Function.Injective Layout.identifier.text := by
  intro x y same
  have first := Layout.identifier_reads_back x
  rw [same, Layout.identifier_reads_back y] at first
  exact (Option.some.inj first).symm

theorem Layout.identifier_one (m : Magnitude) (one : m.value = 1) :
    Layout.identifier.text (.finite false m) = "1.0" := by
  have rounded := nearest?_value m
  rw [one, ← Nat.cast_one] at rounded
  rw [← nearest_of_nearest? _ m rounded, ← ofNat_nearest]
  decide +kernel

section Ids

variable (target : Nat) (few : target ≤ 2 ^ 53)

include few

theorem normalizedIds_share (i : Nat) (inside : i < target) :
    ∃ id, (normalizedIds target)[i]? = some (.finite false id) ∧ Share (i + 1) target id := by
  obtain ⟨id, computed, share⟩ := share_computed (i + 1) target (by omega) inside few
  refine ⟨id, ?_, share⟩
  simp only [normalizedIds, List.getElem?_map, List.getElem?_range inside, Option.map_some, computed]

theorem normalizedIds_lt (i j : Nat) (id later : Magnitude) (less : i < j)
    (here : (normalizedIds target)[i]? = some (.finite false id))
    (there : (normalizedIds target)[j]? = some (.finite false later)) : id.value < later.value := by
  have within : j < target := by simpa using (List.getElem?_eq_some_iff.mp there).1
  obtain ⟨m, first, share⟩ := normalizedIds_share target few i (by omega)
  obtain ⟨n, second, laterShare⟩ := normalizedIds_share target few j within
  rw [here] at first
  rw [there] at second
  cases first
  cases second
  exact share.lt _ _ _ _ _ few (by omega) within laterShare

theorem normalizedIds_nodup : (normalizedIds target).Nodup := by
  rw [List.nodup_iff_getElem?_ne_getElem?]
  intro i j less within same
  rw [normalizedIds_length] at within
  obtain ⟨id, there, _⟩ := normalizedIds_share target few j within
  rw [there] at same
  exact lt_irrefl _ (normalizedIds_lt target few i j id id less same there)

theorem normalizedIds_last (positive : 1 ≤ target) :
    ∃ one, (normalizedIds target).getLast? = some (.finite false one) ∧ one.value = 1 := by
  obtain ⟨one, there, share⟩ := normalizedIds_share target few (target - 1) (by omega)
  refine ⟨one, ?_, share.one_iff.mpr (by omega)⟩
  rw [List.getLast?_eq_getElem?, normalizedIds_length, there]

end Ids

structure Numbering (target : Nat) (ids : List Binary64) : Prop where
  length : ids.length = target
  share : ∀ i < target, ∃ id, ids[i]? = some (.finite false id) ∧ Share (i + 1) target id
  increasing : ∀ (i j : Nat) (id later : Magnitude), i < j → ids[i]? = some (.finite false id) →
    ids[j]? = some (.finite false later) → id.value < later.value
  last : ∃ one, ids.getLast? = some (.finite false one) ∧ one.value = 1
  distinct : (ids.map Layout.identifier.text).Nodup
  lastText : (ids.map Layout.identifier.text).getLast? = some "1.0"

theorem normalizedIds_numbering (target : Nat) (positive : 1 ≤ target) (few : target ≤ 2 ^ 53) :
    Numbering target (normalizedIds target) := by
  obtain ⟨one, last, value⟩ := normalizedIds_last target few positive
  refine ⟨normalizedIds_length target, normalizedIds_share target few, normalizedIds_lt target few,
    ⟨one, last, value⟩, (normalizedIds_nodup target few).map Layout.identifier_injective, ?_⟩
  rw [List.getLast?_map, last, Option.map_some, Layout.identifier_one one value]

theorem subsampleTable_ids (t s : Table) (target : Nat) (report : Report)
    (done : subsampleTable t target = .ok (s, report)) :
    ∃ column, s.columnIndex Table.idColumn = .ok column ∧
      s.columnCells column = (normalizedIds target).map Layout.identifier.text := by
  obtain ⟨_, _, done⟩ := (bind_ok _ _ _).mp done
  obtain ⟨_, _, done⟩ := (bind_ok _ _ _).mp done
  obtain ⟨_, _, done⟩ := (bind_ok _ _ _).mp done
  obtain ⟨_, _, done⟩ := (bind_ok _ _ _).mp done
  obtain ⟨counted, _, done⟩ := (bind_ok _ _ _).mp done
  obtain ⟨identified, written, done⟩ := (bind_ok _ _ _).mp done
  obtain ⟨_, _, done⟩ := (bind_ok _ _ _).mp done
  cases done
  exact counted.setColumn_columnCells s Table.idColumn _ written

theorem SampleSeries.ids_zip (ids : List Binary64) (counts : List UInt64)
    (same : counts.length = ids.length) :
    (ids.zipWith SamplePoint.mk counts).map SamplePoint.id = ids := by
  apply List.ext_getElem
  · simp [same]
  · intro i _ within
    simp

theorem subsampleCounts_ids (counts : List UInt64) (target : Nat) (series : SampleSeries)
    (report : Report) (done : subsampleCounts counts target = .ok (series, report)) :
    (series.points.map fun point => Layout.identifier.text point.id) =
      (normalizedIds target).map Layout.identifier.text := by
  obtain ⟨indices, computed, done⟩ := (bind_ok _ _ _).mp done
  obtain ⟨selected, taken, done⟩ := (bind_ok _ _ _).mp done
  cases done
  have size := (mapM_length _ _ _ taken).trans (uniformIndices_length _ _ _ computed).1
  have ids := SampleSeries.ids_zip (normalizedIds target) selected (by rw [size, normalizedIds_length])
  have texts := congrArg (List.map Layout.identifier.text) ids
  rwa [List.map_map] at texts

theorem normalizedIds_distinct (target : Nat) (positive : 1 ≤ target) (few : target ≤ 2 ^ 53) :
    Numbering target (normalizedIds target) ∧
    (∀ t s report, subsampleTable t target = .ok (s, report) →
      ∃ column, s.columnIndex Table.idColumn = .ok column ∧
        s.columnCells column = (normalizedIds target).map Layout.identifier.text) ∧
    ∀ counts series report, subsampleCounts counts target = .ok (series, report) →
      (series.points.map fun point => Layout.identifier.text point.id) =
        (normalizedIds target).map Layout.identifier.text :=
  ⟨normalizedIds_numbering target positive few,
    fun t s report => subsampleTable_ids t s target report,
    fun counts series report => subsampleCounts_ids counts target series report⟩

def sameIds : Table where
  headers := ["ID", "Count", "ID"]
  rows := [["x", "1", "x"], ["x", "2.0", "x"], ["x", "3", "x"]]
  rectangular := by decide

theorem normalizedIds_distinct_thirds :
    Numbering (2 ^ 53) (normalizedIds (2 ^ 53)) ∧
    ∃ (s : Table) (column : Nat), s.columnIndex Table.idColumn = .ok column ∧
      s.columnCells column = ["0.3333333333333333", "0.6666666666666666", "1.0"] ∧
      (s.columnCells column).Nodup := by
  let s : Table :=
    { headers := ["ID", "Count", "ID"]
      rows := [["0.3333333333333333", "1", "x"], ["0.6666666666666666", "2", "x"],
        ["1.0", "3", "x"]]
      rectangular := by decide }
  have done : subsampleTable sameIds 3 = .ok (s, Report.ofIndices 3 [0, 1, 2] true) := by
    decide +kernel
  have texts : (normalizedIds 3).map Layout.identifier.text =
      ["0.3333333333333333", "0.6666666666666666", "1.0"] := by
    decide +kernel
  obtain ⟨atLimit, _⟩ := normalizedIds_distinct (2 ^ 53) (by decide) (Nat.le_refl _)
  obtain ⟨numbering, tables, _⟩ := normalizedIds_distinct 3 (by decide) (by decide)
  obtain ⟨column, named, cells⟩ := tables sameIds s _ done
  exact ⟨atLimit, s, column, named, cells.trans texts, cells ▸ numbering.distinct⟩

end PlotTables
