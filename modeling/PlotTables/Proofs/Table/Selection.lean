import Mathlib.Data.List.Basic
import PlotTables.Proofs.Table.Cells

set_option autoImplicit false

namespace PlotTables

section Chosen

variable {α β δ : Type}

def chosen (items : List α) (places : List Nat) : List α :=
  places.filterMap fun place => items[place]?

variable (items : List α) (places : List Nat)

theorem chosen_inside (inside : ∀ place ∈ places, place < items.length) (default : α) :
    chosen items places = places.map fun place => items.getD place default := by
  rw [chosen, List.filterMap_eq_map_iff_forall_eq_some]
  intro place member
  have there := List.getElem?_eq_getElem (inside place member)
  rw [List.getD_eq_getElem?_getD, there, Option.getD_some]

theorem chosen_at (inside : ∀ place ∈ places, place < items.length) (i : Nat) :
    (chosen items places)[i]? = places[i]?.bind fun place => items[place]? := by
  induction places generalizing i with
  | nil => rfl
  | cons place rest ih =>
    have within : place < items.length := inside place (by simp)
    have first : items[place]? = some items[place] := List.getElem?_eq_getElem within
    have others := ih fun other member => inside other (by simp [member])
    rw [chosen, List.filterMap_cons_some first]
    cases i with
    | zero => exact first.symm
    | succ before => exact others before

theorem chosen_chosen (inside : ∀ place ∈ places, place < items.length) (again : List Nat) :
    chosen (chosen items places) again = chosen items (chosen places again) := by
  simp only [chosen, List.filterMap_filterMap]
  apply List.filterMap_congr
  intro place _
  exact chosen_at items places inside place

theorem chosen_zipWith (f : α → β → δ) (others : List β) (same : others.length = items.length) :
    chosen (items.zipWith f others) places =
      (chosen items places).zipWith f (chosen others places) := by
  induction places with
  | nil => rfl
  | cons place rest ih =>
    simp only [chosen] at ih ⊢
    by_cases within : place < items.length
    next =>
      have item : items[place]? = some items[place] := List.getElem?_eq_getElem within
      have other : others[place]? = some others[place] := List.getElem?_eq_getElem (same ▸ within)
      have both : (items.zipWith f others)[place]? = some (f items[place] others[place]) := by
        rw [List.getElem?_zipWith, item, other]
      rw [List.filterMap_cons_some both, List.filterMap_cons_some item,
        List.filterMap_cons_some other, ih, List.zipWith_cons_cons]
    next =>
      have item : items[place]? = none := List.getElem?_eq_none (Nat.le_of_not_lt within)
      have other : others[place]? = none := List.getElem?_eq_none (same ▸ Nat.le_of_not_lt within)
      have both : (items.zipWith f others)[place]? = none := by
        rw [List.getElem?_zipWith, item]
      rw [List.filterMap_cons_none both, List.filterMap_cons_none item,
        List.filterMap_cons_none other, ih]

end Chosen

namespace Table

theorem selectRows_chosen (t : Table) (positions : List Nat)
    (inside : ∀ position ∈ positions, position < t.rowCount) :
    ∃ selected, t.selectRows positions = .ok selected ∧ selected.headers = t.headers ∧
      selected.rows = chosen t.rows positions := by
  obtain ⟨selected, selects, headers, rows⟩ := t.selectRows_ok positions inside
  exact ⟨selected, selects, headers, rows.trans (chosen_inside t.rows positions inside []).symm⟩

/-- The first column of that name holds the values, and is the last one if there was none. -/
structure Rewritten (t changed : Table) (name : String) (values : List String) : Prop where
  headers : changed.headers = if name ∈ t.headers then t.headers else t.headers ++ [name]
  rowCount : changed.rowCount = t.rowCount
  written : ∃ column, changed.columnIndex name = .ok column ∧ changed.columnCells column = values
  kept : ∀ column < t.headers.length, t.headers.idxOf? name ≠ some column → ∀ row < t.rowCount,
    ∃ text, t.cell row column = .ok text ∧ changed.cell row column = .ok text

theorem setColumn_rewritten (t changed : Table) (name : String) (values : List String)
    (done : t.setColumn name values = .ok changed) (same : values.length = t.rowCount) :
    Rewritten t changed name values := by
  obtain ⟨_, again, headers, rows⟩ := t.setColumn_ok name values same
  cases done.symm.trans again
  refine ⟨?_, ?_, t.setColumn_columnCells changed name values done, ?_⟩
  · rw [headers, withColumn_eq]
  · rw [rowCount, rows, List.length_zipWith, same, rowCount, Nat.min_self]
  · intro column inside elsewhere row within
    have there : t.rows[row]? = some t.rows[row] := List.getElem?_eq_getElem within
    have value : values[row]? = some values[row] := List.getElem?_eq_getElem (same ▸ within)
    have wide := t.rectangular t.rows[row] (List.getElem_mem within)
    refine ⟨t.rows[row][column], ?_, ?_⟩
    · rw [cell_ok, there, Option.bind_some, List.getElem?_eq_getElem]
    · rw [cell_ok, rows, List.getElem?_zipWith, there, value, Option.bind_some,
        withCell_kept _ _ _ _ _ inside elsewhere wide, List.getElem?_eq_getElem]

theorem setColumn_selectRows (t changed selected : Table) (positions : List Nat) (name : String)
    (values : List String) (inside : ∀ position ∈ positions, position < t.rowCount)
    (same : values.length = t.rowCount) (written : t.setColumn name values = .ok changed)
    (selects : t.selectRows positions = .ok selected) :
    ∃ both, changed.selectRows positions = .ok both ∧
      selected.setColumn name (chosen values positions) = .ok both := by
  obtain ⟨_, again, headers, rows⟩ := t.setColumn_ok name values same
  cases written.symm.trans again
  obtain ⟨_, again, kept, picked⟩ := t.selectRows_chosen positions inside
  cases selects.symm.trans again
  have rewritten := t.setColumn_rewritten changed name values written same
  obtain ⟨both, done, bothHeaders, bothRows⟩ :=
    changed.selectRows_chosen positions (by rwa [rewritten.rowCount])
  have fits : (chosen values positions).length = selected.rowCount := by
    rw [rowCount, picked, chosen_inside values positions (by rwa [same]) "",
      chosen_inside t.rows positions inside [], List.length_map, List.length_map]
  obtain ⟨other, otherDone, otherHeaders, otherRows⟩ := selected.setColumn_ok name _ fits
  refine ⟨both, done, ?_⟩
  rw [otherDone]
  apply congrArg
  apply eq_of_cells
  · rw [otherHeaders, bothHeaders, headers, kept]
  · rw [otherRows, bothRows, rows, picked, kept, chosen_zipWith t.rows positions _ values same]

theorem selectRows_selectRows (t selected : Table) (positions places : List Nat)
    (inside : ∀ position ∈ positions, position < t.rowCount)
    (within : ∀ place ∈ places, place < positions.length)
    (selects : t.selectRows positions = .ok selected) :
    ∃ both, selected.selectRows places = .ok both ∧
      t.selectRows (chosen positions places) = .ok both := by
  obtain ⟨_, again, kept, picked⟩ := t.selectRows_chosen positions inside
  cases selects.symm.trans again
  have size : selected.rowCount = positions.length := by
    rw [rowCount, picked, chosen_inside t.rows positions inside [], List.length_map]
  have both : ∀ position ∈ chosen positions places, position < t.rowCount := by
    intro position member
    obtain ⟨place, _, there⟩ := List.mem_filterMap.mp member
    exact inside position (List.mem_of_getElem? there)
  obtain ⟨twice, done, headers, rows⟩ := selected.selectRows_chosen places (by rwa [size])
  obtain ⟨once, onceDone, onceHeaders, onceRows⟩ := t.selectRows_chosen _ both
  refine ⟨twice, done, ?_⟩
  rw [onceDone]
  apply congrArg
  apply eq_of_cells
  · rw [onceHeaders, headers, kept]
  · rw [onceRows, rows, picked, chosen_chosen t.rows positions inside places]

theorem selectRows_commutes (t : Table) (positions : List Nat)
    (inside : ∀ position ∈ positions, position < t.rowCount) :
    ∃ selected, t.selectRows positions = .ok selected ∧
      (∀ name values, values.length = t.rowCount → ∃ changed both,
        t.setColumn name values = .ok changed ∧ Rewritten t changed name values ∧
        changed.selectRows positions = .ok both ∧
        selected.setColumn name (chosen values positions) = .ok both) ∧
      ∀ places, (∀ place ∈ places, place < positions.length) → ∃ both,
        selected.selectRows places = .ok both ∧
        t.selectRows (chosen positions places) = .ok both := by
  obtain ⟨selected, selects, _⟩ := t.selectRows_chosen positions inside
  refine ⟨selected, selects, ?_, ?_⟩
  next =>
    intro name values same
    obtain ⟨changed, written, _⟩ := t.setColumn_ok name values same
    obtain ⟨both, before, after⟩ :=
      t.setColumn_selectRows changed selected positions name values inside same written selects
    exact ⟨changed, both, written, t.setColumn_rewritten changed name values written same, before,
      after⟩
  next =>
    intro places within
    exact t.selectRows_selectRows selected positions places inside within selects

def repeated : Table where
  headers := ["ID", "Count", "ID"]
  rows := [["a", "1", "x"], ["b", "2", "y"], ["c", "3", "z"]]
  rectangular := by decide

theorem selectRows_commutes_repeated :
    ∃ selected, repeated.selectRows [2, 0, 2] = .ok selected ∧
      (∃ changed, repeated.setColumn "ID" ["p", "q", "r"] = .ok changed ∧
        Rewritten repeated changed "ID" ["p", "q", "r"] ∧
        changed.selectRows [2, 0, 2] = selected.setColumn "ID" ["r", "p", "r"]) ∧
      (∃ changed, repeated.setColumn "Note" ["p", "q", "r"] = .ok changed ∧
        Rewritten repeated changed "Note" ["p", "q", "r"] ∧
        changed.selectRows [2, 0, 2] = selected.setColumn "Note" ["r", "p", "r"]) ∧
      selected.selectRows [1, 1, 2] = repeated.selectRows [0, 0, 2] := by
  obtain ⟨selected, selects, writes, again⟩ := selectRows_commutes repeated [2, 0, 2] (by decide)
  obtain ⟨replaced, _, replaces, first, before, after⟩ := writes "ID" ["p", "q", "r"] rfl
  obtain ⟨appended, _, appends, last, beforeToo, afterToo⟩ := writes "Note" ["p", "q", "r"] rfl
  obtain ⟨_, twice, once⟩ := again [1, 1, 2] (by decide)
  exact ⟨selected, selects, ⟨replaced, replaces, first, before.trans after.symm⟩,
    ⟨appended, appends, last, beforeToo.trans afterToo.symm⟩, twice.trans once.symm⟩

end Table

end PlotTables
