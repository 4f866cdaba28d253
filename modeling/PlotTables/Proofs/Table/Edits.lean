import PlotTables.Proofs.Sequence
import PlotTables.Table

set_option autoImplicit false

namespace PlotTables.Table

def withColumn (headers : List String) (name : String) : List String :=
  match headers.idxOf? name with
  | some _ => headers
  | none => headers ++ [name]

def withCell (headers : List String) (name : String) (row : List String) (value : String) :
    List String :=
  match headers.idxOf? name with
  | some column => row.set column value
  | none => row ++ [value]

section Named

variable (headers row : List String) (name other value : String) (column : Nat)

theorem lt_of_named (named : headers.idxOf? name = some column) : column < headers.length :=
  (List.idxOf?_eq_some_iff.mp named).1

theorem ne_of_named (place : Nat) (named : headers.idxOf? name = some column)
    (others : headers.idxOf? other = some place) (different : other ≠ name) : place ≠ column := by
  intro same
  subst same
  obtain ⟨_, first, _⟩ := List.idxOf?_eq_some_iff.mp named
  obtain ⟨_, second, _⟩ := List.idxOf?_eq_some_iff.mp others
  exact different (second.symm.trans first)

theorem withColumn_self (named : headers.idxOf? name = some column) :
    withColumn headers name = headers := by
  simp [withColumn, named]

theorem withColumn_absent (absent : headers.idxOf? name = none) :
    withColumn headers name = headers ++ [name] := by
  simp [withColumn, absent]

theorem idxOf?_withColumn_other (others : headers.idxOf? other = some column) :
    (withColumn headers name).idxOf? other = some column := by
  cases named : headers.idxOf? name with
  | some place => rwa [withColumn_self headers name place named]
  | none =>
    rw [withColumn_absent headers name named]
    simp only [List.idxOf?] at others ⊢
    simp [List.findIdx?_append, others]

theorem idxOf?_withColumn_absent (absent : headers.idxOf? name = none) :
    (withColumn headers name).idxOf? name = some headers.length := by
  rw [withColumn_absent headers name absent]
  simp only [List.idxOf?] at absent ⊢
  simp [List.findIdx?_append, absent]

theorem withColumn_named : ∃ column, (withColumn headers name).idxOf? name = some column := by
  cases named : headers.idxOf? name with
  | some column => exact ⟨column, by rwa [withColumn_self headers name column named]⟩
  | none => exact ⟨headers.length, idxOf?_withColumn_absent headers name named⟩

theorem withCell_length (wide : row.length = headers.length) :
    (withCell headers name row value).length = (withColumn headers name).length := by
  cases named : headers.idxOf? name <;> simp [withCell, withColumn, named, wide]

theorem withCell_named (wide : row.length = headers.length)
    (named : (withColumn headers name).idxOf? name = some column) :
    (withCell headers name row value)[column]? = some value := by
  cases before : headers.idxOf? name with
  | some place =>
    rw [withColumn_self headers name place before, before] at named
    cases named
    have inside := lt_of_named headers name column before
    simp [withCell, before, wide, inside]
  | none =>
    rw [idxOf?_withColumn_absent headers name before] at named
    cases named
    simp [withCell, before, wide]

theorem withCell_kept (inside : column < headers.length)
    (elsewhere : headers.idxOf? name ≠ some column) (wide : row.length = headers.length) :
    (withCell headers name row value)[column]? = row[column]? := by
  cases named : headers.idxOf? name with
  | some place =>
    have apart : place ≠ column := by
      intro same
      exact elsewhere (same ▸ named)
    simp [withCell, named, List.getElem?_set_ne apart]
  | none => simp [withCell, named, List.getElem?_append_left (wide ▸ inside)]

theorem withCell_other (others : headers.idxOf? other = some column) (different : other ≠ name)
    (wide : row.length = headers.length) :
    (withCell headers name row value)[column]? = row[column]? := by
  apply withCell_kept headers row name value column (lt_of_named headers other column others) _ wide
  intro named
  exact ne_of_named headers name other column column named others different rfl

theorem withCell_self (named : headers.idxOf? name = some column)
    (there : row[column]? = some value) : withCell headers name row value = row := by
  obtain ⟨inside, same⟩ := List.getElem?_eq_some_iff.mp there
  simp [withCell, named, ← same]

end Named

theorem eq_of_cells (t u : Table) (headers : t.headers = u.headers) (rows : t.rows = u.rows) :
    t = u := by
  cases t
  cases u
  cases headers
  cases rows
  rfl

theorem columnIndex_ok (t : Table) (name : String) (column : Nat)
    (named : t.headers.idxOf? name = some column) : t.columnIndex name = .ok column := by
  rw [columnIndex, named]

theorem columnIndex_named (t : Table) (name : String) (column : Nat)
    (found : t.columnIndex name = .ok column) : t.headers.idxOf? name = some column := by
  rw [columnIndex] at found
  split at found
  next place named => rwa [Except.ok.inj found] at named
  next => cases found

theorem rowAt_inside (t : Table) (position : Nat) (inside : position < t.rowCount) :
    t.rowAt position = .ok ⟨t.rows[position], List.getElem_mem inside⟩ := by
  have found : t.rows[position]? = some t.rows[position] := List.getElem?_eq_getElem inside
  unfold rowAt
  split
  next row there =>
    rw [found] at there
    cases there
    rfl
  next there =>
    rw [found] at there
    cases there

theorem selectRows_ok (t : Table) (positions : List Nat)
    (inside : ∀ position ∈ positions, position < t.rowCount) :
    ∃ selected, t.selectRows positions = .ok selected ∧ selected.headers = t.headers ∧
      selected.rows = positions.map (t.rows.getD · []) := by
  have chosen : ∃ rows, positions.mapM t.rowAt = .ok rows ∧
      rows.map Subtype.val = positions.map (t.rows.getD · []) := by
    induction positions with
    | nil => exact ⟨[], rfl, rfl⟩
    | cons position rest ih =>
      obtain ⟨rows, done, shown⟩ := ih fun other member => inside other (by simp [member])
      have first := inside position (by simp)
      refine ⟨⟨t.rows[position], List.getElem_mem first⟩ :: rows, ?_, ?_⟩
      · rw [List.mapM_cons, rowAt_inside t position first, done]
        rfl
      · have there : t.rows.getD position [] = t.rows[position] := by
          rw [List.getD_eq_getElem?_getD, List.getElem?_eq_getElem first, Option.getD_some]
        rw [List.map_cons, List.map_cons, shown, there]
  obtain ⟨rows, done, shown⟩ := chosen
  unfold selectRows
  rw [done]
  exact ⟨_, rfl, rfl, shown⟩

theorem rowAt_error (t : Table) (position : Nat) (failure : Failure) :
    t.rowAt position = .error failure ↔
      t.rowCount ≤ position ∧ failure = .rowOutOfBounds position := by
  by_cases inside : position < t.rowCount
  next =>
    rw [rowAt_inside t position inside]
    simp [Nat.not_le.mpr inside]
  next =>
    have none : t.rows[position]? = none := List.getElem?_eq_none (Nat.le_of_not_lt inside)
    have outside : t.rowCount ≤ position := Nat.le_of_not_lt inside
    unfold rowAt
    split
    next row found => cases none.symm.trans found
    next => simp [outside, eq_comm]

theorem selectRows_error (t : Table) (positions : List Nat) (failure : Failure) :
    t.selectRows positions = .error failure ↔ ∃ place position : Nat,
      positions[place]? = some position ∧ t.rowCount ≤ position ∧
      failure = .rowOutOfBounds position ∧ ∀ earlier other : Nat, earlier < place →
        positions[earlier]? = some other → other < t.rowCount := by
  have fails : t.selectRows positions = .error failure ↔
      positions.mapM t.rowAt = .error failure := by
    unfold selectRows
    cases positions.mapM t.rowAt <;> simp
  have inside (other : Nat) : (∃ row, t.rowAt other = .ok row) ↔ other < t.rowCount := by
    constructor
    next =>
      rintro ⟨row, found⟩
      apply Nat.lt_of_not_le
      intro outside
      have refused := (t.rowAt_error other _).mpr ⟨outside, rfl⟩
      cases found.symm.trans refused
    next => exact fun less => ⟨_, rowAt_inside t other less⟩
  rw [fails, mapM_error]
  simp only [rowAt_error, inside, and_assoc]

theorem selectRows_refused (t : Table) (positions : List Nat)
    (outside : ∃ position ∈ positions, t.rowCount ≤ position) :
    ∃ position ∈ positions, t.rowCount ≤ position ∧
      t.selectRows positions = .error (.rowOutOfBounds position) := by
  cases result : t.selectRows positions with
  | ok selected =>
    obtain ⟨position, member, beyond⟩ := outside
    unfold selectRows at result
    cases chosen : positions.mapM t.rowAt with
    | ok rows =>
      obtain ⟨row, found⟩ := mapM_each _ _ _ chosen position member
      cases found.symm.trans ((t.rowAt_error position _).mpr ⟨beyond, rfl⟩)
    | error failure =>
      rw [chosen] at result
      cases result
  | error failure =>
    obtain ⟨place, position, there, beyond, rfl, _⟩ := (t.selectRows_error _ _).mp result
    exact ⟨position, List.mem_of_getElem? there, beyond, rfl⟩

theorem setColumn_ok (t : Table) (name : String) (values : List String)
    (same : values.length = t.rowCount) :
    ∃ changed, t.setColumn name values = .ok changed ∧
      changed.headers = withColumn t.headers name ∧
      changed.rows = t.rows.zipWith (withCell t.headers name) values := by
  rw [setColumn, if_pos same]
  cases named : t.headers.idxOf? name with
  | some column =>
    refine ⟨_, rfl, ?_, ?_⟩
    · rw [withColumn, named]
      rfl
    · have cells : withCell t.headers name = fun row value => row.set column value := by
        funext row value
        rw [withCell, named]
      rw [cells]
      exact List.map_zip_eq_zipWith
  | none =>
    refine ⟨_, rfl, ?_, ?_⟩
    · rw [withColumn, named]
      rfl
    · have cells : withCell t.headers name = fun row value => row ++ [value] := by
        funext row value
        rw [withCell, named]
      rw [cells]
      exact List.map_zip_eq_zipWith

end PlotTables.Table
