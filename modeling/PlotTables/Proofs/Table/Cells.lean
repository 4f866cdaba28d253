import PlotTables.Proofs.Count
import PlotTables.Proofs.Table.Edits

set_option autoImplicit false

namespace PlotTables.Table

/-- The cell of a row in the first column of that name. -/
def cellUnder (t : Table) (name : String) (row : Nat) : Option String := do
  let column ← t.headers.idxOf? name
  let cells ← t.rows[row]?
  cells[column]?

def ReadsCount (t : Table) (row : Nat) (count : UInt64) : Prop :=
  ∃ raw, t.cellUnder countColumn row = some raw ∧ Count.parse raw row countColumn = .ok count

theorem named_of_mem (headers : List String) (name : String) (member : name ∈ headers) :
    ∃ column, headers.idxOf? name = some column := by
  cases named : headers.idxOf? name with
  | some column => exact ⟨column, rfl⟩
  | none => exact absurd member (List.idxOf?_eq_none_iff.mp named)

theorem mem_of_named (headers : List String) (name : String) (column : Nat)
    (named : headers.idxOf? name = some column) : name ∈ headers := by
  obtain ⟨inside, same, _⟩ := List.idxOf?_eq_some_iff.mp named
  exact same ▸ List.getElem_mem inside

theorem withColumn_eq (headers : List String) (name : String) :
    withColumn headers name = if name ∈ headers then headers else headers ++ [name] := by
  cases named : headers.idxOf? name with
  | some column =>
    rw [withColumn_self headers name column named,
      if_pos (mem_of_named headers name column named)]
  | none =>
    rw [withColumn_absent headers name named, if_neg (List.idxOf?_eq_none_iff.mp named)]

section Cell

variable (t : Table) (name : String) (column row : Nat)

theorem cellUnder_named (named : t.headers.idxOf? name = some column) :
    t.cellUnder name row = t.rows[row]?.bind fun cells => cells[column]? := by
  rw [cellUnder, named]
  rfl

theorem cell_ok (text : String) :
    t.cell row column = .ok text ↔ (t.rows[row]?.bind fun cells => cells[column]?) = some text := by
  unfold cell
  cases t.rows[row]? with
  | none => simp
  | some cells =>
    simp only [Option.bind_some]
    cases cells[column]? <;> simp

theorem columnCells_at (named : t.headers.idxOf? name = some column) :
    (t.columnCells column)[row]? = t.cellUnder name row := by
  rw [cellUnder_named t name column row named, columnCells, List.getElem?_map]
  cases there : t.rows[row]? with
  | none => rfl
  | some cells =>
    have wide := t.rectangular cells (List.mem_of_getElem? there)
    have inside := lt_of_named t.headers name column named
    simp [wide, inside]

theorem cellUnder_inside (member : name ∈ t.headers) (inside : row < t.rowCount) :
    ∃ text, t.cellUnder name row = some text := by
  obtain ⟨column, named⟩ := named_of_mem t.headers name member
  rw [← columnCells_at t name column row named]
  exact ⟨_, List.getElem?_eq_getElem (by simpa [columnCells, rowCount] using inside)⟩

theorem inside_of_cellUnder (text : String) (there : t.cellUnder name row = some text) :
    name ∈ t.headers ∧ row < t.rowCount := by
  cases named : t.headers.idxOf? name with
  | none => simp [cellUnder, named] at there
  | some column =>
    rw [cellUnder_named t name column row named] at there
    obtain ⟨cells, found, _⟩ := Option.bind_eq_some_iff.mp there
    exact ⟨mem_of_named t.headers name column named, (List.getElem?_eq_some_iff.mp found).1⟩

theorem headers_getD (named : t.headers.idxOf? name = some column) :
    t.headers.getD column "" = name := by
  obtain ⟨inside, same, _⟩ := List.idxOf?_eq_some_iff.mp named
  rw [List.getD_eq_getElem?_getD, List.getElem?_eq_getElem inside, Option.getD_some]
  exact same

theorem countAt_parse (raw : String) (named : t.headers.idxOf? countColumn = some column)
    (there : t.cellUnder countColumn row = some raw) :
    t.countAt row column = Count.parse raw row countColumn := by
  rw [cellUnder_named t countColumn column row named] at there
  rw [countAt, headers_getD t countColumn column named, (cell_ok t column row raw).mpr there]

theorem countAt_ok (named : t.headers.idxOf? countColumn = some column) (count : UInt64) :
    t.countAt row column = .ok count ↔ t.ReadsCount row count := by
  rw [countAt, headers_getD t countColumn column named, ReadsCount,
    cellUnder_named t countColumn column row named]
  cases read : t.cell row column with
  | ok raw => simp [(cell_ok t column row raw).mp read]
  | error failure =>
    constructor
    next => intro same; cases same
    next =>
      rintro ⟨raw, there, _⟩
      rw [(cell_ok t column row raw).mpr there] at read
      cases read

theorem countAt_error (named : t.headers.idxOf? countColumn = some column)
    (inside : row < t.rowCount) (failure : Failure) :
    t.countAt row column = .error failure ↔ ∃ raw, t.cellUnder countColumn row = some raw ∧
      Count.read? raw.toList = none ∧ failure = .invalidCount raw row countColumn := by
  obtain ⟨raw, there⟩ := cellUnder_inside t countColumn row
    (mem_of_named t.headers countColumn column named) inside
  simp [countAt_parse t column row raw named there, Count.parse_error, there]

end Cell

theorem setColumn_columnCells (t changed : Table) (name : String) (values : List String)
    (done : t.setColumn name values = .ok changed) :
    ∃ column, changed.columnIndex name = .ok column ∧ changed.columnCells column = values := by
  have same : values.length = t.rowCount := by
    unfold setColumn at done
    split at done
    next same => exact same
    next => cases done
  obtain ⟨_, written, headers, rows⟩ := t.setColumn_ok name values same
  rw [done] at written
  cases written
  obtain ⟨column, named⟩ := withColumn_named t.headers name
  refine ⟨column, changed.columnIndex_ok name column (headers ▸ named), ?_⟩
  apply List.ext_getElem
  · simp [columnCells, rows, same, rowCount]
  · intro row inside within
    have there : row < t.rows.length := Nat.lt_of_lt_of_eq within same
    have cell := withCell_named t.headers t.rows[row] name values[row] column
      (t.rectangular _ (List.getElem_mem there)) named
    simp [columnCells, rows, cell]

end PlotTables.Table
