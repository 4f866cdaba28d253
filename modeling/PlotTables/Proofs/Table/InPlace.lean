import PlotTables.Proofs.Table.Edits
import PlotTables.Proofs.Table.RoundTrip
import PlotTables.Subsample

set_option autoImplicit false

namespace PlotTables

/-- Columns and rows, with nothing said about their widths. -/
structure Sheet where
  headers : List String
  rows : List (List String)
deriving DecidableEq

namespace Sheet

/-- A failure, or a record refused because the first one had another width. -/
inductive Fault where
  | failure (failure : Failure)
  | unequalRecords (found expected : Nat)
deriving DecidableEq

def create (headers : List String) (rows : List (List String)) : Except Failure Sheet :=
  match rows.find? fun row => row.length != headers.length with
  | some row => .error (.dimensionMismatch headers.length row.length)
  | none => .ok ⟨headers, rows⟩

def columnIndex (s : Sheet) (name : String) : Except Failure Nat :=
  match s.headers.idxOf? name with
  | some column => .ok column
  | none => .error (.missingColumn name)

def countAt (s : Sheet) (row column : Nat) : Except Failure UInt64 :=
  match s.rows[row]? with
  | none => .error (.indexOutOfBounds s.rows.length row)
  | some cells =>
      match cells[column]?, s.headers[column]? with
      | none, _ => .error (.indexOutOfBounds cells.length column)
      | some _, none => .error (.indexOutOfBounds s.headers.length column)
      | some raw, some name => Count.parse raw row name

def rowAt (s : Sheet) (position : Nat) : Except Failure (List String) :=
  match s.rows[position]? with
  | some row => .ok row
  | none => .error (.rowOutOfBounds position)

def selectRows (s : Sheet) (positions : List Nat) : Except Failure Sheet :=
  (positions.mapM s.rowAt).map fun rows => ⟨s.headers, rows⟩

def replaceCells (column : Nat) :
    List (List String) → List String → Except Failure Unit × List (List String)
  | row :: rows, value :: values =>
      if column < row.length then
        let (result, changed) := replaceCells column rows values
        (result, row.set column value :: changed)
      else (.error (.indexOutOfBounds row.length column), row :: rows)
  | rows, _ => (.ok (), rows)

def appendCells : List (List String) → List String → List (List String)
  | row :: rows, value :: values => (row ++ [value]) :: appendCells rows values
  | rows, _ => rows

/-- The result, and what is left of the sheet whatever the result is. -/
def setColumn (s : Sheet) (name : String) (values : List String) : Except Failure Unit × Sheet :=
  if values.length = s.rows.length then
    match s.headers.idxOf? name with
    | some column =>
        let (result, rows) := replaceCells column s.rows values
        (result, { s with rows })
    | none => (.ok (), ⟨s.headers ++ [name], appendCells s.rows values⟩)
  else (.error (.dimensionMismatch s.rows.length values.length), s)

def subsample (s : Sheet) (target : Nat) : Except Failure Sheet := do
  let column ← s.columnIndex Table.countColumn
  let indices ← uniformIndices s.rows.length target
  let counts ← indices.mapM fun row => s.countAt row column
  let selected ← s.selectRows indices
  let (result, counted) := selected.setColumn Table.countColumn (counts.map Count.text)
  result
  let (result, identified) := counted.setColumn Table.idColumn
    ((normalizedIds target).map Layout.identifier.text)
  result
  let _ ← s.countAt 0 column
  let _ ← countOf counts 0
  return identified

def writeRows (width : Nat) : List (List String) → Except Fault (List UInt8)
  | [] => .ok []
  | row :: rows =>
      if row.length = width then
        (writeRows width rows).map (Delimited.writeRecord (row.map Utf8.encode) ++ ·)
      else .error (.unequalRecords row.length width)

def write (s : Sheet) : Except Fault (List UInt8) :=
  (writeRows s.headers.length s.rows).map
    (Delimited.writeRecord (s.headers.map Utf8.encode) ++ ·)

def read (content : List UInt8) : Except Failure Sheet :=
  match Delimited.rawRecords Delimited.tab content with
  | [] => .error .noHeader
  | first :: rest => do
      let headers ← first.decode.mapError Failure.records
      let rows ← (rest.mapM (Delimited.RawRecord.decodeWidth headers.length)).mapError
        Failure.records
      create headers rows

def assign (s : Sheet) : Except Fault Sheet → Except Fault Unit × Sheet
  | .ok changed => (.ok (), changed)
  | .error fault => (.error fault, s)

def edit (s : Sheet) : Table.Edit → Except Fault Unit × Sheet
  | .selectRows positions => s.assign ((s.selectRows positions).mapError .failure)
  | .setColumn name values =>
      let (result, changed) := s.setColumn name values
      (result.mapError .failure, changed)
  | .subsample target => s.assign ((s.subsample target).mapError .failure)
  | .reload => s.assign (s.write >>= fun content => (read content).mapError .failure)

def afterEdits (s : Sheet) (changes : List Table.Edit) : Sheet :=
  changes.foldl (fun s change => (s.edit change).2) s

section Cells

variable (rows : List (List String)) (values : List String)

theorem replaceCells_wide (column : Nat) (wide : ∀ row ∈ rows, column < row.length)
    (same : values.length = rows.length) : replaceCells column rows values =
      (.ok (), (rows.zip values).map fun (row, value) => row.set column value) := by
  induction rows generalizing values with
  | nil => rfl
  | cons row rest ih =>
    cases values with
    | nil => cases same
    | cons value others =>
      have later := ih others (fun other member => wide other (by simp [member]))
        (Nat.succ.inj same)
      simp [replaceCells, wide row, later]

-- A missing cell stops a replacement half way.
example : (Sheet.mk ["A", "B"] [["1", "2"], ["3"]]).setColumn "B" ["x", "y"] =
    (.error (.indexOutOfBounds 1 1), ⟨["A", "B"], [["1", "x"], ["3"]]⟩) := by decide

theorem appendCells_zip (same : values.length = rows.length) :
    appendCells rows values = (rows.zip values).map fun (row, value) => row ++ [value] := by
  induction rows generalizing values with
  | nil => rfl
  | cons row rest ih =>
    cases values with
    | nil => cases same
    | cons value others => simp [appendCells, ih others (Nat.succ.inj same)]

theorem writeRows_wide (width : Nat) (wide : ∀ row ∈ rows, row.length = width) :
    writeRows width rows = .ok (Delimited.write rows) := by
  induction rows with
  | nil => rfl
  | cons row rest ih =>
    have later := ih fun other member => wide other (by simp [member])
    rw [writeRows, if_pos (wide row (by simp)), later]
    rfl

end Cells

end Sheet

theorem uniformIndices_ne_nil (available target : Nat) (indices : List Nat)
    (computed : uniformIndices available target = .ok indices) : indices ≠ [] := by
  unfold uniformIndices at computed
  split at computed
  next => cases computed
  next =>
    split at computed
    next =>
      cases computed
      simp
    next =>
      cases computed
      simp

namespace Table

variable (t : Table)

def sheet : Sheet := ⟨t.headers, t.rows⟩

theorem sheet_headers : t.sheet.headers = t.headers := rfl

theorem sheet_rows : t.sheet.rows = t.rows := rfl

theorem sheet_create (headers : List String) (rows : List (List String)) :
    Sheet.create headers rows = (ofRows headers rows).map sheet := by
  unfold Sheet.create ofRows
  split
  next row found =>
    split
    next other again =>
      rw [found] at again
      cases again
      rfl
    next none =>
      rw [found] at none
      cases none
  next none =>
    split
    next row found =>
      rw [none] at found
      cases found
    next => rfl

theorem sheet_read (content : List UInt8) : Sheet.read content = (read content).map sheet := by
  unfold Sheet.read read
  cases Delimited.rawRecords Delimited.tab content with
  | nil => rfl
  | cons first rest =>
    simp only [sheet_create]
    cases first.decode with
    | error fault => rfl
    | ok headers =>
      cases decoded : rest.mapM (Delimited.RawRecord.decodeWidth headers.length) with
      | error fault => simp [decoded, Except.mapError, bind, Except.bind, Except.map]
      | ok rows => simp [decoded, Except.mapError, bind, Except.bind]

theorem sheet_rowAt (position : Nat) :
    t.sheet.rowAt position = (t.rowAt position).map Subtype.val := by
  unfold Sheet.rowAt rowAt
  split
  next row found =>
    split
    next other again =>
      cases found.symm.trans again
      rfl
    next none => cases found.symm.trans none
  next none =>
    split
    next row found => cases none.symm.trans found
    next => rfl

theorem sheet_selectRows (positions : List Nat) :
    t.sheet.selectRows positions = (t.selectRows positions).map sheet := by
  have each : t.sheet.rowAt = fun position => (t.rowAt position).map Subtype.val := by
    funext position
    exact t.sheet_rowAt position
  unfold Sheet.selectRows selectRows
  rw [each, mapM_map]
  cases positions.mapM t.rowAt <;> rfl

theorem sheet_setColumn (name : String) (values : List String) :
    t.sheet.setColumn name values =
      match t.setColumn name values with
      | .ok changed => (.ok (), changed.sheet)
      | .error failure => (.error failure, t.sheet) := by
  by_cases same : values.length = t.rowCount
  next =>
    have here : values.length = t.sheet.rows.length := same
    rw [Sheet.setColumn, setColumn, if_pos here, if_pos same, sheet_headers, sheet_rows]
    cases named : t.headers.idxOf? name with
    | some column =>
      have inside := lt_of_named t.headers name column named
      have replaced := Sheet.replaceCells_wide t.rows values column
        (fun row member => by rwa [t.rectangular row member]) same
      simp only [replaced]
      rfl
    | none =>
      simp only [Sheet.appendCells_zip t.rows values same]
      rfl
  next =>
    have here : values.length ≠ t.sheet.rows.length := same
    rw [Sheet.setColumn, setColumn, if_neg here, if_neg same]
    rfl

theorem sheet_countAt (row column : Nat) (inside : column < t.headers.length) :
    t.sheet.countAt row column = t.countAt row column := by
  unfold Sheet.countAt countAt cell
  simp only [sheet]
  cases there : t.rows[row]? with
  | none => rfl
  | some cells =>
    cases found : cells[column]? with
    | none => simp [found]
    | some raw => simp [found, inside]

theorem sheet_subsample (target : Nat) : t.sheet.subsample target =
    (subsampleTable t target).map fun (selected, _) => selected.sheet := by
  have lookup : t.sheet.columnIndex countColumn = t.columnIndex countColumn := rfl
  have size : t.sheet.rows.length = t.rowCount := rfl
  simp only [Sheet.subsample, subsampleTable, lookup, size, sheet_selectRows, map_bind, bind_map]
  apply bind_congr_ok
  intro column found
  have inside := lt_of_named _ _ _ (columnIndex_named t _ _ found)
  simp only [sheet_countAt t _ column inside]
  apply bind_congr_ok
  intro indices computed
  apply bind_congr_ok
  intro counts counted
  obtain ⟨first, others, rfl⟩ : ∃ first others, counts = first :: others := by
    apply List.exists_cons_of_length_pos
    rw [mapM_length _ _ _ counted]
    exact List.length_pos_iff.mpr (uniformIndices_ne_nil _ _ _ computed)
  apply bind_congr_ok
  intro selected _
  simp only [sheet_setColumn]
  cases selected.setColumn countColumn ((first :: others).map Count.text) with
  | error failure => rfl
  | ok changed =>
    simp only [sheet_setColumn, bind, Except.bind]
    cases changed.setColumn idColumn ((normalizedIds target).map Layout.identifier.text) with
    | error failure => rfl
    | ok identified => cases t.countAt 0 column <;> rfl

theorem sheet_write : t.sheet.write = .ok t.write := by
  rw [Sheet.write, sheet, Sheet.writeRows_wide t.rows t.headers.length t.rectangular]
  rfl

theorem sheet_edit (change : Edit) : t.sheet.edit change =
    t.sheet.assign (((t.edit change).map sheet).mapError .failure) := by
  cases change with
  | selectRows positions =>
    simp only [Sheet.edit, edit, sheet_selectRows]
  | setColumn name values =>
    simp only [Sheet.edit, edit, sheet_setColumn]
    cases t.setColumn name values <;> rfl
  | subsample target =>
    simp only [Sheet.edit, edit, sheet_subsample]
    cases subsampleTable t target <;> rfl
  | reload =>
    simp only [Sheet.edit, edit, sheet_write, sheet_read]
    rfl

end Table

end PlotTables
