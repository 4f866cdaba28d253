import PlotTables.Count
import PlotTables.Delimited
import PlotTables.Files

set_option autoImplicit false

namespace PlotTables

structure Table where
  headers : List String
  rows : List (List String)
  rectangular : ∀ row ∈ rows, row.length = headers.length
deriving DecidableEq

namespace Table

def idColumn : String := "ID"

def countColumn : String := "Count"

def ofRows (headers : List String) (rows : List (List String)) : Except Failure Table :=
  match unequal : rows.find? fun row => row.length != headers.length with
  | some row => .error (.dimensionMismatch headers.length row.length)
  | none =>
      .ok
        { headers
          rows
          rectangular := fun row member => by
            simpa using List.find?_eq_none.mp unequal row member }

def rowCount (t : Table) : Nat := t.rows.length

def columnCount (t : Table) : Nat := t.headers.length

def isEmpty (t : Table) : Bool := t.rows.isEmpty

def columnIndex (t : Table) (name : String) : Except Failure Nat :=
  match t.headers.idxOf? name with
  | some column => .ok column
  | none => .error (.missingColumn name)

def hasColumn (t : Table) (name : String) : Bool := t.headers.contains name

def cell (t : Table) (row column : Nat) : Except Failure String :=
  -- The row is looked up before the column.
  match t.rows[row]? with
  | none => .error (.indexOutOfBounds t.rows.length row)
  | some cells =>
      match cells[column]? with
      | none => .error (.indexOutOfBounds cells.length column)
      | some text => .ok text

def countAt (t : Table) (row column : Nat) : Except Failure UInt64 :=
  match t.cell row column with
  | .ok raw => Count.parse raw row (t.headers.getD column "")
  | .error failure => .error failure

def columnCells (t : Table) (column : Nat) : List String :=
  t.rows.map fun row => row.getD column ""

def columnCounts (t : Table) (column : Nat) : Except Failure (List UInt64) :=
  (t.columnCells column).zipIdx.mapM fun (raw, row) =>
    Count.parse raw row (t.headers.getD column "")

def counts (t : Table) (name : String) : Except Failure (List UInt64) :=
  match t.columnIndex name with
  | .ok column => t.columnCounts column
  | .error failure => .error failure

def rowAt (t : Table) (position : Nat) : Except Failure { row : List String // row ∈ t.rows } :=
  match found : t.rows[position]? with
  | some row => .ok ⟨row, List.mem_of_getElem? found⟩
  | none => .error (.rowOutOfBounds position)

def selectRows (t : Table) (positions : List Nat) : Except Failure Table :=
  match positions.mapM t.rowAt with
  | .ok selected =>
      .ok
        { headers := t.headers
          rows := selected.map Subtype.val
          rectangular := by
            intro row member
            obtain ⟨chosen, _, rfl⟩ := List.mem_map.mp member
            exact t.rectangular chosen.val chosen.property }
  | .error failure => .error failure

def replaceColumn (t : Table) (column : Nat) (values : List String) : Table where
  headers := t.headers
  rows := (t.rows.zip values).map fun (row, value) => row.set column value
  rectangular := by
    intro row member
    obtain ⟨⟨cells, value⟩, pair, rfl⟩ := List.mem_map.mp member
    simpa using t.rectangular cells (List.of_mem_zip pair).1

def appendColumn (t : Table) (name : String) (values : List String) : Table where
  headers := t.headers ++ [name]
  rows := (t.rows.zip values).map fun (row, value) => row ++ [value]
  rectangular := by
    intro row member
    obtain ⟨⟨cells, value⟩, pair, rfl⟩ := List.mem_map.mp member
    simpa using t.rectangular cells (List.of_mem_zip pair).1

def setColumn (t : Table) (name : String) (values : List String) : Except Failure Table :=
  -- Only the first column of that name is replaced.
  if values.length = t.rowCount then
    match t.headers.idxOf? name with
    | some column => .ok (t.replaceColumn column values)
    | none => .ok (t.appendColumn name values)
  else .error (.dimensionMismatch t.rowCount values.length)

def read (content : List UInt8) : Except Failure Table :=
  match Delimited.rawRecords Delimited.tab content with
  | [] => .error .noHeader
  | first :: rest => do
      let headers ← first.decode.mapError Failure.records
      let rows ← (rest.mapM (Delimited.RawRecord.decodeWidth headers.length)).mapError
        Failure.records
      ofRows headers rows

def load (files : Reader) (path : String) : Except Failure Table :=
  match files path with
  | .error fault => .error (.file fault)
  | .ok (.unreadable fault) => .error (.records (.unreadable fault))
  | .ok (.readable content) => read content

def write (t : Table) : List UInt8 := Delimited.write (t.headers :: t.rows)

end Table

end PlotTables
