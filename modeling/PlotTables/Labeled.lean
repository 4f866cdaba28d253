import PlotTables.Count
import PlotTables.Delimited
import PlotTables.Table

set_option autoImplicit false

namespace PlotTables

structure LabeledRow where
  id : String
  label : String
  count : UInt64
deriving DecidableEq

structure LabeledTable where
  rows : List LabeledRow
deriving DecidableEq

namespace LabeledTable

def size (t : LabeledTable) : Nat := t.rows.length

def isEmpty (t : LabeledTable) : Bool := t.rows.isEmpty

def append (t : LabeledTable) (rows : List LabeledRow) : LabeledTable := ⟨t.rows ++ rows⟩

def push (t : LabeledTable) (row : LabeledRow) : LabeledTable := t.append [row]

def countLabel (t : LabeledTable) (label : String) : Nat :=
  t.rows.countP fun row => row.label == label

def header : List String := [Table.idColumn, "Type", Table.countColumn]

def write (t : LabeledTable) : List UInt8 :=
  Delimited.write (header :: t.rows.map fun row => [row.id, row.label, Count.text row.count])

end LabeledTable

def Table.labeledRows (t : Table) (label : String) : Except Failure (List LabeledRow) := do
  let idColumn ← t.columnIndex idColumn
  let countColumn ← t.columnIndex countColumn
  let counts ← t.columnCounts countColumn
  return (t.columnCells idColumn).zipWith (fun id count => ⟨id, label, count⟩) counts

end PlotTables
