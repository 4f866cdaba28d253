import PlotTables.Report.Basic
import PlotTables.Table

set_option autoImplicit false

namespace PlotTables

/--
The `target` positions that space `available` rows evenly, first and last row included. Position
`i` is `i` times the step, cut to an integer; the last one is set to the last row.
-/
def uniformIndices (available target : Nat) : Except Failure (List Nat) :=
  if target = 0 ∨ available < target then .error (.invalidTarget target available)
  else if target = 1 then .ok [0]
  else
    let step := (Binary64.ofNat (available - 1)).div (Binary64.ofNat (target - 1))
    let inner := (List.range (target - 1)).map fun i => ((Binary64.ofNat i).mul step).truncate
    -- The last product may fall short of the last row.
    .ok (inner ++ [available - 1])

def normalizedIds (target : Nat) : List Binary64 :=
  (List.range target).map fun i => (Binary64.ofNat (i + 1)).div (Binary64.ofNat target)

structure SamplePoint where
  id : Binary64
  count : UInt64
deriving DecidableEq

structure SampleSeries where
  points : List SamplePoint
deriving DecidableEq

namespace SampleSeries

def size (series : SampleSeries) : Nat := series.points.length

def isEmpty (series : SampleSeries) : Bool := series.points.isEmpty

def counts (series : SampleSeries) : List UInt64 := series.points.map SamplePoint.count

def header : List String := [Table.idColumn, Table.countColumn]

def write (series : SampleSeries) : List UInt8 :=
  Delimited.write (header :: series.points.map fun point =>
    [Layout.identifier.text point.id, Count.text point.count])

end SampleSeries

def countOf (counts : List UInt64) (position : Nat) : Except Failure UInt64 :=
  match counts[position]? with
  | some count => .ok count
  | none => .error (.indexOutOfBounds counts.length position)

def subsampleCounts (counts : List UInt64) (target : Nat) :
    Except Failure (SampleSeries × Report) := do
  let indices ← uniformIndices counts.length target
  let selected ← indices.mapM (countOf counts)
  let points := (normalizedIds target).zipWith SamplePoint.mk selected
  let report := Report.ofIndices counts.length indices (counts.head? == selected.head?)
  return (⟨points⟩, report)

/--
All columns are kept. The count column, which there must be, is written anew from the parsed
counts, and the identifier column is replaced or added.
-/
def subsampleTable (t : Table) (target : Nat) : Except Failure (Table × Report) := do
  let column ← t.columnIndex Table.countColumn
  let indices ← uniformIndices t.rowCount target
  let counts ← indices.mapM fun row => t.countAt row column
  let selected ← t.selectRows indices
  let counted ← selected.setColumn Table.countColumn (counts.map Count.text)
  let identified ← counted.setColumn Table.idColumn
    ((normalizedIds target).map Layout.identifier.text)
  let first ← t.countAt 0 column
  return (identified, Report.ofIndices t.rowCount indices (some first == counts.head?))

inductive Table.Edit where
  | selectRows (positions : List Nat)
  | setColumn (name : String) (values : List String)
  | subsample (target : Nat)
  | reload
deriving DecidableEq

namespace Table

def edit (t : Table) : Edit → Except Failure Table
  | .selectRows positions => t.selectRows positions
  | .setColumn name values => t.setColumn name values
  | .subsample target => (subsampleTable t target).map Prod.fst
  | .reload => read t.write

def afterEdit (t : Table) (change : Edit) : Table :=
  match t.edit change with
  | .ok changed => changed
  | .error _ => t

def afterEdits (t : Table) (changes : List Edit) : Table := changes.foldl afterEdit t

end Table

end PlotTables
