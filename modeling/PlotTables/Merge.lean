import PlotTables.Labeled

set_option autoImplicit false

namespace PlotTables

namespace Path

def slash : UInt8 := 47
def dot : UInt8 := 46

def baseName? (path : List UInt8) : Option (List UInt8) :=
  match ((splitAll slash path).filter fun part => part != [] && part != [dot]).getLast? with
  | some part => if part = [dot, dot] then none else some part
  | none => none

end Path

def hyphenToTwo (c : Char) : Char := if c = '-' then '2' else c

def deriveLabel (path : List UInt8) : String :=
  -- Bytes that are not UTF-8 stand as replacement characters.
  let base := Utf8.decodeLossy ((Path.baseName? path).getD [])
  String.ofList ((base.takeWhile fun c => c != '_').map hyphenToTwo)

structure MergedSource where
  path : String
  label : String
  rows : Nat
deriving DecidableEq

namespace Manifest

def paths (manifest : Table) : List String :=
  ((manifest.columnCells 0).map fun cell => String.ofList (trimBlanks cell.toList)).filter
    fun path => path != ""

def load (files : Reader) (path : String) : Except Failure (List String) := do
  return paths (← Table.load files path)

def loadSource (files : Reader) (path : String) :
    Except Failure (MergedSource × List LabeledRow) := do
  let label := deriveLabel (Utf8.encode path)
  let table ← Table.load files path
  let rows ← table.labeledRows label
  return (⟨path, label, table.rowCount⟩, rows)

def merge (files : Reader) (path : String) :
    Except Failure (LabeledTable × List MergedSource) := do
  let loaded ← (← load files path).mapM (loadSource files)
  return (⟨loaded.flatMap Prod.snd⟩, loaded.map Prod.fst)

end Manifest

structure PairLabels where
  withLabel : String
  withoutLabel : String
deriving DecidableEq

def PairLabels.standard : PairLabels := ⟨"With", "Without"⟩

def mergePair (labels : PairLabels) (withTable withoutTable : Table) :
    Except Failure LabeledTable := do
  if withTable.rowCount ≠ withoutTable.rowCount then
    throw (.rowCountMismatch withTable.rowCount withoutTable.rowCount)
  let withRows ← withTable.labeledRows labels.withLabel
  let withoutRows ← withoutTable.labeledRows labels.withoutLabel
  return ⟨(withRows.zip withoutRows).flatMap fun (a, b) => [a, b]⟩

def loadPair (files : Reader) (withPath withoutPath : String) : Except Failure LabeledTable := do
  let withTable ← Table.load files withPath
  let withoutTable ← Table.load files withoutPath
  mergePair .standard withTable withoutTable

end PlotTables
