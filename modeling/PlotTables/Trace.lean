import PlotTables.Count
import PlotTables.Delimited
import PlotTables.Files

set_option autoImplicit false

namespace PlotTables

structure TraceFormat where
  marker : String
  separator : Char
  delimiter : UInt8
deriving DecidableEq

namespace TraceFormat

def standard : TraceFormat := ⟨"Freq:", ':', 59⟩

def withMarker (marker : String) : TraceFormat := { standard with marker }

def valueOf (format : TraceFormat) (cell : String) : String :=
  String.ofList ((cell.toList.dropWhile fun c => c != format.separator).drop 1)

def isMarked (format : TraceFormat) (cell : String) : Bool :=
  format.marker.toList.isPrefixOf cell.toList

def countOfCells (format : TraceFormat) (row : Nat) (cells : List String) :
    Except Failure UInt64 :=
  match cells.find? format.isMarked with
  | some cell => Count.parseWord (format.valueOf cell) row format.marker
  | none => .ok 0

end TraceFormat

namespace Trace

def lines (content : List UInt8) : List (List UInt8) :=
  -- Each line keeps the line feed that ends it.
  content.foldr
    (fun b later =>
      if b = Delimited.lineFeed then [b] :: later
      else
        match later with
        | [] => [[b]]
        | next :: rest => (b :: next) :: rest)
    []

def withoutEnd (line : List UInt8) : List UInt8 :=
  -- One carriage return before the line feed goes with it.
  match line.reverse with
  | 10 :: 13 :: rest => rest.reverse
  | 10 :: rest => rest.reverse
  | _ => line

def countOfLine (format : TraceFormat) (row : Nat) (line : List UInt8) :
    Except Failure UInt64 :=
  let text := withoutEnd line
  -- The whole line must be UTF-8, also what stands after its first record.
  if (Utf8.decode? text).isNone then .error .lineNotUtf8
  else
    match Delimited.rawRecords format.delimiter text with
    | [] => .ok 0
    | record :: _ =>
        match record.decode with
        | .ok cells => format.countOfCells row cells
        | .error fault => .error (.records fault)

def counts (format : TraceFormat) (content : List UInt8) : Except Failure (List UInt64) :=
  -- Line by line, so that neither a quote nor an empty line shifts the rows after it.
  (lines content).zipIdx.mapM fun (line, row) => countOfLine format row line

def load (files : Reader) (format : TraceFormat) (path : String) :
    Except Failure (List UInt64) :=
  match files path with
  | .error fault | .ok (.unreadable fault) => .error (.file fault)
  | .ok (.readable content) => counts format content

end Trace

end PlotTables
