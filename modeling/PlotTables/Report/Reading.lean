import PlotTables.Json.Number
import PlotTables.Report.Basic

set_option autoImplicit false

namespace PlotTables.Report

def word? : Json.Value → Option Nat
  | .number n => n.toWord?
  | _ => none

def double? : Json.Value → Option Binary64
  | .number n => n.toBinary64?
  | _ => none

def truth? : Json.Value → Option Bool
  | .bool b => some b
  | _ => none

def ofValues? (totalRows interval ratio selectedRows matched : Json.Value) : Option Report := do
  let totalRows ← word? totalRows
  let interval ← word? interval
  let selectionRatio ← double? ratio
  let selectedRows ← word? selectedRows
  let firstCountMatches ← truth? matched
  return { totalRows, interval, selectionRatio, selectedRows, firstCountMatches }

def member? (members : List (List Char × Json.Value)) (name : String) : Option Json.Value :=
  match members.filter fun (key, _) => key == name.toList with
  | [(_, value)] => some value
  | _ => none

def named? (members : List (List Json.Piece × Json.Value)) :
    Option (List (List Char × Json.Value)) :=
  members.mapM fun (key, value) => (Json.decodeString? key).map fun name => (name, value)

def ofJson? : Json.Value → Option Report
  | .array [totalRows, interval, ratio, selectedRows, matched] =>
      ofValues? totalRows interval ratio selectedRows matched
  | .object pieces => do
      let members ← named? pieces
      ofValues? (← member? members "total_rows") (← member? members "interval")
        (← member? members "selection_ratio") (← member? members "selected_rows")
        (← member? members "first_count_matches")
  | _ => none

inductive ReadFault where
  | malformed
deriving DecidableEq

def parse (text : String) : Except ReadFault Report :=
  match (Json.parse? text.toList).bind ofJson? with
  | some report => .ok report
  | none => .error .malformed

end PlotTables.Report
