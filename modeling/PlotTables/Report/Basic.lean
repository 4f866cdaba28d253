import PlotTables.Binary64
import PlotTables.Decimal.Layout
import PlotTables.Failure

set_option autoImplicit false

namespace PlotTables

structure Report where
  totalRows : Nat
  -- The distance of the first two selected rows, or all rows when one is selected.
  interval : Nat
  selectionRatio : Binary64
  selectedRows : Nat
  firstCountMatches : Bool
deriving DecidableEq

inductive ReportFormat where
  | text
  | json
  | yaml
deriving DecidableEq

def ReportFormat.standard : ReportFormat := .text

def ReportFormat.parse (name : String) : Except Failure ReportFormat :=
  match name.toList.map Char.toLower with
  | ['t', 'e', 'x', 't'] => .ok .text
  | ['j', 's', 'o', 'n'] => .ok .json
  | ['y', 'a', 'm', 'l'] | ['y', 'm', 'l'] => .ok .yaml
  | other => .error (.unknownFormat (String.ofList other))

def Layout.json : Layout where
  -- The values without digits have no text in JSON.
  tie := .even
  least := -5
  greatest := 15
  plus := ['+']
  nan := "null".toList
  infinity := "null".toList
  negativeInfinity := "null".toList

def Layout.yaml : Layout where
  tie := .even
  least := -5
  greatest := 15
  plus := []
  nan := ".nan".toList
  infinity := ".inf".toList
  negativeInfinity := "-.inf".toList

namespace Report

def ofIndices (totalRows : Nat) (indices : List Nat) (firstCountMatches : Bool) : Report where
  totalRows
  interval :=
    match indices with
    | first :: second :: _ => second - first
    | _ => totalRows
  selectionRatio := (Binary64.ofNat indices.length).div (Binary64.ofNat totalRows)
  selectedRows := indices.length
  firstCountMatches

def truth (b : Bool) : String := if b then "true" else "false"

def renderText (r : Report) : String :=
  s!"Total rows:       {r.totalRows.repr}\n" ++
    s!"Interval:         {r.interval.repr}\n" ++
    s!"Selection ratio:  {fixedPlaces 4 r.selectionRatio}\n" ++
    s!"Selected rows:    {r.selectedRows.repr}" ++
    if r.firstCountMatches then "" else "\nFirst row is not the same!"

def entries (r : Report) (layout : Layout) : List (String × String) :=
  [("total_rows", r.totalRows.repr),
    ("interval", r.interval.repr),
    ("selection_ratio", layout.text r.selectionRatio),
    ("selected_rows", r.selectedRows.repr),
    ("first_count_matches", truth r.firstCountMatches)]

def renderJson (r : Report) : String :=
  let members := (r.entries .json).map fun (name, value) => s!"  \"{name}\": {value}"
  "\x7b\n" ++ String.intercalate ",\n" members ++ "\n\x7d"

def renderYaml (r : Report) : String :=
  String.join ((r.entries .yaml).map fun (name, value) => s!"{name}: {value}\n")

def render (r : Report) : ReportFormat → String
  | .text => r.renderText
  | .json => r.renderJson
  | .yaml => r.renderYaml

end Report

end PlotTables
