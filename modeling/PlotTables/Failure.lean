set_option autoImplicit false

namespace PlotTables

inductive FileFault where
  | noSuchFile
  | notADirectory
  | isADirectory
  | nameTooLong
  | nulInName
  | other (code : Nat) (text : String)
deriving DecidableEq

def FileFault.message : FileFault → String
  | .noSuchFile => "No such file or directory (os error 2)"
  | .notADirectory => "Not a directory (os error 20)"
  | .isADirectory => "Is a directory (os error 21)"
  | .nameTooLong => "File name too long (os error 36)"
  | .nulInName => "file name contained an unexpected NUL byte"
  | .other code text => s!"{text} (os error {code})"

/-- Where a record starts: its number from zero, its line from one, its byte from zero. -/
structure Place where
  number : Nat
  line : Nat
  offset : Nat
deriving DecidableEq

inductive RecordFault where
  | unreadable (fault : FileFault)
  | unequalWidth (place : Place) (found expected : Nat)
  | notUtf8 (place : Place) (field validLength : Nat)
deriving DecidableEq

def RecordFault.message : RecordFault → String
  | .unreadable fault => fault.message
  | .unequalWidth place found expected =>
      s!"CSV error: record {place.number} (line: {place.line}, byte: {place.offset}): " ++
        s!"found record with {found} fields, but the previous record has {expected} fields"
  | .notUtf8 place field validLength =>
      s!"CSV parse error: record {place.number} (line {place.line}, field: {field}, " ++
        s!"byte: {place.offset}): invalid utf-8: invalid UTF-8 in field {field} " ++
        s!"near byte index {validLength}"

inductive Failure where
  | file (fault : FileFault)
  | lineNotUtf8
  | records (fault : RecordFault)
  | invalidCount (value : String) (row : Nat) (column : String)
  | dimensionMismatch (expected actual : Nat)
  | invalidTarget (target available : Nat)
  | rowCountMismatch (withRows withoutRows : Nat)
  | missingColumn (name : String)
  | noHeader
  | rowOutOfBounds (row : Nat)
  | unknownFormat (name : String)
  | indexOutOfBounds (length index : Nat)
deriving DecidableEq

def Failure.message : Failure → String
  | .file fault => "I/O error: " ++ fault.message
  | .lineNotUtf8 => "I/O error: stream did not contain valid UTF-8"
  | .records fault => "CSV parsing error: " ++ fault.message
  | .invalidCount value row column =>
      s!"Invalid count value '{value}' at row {row}, column '{column}'"
  | .dimensionMismatch expected actual =>
      s!"Dimension mismatch: expected {expected}, got {actual}"
  | .invalidTarget target available =>
      s!"Invalid target count {target}: must be between 1 and {available} (available rows)"
  | .rowCountMismatch withRows withoutRows =>
      s!"Row count mismatch: {withRows} rows with, {withoutRows} rows without"
  | .missingColumn name => s!"Missing column '{name}'"
  | .noHeader => "Empty data: Table has no header row"
  | .rowOutOfBounds row => s!"Invalid parameter: Row index {row} out of bounds"
  | .unknownFormat name =>
      s!"Invalid parameter: Unknown report format '{name}' (expected text, json or yaml)"
  | .indexOutOfBounds length index =>
      s!"index out of bounds: the len is {length} but the index is {index}"

end PlotTables
