import PlotTables.Failure
import PlotTables.Text.Basic

set_option autoImplicit false

namespace PlotTables.Delimited

def tab : UInt8 := 9
def lineFeed : UInt8 := 10
def carriageReturn : UInt8 := 13
def quote : UInt8 := 34

def endsLine (b : UInt8) : Bool := b == lineFeed || b == carriageReturn

def mark : List UInt8 := [0xEF, 0xBB, 0xBF]

structure RawRecord where
  place : Place
  fields : List (List UInt8)
deriving DecidableEq

/-- Where reading stands; `closing` is after a quote that may end a quoted part. -/
inductive Mode where
  | recordStart
  | fieldStart
  | bare
  | quoted
  | closing
deriving DecidableEq

/-- What has been read, everything in reverse, and the place of the record being read. -/
structure Reading where
  mode : Mode
  records : List RawRecord
  fields : List (List UInt8)
  bytes : List UInt8
  place : Place
  line : Nat
  offset : Nat
deriving DecidableEq

namespace Reading

def start (skipped : Nat) : Reading where
  mode := .recordStart
  records := []
  fields := []
  bytes := []
  place := ⟨0, 1, 0⟩
  line := 1
  offset := skipped

def keep (r : Reading) (mode : Mode) (b : UInt8) : Reading :=
  { r with mode := mode, bytes := b :: r.bytes }

def endField (r : Reading) : Reading :=
  { r with mode := .fieldStart, fields := r.bytes.reverse :: r.fields, bytes := [] }

def endRecord (r : Reading) : Reading :=
  -- The next record counts from the byte after the one that ended this one.
  { r with
    mode := .recordStart
    records := ⟨r.place, (r.bytes.reverse :: r.fields).reverse⟩ :: r.records
    fields := []
    bytes := []
    place := ⟨r.place.number + 1, r.line, r.offset⟩ }

-- Counts the byte before anything is made of it.
def pass (r : Reading) (b : UInt8) : Reading :=
  { r with offset := r.offset + 1, line := if b = lineFeed then r.line + 1 else r.line }

def unquoted (delimiter : UInt8) (r : Reading) (b : UInt8) : Reading :=
  if b = delimiter then r.endField
  else if endsLine b then r.endRecord
  else r.keep .bare b

-- The first byte of a field: a quote opens a quoted part even where it is the delimiter.
def opening (delimiter : UInt8) (r : Reading) (b : UInt8) : Reading :=
  if b = quote then { r with mode := .quoted } else r.unquoted delimiter b

def advance (delimiter : UInt8) (reading : Reading) (b : UInt8) : Reading :=
  let r := reading.pass b
  match r.mode with
  | .quoted => if b = quote then { r with mode := .closing } else r.keep .quoted b
  -- Two quotes in a row are one, and anything else after a quote is outside.
  | .closing => if b = quote then r.keep .quoted b else r.unquoted delimiter b
  | .bare => r.unquoted delimiter b
  | .fieldStart => r.opening delimiter b
  | .recordStart => if endsLine b then r else r.opening delimiter b

def finish (r : Reading) : List RawRecord :=
  -- An unfinished record ends with the text.
  match r.mode with
  | .recordStart => r.records.reverse
  | _ => r.endRecord.records.reverse

end Reading

def rawRecords (delimiter : UInt8) (content : List UInt8) : List RawRecord :=
  let skipped := if mark.isPrefixOf content then mark.length else 0
  ((content.drop skipped).foldl (Reading.advance delimiter) (.start skipped)).finish

namespace RawRecord

def decodeFrom (place : Place) (index : Nat) :
    List (List UInt8) → Except RecordFault (List String)
  | [] => .ok []
  | field :: rest =>
      match Utf8.decode? field with
      | some text => (decodeFrom place (index + 1) rest).map (text :: ·)
      | none => .error (.notUtf8 place index (Utf8.validLength field))

def decode (record : RawRecord) : Except RecordFault (List String) :=
  decodeFrom record.place 0 record.fields

def decodeWidth (width : Nat) (record : RawRecord) : Except RecordFault (List String) :=
  -- The width is tested first.
  if record.fields.length = width then record.decode
  else .error (.unequalWidth record.place record.fields.length width)

end RawRecord

def needsQuotes (field : List UInt8) : Bool :=
  field.any fun b => b == tab || b == quote || endsLine b

def doubleQuotes (field : List UInt8) : List UInt8 :=
  field.flatMap fun b => if b = quote then [quote, quote] else [b]

def quoteField (field : List UInt8) : List UInt8 := quote :: doubleQuotes field ++ [quote]

def writeField (field : List UInt8) : List UInt8 :=
  if needsQuotes field then quoteField field else field

def writeRecord (fields : List (List UInt8)) : List UInt8 :=
  if fields.flatten = [] ∧ fields.length ≤ 1 then [quote, quote, lineFeed]
  else [tab].intercalate (fields.map writeField) ++ [lineFeed]

def write (records : List (List String)) : List UInt8 :=
  records.flatMap fun record => writeRecord (record.map Utf8.encode)

end PlotTables.Delimited
