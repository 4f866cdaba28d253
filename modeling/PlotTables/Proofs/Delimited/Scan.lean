import PlotTables.Delimited

set_option autoImplicit false

namespace PlotTables.Delimited

structure Scan where
  mode : Mode
  records : List (List (List UInt8))
  fields : List (List UInt8)
  bytes : List UInt8

namespace Scan

def start : Scan := ⟨.recordStart, [], [], []⟩

def keep (s : Scan) (mode : Mode) (b : UInt8) : Scan :=
  { s with mode := mode, bytes := b :: s.bytes }

def endField (s : Scan) : Scan :=
  { s with mode := .fieldStart, fields := s.bytes.reverse :: s.fields, bytes := [] }

def endRecord (s : Scan) : Scan :=
  ⟨.recordStart, (s.bytes.reverse :: s.fields).reverse :: s.records, [], []⟩

def unquoted (delimiter : UInt8) (s : Scan) (b : UInt8) : Scan :=
  if b = delimiter then s.endField else if endsLine b then s.endRecord else s.keep .bare b

def opening (delimiter : UInt8) (s : Scan) (b : UInt8) : Scan :=
  if b = quote then { s with mode := .quoted } else s.unquoted delimiter b

def advance (delimiter : UInt8) (s : Scan) (b : UInt8) : Scan :=
  match s.mode with
  | .quoted => if b = quote then { s with mode := .closing } else s.keep .quoted b
  | .closing => if b = quote then s.keep .quoted b else s.unquoted delimiter b
  | .bare => s.unquoted delimiter b
  | .fieldStart => s.opening delimiter b
  | .recordStart => if endsLine b then s else s.opening delimiter b

def run (delimiter : UInt8) (s : Scan) (text : List UInt8) : Scan :=
  text.foldl (advance delimiter) s

def finish (s : Scan) : List (List (List UInt8)) :=
  match s.mode with
  | .recordStart => s.records.reverse
  | _ => s.endRecord.records.reverse

@[simp] theorem run_nil (delimiter : UInt8) (s : Scan) : run delimiter s [] = s := rfl

@[simp] theorem run_cons (delimiter : UInt8) (s : Scan) (b : UInt8) (text : List UInt8) :
    run delimiter s (b :: text) = run delimiter (s.advance delimiter b) text := rfl

@[simp] theorem run_append (delimiter : UInt8) (s : Scan) (text more : List UInt8) :
    run delimiter s (text ++ more) = run delimiter (run delimiter s text) more :=
  List.foldl_append

theorem finish_lineFeed (delimiter : UInt8) (s : Scan) (other : delimiter ≠ lineFeed)
    (outside : s.mode ≠ .quoted) : (s.advance delimiter lineFeed).finish = s.finish := by
  have ends : endsLine lineFeed = true := by decide
  have notQuote : lineFeed ≠ quote := by decide
  cases place : s.mode with
  | recordStart => simp [advance, place, ends]
  | fieldStart => simp [advance, place, opening, unquoted, notQuote, other.symm, ends, finish, endRecord]
  | bare => simp [advance, place, unquoted, other.symm, ends, finish, endRecord]
  | quoted => exact absurd place outside
  | closing => simp [advance, place, unquoted, notQuote, other.symm, ends, finish, endRecord]

section Records

variable (delimiter : UInt8) (s : Scan) (b : UInt8)

theorem unquoted_records : (s.unquoted delimiter b).records = s.records ∨
    (s.unquoted delimiter b).records = s.endRecord.records := by
  unfold unquoted
  split
  next => exact .inl rfl
  next => split <;> simp [keep]

theorem opening_records : (s.opening delimiter b).records = s.records ∨
    (s.opening delimiter b).records = s.endRecord.records := by
  unfold opening
  split
  next => exact .inl rfl
  next => exact unquoted_records delimiter s b

theorem advance_records : (s.advance delimiter b).records = s.records ∨
    (s.advance delimiter b).records = s.endRecord.records := by
  unfold advance
  split
  next => split <;> exact .inl rfl
  next =>
    split
    next => exact .inl rfl
    next => exact unquoted_records delimiter s b
  next => exact unquoted_records delimiter s b
  next => exact opening_records delimiter s b
  next =>
    split
    next => exact .inl rfl
    next => exact opening_records delimiter s b

theorem endRecord_ne_nil (filled : ∀ record ∈ s.records, record ≠ []) :
    ∀ record ∈ s.endRecord.records, record ≠ [] := by
  intro record member
  rcases List.mem_cons.mp member with rfl | before
  · simp
  · exact filled record before

theorem run_ne_nil (text : List UInt8) (filled : ∀ record ∈ s.records, record ≠ []) :
    ∀ record ∈ (s.run delimiter text).records, record ≠ [] := by
  induction text generalizing s with
  | nil => exact filled
  | cons b rest ih =>
    rw [run_cons]
    apply ih
    rcases advance_records delimiter s b with same | ended
    · rwa [same]
    · rw [ended]
      exact endRecord_ne_nil s filled

theorem finish_ne_nil (filled : ∀ record ∈ s.records, record ≠ []) :
    ∀ record ∈ s.finish, record ≠ [] := by
  intro record member
  unfold finish at member
  split at member
  · exact filled record (List.mem_reverse.mp member)
  · exact endRecord_ne_nil s filled record (List.mem_reverse.mp member)

end Records

end Scan

namespace Reading

def found (r : Reading) : Scan := ⟨r.mode, r.records.map RawRecord.fields, r.fields, r.bytes⟩

theorem unquoted_found (delimiter : UInt8) (r : Reading) (b : UInt8) :
    (r.unquoted delimiter b).found = r.found.unquoted delimiter b := by
  simp only [unquoted, Scan.unquoted]
  split
  next => rfl
  next => split <;> rfl

theorem opening_found (delimiter : UInt8) (r : Reading) (b : UInt8) :
    (r.opening delimiter b).found = r.found.opening delimiter b := by
  simp only [opening, Scan.opening]
  split
  next => rfl
  next => exact unquoted_found delimiter r b

theorem advance_found (delimiter : UInt8) (r : Reading) (b : UInt8) :
    (r.advance delimiter b).found = r.found.advance delimiter b := by
  rw [← show (r.pass b).found = r.found from rfl]
  unfold advance
  -- The places are behind us now.
  generalize r.pass b = passed
  obtain ⟨mode, records, fields, bytes, place, line, offset⟩ := passed
  cases mode with
  | quoted => by_cases quoting : b = quote <;> simp [quoting, found, keep, Scan.advance, Scan.keep]
  | closing =>
    by_cases quoting : b = quote
    next => simp [quoting, found, keep, Scan.advance, Scan.keep]
    next =>
      simp only [quoting, if_false, unquoted_found]
      simp [found, Scan.advance, quoting]
  | bare => exact unquoted_found delimiter _ b
  | fieldStart => exact opening_found delimiter _ b
  | recordStart =>
    by_cases ended : endsLine b
    next => simp [ended, found, Scan.advance]
    next =>
      simp only [ended, if_false, Bool.false_eq_true, opening_found]
      simp [found, Scan.advance, ended]

theorem foldl_found (delimiter : UInt8) (r : Reading) (text : List UInt8) :
    (text.foldl (advance delimiter) r).found = r.found.run delimiter text := by
  induction text generalizing r with
  | nil => rfl
  | cons b rest ih => rw [List.foldl_cons, ih, advance_found, Scan.run_cons]

theorem finish_found (r : Reading) : r.finish.map RawRecord.fields = r.found.finish := by
  obtain ⟨mode, records, fields, bytes, place, line, offset⟩ := r
  cases mode <;> simp [finish, Scan.finish, found, endRecord, Scan.endRecord]

end Reading

def withoutMark (content : List UInt8) : List UInt8 :=
  if mark.isPrefixOf content then content.drop mark.length else content

theorem rawRecords_fields (delimiter : UInt8) (content : List UInt8) :
    (rawRecords delimiter content).map RawRecord.fields =
      (Scan.start.run delimiter (withoutMark content)).finish := by
  unfold rawRecords withoutMark
  rw [Reading.finish_found, Reading.foldl_found]
  split <;> rfl

theorem rawRecords_ne_nil (delimiter : UInt8) (content : List UInt8) :
    ∀ record ∈ rawRecords delimiter content, record.fields ≠ [] := by
  intro record member
  have inside := List.mem_map_of_mem (f := RawRecord.fields) member
  rw [rawRecords_fields] at inside
  apply Scan.finish_ne_nil _ _ _ inside
  exact Scan.run_ne_nil delimiter Scan.start _ (by simp [Scan.start])

end PlotTables.Delimited
