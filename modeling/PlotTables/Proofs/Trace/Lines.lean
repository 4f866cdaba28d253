import Mathlib.Control.Monad.Basic
import PlotTables.Proofs.Sequence
import PlotTables.Trace

set_option autoImplicit false

namespace PlotTables

def Failure.later (rows : Nat) : Failure → Failure
  | .invalidCount value row column => .invalidCount value (row + rows) column
  | failure => failure

namespace Trace

open Delimited (lineFeed)

theorem lines_cons (b : UInt8) (rest : List UInt8) :
    lines (b :: rest) =
      if b = lineFeed then [b] :: lines rest
      else
        match lines rest with
        | [] => [[b]]
        | next :: more => (b :: next) :: more :=
  rfl

theorem lines_cons_ne_nil (b : UInt8) (rest : List UInt8) : lines (b :: rest) ≠ [] := by
  rw [lines_cons]
  split
  next => simp
  next => split <;> simp

theorem lines_append (a b : List UInt8) (whole : a = [] ∨ a.getLast? = some lineFeed) :
    lines (a ++ b) = lines a ++ lines b := by
  induction a with
  | nil => rfl
  | cons x rest ih =>
    cases rest with
    | nil =>
      obtain rfl : x = lineFeed := by simpa using whole
      rfl
    | cons y more =>
      have tail := ih (.inr (by simpa using whole))
      rw [List.cons_append, lines_cons, lines_cons, tail]
      split
      next => rfl
      next =>
        -- The line that `x` begins is one of the first part.
        cases shape : lines (y :: more) with
        | nil => exact absurd shape (lines_cons_ne_nil y more)
        | cons next others => rfl

theorem lines_length (text : List UInt8) :
    (lines text).length =
      text.count lineFeed + if text ≠ [] ∧ text.getLast? ≠ some lineFeed then 1 else 0 := by
  induction text with
  | nil => rfl
  | cons b rest ih =>
    cases rest with
    | nil => by_cases feed : b = lineFeed <;> simp [lines, feed]
    | cons c more =>
      rw [lines_cons]
      by_cases feed : b = lineFeed
      next => simp [feed, ih]; omega
      next =>
        cases shape : lines (c :: more) with
        | nil => exact absurd shape (lines_cons_ne_nil c more)
        | cons next others =>
          simp [shape] at ih
          simp [feed, ih]

/-- The counts of lines of which the first one is the given row. -/
def countsFrom (format : TraceFormat) (row : Nat) (items : List (List UInt8)) :
    Except Failure (List UInt64) :=
  (items.zipIdx row).mapM fun (line, row) => countOfLine format row line

theorem countsFrom_append (format : TraceFormat) (row : Nat) (items more : List (List UInt8)) :
    countsFrom format row (items ++ more) = do
      let first ← countsFrom format row items
      let others ← countsFrom format (row + items.length) more
      return first ++ others := by
  simp only [countsFrom, List.zipIdx_append, List.mapM_append]

theorem countOfLine_later (format : TraceFormat) (row rows : Nat) (line : List UInt8) :
    countOfLine format (row + rows) line =
      (countOfLine format row line).mapError (Failure.later rows) := by
  simp only [countOfLine]
  split
  next => rfl
  next =>
    split
    next => rfl
    next record others _ =>
      cases record.decode with
      | error fault => rfl
      | ok cells =>
        simp only [TraceFormat.countOfCells]
        cases cells.find? format.isMarked with
        | none => rfl
        | some cell =>
          simp only [Count.parseWord]
          split <;> rfl

theorem countsFrom_later (format : TraceFormat) (row rows : Nat) (items : List (List UInt8)) :
    countsFrom format (row + rows) items =
      (countsFrom format row items).mapError (Failure.later rows) := by
  induction items generalizing row with
  | nil => rfl
  | cons line rest ih =>
    have tail := ih (row + 1)
    simp only [countsFrom] at tail
    simp only [countsFrom, List.zipIdx_cons, List.mapM_cons, countOfLine_later,
      Nat.add_right_comm row rows 1, tail]
    cases countOfLine format row line with
    | error failure => rfl
    | ok count =>
      cases (rest.zipIdx (row + 1)).mapM fun (line, row) => countOfLine format row line <;> rfl

theorem counts_append (format : TraceFormat) (a b : List UInt8)
    (whole : a = [] ∨ a.getLast? = some lineFeed) :
    counts format (a ++ b) = do
      let first ← counts format a
      let others ← (counts format b).mapError (Failure.later (lines a).length)
      return first ++ others := by
  have split := countsFrom_append format 0 (lines a) (lines b)
  rw [← lines_append a b whole, countsFrom_later] at split
  exact split

theorem counts_length (format : TraceFormat) (text : List UInt8) (found : List UInt64)
    (counted : counts format text = .ok found) : found.length = (lines text).length := by
  have length := mapM_length _ _ _ counted
  rwa [List.length_zipIdx] at length

theorem counts_line_local (format : TraceFormat) (a b : List UInt8)
    (whole : a = [] ∨ a.getLast? = some lineFeed) :
    (∀ failure, counts format a = .error failure → counts format (a ++ b) = .error failure) ∧
    (∀ u v, counts format a = .ok u → counts format b = .ok v →
      counts format (a ++ b) = .ok (u ++ v)) ∧
    (∀ u failure, counts format a = .ok u → counts format b = .error failure →
      counts format (a ++ b) = .error (failure.later u.length)) ∧
    ∀ v, counts format b = .ok v →
      v.length = b.count lineFeed + if b ≠ [] ∧ b.getLast? ≠ some lineFeed then 1 else 0 := by
  have split := counts_append format a b whole
  refine ⟨?_, ?_, ?_, ?_⟩
  · intro failure first
    rw [split, first]
    rfl
  · intro u v first second
    rw [split, first, second]
    rfl
  · intro u failure first second
    rw [split, first, second, counts_length format a u first]
    rfl
  · intro v second
    rw [counts_length format b v second, lines_length]

theorem counts_line_local_after_open_quote :
    counts .standard (Utf8.encode "\"Freq:1\n\n\rFreq:2\n" ++ Utf8.encode "Freq:3\nFreq:x") =
      .error (.invalidCount "x" 4 "Freq:") := by
  have first : counts .standard (Utf8.encode "\"Freq:1\n\n\rFreq:2\n") = .ok [1, 0, 2] := by
    decide +kernel
  have second : counts .standard (Utf8.encode "Freq:3\nFreq:x") =
      .error (.invalidCount "x" 1 "Freq:") := by
    decide +kernel
  obtain ⟨_, _, fails, _⟩ := counts_line_local .standard (Utf8.encode "\"Freq:1\n\n\rFreq:2\n")
    (Utf8.encode "Freq:3\nFreq:x") (.inr (by decide +kernel))
  exact fails _ _ first second

end Trace

end PlotTables
