import PlotTables.Proofs.Delimited.Texts
import PlotTables.Proofs.Table.RoundTrip

set_option autoImplicit false

namespace PlotTables.Table

open Delimited Utf8

def LineEnd (ending : List UInt8) : Prop :=
  ending = [lineFeed] ∨ ending = [carriageReturn] ∨ ending = [carriageReturn, lineFeed]

/-- Cells of one record, each in either spelling, of which the reader sees something. -/
structure LaidOutCells (cells : List String) (texts : List (List UInt8)) : Prop where
  spelled : SpelledRecord tab (cells.map encode) texts
  visible : cells = [""] → texts = [quoteField []]

/-- Records line by line with empty lines anywhere; the last record may lack its end. -/
inductive LaidOut : List (List String) → List UInt8 → Prop where
  | nothing : LaidOut [] []
  | emptyLine (ending : List UInt8) (records : List (List String)) (content : List UInt8)
      (ends : LineEnd ending) (others : LaidOut records content) :
      LaidOut records (ending ++ content)
  | last (cells : List String) (texts : List (List UInt8)) (line : LaidOutCells cells texts) :
      LaidOut [cells] ([tab].intercalate texts)
  | line (cells : List String) (texts : List (List UInt8)) (ending : List UInt8)
      (records : List (List String)) (content : List UInt8) (line : LaidOutCells cells texts)
      (ends : LineEnd ending) (others : LaidOut records content) :
      LaidOut (cells :: records) ([tab].intercalate texts ++ ending ++ content)

theorem LineEnd.shape (ending : List UInt8) (ends : LineEnd ending) :
    ∃ first rest, ending = first :: rest ∧ endsLine first = true ∧
      (rest = [] ∨ rest = [lineFeed]) := by
  rcases ends with rfl | rfl | rfl
  · exact ⟨_, _, rfl, rfl, .inl rfl⟩
  · exact ⟨_, _, rfl, rfl, .inl rfl⟩
  · exact ⟨_, _, rfl, rfl, .inr rfl⟩

theorem endsLine_not_mem_mark (b : UInt8) (ends : endsLine b = true) : b ∉ mark := by
  intro member
  simp only [mark, List.mem_cons, List.not_mem_nil, or_false] at member
  rcases member with rfl | rfl | rfl <;> exact absurd ends (by decide)

theorem run_endsLine (records : List (List (List UInt8))) (b : UInt8) (ends : endsLine b = true) :
    Scan.advance tab ⟨.recordStart, records, [], []⟩ b = ⟨.recordStart, records, [], []⟩ := by
  simp [Scan.advance, ends]

theorem run_emptyLine (records : List (List (List UInt8))) (ending : List UInt8)
    (ends : LineEnd ending) :
    Scan.run tab ⟨.recordStart, records, [], []⟩ ending = ⟨.recordStart, records, [], []⟩ := by
  obtain ⟨first, rest, rfl, firstEnds, nothing | feed⟩ := ends.shape
  · rw [Scan.run_cons, run_endsLine _ _ firstEnds, nothing, Scan.run_nil]
  · rw [Scan.run_cons, run_endsLine _ _ firstEnds, feed, Scan.run_cons,
      run_endsLine _ _ (by decide), Scan.run_nil]

namespace LaidOutCells

variable {cells : List String} {texts : List (List UInt8)} (line : LaidOutCells cells texts)

include line

theorem not_marked (plain : ∀ first, cells.head? = some first → ¬BeginsWithMark first) :
    ¬mark <+: [tab].intercalate texts := by
  apply SpelledRecord.joined_not_marked tab _ _ (by decide) line.spelled
  intro field named _ begins
  rw [List.head?_map, Option.map_eq_some_iff] at named
  obtain ⟨first, named, rfl⟩ := named
  exact plain first named ((mark_encode first).mp begins)

variable (columns : cells ≠ [])

include columns

theorem joined_ne_nil : [tab].intercalate texts ≠ [] := by
  apply SpelledRecord.joined_ne_nil tab _ _ line.spelled (by simpa using columns)
  intro single
  obtain ⟨cell, same, empty⟩ := List.map_eq_singleton_iff.mp single
  have blank : cell = "" := encode_injective cell "" empty
  exact line.visible (by rw [same, blank])

theorem run (records : List (List (List UInt8))) (ending : List UInt8) (ends : LineEnd ending) :
    Scan.run tab ⟨.recordStart, records, [], []⟩ ([tab].intercalate texts ++ ending) =
      ⟨.recordStart, cells.map encode :: records, [], []⟩ := by
  obtain ⟨first, rest, rfl, firstEnds, more⟩ := ends.shape
  have ended := Scan.run_joined tab ⟨.recordStart, records, [], []⟩ (cells.map encode) texts first
    (.inl ⟨rfl, line.joined_ne_nil columns⟩) rfl tab_separates firstEnds (by simpa using columns)
    line.spelled
  rw [List.append_cons, Scan.run_append, ended, List.reverse_nil, List.nil_append]
  rcases more with rfl | rfl
  · rfl
  · rw [Scan.run_cons, run_endsLine _ _ (by decide), Scan.run_nil]

end LaidOutCells

namespace LaidOut

variable {records : List (List String)} {content : List UInt8} (laidOut : LaidOut records content)

include laidOut

theorem scan (columns : ∀ record ∈ records, record ≠ []) (before : List (List (List UInt8))) :
    (Scan.run tab ⟨.recordStart, before, [], []⟩ content).finish =
      before.reverse ++ records.map (List.map encode) := by
  -- On the text from the start of a line, with the records that were read before it.
  induction laidOut generalizing before with
  | nothing => simp [Scan.finish]
  | emptyLine ending records content ends _ ih =>
    rw [Scan.run_append, run_emptyLine before ending ends, ih columns]
  | last cells texts line =>
    have some_cell := columns cells (by simp)
    rw [Scan.finish_joined tab before _ texts (line.joined_ne_nil some_cell) tab_separates
      (by simpa using some_cell) line.spelled]
    rfl
  | line cells texts ending records content line ends _ ih =>
    rw [Scan.run_append, line.run (columns cells (by simp)) before ending ends,
      ih fun record member => columns record (by simp [member])]
    simp

theorem not_marked (unmarked : ∀ record, records.head? = some record →
      ∀ first, record.head? = some first → ¬BeginsWithMark first) : ¬mark <+: content := by
  intro marked
  cases laidOut with
  | nothing => simp [mark] at marked
  | emptyLine ending _ content ends _ =>
    obtain ⟨first, rest, rfl, firstEnds, _⟩ := ends.shape
    obtain ⟨_, split⟩ := marked
    exact endsLine_not_mem_mark first firstEnds (by simp [(List.cons.inj split).1.symm, mark])
  | last cells texts line => exact line.not_marked (unmarked cells rfl) marked
  | line cells texts ending _ content line ends _ =>
    obtain ⟨first, rest, rfl, firstEnds, _⟩ := ends.shape
    rw [List.append_assoc, List.cons_append] at marked
    have begins := mark_before _ _ first (endsLine_not_mem_mark first firstEnds) marked
    exact line.not_marked (unmarked cells rfl) begins

end LaidOut

theorem read_laidOut (t : Table) (columns : t.headers ≠ [])
    (unmarked : ∀ first, t.headers.head? = some first → ¬BeginsWithMark first)
    (content : List UInt8) (laidOut : LaidOut (t.headers :: t.rows) content) :
    read content = .ok t ∧ read (mark ++ content) = .ok t := by
  have scanned := laidOut.scan (t.some_cell columns) []
  have plain : withoutMark content = content := by
    rw [withoutMark, if_neg]
    rw [List.isPrefixOf_iff_prefix]
    refine laidOut.not_marked ?_
    intro record first
    cases first
    exact unmarked
  have stripped : withoutMark (mark ++ content) = content := by
    rw [withoutMark, if_pos (by simp), List.drop_left]
  constructor
  · apply read_of_fields
    rw [rawRecords_fields, plain]
    exact scanned
  · apply read_of_fields
    rw [rawRecords_fields, stripped]
    exact scanned

theorem read_laidOut_scattered : ∃ t : Table, t.headers = ["a b", ""] ∧
    t.rows = [["x\ty", "\"\n"], ["", ""]] ∧
    read (mark ++ encode "\na b\t\"\"\r\r\n\"x\ty\"\t\"\"\"\n\"\r\n\t") = .ok t := by
  let t : Table := ⟨["a b", ""], [["x\ty", "\"\n"], ["", ""]], by decide⟩
  have plain : Plain tab (encode "a b") ∧ Plain tab (encode "") := by
    unfold Plain
    decide +kernel
  have header : LaidOutCells ["a b", ""] [encode "a b", quoteField []] :=
    ⟨.cons (.bare _ plain.1) (.cons (.quoted _) .nil), by decide⟩
  have first : LaidOutCells ["x\ty", "\"\n"]
      [quoteField (encode "x\ty"), quoteField (encode "\"\n")] :=
    ⟨.cons (.quoted _) (.cons (.quoted _) .nil), by decide⟩
  have second : LaidOutCells ["", ""] [[], []] :=
    ⟨.cons (.bare _ plain.2) (.cons (.bare _ plain.2) .nil), by decide⟩
  have laidOut : LaidOut (t.headers :: t.rows) _ :=
    .emptyLine _ _ _ (.inl rfl) (.line _ _ _ _ _ header (.inr (.inl rfl))
      (.emptyLine _ _ _ (.inr (.inr rfl)) (.line _ _ _ _ _ first (.inr (.inr rfl))
        (.last _ _ second))))
  have unmarked : ∀ name, t.headers.head? = some name → ¬BeginsWithMark name := by
    intro name named
    cases named
    unfold BeginsWithMark
    decide
  exact ⟨t, rfl, rfl, (read_laidOut t (by decide) unmarked _ laidOut).2⟩

end PlotTables.Table
