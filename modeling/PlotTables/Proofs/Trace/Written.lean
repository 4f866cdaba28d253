import PlotTables.Proofs.Delimited.Texts
import PlotTables.Proofs.Table.RoundTrip
import PlotTables.Proofs.Trace.Lines

set_option autoImplicit false

namespace PlotTables

open Delimited Utf8

/-- A line of cells, each spelled in one way or the other, that is not taken for an empty one. -/
structure WrittenRow (delimiter : UInt8) (cells : List String) (texts : List (List UInt8)) :
    Prop where
  spelled : SpelledRecord delimiter (cells.map encode) texts
  some_cell : cells ≠ []
  unbroken : ∀ cell ∈ cells, '\n' ∉ cell.toList
  visible : cells = [""] → texts = [quoteField []]
  -- A mark at the front of a line would be dropped.
  unmarked : ∀ first, cells.head? = some first → texts.head? = some (encode first) →
    ¬Table.BeginsWithMark first

/-- Rows line by line; the last line may lack its end. -/
inductive WrittenTrace (delimiter : UInt8) : List (List String) → List UInt8 → Prop where
  | nothing : WrittenTrace delimiter [] []
  | last (cells : List String) (texts : List (List UInt8))
      (row : WrittenRow delimiter cells texts) :
      WrittenTrace delimiter [cells] ([delimiter].intercalate texts)
  | line (cells : List String) (texts : List (List UInt8)) (ending : List UInt8)
      (rows : List (List String)) (content : List UInt8) (row : WrittenRow delimiter cells texts)
      (ends : ending = [lineFeed] ∨ ending = [carriageReturn, lineFeed])
      (others : WrittenTrace delimiter rows content) :
      WrittenTrace delimiter (cells :: rows) ([delimiter].intercalate texts ++ ending ++ content)

namespace WrittenRow

variable {delimiter : UInt8} {cells : List String} {texts : List (List UInt8)}

theorem quoted_first (cell : String) (others : List String) (rest : List (List UInt8))
    (spelled : SpelledRecord delimiter (others.map encode) rest)
    (unbroken : ∀ item ∈ cell :: others, '\n' ∉ item.toList) :
    WrittenRow delimiter (cell :: others) (quoteField (encode cell) :: rest) where
  spelled := .cons (.quoted _) spelled
  some_cell := by simp
  unbroken := unbroken
  visible := by
    intro single
    cases single
    cases spelled
    rfl
  unmarked := by
    intro first named bare
    cases named
    exact absurd (Option.some.inj bare) (quoteField_ne _)

theorem spelled_cell (row : WrittenRow delimiter cells texts) (text : List UInt8)
    (member : text ∈ texts) :
    ∃ cell ∈ cells, Spelled delimiter (encode cell) text := by
  obtain ⟨field, inside, spelled⟩ := SpelledRecord.cell_of_mem _ _ _ row.spelled text member
  obtain ⟨cell, among, same⟩ := List.mem_map.mp inside
  subst same
  exact ⟨cell, among, spelled⟩

theorem isText (row : WrittenRow delimiter cells texts) (ascii : delimiter.toNat < 0x80) :
    IsText ([delimiter].intercalate texts) := by
  apply joined_isText delimiter texts ascii
  intro text member
  obtain ⟨cell, _, spelled⟩ := row.spelled_cell text member
  exact spelled.isText delimiter cell text

theorem lineFeed_not_mem (row : WrittenRow delimiter cells texts)
    (separates : Separates delimiter) : lineFeed ∉ [delimiter].intercalate texts := by
  apply lineFeed_not_mem_joined
  · intro same
    simp [Separates, same, endsLine] at separates
  · intro text member
    obtain ⟨cell, among, spelled⟩ := row.spelled_cell text member
    apply spelled.lineFeed_not_mem
    rw [mem_encode_ascii cell lineFeed (by decide)]
    exact row.unbroken cell among

theorem last_ne_carriageReturn (row : WrittenRow delimiter cells texts)
    (separates : Separates delimiter) :
    ([delimiter].intercalate texts).getLast? ≠ some carriageReturn := by
  apply joined_last_ne_carriageReturn
  · intro same
    simp [Separates, same, endsLine] at separates
  · intro text member
    obtain ⟨cell, _, spelled⟩ := row.spelled_cell text member
    exact spelled.last_ne_carriageReturn

theorem ne_nil (row : WrittenRow delimiter cells texts) : [delimiter].intercalate texts ≠ [] := by
  apply SpelledRecord.joined_ne_nil delimiter _ _ row.spelled (by simpa using row.some_cell)
  intro single
  obtain ⟨cell, same, empty⟩ := List.map_eq_singleton_iff.mp single
  have blank : cell = "" := encode_injective cell "" empty
  exact row.visible (by rw [same, blank])

theorem not_marked (row : WrittenRow delimiter cells texts) (ascii : delimiter.toNat < 0x80) :
    ¬mark <+: [delimiter].intercalate texts := by
  have outside : delimiter ∉ mark := by
    intro member
    simp only [mark, List.mem_cons, List.not_mem_nil, or_false] at member
    rcases member with same | same | same <;> simp [same] at ascii
  apply SpelledRecord.joined_not_marked delimiter _ _ outside row.spelled
  intro field named bare begins
  rw [List.head?_map, Option.map_eq_some_iff] at named
  obtain ⟨first, named, rfl⟩ := named
  exact row.unmarked first named bare ((Table.mark_encode first).mp begins)

theorem records (row : WrittenRow delimiter cells texts) (ascii : delimiter.toNat < 0x80)
    (separates : Separates delimiter) :
    ∃ record, rawRecords delimiter ([delimiter].intercalate texts) = [record] ∧
      record.decode = .ok cells := by
  have kept : withoutMark ([delimiter].intercalate texts) = [delimiter].intercalate texts := by
    rw [withoutMark, if_neg]
    rw [List.isPrefixOf_iff_prefix]
    exact row.not_marked ascii
  have some_field : cells.map encode ≠ [] := by simpa using row.some_cell
  have fields := rawRecords_fields delimiter ([delimiter].intercalate texts)
  rw [kept, Scan.start, Scan.finish_joined delimiter [] _ texts row.ne_nil separates some_field
    row.spelled] at fields
  obtain ⟨record, found, decoded⟩ := List.map_eq_singleton_iff.mp fields
  exact ⟨record, found, Table.decode_encoded record cells decoded⟩

end WrittenRow

namespace Trace

theorem withoutEnd_lineFeed (text : List UInt8) (last : text.getLast? ≠ some carriageReturn) :
    withoutEnd (text ++ [lineFeed]) = text := by
  cases shape : text.reverse with
  | nil =>
    obtain rfl : text = [] := by simpa using shape
    rfl
  | cons b rest =>
    obtain rfl : text = rest.reverse ++ [b] := by simpa using congrArg List.reverse shape
    have other : b ≠ 13 := by simpa [carriageReturn] using last
    simp [withoutEnd, lineFeed, other]

theorem withoutEnd_carriageReturn (text : List UInt8) :
    withoutEnd (text ++ [carriageReturn, lineFeed]) = text := by
  simp [withoutEnd, carriageReturn, lineFeed]

theorem withoutEnd_open (text : List UInt8) (unbroken : lineFeed ∉ text) :
    withoutEnd text = text := by
  cases shape : text.reverse with
  | nil => simp [withoutEnd, shape]
  | cons b rest =>
    have other : b ≠ 10 := by
      intro same
      apply unbroken
      rw [← List.mem_reverse, shape, same]
      exact List.mem_cons_self
    simp [withoutEnd, shape, other]

theorem lines_single (line : List UInt8) (something : line ≠ []) (inner : lineFeed ∉ line.dropLast) :
    lines line = [line] := by
  induction line with
  | nil => exact absurd rfl something
  | cons b rest ih =>
    cases rest with
    | nil => simp [lines]
    | cons c more =>
      simp only [List.dropLast_cons_cons, List.mem_cons, not_or] at inner
      rw [lines_cons, if_neg (Ne.symm inner.1), ih (by simp) inner.2]

theorem countOfLine_written (format : TraceFormat) (cells : List String)
    (texts : List (List UInt8)) (row : WrittenRow format.delimiter cells texts)
    (ascii : format.delimiter.toNat < 0x80) (separates : Separates format.delimiter)
    (number : Nat) (line : List UInt8)
    (text : withoutEnd line = [format.delimiter].intercalate texts) :
    countOfLine format number line = format.countOfCells number cells := by
  obtain ⟨record, found, decoded⟩ := row.records ascii separates
  have valid := (row.isText ascii).decodes
  simp [countOfLine, text, valid, found, decoded]

theorem lines_line (text ending content : List UInt8) (unbroken : lineFeed ∉ text)
    (ends : ending = [lineFeed] ∨ ending = [carriageReturn, lineFeed]) :
    lines (text ++ ending ++ content) = (text ++ ending) :: lines content := by
  have last : (text ++ ending).getLast? = some lineFeed := by
    rcases ends with feed | both
    · simp [feed]
    · simp [both]
  have inner : lineFeed ∉ (text ++ ending).dropLast := by
    rcases ends with feed | both
    · simpa [feed] using unbroken
    · have other : lineFeed ≠ carriageReturn := by decide
      rw [both, List.dropLast_append_of_ne_nil (by simp)]
      simpa [other] using unbroken
  have something : text ++ ending ≠ [] := by
    intro nothing
    simp [nothing] at last
  rw [lines_append _ content (.inr last), lines_single _ something inner]
  rfl

theorem countsFrom_written (format : TraceFormat) (ascii : format.delimiter.toNat < 0x80)
    (separates : Separates format.delimiter) (rows : List (List String)) (content : List UInt8)
    (written : WrittenTrace format.delimiter rows content) (number : Nat) :
    countsFrom format number (lines content) =
      (rows.zipIdx number).mapM fun (cells, row) => format.countOfCells row cells := by
  -- On the lines as they are written, each counted under the number it has in the whole trace.
  induction written generalizing number with
  | nothing => rfl
  | last cells texts row =>
    have unbroken := row.lineFeed_not_mem separates
    have inner : lineFeed ∉ ([format.delimiter].intercalate texts).dropLast := fun member =>
      unbroken (List.dropLast_subset _ member)
    have counted := countOfLine_written format cells texts row ascii separates number _
      (withoutEnd_open _ unbroken)
    rw [lines_single _ row.ne_nil inner]
    simp [countsFrom, counted]
  | line cells texts ending rows content row ends others ih =>
    have unbroken := row.lineFeed_not_mem separates
    have text : withoutEnd ([format.delimiter].intercalate texts ++ ending) =
        [format.delimiter].intercalate texts := by
      rcases ends with feed | both
      · rw [feed]
        exact withoutEnd_lineFeed _ (row.last_ne_carriageReturn separates)
      · rw [both]
        exact withoutEnd_carriageReturn _
    have counted := countOfLine_written format cells texts row ascii separates number _ text
    have tail := ih (number + 1)
    simp only [countsFrom] at tail
    rw [lines_line _ ending content unbroken ends]
    simp only [countsFrom, List.zipIdx_cons, List.mapM_cons, counted, tail]

theorem counts_written (format : TraceFormat) (ascii : format.delimiter.toNat < 0x80)
    (separates : Separates format.delimiter) (rows : List (List String)) (content : List UInt8)
    (written : WrittenTrace format.delimiter rows content) :
    counts format content =
      rows.zipIdx.mapM fun (cells, row) => format.countOfCells row cells :=
  countsFrom_written format ascii separates rows content written 0

theorem counts_written_mixed :
    counts .standard (encode "\"a;\"\"\";Freq:7\r\n\"\"\n\"\r\";Freq:x") =
      .error (.invalidCount "x" 2 "Freq:") := by
  have plain : Plain 59 (encode "Freq:7") ∧ Plain 59 (encode "Freq:x") := by
    unfold Plain
    decide +kernel
  have first : WrittenRow 59 ["a;\"", "Freq:7"] [quoteField (encode "a;\""), encode "Freq:7"] :=
    .quoted_first _ _ _ (.cons (.bare _ plain.1) .nil) (by decide)
  have blank : WrittenRow 59 [""] [quoteField []] := .quoted_first "" _ _ .nil (by decide)
  have third : WrittenRow 59 ["\r", "Freq:x"] [quoteField (encode "\r"), encode "Freq:x"] :=
    .quoted_first _ _ _ (.cons (.bare _ plain.2) .nil) (by decide)
  have written := WrittenTrace.line _ _ _ _ _ first (.inr rfl)
    (.line _ _ _ _ _ blank (.inl rfl) (.last _ _ third))
  have counted := counts_written .standard (by decide) ⟨by decide, by decide⟩ _ _ written
  have fails : [["a;\"", "Freq:7"], [""], ["\r", "Freq:x"]].zipIdx.mapM
      (fun (cells, row) => TraceFormat.standard.countOfCells row cells) =
        .error (.invalidCount "x" 2 "Freq:") := by
    decide +kernel
  rw [fails] at counted
  exact counted

end Trace

end PlotTables
