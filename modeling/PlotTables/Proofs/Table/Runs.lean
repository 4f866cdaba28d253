import PlotTables.Proofs.Table.InPlace
import PlotTables.Proofs.Table.Reading

set_option autoImplicit false

namespace PlotTables

namespace Table

variable (t : Table)

theorem sheet_afterEdit (change : Edit) : (t.sheet.edit change).2 = (t.afterEdit change).sheet := by
  rw [sheet_edit, afterEdit]
  cases t.edit change <;> rfl

theorem sheet_afterEdits (changes : List Edit) :
    t.sheet.afterEdits changes = (t.afterEdits changes).sheet := by
  induction changes generalizing t with
  | nil => rfl
  | cons change rest ih =>
    calc t.sheet.afterEdits (change :: rest) = (t.sheet.edit change).2.afterEdits rest := rfl
      _ = (t.afterEdit change).sheet.afterEdits rest := by rw [sheet_afterEdit]
      _ = (t.afterEdits (change :: rest)).sheet := ih (t.afterEdit change)

end Table

namespace Sheet

inductive Made : Sheet → Prop where
  | create (headers : List String) (rows : List (List String)) (s : Sheet)
      (made : Sheet.create headers rows = .ok s) : Made s
  | read (content : List UInt8) (s : Sheet) (made : Sheet.read content = .ok s) : Made s

theorem Made.table (s : Sheet) (made : s.Made) : ∃ t : Table, t.sheet = s := by
  cases made with
  | create headers rows _ made =>
    rw [Table.sheet_create, map_ok] at made
    obtain ⟨t, _, same⟩ := made
    exact ⟨t, same⟩
  | read content _ made =>
    rw [Table.sheet_read, map_ok] at made
    obtain ⟨t, _, same⟩ := made
    exact ⟨t, same⟩

structure Sound (s : Sheet) : Prop where
  rectangular : ∀ row ∈ s.rows, row.length = s.headers.length
  written : ∃ content, s.write = .ok content
  kept : ∀ change fault left, s.edit change = (.error fault, left) → left = s
  wrongCount : ∀ name values, values.length ≠ s.rows.length →
    s.edit (.setColumn name values) =
      (.error (.failure (.dimensionMismatch s.rows.length values.length)), s)
  outOfRange : ∀ positions, (∃ position ∈ positions, s.rows.length ≤ position) →
    ∃ position ∈ positions, s.rows.length ≤ position ∧
      s.edit (.selectRows positions) = (.error (.failure (.rowOutOfBounds position)), s)
  table : ∃ t : Table, t.sheet = s ∧
    ∀ change, s.edit change = s.assign (((t.edit change).map Table.sheet).mapError .failure)

end Sheet

theorem Table.sheet_sound (t : Table) : t.sheet.Sound where
  rectangular := t.rectangular
  written := ⟨t.write, t.sheet_write⟩
  kept := by
    intro change fault left failed
    rw [sheet_edit] at failed
    cases result : t.edit change with
    | ok changed =>
      rw [result] at failed
      cases failed
    | error failure =>
      rw [result] at failed
      cases failed
      rfl
  wrongCount := by
    intro name values wrong
    have wrong : values.length ≠ t.rowCount := wrong
    have refused : t.setColumn name values =
        .error (.dimensionMismatch t.rowCount values.length) := by rw [setColumn, if_neg wrong]
    rw [sheet_edit, edit, refused]
    rfl
  outOfRange := by
    intro positions outside
    obtain ⟨position, member, beyond, refused⟩ := t.selectRows_refused positions outside
    refine ⟨position, member, beyond, ?_⟩
    rw [sheet_edit, edit, refused]
    rfl
  table := ⟨t, rfl, t.sheet_edit⟩

theorem edits_keep_width :
    (∀ (start : Sheet) (changes : List Table.Edit), start.Made →
      (start.afterEdits changes).Sound ∧ ∃ t : Table, t.sheet = start ∧
        start.afterEdits changes = (t.afterEdits changes).sheet) ∧
    (∀ content expected actual,
      Table.read content ≠ .error (.dimensionMismatch expected actual)) ∧
    ∀ content first rest, Delimited.rawRecords Delimited.tab content = first :: rest →
      (∃ record ∈ rest, record.fields.length ≠ first.fields.length) →
      (∃ fault, Table.read content = .error (.records fault)) ∧
      ∀ text, content = Utf8.encode text → ∃ position bad,
        Table.FirstRagged first rest position bad ∧ Table.read content =
          .error (.records (.unequalWidth bad.place bad.fields.length first.fields.length)) := by
  refine ⟨?_, Table.read_ne_dimensionMismatch, ?_⟩
  next =>
    intro start changes made
    -- Whatever is done to the sheet of a table leaves the sheet of a table.
    obtain ⟨t, rfl⟩ := made.table
    rw [Table.sheet_afterEdits]
    exact ⟨(t.afterEdits changes).sheet_sound, t, rfl, rfl⟩
  next =>
    intro content first rest records ragged
    refine ⟨Table.read_ragged first rest ragged content records, ?_⟩
    rintro text rfl
    exact Table.read_ragged_text first rest ragged text records

theorem edits_keep_width_some_failing :
    (∃ start, Sheet.read (Utf8.encode "ID\tCount\n1\t5\n2\t7\n") = .ok start ∧
      (start.afterEdits [.setColumn "Count" ["9"], .selectRows [0, 2], .reload,
        .setColumn "Note" ["a", "b"], .subsample 3, .selectRows [1, 1, 0]]).Sound) ∧
    ∃ place found, Table.read (Utf8.encode "ID\tCount\n1\t5\n2\n") =
      .error (.records (.unequalWidth place found 2)) := by
  obtain ⟨runs, _, ragged⟩ := edits_keep_width
  constructor
  next =>
    have made : Sheet.read (Utf8.encode "ID\tCount\n1\t5\n2\t7\n") =
        .ok ⟨["ID", "Count"], [["1", "5"], ["2", "7"]]⟩ := by decide +kernel
    exact ⟨_, made, (runs _ _ (.read _ _ made)).1⟩
  next =>
    obtain ⟨_, refused⟩ := ragged (Utf8.encode "ID\tCount\n1\t5\n2\n")
      ⟨⟨0, 1, 0⟩, [[73, 68], [67, 111, 117, 110, 116]]⟩
      [⟨⟨1, 2, 9⟩, [[49], [53]]⟩, ⟨⟨2, 3, 13⟩, [[50]]⟩] (by decide +kernel)
      ⟨_, List.mem_cons_of_mem _ (List.mem_singleton_self _), by decide⟩
    obtain ⟨_, _, _, failed⟩ := refused _ rfl
    exact ⟨_, _, failed⟩

end PlotTables
