import Mathlib.Control.Monad.Basic
import PlotTables.Merge
import PlotTables.Proofs.Merge.Rows

set_option autoImplicit false

namespace PlotTables

section Alternate

variable {α : Type} (pairs : List (α × α))

theorem length_alternate : (pairs.flatMap fun (a, b) => [a, b]).length = 2 * pairs.length := by
  induction pairs with
  | nil => rfl
  | cons pair rest ih =>
    simp only [List.flatMap_cons, List.length_append, ih, List.length_cons, List.length_nil]
    omega

theorem alternate_at (i : Nat) (pair : α × α) (there : pairs[i]? = some pair) :
    (pairs.flatMap fun (a, b) => [a, b])[2 * i]? = some pair.1 ∧
      (pairs.flatMap fun (a, b) => [a, b])[2 * i + 1]? = some pair.2 := by
  induction pairs generalizing i with
  | nil => simp at there
  | cons first rest ih =>
    cases i with
    | zero =>
      cases there
      exact ⟨rfl, rfl⟩
    | succ before => exact ih before there

end Alternate

/-- What is told of two tables that cannot be merged, with the fault that comes first. -/
inductive PairFault (withTable withoutTable : Table) : Failure → Prop where
  | unequal (different : withTable.rowCount ≠ withoutTable.rowCount) :
      PairFault withTable withoutTable
        (.rowCountMismatch withTable.rowCount withoutTable.rowCount)
  | first (failure : Failure) (equal : withTable.rowCount = withoutTable.rowCount)
      (fault : withTable.LabelFault failure) : PairFault withTable withoutTable failure
  | second (failure : Failure) (equal : withTable.rowCount = withoutTable.rowCount)
      (countable : withTable.Countable) (fault : withoutTable.LabelFault failure) :
      PairFault withTable withoutTable failure

variable (labels : PairLabels) (withTable withoutTable : Table)

theorem mergePair_unequal (different : withTable.rowCount ≠ withoutTable.rowCount) :
    mergePair labels withTable withoutTable =
      .error (.rowCountMismatch withTable.rowCount withoutTable.rowCount) := by
  simp only [mergePair, if_pos different]
  rfl

theorem mergePair_equal (equal : withTable.rowCount = withoutTable.rowCount) :
    mergePair labels withTable withoutTable = do
      let withRows ← withTable.labeledRows labels.withLabel
      let withoutRows ← withoutTable.labeledRows labels.withoutLabel
      return ⟨(withRows.zip withoutRows).flatMap fun (a, b) => [a, b]⟩ := by
  simp only [mergePair, if_neg (not_not_intro equal)]

theorem mergePair_ok (merged : LabeledTable) :
    mergePair labels withTable withoutTable = .ok merged ↔
      withTable.rowCount = withoutTable.rowCount ∧ ∃ withRows withoutRows,
        withTable.labeledRows labels.withLabel = .ok withRows ∧
        withoutTable.labeledRows labels.withoutLabel = .ok withoutRows ∧
        merged = ⟨(withRows.zip withoutRows).flatMap fun (a, b) => [a, b]⟩ := by
  by_cases equal : withTable.rowCount = withoutTable.rowCount
  next =>
    rw [mergePair_equal labels withTable withoutTable equal]
    simp only [bind_ok, pure, Except.pure, Except.ok.injEq, equal, true_and, exists_and_left,
      eq_comm (b := merged)]
  next =>
    rw [mergePair_unequal labels withTable withoutTable equal]
    simp [equal]

theorem mergePair_error (failure : Failure) :
    mergePair labels withTable withoutTable = .error failure ↔
      PairFault withTable withoutTable failure := by
  by_cases equal : withTable.rowCount = withoutTable.rowCount
  next =>
    rw [mergePair_equal labels withTable withoutTable equal]
    simp only [bind_error, Table.labeledRows_error, pure, Except.pure]
    constructor
    next =>
      rintro (fault | ⟨withRows, done, fault | ⟨_, _, fine⟩⟩)
      · exact .first failure equal fault
      · exact .second failure equal ((withTable.countable_iff _).mp ⟨withRows, done⟩) fault
      · cases fine
    next =>
      intro fault
      cases fault with
      | unequal different => exact absurd equal different
      | first _ _ fault => exact .inl fault
      | second _ _ countable fault =>
        obtain ⟨withRows, done⟩ := (withTable.countable_iff labels.withLabel).mpr countable
        exact .inr ⟨withRows, done, .inl fault⟩
  next =>
    rw [mergePair_unequal labels withTable withoutTable equal]
    constructor
    next =>
      intro same
      cases same
      exact .unequal equal
    next =>
      intro fault
      cases fault with
      | unequal => rfl
      | first _ same => exact absurd same equal
      | second _ same => exact absurd same equal

theorem mergePair_isOk :
    (∃ merged, mergePair labels withTable withoutTable = .ok merged) ↔
      withTable.rowCount = withoutTable.rowCount ∧ withTable.Countable ∧ withoutTable.Countable := by
  simp only [mergePair_ok]
  constructor
  next =>
    rintro ⟨merged, equal, withRows, withoutRows, one, two, _⟩
    exact ⟨equal, (withTable.countable_iff _).mp ⟨withRows, one⟩,
      (withoutTable.countable_iff _).mp ⟨withoutRows, two⟩⟩
  next =>
    rintro ⟨equal, one, two⟩
    obtain ⟨withRows, one⟩ := (withTable.countable_iff labels.withLabel).mpr one
    obtain ⟨withoutRows, two⟩ := (withoutTable.countable_iff labels.withoutLabel).mpr two
    exact ⟨_, equal, withRows, withoutRows, one, two, rfl⟩

theorem mergePair_interleaves :
    ((∃ merged, mergePair labels withTable withoutTable = .ok merged) ↔
      withTable.rowCount = withoutTable.rowCount ∧ withTable.Countable ∧ withoutTable.Countable) ∧
    (∀ merged, mergePair labels withTable withoutTable = .ok merged →
      merged.size = 2 * withTable.rowCount ∧ ∀ i, i < withTable.rowCount →
        ∃ a b, merged.rows[2 * i]? = some a ∧ merged.rows[2 * i + 1]? = some b ∧
          withTable.LabelsRow labels.withLabel i a ∧
          withoutTable.LabelsRow labels.withoutLabel i b) ∧
    ∀ failure, mergePair labels withTable withoutTable = .error failure ↔
      PairFault withTable withoutTable failure := by
  refine ⟨mergePair_isOk labels withTable withoutTable, ?_,
    mergePair_error labels withTable withoutTable⟩
  intro merged done
  obtain ⟨equal, withRows, withoutRows, one, two, rfl⟩ :=
    (mergePair_ok labels withTable withoutTable merged).mp done
  obtain ⟨withSize, withLabels⟩ := withTable.labeledRows_labels _ _ one
  obtain ⟨withoutSize, withoutLabels⟩ := withoutTable.labeledRows_labels _ _ two
  constructor
  next =>
    rw [LabeledTable.size, length_alternate, List.length_zip, withSize, withoutSize, equal,
      Nat.min_self]
  next =>
    intro i inside
    obtain ⟨a, first, labelsA⟩ := withLabels i inside
    obtain ⟨b, second, labelsB⟩ := withoutLabels i (equal ▸ inside)
    have pair : (withRows.zip withoutRows)[i]? = some (a, b) :=
      List.getElem?_zip_eq_some.mpr ⟨first, second⟩
    obtain ⟨even, odd⟩ := alternate_at _ i (a, b) pair
    exact ⟨a, b, even, odd, labelsA, labelsB⟩

def unordered : Table where
  headers := ["Count", "ID", "ID", "Count"]
  rows := [["18446744073709551615", "x\ty", "", "-"], [" 2e0", "", "z", ""]]
  rectangular := by decide

def noted : Table where
  headers := ["ID", "Note", "Count"]
  rows := [["1.0", "a", "0"], ["\n", "b", "+7"]]
  rectangular := by decide

theorem mergePair_interleaves_unordered :
    ∃ merged, mergePair ⟨"new", "old"⟩ unordered noted = .ok merged ∧
      merged.rows =
        [⟨"x\ty", "new", 18446744073709551615⟩, ⟨"1.0", "old", 0⟩, ⟨"", "new", 2⟩,
          ⟨"\n", "old", 7⟩] ∧
      ∀ i, i < 2 → ∃ a b, merged.rows[2 * i]? = some a ∧ merged.rows[2 * i + 1]? = some b ∧
        unordered.LabelsRow "new" i a ∧ noted.LabelsRow "old" i b := by
  have done : mergePair ⟨"new", "old"⟩ unordered noted =
      .ok ⟨[⟨"x\ty", "new", 18446744073709551615⟩, ⟨"1.0", "old", 0⟩, ⟨"", "new", 2⟩,
        ⟨"\n", "old", 7⟩]⟩ := by
    decide +kernel
  exact ⟨_, done, rfl, ((mergePair_interleaves ⟨"new", "old"⟩ unordered noted).2.1 _ done).2⟩

end PlotTables
