import PlotTables.Proofs.Merge.Manifest
import PlotTables.Proofs.Merge.Pair

set_option autoImplicit false

namespace PlotTables

section Alternate

variable {α β : Type}

def alternate : List α → List α → List α
  | x :: xs, y :: ys => x :: y :: alternate xs ys
  | _, _ => []

theorem flatMap_zip (xs ys : List α) :
    ((xs.zip ys).flatMap fun (a, b) => [a, b]) = alternate xs ys := by
  induction xs generalizing ys with
  | nil => simp [alternate]
  | cons x rest ih => cases ys <;> simp [alternate, ih]

theorem alternate_map (f : α → β) (xs ys : List α) :
    (alternate xs ys).map f = alternate (xs.map f) (ys.map f) := by
  induction xs generalizing ys with
  | nil => simp [alternate]
  | cons x rest ih => cases ys <;> simp [alternate, ih]

variable (xs ys : List α) (same : xs.length = ys.length)

include same

theorem alternate_length : (alternate xs ys).length = 2 * xs.length := by
  induction xs generalizing ys with
  | nil => simp [alternate]
  | cons x rest ih =>
    cases ys with
    | nil => cases same
    | cons y others =>
      have later := ih others (Nat.succ.inj same)
      simp only [alternate, List.length_cons, later]
      omega

theorem alternate_get (i : Nat) :
    (alternate xs ys)[2 * i]? = xs[i]? ∧ (alternate xs ys)[2 * i + 1]? = ys[i]? := by
  induction xs generalizing ys i with
  | nil => simp [alternate, List.eq_nil_of_length_eq_zero same.symm]
  | cons x rest ih =>
    cases ys with
    | nil => cases same
    | cons y others =>
      cases i with
      | zero => simp [alternate]
      | succ before => simpa [alternate, Nat.mul_succ] using ih others (Nat.succ.inj same) before

theorem alternate_perm : (alternate xs ys).Perm (xs ++ ys) := by
  induction xs generalizing ys with
  | nil => simp [alternate, List.eq_nil_of_length_eq_zero same.symm]
  | cons x rest ih =>
    cases ys with
    | nil => cases same
    | cons y others =>
      have later := ih others (Nat.succ.inj same)
      -- The second of the pair moves behind the rest of the first list.
      exact ((later.cons y).trans List.perm_middle.symm).cons x

end Alternate

def LabeledRow.unlabeled (row : LabeledRow) : String × UInt64 := (row.id, row.count)

theorem Table.labeledRows_relabel (t : Table) (label other : String) :
    (t.labeledRows label).map (List.map LabeledRow.unlabeled) =
      (t.labeledRows other).map (List.map LabeledRow.unlabeled) := by
  simp only [labeledRows]
  cases t.columnIndex idColumn with
  | error failure => rfl
  | ok idPlace =>
    cases t.columnIndex countColumn with
    | error failure => rfl
    | ok countPlace =>
      cases counted : t.columnCounts countPlace with
      | error failure => simp [bind, Except.bind, Except.map, counted]
      | ok counts =>
        simp [bind, Except.bind, pure, Except.pure, Except.map, counted, List.map_zipWith,
          LabeledRow.unlabeled]

theorem Table.unlabeled_eq (t : Table) (label other : String) (rows others : List LabeledRow)
    (done : t.labeledRows label = .ok rows) (again : t.labeledRows other = .ok others) :
    rows.map LabeledRow.unlabeled = others.map LabeledRow.unlabeled := by
  have same := t.labeledRows_relabel label other
  rw [done, again] at same
  exact Except.ok.inj same

theorem mergePair_alternate (labels : PairLabels) (withTable withoutTable : Table)
    (merged : LabeledTable) (done : mergePair labels withTable withoutTable = .ok merged) :
    ∃ withRows withoutRows, withTable.labeledRows labels.withLabel = .ok withRows ∧
      withoutTable.labeledRows labels.withoutLabel = .ok withoutRows ∧
      withRows.length = withTable.rowCount ∧ withoutRows.length = withTable.rowCount ∧
      merged.rows = alternate withRows withoutRows := by
  obtain ⟨equal, withRows, withoutRows, one, two, rfl⟩ :=
    (mergePair_ok labels withTable withoutTable merged).mp done
  have withSize := (withTable.labeledRows_labels _ _ one).1
  have withoutSize := (withoutTable.labeledRows_labels _ _ two).1
  exact ⟨withRows, withoutRows, one, two, withSize, withoutSize.trans equal.symm,
    flatMap_zip withRows withoutRows⟩

namespace Manifest

section Two

variable {files : Reader} {path first second : String} {a b : Table}
  (listed : load files path = .ok [first, second])
  (firstLoaded : Table.load files first = .ok a) (secondLoaded : Table.load files second = .ok b)

include firstLoaded secondLoaded

theorem loadPair_two : loadPair files first second = mergePair .standard a b := by
  simp only [loadPair, firstLoaded, secondLoaded, bind, Except.bind]

theorem loadPair_two_error (equal : a.rowCount = b.rowCount) (failure : Failure) :
    loadPair files first second = .error failure ↔
      a.LabelFault failure ∨ a.Countable ∧ b.LabelFault failure := by
  rw [loadPair_two firstLoaded secondLoaded, mergePair_error]
  constructor
  next =>
    intro fault
    cases fault with
    | unequal different => exact absurd equal different
    | first _ _ fault => exact .inl fault
    | second _ _ countable fault => exact .inr ⟨countable, fault⟩
  next =>
    rintro (fault | ⟨countable, fault⟩)
    · exact .first failure equal fault
    · exact .second failure equal countable fault

include listed

theorem merge_two : merge files path = do
    let firstRows ← a.labeledRows (deriveLabel (Utf8.encode first))
    let secondRows ← b.labeledRows (deriveLabel (Utf8.encode second))
    return (⟨firstRows ++ secondRows⟩,
      [⟨first, deriveLabel (Utf8.encode first), a.rowCount⟩,
        ⟨second, deriveLabel (Utf8.encode second), b.rowCount⟩]) := by
  simp only [merge, listed, loadSource, List.mapM_cons, List.mapM_nil, firstLoaded, secondLoaded,
    bind, Except.bind, pure, Except.pure]
  cases a.labeledRows (deriveLabel (Utf8.encode first)) with
  | error failure => rfl
  | ok firstRows =>
    cases b.labeledRows (deriveLabel (Utf8.encode second)) with
    | error failure => rfl
    | ok secondRows => simp

theorem merge_two_ok (merged : LabeledTable) :
    (∃ sources, merge files path = .ok (merged, sources)) ↔ ∃ firstRows secondRows,
      a.labeledRows (deriveLabel (Utf8.encode first)) = .ok firstRows ∧
      b.labeledRows (deriveLabel (Utf8.encode second)) = .ok secondRows ∧
      merged = ⟨firstRows ++ secondRows⟩ := by
  simp only [merge_two listed firstLoaded secondLoaded, bind_ok, pure, Except.pure,
    Except.ok.injEq, Prod.mk.injEq, eq_comm (b := merged)]
  constructor
  next =>
    rintro ⟨_, firstRows, one, secondRows, two, rows, _⟩
    exact ⟨firstRows, secondRows, one, two, rows⟩
  next =>
    rintro ⟨firstRows, secondRows, one, two, rows⟩
    exact ⟨_, firstRows, one, secondRows, two, rows, rfl⟩

theorem merge_two_isOk :
    (∃ merged sources, merge files path = .ok (merged, sources)) ↔ a.Countable ∧ b.Countable := by
  simp only [merge_two_ok listed firstLoaded secondLoaded]
  rw [← a.countable_iff (deriveLabel (Utf8.encode first)),
    ← b.countable_iff (deriveLabel (Utf8.encode second))]
  constructor
  next =>
    rintro ⟨_, firstRows, secondRows, one, two, _⟩
    exact ⟨⟨firstRows, one⟩, ⟨secondRows, two⟩⟩
  next =>
    rintro ⟨⟨firstRows, one⟩, ⟨secondRows, two⟩⟩
    exact ⟨_, firstRows, secondRows, one, two, rfl⟩

theorem merge_two_error (failure : Failure) :
    merge files path = .error failure ↔
      a.LabelFault failure ∨ a.Countable ∧ b.LabelFault failure := by
  simp only [merge_two listed firstLoaded secondLoaded, bind_error, Table.labeledRows_error, pure,
    Except.pure]
  rw [← a.countable_iff (deriveLabel (Utf8.encode first))]
  simp

end Two

theorem merge_agrees_loadPair (files : Reader) (path first second : String) (a b : Table)
    (listed : load files path = .ok [first, second])
    (firstLoaded : Table.load files first = .ok a) (secondLoaded : Table.load files second = .ok b)
    (equal : a.rowCount = b.rowCount) :
    ((∃ merged sources, merge files path = .ok (merged, sources)) ↔
      ∃ paired, loadPair files first second = .ok paired) ∧
    (∀ failure, merge files path = .error failure ↔
      loadPair files first second = .error failure) ∧
    ∀ merged sources paired, merge files path = .ok (merged, sources) →
      loadPair files first second = .ok paired →
      merged.size = a.rowCount + b.rowCount ∧ paired.size = merged.size ∧
      (∀ i < a.rowCount,
        paired.rows[2 * i]?.map LabeledRow.unlabeled = merged.rows[i]?.map LabeledRow.unlabeled ∧
        paired.rows[2 * i + 1]?.map LabeledRow.unlabeled =
          merged.rows[a.rowCount + i]?.map LabeledRow.unlabeled) ∧
      (paired.rows.map LabeledRow.unlabeled).Perm (merged.rows.map LabeledRow.unlabeled) := by
  have pair := loadPair_two firstLoaded secondLoaded
  refine ⟨?_, ?_, ?_⟩
  · rw [merge_two_isOk listed firstLoaded secondLoaded, pair, mergePair_isOk]
    simp [equal]
  · intro failure
    rw [merge_two_error listed firstLoaded secondLoaded,
      loadPair_two_error firstLoaded secondLoaded equal]
  · intro merged sources paired concatenated interleaved
    obtain ⟨firstRows, secondRows, one, two, rfl⟩ :=
      (merge_two_ok listed firstLoaded secondLoaded merged).mp ⟨sources, concatenated⟩
    rw [pair] at interleaved
    obtain ⟨withRows, withoutRows, withDone, withoutDone, withSize, withoutSize, rows⟩ :=
      mergePair_alternate .standard a b paired interleaved
    have firstSame := a.unlabeled_eq _ _ withRows firstRows withDone one
    have secondSame := b.unlabeled_eq _ _ withoutRows secondRows withoutDone two
    have firstSize := (a.labeledRows_labels _ _ one).1
    have secondSize := (b.labeledRows_labels _ _ two).1
    have lengths : firstRows.length = secondRows.length := by omega
    have shape : paired.rows.map LabeledRow.unlabeled =
        alternate (firstRows.map LabeledRow.unlabeled) (secondRows.map LabeledRow.unlabeled) := by
      rw [rows, alternate_map, firstSame, secondSame]
    refine ⟨by simp [LabeledTable.size, firstSize, secondSize], ?_, ?_, ?_⟩
    · have size := alternate_length withRows withoutRows (by omega)
      simp only [LabeledTable.size, rows, size, List.length_append]
      omega
    · intro i inside
      have places := alternate_get (firstRows.map LabeledRow.unlabeled)
        (secondRows.map LabeledRow.unlabeled) (by simpa using lengths) i
      rw [← shape] at places
      have beyond : ¬a.rowCount + i < a.rowCount := by omega
      simpa [List.getElem?_append, firstSize, inside, beyond] using places
    · rw [shape, List.map_append]
      exact alternate_perm _ _ (by simpa using lengths)

def twins : Reader
  | "list" => .ok (.readable (Utf8.encode "File\n b_1\n\nb-a \n"))
  | "b_1" => .ok (.readable (Utf8.encode "Count\tID\n18446744073709551615\tx\n2e0\t\"\"\n"))
  | "b-a" => .ok (.readable (Utf8.encode "ID\tNote\tCount\n0.5\t\t7\n1.0\tz\t0\n"))
  | _ => .error .noSuchFile

theorem merge_agrees_loadPair_twins : ∃ merged sources paired,
    merge twins "list" = .ok (merged, sources) ∧ loadPair twins "b_1" "b-a" = .ok paired ∧
    merged.rows =
      [⟨"x", "b", 18446744073709551615⟩, ⟨"", "b", 2⟩, ⟨"0.5", "b2a", 7⟩, ⟨"1.0", "b2a", 0⟩] ∧
    paired.rows[2 * 1]?.map LabeledRow.unlabeled = some ("", 2) ∧
    paired.rows[2 * 1 + 1]?.map LabeledRow.unlabeled = some ("1.0", 0) ∧
    (paired.rows.map LabeledRow.unlabeled).Perm (merged.rows.map LabeledRow.unlabeled) := by
  let a : Table :=
    { headers := ["Count", "ID"]
      rows := [["18446744073709551615", "x"], ["2e0", ""]]
      rectangular := by decide }
  let b : Table :=
    { headers := ["ID", "Note", "Count"]
      rows := [["0.5", "", "7"], ["1.0", "z", "0"]]
      rectangular := by decide }
  let merged : LabeledTable :=
    ⟨[⟨"x", "b", 18446744073709551615⟩, ⟨"", "b", 2⟩, ⟨"0.5", "b2a", 7⟩, ⟨"1.0", "b2a", 0⟩]⟩
  have listed : load twins "list" = .ok ["b_1", "b-a"] := by decide +kernel
  have firstLoaded : Table.load twins "b_1" = .ok a := by decide +kernel
  have secondLoaded : Table.load twins "b-a" = .ok b := by decide +kernel
  have concatenated : merge twins "list" = .ok (merged, [⟨"b_1", "b", 2⟩, ⟨"b-a", "b2a", 2⟩]) := by
    decide +kernel
  obtain ⟨both, _, same⟩ :=
    merge_agrees_loadPair twins "list" "b_1" "b-a" a b listed firstLoaded secondLoaded rfl
  obtain ⟨paired, interleaved⟩ := both.mp ⟨merged, _, concatenated⟩
  obtain ⟨_, _, rows, perm⟩ := same merged _ paired concatenated interleaved
  exact ⟨merged, _, paired, concatenated, interleaved, rfl, (rows 1 (by decide)).1,
    (rows 1 (by decide)).2, perm⟩

end Manifest

end PlotTables
