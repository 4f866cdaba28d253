import Mathlib.Algebra.GroupWithZero.Nat
import Mathlib.Control.Monad.Basic
import Mathlib.Data.List.TakeWhile
import PlotTables.Merge
import PlotTables.Proofs.Merge.Rows

set_option autoImplicit false

namespace PlotTables

theorem trimBlanks_eq_nil (text : List Char) :
    trimBlanks text = [] ↔ text.all isBlank = true := by
  rw [trimBlanks, List.reverse_eq_nil_iff, List.dropWhile_eq_nil_iff, List.all_eq_true]
  constructor
  next =>
    intro trimmed c member
    rw [← List.takeWhile_append_dropWhile (p := isBlank) (l := text), List.mem_append] at member
    rcases member with front | back
    · exact List.mem_takeWhile_imp front
    · exact trimmed c (List.mem_reverse.mpr back)
  next =>
    intro blank c member
    exact blank c ((List.dropWhile_sublist isBlank).mem (List.mem_reverse.mp member))

section Blocks

variable {α β : Type} (f : α → List β)

/-- Where the part of an element starts once the parts of all elements follow each other. -/
def blockStart (items : List α) (i : Nat) : Nat :=
  ((items.take i).map fun item => (f item).length).sum

theorem flatMap_block (items : List α) (i : Nat) (item : α) (there : items[i]? = some item)
    (place : Nat) (inside : place < (f item).length) :
    (items.flatMap f)[blockStart f items i + place]? = (f item)[place]? := by
  induction items generalizing i with
  | nil => simp at there
  | cons first rest ih =>
    cases i with
    | zero =>
      cases there
      rw [blockStart, List.take_zero, List.map_nil, List.sum_nil, Nat.zero_add, List.flatMap_cons,
        List.getElem?_append_left inside]
    | succ before =>
      have later := ih before there
      simp only [blockStart, List.take_succ_cons, List.map_cons, List.sum_cons] at later ⊢
      rw [List.flatMap_cons, Nat.add_assoc, List.getElem?_append_right (Nat.le_add_right _ _),
        Nat.add_sub_cancel_left, later]

end Blocks

namespace Manifest

def listed? (row : List String) : Option String :=
  row.head?.bind fun cell =>
    if cell.toList.all isBlank then none else some (String.ofList (trimBlanks cell.toList))

theorem paths_listed (manifest : Table) : paths manifest = manifest.rows.filterMap listed? := by
  rw [paths, Table.columnCells]
  induction manifest.rows with
  | nil => rfl
  | cons row rest ih =>
    rw [List.filterMap_cons, List.map_cons, List.map_cons]
    cases row with
    | nil => exact ih
    | cons cell others =>
      -- A cell of blanks is empty once it is trimmed, and no other one is.
      by_cases blank : cell.toList.all isBlank = true
      next =>
        have skipped : listed? (cell :: others) = none := if_pos blank
        have nothing : trimBlanks cell.toList = [] := (trimBlanks_eq_nil cell.toList).mpr blank
        rw [skipped, List.filter_cons_of_neg (by simp [nothing])]
        exact ih
      next =>
        have kept : listed? (cell :: others) = some (String.ofList (trimBlanks cell.toList)) :=
          if_neg blank
        have something : trimBlanks cell.toList ≠ [] := mt (trimBlanks_eq_nil cell.toList).mp blank
        rw [kept, List.filter_cons_of_pos (by simpa using something)]
        exact congrArg _ ih

inductive SourceFault (files : Reader) (path : String) : Failure → Prop where
  | unloaded (failure : Failure) (fault : Table.load files path = .error failure) :
      SourceFault files path failure
  | unlabeled (failure : Failure) (table : Table) (loaded : Table.load files path = .ok table)
      (fault : table.LabelFault failure) : SourceFault files path failure

/-- The manifest cannot be loaded, or a listed file is bad and all files before it are not. -/
inductive MergeFault (files : Reader) (path : String) : Failure → Prop where
  | unloaded (failure : Failure) (fault : Table.load files path = .error failure) :
      MergeFault files path failure
  | source (failure : Failure) (manifest : Table) (position : Nat) (listed : String)
      (loaded : Table.load files path = .ok manifest)
      (there : (manifest.rows.filterMap listed?)[position]? = some listed)
      (fault : SourceFault files listed failure)
      (before : ∀ earlier other, earlier < position →
        (manifest.rows.filterMap listed?)[earlier]? = some other →
        ∃ table, Table.load files other = .ok table ∧ table.Countable) :
      MergeFault files path failure

variable (files : Reader) (path : String)

theorem loadSource_ok (loaded : MergedSource × List LabeledRow) :
    loadSource files path = .ok loaded ↔ ∃ table, Table.load files path = .ok table ∧
      table.labeledRows (deriveLabel (Utf8.encode path)) = .ok loaded.2 ∧
      loaded.1 = ⟨path, deriveLabel (Utf8.encode path), table.rowCount⟩ := by
  rcases loaded with ⟨source, rows⟩
  simp only [loadSource, bind_ok, pure, Except.pure, Except.ok.injEq, Prod.mk.injEq,
    exists_eq_right_right, eq_comm (b := source)]

theorem loadSource_isOk :
    (∃ loaded, loadSource files path = .ok loaded) ↔
      ∃ table, Table.load files path = .ok table ∧ table.Countable := by
  simp only [loadSource_ok]
  constructor
  next =>
    rintro ⟨⟨source, rows⟩, table, loaded, labeled, _⟩
    exact ⟨table, loaded, (table.countable_iff _).mp ⟨rows, labeled⟩⟩
  next =>
    rintro ⟨table, loaded, countable⟩
    obtain ⟨rows, labeled⟩ := (table.countable_iff (deriveLabel (Utf8.encode path))).mpr countable
    exact ⟨(_, rows), table, loaded, labeled, rfl⟩

theorem loadSource_error (failure : Failure) :
    loadSource files path = .error failure ↔ SourceFault files path failure := by
  simp only [loadSource, bind_error, Table.labeledRows_error, pure, Except.pure]
  constructor
  next =>
    rintro (fault | ⟨table, loaded, fault | ⟨_, _, fine⟩⟩)
    · exact .unloaded failure fault
    · exact .unlabeled failure table loaded fault
    · cases fine
  next =>
    intro fault
    cases fault with
    | unloaded fault => exact .inl fault
    | unlabeled table loaded fault => exact .inr ⟨table, loaded, .inl fault⟩

theorem load_listed (entries : List String) : load files path = .ok entries ↔
    ∃ manifest, Table.load files path = .ok manifest ∧
      entries = manifest.rows.filterMap listed? := by
  simp only [load, bind_ok, pure, Except.pure, Except.ok.injEq, paths_listed, eq_comm (b := entries)]

theorem merge_ok (merged : LabeledTable) (sources : List MergedSource) :
    merge files path = .ok (merged, sources) ↔ ∃ manifest loaded,
      Table.load files path = .ok manifest ∧
      (manifest.rows.filterMap listed?).mapM (loadSource files) = .ok loaded ∧
      merged = ⟨loaded.flatMap Prod.snd⟩ ∧ sources = loaded.map Prod.fst := by
  simp only [merge, bind_ok, load_listed, pure, Except.pure, Except.ok.injEq, Prod.mk.injEq]
  constructor
  next =>
    rintro ⟨_, ⟨manifest, stored, rfl⟩, loaded, each, rfl, rfl⟩
    exact ⟨manifest, loaded, stored, each, rfl, rfl⟩
  next =>
    rintro ⟨manifest, loaded, stored, each, rfl, rfl⟩
    exact ⟨_, ⟨manifest, stored, rfl⟩, loaded, each, rfl, rfl⟩

theorem merge_error (failure : Failure) :
    merge files path = .error failure ↔ MergeFault files path failure := by
  simp only [merge, bind_error, load_listed, mapM_error, loadSource_error, loadSource_isOk, pure,
    Except.pure]
  constructor
  next =>
    rintro (unread | ⟨_, ⟨manifest, stored, rfl⟩, failed⟩)
    · rcases (bind_error _ _ _).mp unread with fault | ⟨_, _, fine⟩
      · exact .unloaded failure fault
      · cases fine
    · rcases failed with ⟨position, listed, there, fault, before⟩ | ⟨_, _, fine⟩
      · exact .source failure manifest position listed stored there fault before
      · cases fine
  next =>
    intro fault
    cases fault with
    | unloaded fault => exact .inl ((bind_error _ _ _).mpr (.inl fault))
    | source manifest position listed stored there fault before =>
      exact .inr ⟨_, ⟨manifest, stored, rfl⟩, .inl ⟨position, listed, there, fault, before⟩⟩

/-- A source beside the labeled rows of the table at its path. -/
structure Block (files : Reader) (source : MergedSource) (rows : List LabeledRow) (table : Table) :
    Prop where
  stored : Table.load files source.path = .ok table
  label : source.label = deriveLabel (Utf8.encode source.path)
  size : source.rows = table.rowCount
  labeled : table.labeledRows source.label = .ok rows

namespace Block

variable {files : Reader} {source : MergedSource} {rows : List LabeledRow} {table : Table}

theorem length (block : Block files source rows table) : rows.length = source.rows := by
  rw [(table.labeledRows_labels _ _ block.labeled).1, block.size]

theorem row (block : Block files source rows table) (place : Nat) (inside : place < source.rows) :
    ∃ labeled, rows[place]? = some labeled ∧ table.LabelsRow source.label place labeled :=
  (table.labeledRows_labels _ _ block.labeled).2 place (block.size ▸ inside)

theorem countLabel (block : Block files source rows table) (label : String) :
    LabeledTable.countLabel ⟨rows⟩ label = if source.label == label then source.rows else 0 := by
  have same (labeled : LabeledRow) (member : labeled ∈ rows) : labeled.label = source.label := by
    obtain ⟨place, there⟩ := List.mem_iff_getElem?.mp member
    have inside := (List.getElem?_eq_some_iff.mp there).1
    obtain ⟨found, at_, labels⟩ := block.row place (block.length ▸ inside)
    rw [there] at at_
    cases at_
    exact labels.label
  simp only [LabeledTable.countLabel]
  split
  next equal =>
    rw [← block.length, List.countP_eq_length]
    intro labeled member
    rwa [same labeled member]
  next different =>
    rw [List.countP_eq_zero]
    intro labeled member
    rwa [same labeled member]

end Block

section Loaded

variable {files : Reader} {entries : List String} {loaded : List (MergedSource × List LabeledRow)}

theorem loaded_block (done : entries.mapM (loadSource files) = .ok loaded)
    (source : MergedSource) (rows : List LabeledRow) (member : (source, rows) ∈ loaded) :
    ∃ table, Block files source rows table := by
  obtain ⟨listed, _, found⟩ := mapM_member _ _ _ done _ member
  obtain ⟨table, stored, labeled, rfl⟩ := (loadSource_ok files listed _).mp found
  exact ⟨table, stored, rfl, rfl, labeled⟩

theorem loaded_paths (done : entries.mapM (loadSource files) = .ok loaded) :
    (loaded.map Prod.fst).map MergedSource.path = entries := by
  rw [List.map_map]
  apply mapM_shows _ _ entries loaded _ done
  intro listed result found
  obtain ⟨_, _, _, source⟩ := (loadSource_ok files listed result).mp found
  simp [source]

variable (blocks : ∀ source rows, (source, rows) ∈ loaded → ∃ table, Block files source rows table)

include blocks

theorem loaded_sizes : loaded.map (fun pair => pair.2.length) =
    (loaded.map Prod.fst).map MergedSource.rows := by
  rw [List.map_map]
  apply List.map_congr_left
  rintro ⟨source, rows⟩ member
  obtain ⟨table, block⟩ := blocks source rows member
  exact block.length

theorem blockStart_loaded (i : Nat) :
    blockStart Prod.snd loaded i = (((loaded.map Prod.fst).take i).map MergedSource.rows).sum := by
  rw [blockStart, List.map_take, loaded_sizes blocks, List.map_take]

theorem loaded_countLabel (label : String) :
    LabeledTable.countLabel ⟨loaded.flatMap Prod.snd⟩ label =
      (((loaded.map Prod.fst).filter fun source => source.label == label).map
        MergedSource.rows).sum := by
  induction loaded with
  | nil => rfl
  | cons pair rest ih =>
    rcases pair with ⟨source, rows⟩
    obtain ⟨table, block⟩ := blocks source rows (by simp)
    have first := block.countLabel label
    have others := ih fun source rows member => blocks source rows (by simp [member])
    simp only [LabeledTable.countLabel] at first others ⊢
    rw [List.flatMap_cons, List.countP_append, first, others, List.map_cons, List.filter_cons]
    split <;> simp

end Loaded

theorem merge_concatenates (files : Reader) (path : String) :
    (∀ merged sources, merge files path = .ok (merged, sources) →
      (∃ manifest, Table.load files path = .ok manifest ∧
        sources.map MergedSource.path = manifest.rows.filterMap listed?) ∧
      merged.size = (sources.map MergedSource.rows).sum ∧
      (∀ i source, sources[i]? = some source →
        source.label = deriveLabel (Utf8.encode source.path) ∧
        ∃ table, Table.load files source.path = .ok table ∧ source.rows = table.rowCount ∧
          ∀ row, row < source.rows → ∃ labeled,
            merged.rows[((sources.take i).map MergedSource.rows).sum + row]? = some labeled ∧
            table.LabelsRow source.label row labeled) ∧
      ∀ label, merged.countLabel label =
        ((sources.filter fun source => source.label == label).map MergedSource.rows).sum) ∧
    ∀ failure, merge files path = .error failure ↔ MergeFault files path failure := by
  refine ⟨?_, merge_error files path⟩
  intro merged sources done
  obtain ⟨manifest, loaded, stored, each, rfl, rfl⟩ := (merge_ok files path merged sources).mp done
  have blocks := loaded_block each
  refine ⟨⟨manifest, stored, loaded_paths each⟩, ?_, ?_, loaded_countLabel blocks⟩
  · rw [LabeledTable.size, List.length_flatMap, loaded_sizes blocks]
  · intro i source there
    rw [List.getElem?_map, Option.map_eq_some_iff] at there
    obtain ⟨⟨_, rows⟩, there, rfl⟩ := there
    obtain ⟨table, block⟩ := blocks _ rows (List.mem_of_getElem? there)
    refine ⟨block.label, table, block.stored, block.size, ?_⟩
    intro row inside
    obtain ⟨labeled, found, labels⟩ := block.row row inside
    refine ⟨labeled, ?_, labels⟩
    have start := blockStart_loaded blocks i
    rw [← start, flatMap_block Prod.snd loaded i _ there row (block.length ▸ inside), found]

def shelf : Reader
  | "list" => .ok (.readable (Utf8.encode "File\tNote\n a-b_1\tx\n\n \ty\nc/a-b_2\t\na-b_1\t\n"))
  | "faulty" => .ok (.readable (Utf8.encode "File\na-b_1\nunnamed\nmissing\n"))
  | "a-b_1" => .ok (.readable (Utf8.encode "ID\tCount\n1.0\t4\n"))
  | "c/a-b_2" => .ok (.readable (Utf8.encode "Count\tID\n5.0\t0.5\n18446744073709551615\t\"\"\n"))
  | "unnamed" => .ok (.readable (Utf8.encode "Name\tCount\n1.0\tx\n"))
  | _ => .error .noSuchFile

theorem merge_concatenates_shelf :
    (∃ merged sources, merge shelf "list" = .ok (merged, sources) ∧
      sources.map MergedSource.path = ["a-b_1", "c/a-b_2", "a-b_1"] ∧
      sources.map MergedSource.rows = [1, 2, 1] ∧ merged.size = 1 + 2 + 1 ∧
      merged.rows[1 + 1]? = some ⟨"", "a2b", 18446744073709551615⟩ ∧
      merged.countLabel "a2b" = 1 + 2 + 1) ∧
    MergeFault shelf "faulty" (.missingColumn "ID") := by
  let merged : LabeledTable :=
    ⟨[⟨"1.0", "a2b", 4⟩, ⟨"0.5", "a2b", 5⟩, ⟨"", "a2b", 18446744073709551615⟩, ⟨"1.0", "a2b", 4⟩]⟩
  let sources : List MergedSource :=
    [⟨"a-b_1", "a2b", 1⟩, ⟨"c/a-b_2", "a2b", 2⟩, ⟨"a-b_1", "a2b", 1⟩]
  have done : merge shelf "list" = .ok (merged, sources) := by decide +kernel
  have failed : merge shelf "faulty" = .error (.missingColumn "ID") := by decide +kernel
  obtain ⟨_, size, _, labels⟩ := (merge_concatenates shelf "list").1 merged sources done
  exact ⟨⟨merged, sources, done, rfl, rfl, size, rfl, labels "a2b"⟩,
    ((merge_concatenates shelf "faulty").2 _).mp failed⟩

end Manifest

end PlotTables
