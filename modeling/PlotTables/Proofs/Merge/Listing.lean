import PlotTables.Proofs.Files.Frame
import PlotTables.Proofs.Merge.Manifest
import PlotTables.Proofs.Table.Reading

set_option autoImplicit false

namespace PlotTables

structure IsTrimmed (text : List Char) : Prop where
  first : ∀ c, text.head? = some c → isBlank c = false
  last : ∀ c, text.getLast? = some c → isBlank c = false

structure Trims (text inner : List Char) : Prop where
  around : ∃ before after, text = before ++ inner ++ after ∧ (∀ c ∈ before, isBlank c = true) ∧
    ∀ c ∈ after, isBlank c = true
  trimmed : IsTrimmed inner

theorem IsTrimmed.trims {text : List Char} (trimmed : IsTrimmed text) : Trims text text :=
  ⟨⟨[], [], by simp, by simp, by simp⟩, trimmed⟩

theorem dropWhile_of_first (text rest : List Char)
    (first : ∀ c, text.head? = some c → isBlank c = false) (filled : text ≠ []) :
    (text ++ rest).dropWhile isBlank = text ++ rest := by
  cases text with
  | nil => exact absurd rfl filled
  | cons c others =>
    exact List.dropWhile_cons_of_neg (by simp [first c rfl])

theorem Trims.trimBlanks_eq {text inner : List Char} (trims : Trims text inner) :
    trimBlanks text = inner := by
  obtain ⟨before, after, rfl, front, back⟩ := trims.around
  by_cases nothing : inner = []
  next =>
    subst nothing
    rw [trimBlanks_eq_nil, List.all_eq_true]
    intro c member
    rcases List.mem_append.mp member with member | member
    · exact front c (by simpa using member)
    · exact back c member
  next =>
    have turned : ∀ c, inner.reverse.head? = some c → isBlank c = false := by
      intro c there
      exact trims.trimmed.last c (by rwa [List.head?_reverse] at there)
    rw [trimBlanks, List.append_assoc, List.dropWhile_append_of_pos front,
      dropWhile_of_first inner after trims.trimmed.first nothing, List.reverse_append,
      List.dropWhile_append_of_pos fun c member => back c (List.mem_reverse.mp member)]
    have kept := dropWhile_of_first inner.reverse [] turned (by simpa using nothing)
    rw [List.append_nil] at kept
    rw [kept, List.reverse_reverse]

theorem trims_trimBlanks (text : List Char) : Trims text (trimBlanks text) := by
  let tail := text.dropWhile isBlank
  let back := (tail.reverse.takeWhile isBlank).reverse
  have tailSplit : tail = trimBlanks text ++ back := by
    rw [trimBlanks, ← List.reverse_append, List.takeWhile_append_dropWhile, List.reverse_reverse]
  refine ⟨⟨text.takeWhile isBlank, back, ?_, fun c => List.mem_takeWhile_imp, ?_⟩, ?_, ?_⟩
  · rw [List.append_assoc, ← tailSplit, List.takeWhile_append_dropWhile]
  · intro c member
    exact List.mem_takeWhile_imp (List.mem_reverse.mp member)
  · intro c there
    have first : tail.head? = some c := by rw [tailSplit, List.head?_append, there]; rfl
    have stops := List.head?_dropWhile_not isBlank text
    rwa [show (text.dropWhile isBlank).head? = some c from first] at stops
  · intro c there
    rw [trimBlanks, List.getLast?_reverse] at there
    have stops := List.head?_dropWhile_not isBlank tail.reverse
    rwa [there] at stops

theorem trims_iff (text inner : List Char) : Trims text inner ↔ trimBlanks text = inner := by
  constructor
  next => exact Trims.trimBlanks_eq
  next =>
    rintro rfl
    exact trims_trimBlanks text

namespace Table

/-- What keeps a file from being loaded as a table. -/
inductive LoadFault (files : Reader) (path : String) : Failure → Prop where
  | file (fault : FileFault) (closed : files path = .error fault) :
      LoadFault files path (.file fault)
  | records (fault : RecordFault) : LoadFault files path (.records fault)
  | noHeader : LoadFault files path .noHeader

variable (files : Reader) (path : String)

theorem load_headers (t : Table) (loaded : load files path = .ok t) : t.headers ≠ [] := by
  unfold load at loaded
  split at loaded
  next => cases loaded
  next => cases loaded
  next content _ => exact headers_ne_nil content t loaded

theorem load_fault (failure : Failure) (failed : load files path = .error failure) :
    LoadFault files path failure := by
  unfold load at failed
  split at failed
  next fault closed =>
    cases failed
    exact .file fault closed
  next fault _ =>
    cases failed
    exact .records (.unreadable fault)
  next content _ =>
    have fault := (read_error content failure).mp failed
    generalize Delimited.rawRecords Delimited.tab content = records at fault
    cases fault with
    | noHeader => exact .noHeader
    | header _ _ fault _ => exact .records fault
    | record _ _ _ _ _ fault _ _ _ _ => exact .records fault

theorem cells_columnCells (t : Table) (column : Nat) (inside : column < t.headers.length) :
    ((List.range t.rowCount).mapM fun row => t.cell row column) = .ok (t.columnCells column) := by
  have each : ∀ row ∈ List.range t.rowCount,
      t.cell row column = .ok ((t.columnCells column).getD row "") := by
    intro row member
    have within : row < t.rows.length := List.mem_range.mp member
    have there : t.rows[row]? = some t.rows[row] := List.getElem?_eq_getElem within
    have wide := t.rectangular t.rows[row] (List.getElem_mem within)
    have found := List.getElem?_eq_getElem (wide.symm ▸ inside)
    rw [cell_ok, there, Option.bind_some, columnCells, List.getD_eq_getElem?_getD,
      List.getElem?_map, there, Option.map_some, Option.getD_some, List.getD_eq_getElem?_getD,
      found, Option.getD_some]
  rw [mapM_ok _ _ _ each]
  apply congrArg
  apply List.ext_getElem
  · simp [rowCount, columnCells]
  · intro row _ within
    rw [List.getElem_map, List.getElem_range, List.getD_eq_getElem?_getD,
      List.getElem?_eq_getElem within, Option.getD_some]

end Table

namespace Manifest

/-- The rows of a manifest beside the paths that stand in them, one for each row with one. -/
inductive Lists : List (List String) → List String → Prop where
  | done : Lists [] []
  | blank (cell : String) (others : List String) (rows : List (List String)) (paths : List String)
      (blank : Trims cell.toList []) (rest : Lists rows paths) :
      Lists ((cell :: others) :: rows) paths
  | path (cell path : String) (others : List String) (rows : List (List String))
      (paths : List String) (trims : Trims cell.toList path.toList) (named : path ≠ "")
      (rest : Lists rows paths) : Lists ((cell :: others) :: rows) (path :: paths)

section Rows

variable (cell : String) (others : List String)

theorem listed?_blank (blank : Trims cell.toList []) : listed? (cell :: others) = none :=
  if_pos ((trimBlanks_eq_nil cell.toList).mp blank.trimBlanks_eq)

theorem listed?_path (path : String) (trims : Trims cell.toList path.toList) (named : path ≠ "") :
    listed? (cell :: others) = some path := by
  have inner := trims.trimBlanks_eq
  have visible : ¬cell.toList.all isBlank = true := by
    intro blank
    rw [(trimBlanks_eq_nil cell.toList).mpr blank, eq_comm, String.toList_eq_nil_iff] at inner
    exact named inner
  have kept : listed? (cell :: others) = some (String.ofList (trimBlanks cell.toList)) :=
    if_neg visible
  rw [kept, inner, String.ofList_toList]

end Rows

theorem Lists.paths_eq {rows : List (List String)} {paths : List String}
    (lists : Lists rows paths) : paths = rows.filterMap listed? := by
  induction lists with
  | done => rfl
  | blank cell others rows paths blank _ ih =>
    rw [List.filterMap_cons_none (listed?_blank cell others blank), ← ih]
  | path cell path others rows paths trims named _ ih =>
    rw [List.filterMap_cons_some (listed?_path cell others path trims named), ← ih]

theorem lists_filterMap (rows : List (List String)) (filled : ∀ row ∈ rows, row ≠ []) :
    Lists rows (rows.filterMap listed?) := by
  induction rows with
  | nil => exact .done
  | cons row rest ih =>
    have later := ih fun other member => filled other (by simp [member])
    cases row with
    | nil => exact absurd rfl (filled [] (by simp))
    | cons cell others =>
      have trims := trims_trimBlanks cell.toList
      by_cases blank : trimBlanks cell.toList = []
      next =>
        rw [blank] at trims
        rw [List.filterMap_cons_none (listed?_blank cell others trims)]
        exact .blank cell others rest _ trims later
      next =>
        rw [← String.toList_ofList (l := trimBlanks cell.toList)] at trims
        have named : String.ofList (trimBlanks cell.toList) ≠ "" := by simpa using blank
        rw [List.filterMap_cons_some (listed?_path cell others _ trims named)]
        exact .path cell _ others rest _ trims named later

theorem lists_iff (rows : List (List String)) (filled : ∀ row ∈ rows, row ≠ [])
    (paths : List String) : Lists rows paths ↔ paths = rows.filterMap listed? := by
  constructor
  next => exact Lists.paths_eq
  next =>
    rintro rfl
    exact lists_filterMap rows filled

theorem lists_entries (rows : List (List String)) (entries : List String)
    (first : rows.map List.head? = entries.map some)
    (visible : ∀ entry ∈ entries, entry ≠ "" ∧ IsTrimmed entry.toList) : Lists rows entries := by
  induction rows generalizing entries with
  | nil =>
    obtain rfl : entries = [] := by simpa using first.symm
    exact .done
  | cons row rest ih =>
    cases entries with
    | nil => simp at first
    | cons entry later =>
      rw [List.map_cons, List.map_cons, List.cons.injEq] at first
      obtain ⟨others, rfl⟩ := List.head?_eq_some_iff.mp first.1
      obtain ⟨named, trimmed⟩ := visible entry (by simp)
      exact .path entry entry others rest later trimmed.trims named
        (ih later first.2 fun other member => visible other (by simp [member]))

/-- As `load`, but each first cell is looked up, so that a row without one is an error. -/
def loadChecked (files : Reader) (path : String) : Except Failure (List String) := do
  let manifest ← Table.load files path
  let cells ← (List.range manifest.rowCount).mapM fun row => manifest.cell row 0
  return (cells.map fun cell => String.ofList (trimBlanks cell.toList)).filter
    fun path => path != ""

variable (files : Reader) (path : String)

theorem loadChecked_eq : loadChecked files path = load files path := by
  apply bind_congr_ok
  intro manifest loaded
  have columns := List.length_pos_iff.mpr (Table.load_headers files path manifest loaded)
  rw [manifest.cells_columnCells 0 columns]
  rfl

theorem load_ok_or_fault :
    (∃ paths, load files path = .ok paths ∧ "" ∉ paths) ∨
      ∃ failure, load files path = .error failure ∧ Table.LoadFault files path failure := by
  cases loaded : load files path with
  | ok paths =>
    obtain ⟨manifest, _, done⟩ := (bind_ok _ _ _).mp loaded
    cases done
    refine .inl ⟨_, rfl, ?_⟩
    simp [Manifest.paths]
  | error failure =>
    rcases (bind_error _ _ _).mp loaded with failed | ⟨_, _, fine⟩
    · exact .inr ⟨failure, rfl, Table.load_fault files path failure failed⟩
    · cases fine

theorem load_lists_written :
    (∀ (fs after : FileSystem) (manifest : Table), Table.read manifest.write = .ok manifest →
      fs.write path manifest.write = .ok after → ∃ paths, load after.reader path = .ok paths ∧
        (∀ others, Lists manifest.rows others ↔ others = paths) ∧
        ∀ entries, manifest.rows.map List.head? = entries.map some →
          (∀ entry ∈ entries, entry ≠ "" ∧ IsTrimmed entry.toList) → paths = entries) ∧
    loadChecked files path = load files path ∧
    ((∃ paths, load files path = .ok paths ∧ "" ∉ paths) ∨
      ∃ failure, load files path = .error failure ∧ Table.LoadFault files path failure) := by
  refine ⟨?_, loadChecked_eq files path, load_ok_or_fault files path⟩
  intro fs after manifest survives written
  have stored : Table.load after.reader path = .ok manifest := by
    rw [Table.load, FileSystem.reader_write fs after path manifest.write written]
    exact survives
  have filled : ∀ row ∈ manifest.rows, row ≠ [] := by
    intro row member
    exact manifest.some_cell (Table.headers_ne_nil _ _ survives) row (List.mem_cons_of_mem _ member)
  refine ⟨manifest.rows.filterMap listed?, ?_, lists_iff manifest.rows filled, ?_⟩
  · exact (load_listed after.reader path _).mpr ⟨manifest, stored, rfl⟩
  · intro entries first visible
    exact (lists_entries manifest.rows entries first visible).paths_eq.symm

def annotated : Table where
  headers := ["File", "Note"]
  rows := [["\u00A0a\t\"b\"\nc", "x"], [" \u3000", "y"], ["-n ", ""], ["", "\r\n"], ["-n", "z\tz"]]
  rectangular := by decide

def plain : Table where
  headers := ["File"]
  rows := [["a\t\"b\"\nc"], ["-n"], ["-n"]]
  rectangular := by decide

theorem load_lists_written_annotated :
    (∃ after, FileSystem.write ⟨[], []⟩ "list" annotated.write = .ok after ∧
      Table.read annotated.write = .ok annotated ∧
      load after.reader "list" = .ok ["a\t\"b\"\nc", "-n", "-n"]) ∧
    ∃ after, FileSystem.write ⟨[], []⟩ "list" plain.write = .ok after ∧
      Table.read plain.write = .ok plain ∧
      load after.reader "list" = .ok ["a\t\"b\"\nc", "-n", "-n"] := by
  have trims (text inner : List Char) (same : trimBlanks text = inner) : Trims text inner :=
    (trims_iff text inner).mpr same
  constructor
  next =>
    have survives : Table.read annotated.write = .ok annotated := by decide +kernel
    have written : FileSystem.write ⟨[], []⟩ "list" annotated.write =
        .ok ⟨[(["list"], .file annotated.write)], []⟩ := by decide +kernel
    obtain ⟨paths, loaded, unique, _⟩ :=
      (load_lists_written shelf "list").1 _ _ annotated survives written
    have lists : Lists annotated.rows ["a\t\"b\"\nc", "-n", "-n"] :=
      .path _ _ _ _ _ (trims _ _ (by decide)) (by decide) <|
      .blank _ _ _ _ (trims _ _ (by decide)) <|
      .path _ _ _ _ _ (trims _ _ (by decide)) (by decide) <|
      .blank _ _ _ _ (trims _ _ (by decide)) <|
      .path _ _ _ _ _ (trims _ _ (by decide)) (by decide) .done
    exact ⟨_, written, survives, (unique _).mp lists ▸ loaded⟩
  next =>
    have survives : Table.read plain.write = .ok plain := by decide +kernel
    have written : FileSystem.write ⟨[], []⟩ "list" plain.write =
        .ok ⟨[(["list"], .file plain.write)], []⟩ := by decide +kernel
    obtain ⟨paths, loaded, _, unchanged⟩ :=
      (load_lists_written shelf "list").1 _ _ plain survives written
    have visible : ∀ entry ∈ ["a\t\"b\"\nc", "-n", "-n"],
        entry ≠ "" ∧ IsTrimmed entry.toList := by
      have kept : ∀ entry ∈ ["a\t\"b\"\nc", "-n", "-n"],
          entry ≠ "" ∧ trimBlanks entry.toList = entry.toList := by decide
      exact fun entry member => ⟨(kept entry member).1, (trims _ _ (kept entry member).2).trimmed⟩
    exact ⟨_, written, survives, unchanged _ rfl visible ▸ loaded⟩

end Manifest

end PlotTables
