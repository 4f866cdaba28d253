import PlotTables.Files

set_option autoImplicit false

namespace PlotTables.FileSystem

theorem lookup_kept (entries : List (Location × Node)) (location other : Location)
    (different : other ≠ location) :
    (entries.filter fun entry => entry.1 != location).lookup other = entries.lookup other := by
  induction entries with
  | nil => rfl
  | cons entry rest ih =>
    obtain ⟨there, node⟩ := entry
    by_cases removed : there = location
    · subst removed
      have unequal : (other == there) = false := beq_eq_false_iff_ne.mpr different
      simp [List.lookup_cons, unequal, ih]
    · simp [List.lookup_cons, removed, ih]

theorem find?_put_other (fs : FileSystem) (location other : Location) (node : Node)
    (different : other ≠ location) : (fs.put location node).find? other = fs.find? other := by
  have unequal : (other == location) = false := beq_eq_false_iff_ne.mpr different
  simp only [find?, put, List.lookup_cons, unequal, lookup_kept _ _ _ different]

theorem find?_put_same (fs : FileSystem) (location : Location) (node : Node)
    (named : location ≠ []) : (fs.put location node).find? location = some node := by
  simp [find?, put, named]

@[simp] theorem put_put (fs : FileSystem) (location : Location) (first last : Node) :
    (fs.put location first).put location last = fs.put location last := by
  simp [put]

-- A new name in a directory that is there, or the name of a file in it.
structure Free (fs : FileSystem) (parent : Location) (name : String) : Prop where
  inside : fs.find? parent = some .directory
  notDot : name ≠ "."
  notParent : name ≠ ".."
  short : isTooLong name = false
  noDirectory : fs.find? (parent ++ [name]) ≠ some .directory

theorem place_ok (fs : FileSystem) (parent location : Location) (name : String) (closed : Bool)
    (placed : fs.place parent name closed = .ok location) :
    closed = false ∧ location = parent ++ [name] ∧ Free fs parent name := by
  unfold place at placed
  split at placed
  next => cases placed
  next => cases placed
  next inside =>
    simp only at placed
    split at placed
    next => cases placed
    next asked =>
      split at placed
      next => cases placed
      next short =>
        split at placed
        next => cases placed
        next noDirectory =>
          cases placed
          simp only [not_or, Bool.not_eq_true] at asked short
          exact ⟨asked.1, rfl, inside, asked.2.1, asked.2.2, short, noDirectory⟩

theorem locateOutput_inside (fs : FileSystem) (path : String) (location : Location)
    (located : fs.locateOutput path = .ok location) :
    pathFault? path = none ∧ ∃ before name parent, splitName? path = some (before, name) ∧
      before.foldlM fs.step (fs.base path) = .ok parent ∧
      (pathParts path).getLast? ≠ some "" ∧ location = parent ++ [name] ∧
      Free fs parent name := by
  unfold locateOutput at located
  split at located
  next => cases located
  next sound =>
    split at located
    next => cases located
    next before name split =>
      cases entered : before.foldlM fs.step (fs.base path) with
      | error fault => simp [entered, bind, Except.bind] at located
      | ok parent =>
        simp only [entered, bind, Except.bind] at located
        obtain ⟨closed, shape, free⟩ := fs.place_ok parent location name _ located
        exact ⟨sound, before, name, parent, split, entered, of_decide_eq_false closed, shape, free⟩

theorem locateOutput_ok (fs : FileSystem) (path : String) (location : Location)
    (located : fs.locateOutput path = .ok location) :
    location ≠ [] ∧ fs.find? location ≠ some .directory := by
  obtain ⟨_, before, name, parent, _, _, _, rfl, free⟩ :=
    locateOutput_inside fs path location located
  exact ⟨by simp, free.noDirectory⟩

theorem write_isOk (fs : FileSystem) (path : String) (content : List UInt8) :
    (∃ after, fs.write path content = .ok after) ↔ ∃ opened, fs.create path = .ok opened := by
  cases created : fs.create path with
  | error fault => simp [write, created, Except.map]
  | ok opened => simp [write, created, Except.map]

theorem write_ok (fs after : FileSystem) (path : String) (content : List UInt8)
    (written : fs.write path content = .ok after) :
    ∃ location, fs.locateOutput path = .ok location ∧ after = fs.put location (.file content) := by
  rw [write, create] at written
  cases located : fs.locateOutput path with
  | error fault => simp [located, Except.map] at written
  | ok location =>
    refine ⟨location, rfl, ?_⟩
    simp only [located, Except.map, fill, put_put, Except.ok.injEq] at written
    exact written.symm

section Written

variable (fs : FileSystem) (location : Location) (content : List UInt8) (named : location ≠ [])
  (free : fs.find? location ≠ some .directory)

include named free

theorem step_put (start next : Location) (part : String) :
    (fs.put location (.file content)).step start part = .ok next ↔ fs.step start part = .ok next := by
  by_cases here : start = location
  next =>
    -- Neither a file nor nothing leads any further.
    subst here
    rw [step, step, find?_put_same fs start _ named]
    cases before : fs.find? start with
    | none => simp
    | some node =>
      cases node with
      | file => simp
      | directory => exact absurd before free
  next => rw [step, step, find?_put_other fs location start _ here]

theorem foldlM_step_put (parts : List String) (start last : Location) :
    parts.foldlM (fs.put location (.file content)).step start = .ok last ↔
      parts.foldlM fs.step start = .ok last := by
  induction parts generalizing start with
  | nil => rfl
  | cons part rest ih =>
    have one := step_put fs location content named free start
    simp only [List.foldlM_cons, bind, Except.bind]
    cases before : fs.step start part with
    | ok next => rw [(one next part).mpr before]; exact ih next
    | error fault =>
      cases after : (fs.put location (.file content)).step start part with
      | ok next => rw [(one next part).mp after] at before; cases before
      | error other => simp

theorem locate_put (path : String) (place : Location) :
    (fs.put location (.file content)).locate path = .ok place ↔ fs.locate path = .ok place := by
  rw [locate, locate]
  split
  next => rfl
  next => exact foldlM_step_put fs location content named free _ _ place

theorem reader_put (path : String) (opened : Opened) (elsewhere : fs.locate path ≠ .ok location) :
    (fs.put location (.file content)).reader path = .ok opened ↔ fs.reader path = .ok opened := by
  have same := locate_put fs location content named free path
  rw [reader, reader]
  cases before : fs.locate path with
  | ok place =>
    have other : place ≠ location := by
      rintro rfl
      exact elsewhere before
    rw [(same place).mpr before]
    simp only [find?_put_other fs location place _ other]
  | error fault =>
    cases after : (fs.put location (.file content)).locate path with
    | ok place => rw [(same place).mp after] at before; cases before
    | error other => simp

end Written

theorem splitName?_parts (path name : String) (before : List String)
    (split : splitName? path = some (before, name)) (closed : (pathParts path).getLast? ≠ some "") :
    pathParts path = before ++ [name] := by
  cases parts : (pathParts path).reverse with
  | nil => simp [splitName?, parts] at split
  | cons last rest =>
    have shape : pathParts path = rest.reverse ++ [last] := by
      simpa using congrArg List.reverse parts
    have named : last ≠ "" := by
      intro unnamed
      simp [shape, unnamed] at closed
    simp only [splitName?, parts, named, decide_false, List.dropWhile_cons, Bool.false_eq_true,
      if_false, Option.some.injEq, Prod.mk.injEq] at split
    rw [shape, split.1, split.2]

theorem locate_of_locateOutput (fs : FileSystem) (path : String) (location : Location)
    (located : fs.locateOutput path = .ok location) : fs.locate path = .ok location := by
  obtain ⟨sound, before, name, parent, split, entered, closed, shape, free⟩ :=
    locateOutput_inside fs path location located
  have parts := splitName?_parts path name before split closed
  have named : name ≠ "" := by
    intro unnamed
    simp [parts, unnamed] at closed
  have last : fs.step parent name = .ok location := by
    simp [step, free.inside, named, free.notDot, free.notParent, free.short, shape]
  simp [locate, sound, parts, List.foldlM_append, entered, last, bind, Except.bind, pure,
    Except.pure]

theorem step_short (fs : FileSystem) (start next : Location) (part : String)
    (entered : fs.step start part = .ok next) : isTooLong part = false := by
  unfold step at entered
  split at entered
  next => cases entered
  next => cases entered
  next =>
    split at entered
    next still => rcases still with rfl | rfl <;> decide
    next =>
      split at entered
      next up => subst up; decide
      next =>
        split at entered
        next => cases entered
        next short => simpa using short

theorem foldlM_step_short (fs : FileSystem) (parts : List String) (start last : Location)
    (entered : parts.foldlM fs.step start = .ok last) :
    ∀ part ∈ parts, isTooLong part = false := by
  induction parts generalizing start with
  | nil => simp
  | cons part rest ih =>
    cases first : fs.step start part with
    | error fault => simp [first, bind, Except.bind] at entered
    | ok next =>
      simp only [List.foldlM_cons, first, bind, Except.bind] at entered
      rw [List.forall_mem_cons]
      exact ⟨fs.step_short start next part first, ih next entered⟩

theorem pathFault?_none (path : String) (sound : pathFault? path = none) :
    '\x00' ∉ path.toList ∧ path ≠ "" ∧ (Utf8.encode path).length < pathLimit := by
  unfold pathFault? at sound
  split at sound
  next => cases sound
  next named =>
    split at sound
    next => cases sound
    next something =>
      split at sound
      next => cases sound
      next short => exact ⟨by simpa using named, something, Nat.lt_of_not_le short⟩

-- No other path leads anywhere, to be read or to be written.
theorem locate_within_limits (fs : FileSystem) (path : String) (location : Location)
    (located : fs.locate path = .ok location) :
    '\x00' ∉ path.toList ∧ path ≠ "" ∧ (Utf8.encode path).length < pathLimit ∧
      ∀ part ∈ pathParts path, (Utf8.encode part).length ≤ nameLimit := by
  unfold locate at located
  split at located
  next => cases located
  next sound =>
    obtain ⟨named, something, short⟩ := pathFault?_none path sound
    refine ⟨named, something, short, fun part member => ?_⟩
    have fits := fs.foldlM_step_short (pathParts path) (fs.base path) location located part member
    simpa [isTooLong] using fits

theorem reader_write (fs after : FileSystem) (path : String) (content : List UInt8)
    (written : fs.write path content = .ok after) : after.reader path = .ok (.readable content) := by
  obtain ⟨location, located, put⟩ := write_ok fs after path content written
  subst put
  obtain ⟨named, free⟩ := locateOutput_ok fs path location located
  have found := (locate_put fs location content named free path location).mpr
    (locate_of_locateOutput fs path location located)
  simp only [reader, found, find?_put_same fs location _ named]

end PlotTables.FileSystem
