set_option autoImplicit false

namespace PlotTables

section Success

variable {α β ε δ : Type}

@[simp] theorem bind_ok (first : Except ε α) (next : α → Except ε β) (result : β) :
    first >>= next = .ok result ↔ ∃ value, first = .ok value ∧ next value = .ok result := by
  cases first with
  | error failure => simp [bind, Except.bind]
  | ok value => simp [bind, Except.bind]

theorem bind_error (first : Except ε α) (next : α → Except ε β) (failure : ε) :
    first >>= next = .error failure ↔
      first = .error failure ∨ ∃ value, first = .ok value ∧ next value = .error failure := by
  cases first with
  | error found => simp [bind, Except.bind]
  | ok value => simp [bind, Except.bind]

theorem bind_congr_ok (first : Except ε α) (next other : α → Except ε β)
    (same : ∀ value, first = .ok value → next value = other value) :
    first >>= next = first >>= other := by
  cases first with
  | error failure => rfl
  | ok value => exact same value rfl

theorem map_bind (first : Except ε α) (next : α → Except ε β) (f : β → δ) :
    (first >>= next).map f = first >>= fun value => (next value).map f := by
  cases first <;> rfl

theorem bind_map (first : Except ε α) (f : α → β) (next : β → Except ε δ) :
    first.map f >>= next = first >>= fun value => next (f value) := by
  cases first <;> rfl

theorem map_ok (result : Except ε α) (f : α → β) (value : β) :
    result.map f = .ok value ↔ ∃ found, result = .ok found ∧ f found = value := by
  cases result <;> simp [Except.map]

@[simp] theorem mapError_ok (result : Except ε α) (rename : ε → δ) (value : α) :
    result.mapError rename = .ok value ↔ result = .ok value := by
  constructor
  · intro same
    cases result with
    | error failure => cases same
    | ok found =>
      cases same
      rfl
  · intro same
    rw [same]
    rfl

theorem mapError_error (result : Except ε α) (rename : ε → δ) (failure : δ) :
    result.mapError rename = .error failure ↔
      ∃ found, result = .error found ∧ rename found = failure := by
  constructor
  · intro same
    cases result with
    | error found => exact ⟨found, rfl, Except.error.inj same⟩
    | ok value => cases same
  · rintro ⟨found, rfl, rfl⟩
    rfl

end Success

section Each

variable {α β ε : Type} (f : α → Except ε β)

theorem zipIdx_at (items : List α) (position : Nat) (item : α × Nat) :
    items.zipIdx[position]? = some item ↔ items[position]? = some item.1 ∧ item.2 = position := by
  rw [List.getElem?_zipIdx, Nat.zero_add, Option.map_eq_some_iff]
  constructor
  next =>
    rintro ⟨value, there, rfl⟩
    exact ⟨there, rfl⟩
  next =>
    rintro ⟨there, rfl⟩
    exact ⟨item.1, there, rfl⟩

theorem mapM_ok (g : α → β) (items : List α) (each : ∀ item ∈ items, f item = .ok (g item)) :
    items.mapM f = .ok (items.map g) := by
  induction items with
  | nil => rfl
  | cons item rest ih =>
    rw [List.mapM_cons, each item (by simp), ih fun other member => each other (by simp [member])]
    rfl

theorem mapM_map {δ : Type} (g : β → δ) (items : List α) :
    (items.mapM fun item => (f item).map g) = (items.mapM f).map (List.map g) := by
  induction items with
  | nil => rfl
  | cons item rest ih =>
    rw [List.mapM_cons, List.mapM_cons, ih]
    cases f item with
    | error failure => rfl
    | ok value => cases rest.mapM f <;> rfl

theorem mapM_cons_ok (item : α) (rest : List α) (results : List β)
    (done : (item :: rest).mapM f = .ok results) :
    ∃ first others, f item = .ok first ∧ rest.mapM f = .ok others ∧ results = first :: others := by
  rw [List.mapM_cons] at done
  obtain ⟨first, one, done⟩ := (bind_ok _ _ _).mp done
  obtain ⟨others, more, done⟩ := (bind_ok _ _ _).mp done
  cases done
  exact ⟨first, others, one, more, rfl⟩

theorem mapM_length (items : List α) (results : List β) (done : items.mapM f = .ok results) :
    results.length = items.length := by
  induction items generalizing results with
  | nil =>
    cases done
    rfl
  | cons item rest ih =>
    obtain ⟨first, others, _, more, shape⟩ := mapM_cons_ok f item rest results done
    rw [shape, List.length_cons, List.length_cons, ih others more]

theorem mapM_at (items : List α) (results : List β) (done : items.mapM f = .ok results)
    (position : Nat) (item : α) (there : items[position]? = some item) :
    ∃ result, results[position]? = some result ∧ f item = .ok result := by
  induction items generalizing results position with
  | nil => simp at there
  | cons head rest ih =>
    obtain ⟨first, others, one, more, shape⟩ := mapM_cons_ok f head rest results done
    subst shape
    cases position with
    | zero =>
      cases there
      exact ⟨first, rfl, one⟩
    | succ before => exact ih others more before there

theorem mapM_member (items : List α) (results : List β) (done : items.mapM f = .ok results)
    (result : β) (member : result ∈ results) : ∃ item ∈ items, f item = .ok result := by
  induction items generalizing results with
  | nil =>
    cases done
    cases member
  | cons head rest ih =>
    obtain ⟨first, others, one, more, shape⟩ := mapM_cons_ok f head rest results done
    subst shape
    rcases List.mem_cons.mp member with here | later
    · exact ⟨head, by simp, by rw [here, one]⟩
    · obtain ⟨item, among, found⟩ := ih others more later
      exact ⟨item, by simp [among], found⟩

theorem mapM_shows (view : β → α) (items : List α) (results : List β)
    (shows : ∀ item result, f item = .ok result → view result = item)
    (done : items.mapM f = .ok results) : results.map view = items := by
  induction items generalizing results with
  | nil =>
    cases done
    rfl
  | cons head rest ih =>
    obtain ⟨first, others, one, more, shape⟩ := mapM_cons_ok f head rest results done
    rw [shape, List.map_cons, shows head first one, ih others more]

theorem mapM_each (items : List α) (results : List β) (done : items.mapM f = .ok results)
    (item : α) (member : item ∈ items) : ∃ result, f item = .ok result := by
  induction items generalizing results with
  | nil => cases member
  | cons head rest ih =>
    obtain ⟨first, others, one, more, _⟩ := mapM_cons_ok f head rest results done
    rcases List.mem_cons.mp member with here | later
    · exact ⟨first, by rw [here, one]⟩
    · exact ih others more later

theorem mapM_error (items : List α) (failure : ε) :
    items.mapM f = .error failure ↔ ∃ (position : Nat) (item : α), items[position]? = some item ∧
      f item = .error failure ∧ ∀ (earlier : Nat) (other : α), earlier < position →
        items[earlier]? = some other → ∃ result, f other = .ok result := by
  -- The steps are taken in order, so the first one that fails gives the failure.
  induction items with
  | nil =>
    constructor
    next => intro failed; cases failed
    next => rintro ⟨position, item, there, _⟩; simp at there
  | cons head rest ih =>
    rw [List.mapM_cons, bind_error]
    constructor
    next =>
      rintro (here | ⟨value, one, later⟩)
      · exact ⟨0, head, rfl, here, by simp⟩
      · obtain more | ⟨values, _, done⟩ := (bind_error _ _ _).mp later
        · obtain ⟨position, item, there, fails, fine⟩ := ih.mp more
          refine ⟨position + 1, item, there, fails, ?_⟩
          intro earlier other before found
          cases earlier with
          | zero =>
            cases found
            exact ⟨value, one⟩
          | succ earlier => exact fine earlier other (by omega) found
        · cases done
    next =>
      rintro ⟨position, item, there, fails, fine⟩
      cases position with
      | zero =>
        cases there
        exact .inl fails
      | succ position =>
        obtain ⟨value, one⟩ := fine 0 head (by omega) rfl
        have more := ih.mpr ⟨position, item, there, fails, fun earlier other before found =>
          fine (earlier + 1) other (by omega) found⟩
        exact .inr ⟨value, one, (bind_error _ _ _).mpr (.inl more)⟩

end Each

end PlotTables
