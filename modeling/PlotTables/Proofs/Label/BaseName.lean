import PlotTables.Merge

set_option autoImplicit false

namespace PlotTables

section Parts

variable {α : Type} [BEq α] [LawfulBEq α] (separator : α)

theorem splitAll_cons (item : α) (rest : List α) (other : item ≠ separator) :
    ∃ first others, splitAll separator rest = first :: others ∧
      splitAll separator (item :: rest) = (item :: first) :: others := by
  have parts : splitAll separator rest ≠ [] := by
    cases rest with
    | nil => exact List.cons_ne_nil _ _
    | cons next later =>
      rw [splitAll, List.foldr_cons]
      split
      next => exact List.cons_ne_nil _ _
      next => split <;> exact List.cons_ne_nil _ _
  obtain ⟨first, others, shape⟩ := List.exists_cons_of_ne_nil parts
  refine ⟨first, others, shape, ?_⟩
  unfold splitAll at shape ⊢
  rw [List.foldr_cons, shape, if_neg (by rwa [beq_iff_eq])]

theorem splitAll_separator (rest : List α) :
    splitAll separator (separator :: rest) = [] :: splitAll separator rest :=
  splitAll_part separator [] rest List.not_mem_nil

theorem splitAll_append (front rest : List α) : splitAll separator (front ++ separator :: rest) =
    splitAll separator front ++ splitAll separator rest := by
  induction front with
  | nil => exact splitAll_separator separator rest
  | cons item others ih =>
    by_cases here : item = separator
    next =>
      subst here
      rw [List.cons_append, splitAll_separator, splitAll_separator, ih, List.cons_append]
    next =>
      obtain ⟨part, parts, shape, split⟩ := splitAll_cons separator item others here
      obtain ⟨_, _, again, longer⟩ :=
        splitAll_cons separator item (others ++ separator :: rest) here
      rw [ih, shape, List.cons_append, List.cons.injEq] at again
      rw [List.cons_append, longer, split, ← again.1, ← again.2, List.cons_append]

theorem splitAll_pieces (items : List α) : ∃ first others,
    splitAll separator items = first :: others ∧
    items = first ++ others.flatMap (separator :: ·) ∧
    ∀ part ∈ first :: others, separator ∉ part := by
  induction items with
  | nil => exact ⟨[], [], rfl, rfl, by simp⟩
  | cons item rest ih =>
    obtain ⟨first, others, shape, joined, absent⟩ := ih
    by_cases here : item = separator
    next =>
      subst here
      refine ⟨[], first :: others, by rw [splitAll_separator, shape], ?_, ?_⟩
      · rw [joined, List.nil_append, List.flatMap_cons, List.cons_append]
      · intro part member
        rcases List.mem_cons.mp member with rfl | later
        · exact List.not_mem_nil
        · exact absent part later
    next =>
      obtain ⟨_, _, again, split⟩ := splitAll_cons separator item rest here
      cases shape.symm.trans again
      refine ⟨item :: first, others, split, by rw [joined, List.cons_append], ?_⟩
      intro part member
      rcases List.mem_cons.mp member with rfl | later
      · rw [List.mem_cons, not_or]
        exact ⟨Ne.symm here, absent first (by simp)⟩
      · exact absent part (by simp [later])

end Parts

namespace Path

/-- What may stand after the last name: slashes, and parts of one dot. -/
inductive Trailing : List UInt8 → Prop
  | none : Trailing []
  | slash (rest : List UInt8) (more : Trailing rest) : Trailing (slash :: rest)
  | dot (rest : List UInt8) (more : Trailing rest) : Trailing (slash :: dot :: rest)

/-- The last name in a path, which neither a part of one dot nor one of two is. -/
structure BaseName (path name : List UInt8) : Prop where
  nonempty : name ≠ []
  part : slash ∉ name
  notHere : name ≠ [dot]
  notParent : name ≠ [dot, dot]
  last : ∃ before after, path = before ++ (name ++ after) ∧
    (before = [] ∨ ∃ directory, before = directory ++ [slash]) ∧ Trailing after

def names (path : List UInt8) : List (List UInt8) :=
  (splitAll slash path).filter fun part => part != [] && part != [dot]

theorem names_append (front rest : List UInt8) :
    names (front ++ slash :: rest) = names front ++ names rest := by
  rw [names, splitAll_append, List.filter_append]
  rfl

theorem names_trailing (name after : List UInt8) (part : slash ∉ name) (trailing : Trailing after) :
    names (name ++ after) = names name := by
  induction trailing generalizing name with
  | none => rw [List.append_nil]
  | slash rest _ ih =>
    have nothing : names [] = [] := rfl
    have more := ih [] List.not_mem_nil
    rw [names_append, ← List.nil_append rest, more, nothing, List.append_nil]
  | dot rest _ ih =>
    have nothing : names [dot] = [] := rfl
    have more := ih [dot] (by decide)
    rw [names_append, ← List.singleton_append, more, nothing, List.append_nil]

theorem names_single (name : List UInt8) (nonempty : name ≠ []) (part : slash ∉ name)
    (notHere : name ≠ [dot]) : names name = [name] := by
  obtain ⟨first, others, shape, joined, _⟩ := splitAll_pieces slash name
  cases others with
  | nil =>
    rw [List.flatMap_nil, List.append_nil] at joined
    rw [names, shape, ← joined, List.filter_cons_of_pos (by simp [nonempty, notHere]),
      List.filter_nil]
  | cons next rest => simp [joined] at part

theorem trailing_of_blank (parts : List (List UInt8))
    (blank : ∀ part ∈ parts, part = [] ∨ part = [dot]) :
    Trailing (parts.flatMap (slash :: ·)) := by
  induction parts with
  | nil => exact .none
  | cons part rest ih =>
    have more := ih fun other member => blank other (by simp [member])
    rcases blank part (by simp) with rfl | rfl
    · exact .slash _ more
    · exact .dot _ more

theorem names_last (path name : List UInt8) (last : (names path).getLast? = some name) :
    name ≠ [] ∧ slash ∉ name ∧ name ≠ [dot] ∧ ∃ before after, path = before ++ (name ++ after) ∧
      (before = [] ∨ ∃ directory, before = directory ++ [slash]) ∧ Trailing after := by
  obtain ⟨first, others, shape, joined, absent⟩ := splitAll_pieces slash path
  obtain ⟨earlier, named⟩ := List.getLast?_eq_some_iff.mp last
  obtain ⟨start, tail, parts, _, rest⟩ := List.filter_eq_append_iff.mp named
  obtain ⟨middle, after, tailShape, _, kept, blank⟩ := List.filter_eq_cons_iff.mp rest
  simp only [Bool.and_eq_true, bne_iff_ne] at kept
  have trailing := trailing_of_blank after fun part member => by
    have removed := List.filter_eq_nil_iff.mp blank part member
    simpa [Decidable.or_iff_not_imp_left] using removed
  rw [shape, tailShape, ← List.append_assoc] at parts
  generalize start ++ middle = before at parts
  have part : slash ∉ name := absent name (by simp [parts])
  refine ⟨kept.1, part, kept.2, ?_⟩
  cases before with
  | nil =>
    obtain ⟨rfl, rfl⟩ := List.cons.inj parts
    exact ⟨[], _, joined, .inl rfl, trailing⟩
  | cons head more =>
    obtain ⟨rfl, rfl⟩ := List.cons.inj parts
    refine ⟨_, _, ?_, .inr ⟨first ++ more.flatMap (slash :: ·), rfl⟩, trailing⟩
    simp [joined, List.flatMap_append]

theorem baseName?_iff (path name : List UInt8) :
    baseName? path = some name ↔ BaseName path name := by
  have found : baseName? path = some name ↔
      (names path).getLast? = some name ∧ name ≠ [dot, dot] := by
    rw [baseName?, ← names]
    cases (names path).getLast? with
    | none => simp
    | some part =>
      by_cases up : part = [dot, dot]
      next =>
        simp only [up, if_true, reduceCtorEq, Option.some.injEq, false_iff]
        rintro ⟨rfl, other⟩
        exact other rfl
      next =>
        simp only [up, if_false, Option.some.injEq]
        constructor
        · rintro rfl
          exact ⟨rfl, up⟩
        · exact And.left
  rw [found]
  constructor
  next =>
    rintro ⟨last, notParent⟩
    obtain ⟨nonempty, part, notHere, stands⟩ := names_last path name last
    exact ⟨nonempty, part, notHere, notParent, stands⟩
  next =>
    rintro ⟨nonempty, part, notHere, notParent, before, after, rfl, front, trailing⟩
    have single : names (name ++ after) = [name] := by
      rw [names_trailing name after part trailing, names_single name nonempty part notHere]
    refine ⟨?_, notParent⟩
    rcases front with rfl | ⟨directory, rfl⟩
    · rw [List.nil_append, single]
      rfl
    · rw [List.append_assoc, List.singleton_append, names_append, single, List.getLast?_concat]

theorem BaseName.below (directory path name : List UInt8) (named : BaseName path name) :
    BaseName (directory ++ slash :: path) name := by
  obtain ⟨nonempty, part, notHere, notParent, before, after, rfl, front, trailing⟩ := named
  refine ⟨nonempty, part, notHere, notParent, directory ++ slash :: before, after, by simp, .inr ?_,
    trailing⟩
  rcases front with rfl | ⟨inner, rfl⟩
  · exact ⟨directory, rfl⟩
  · exact ⟨directory ++ slash :: inner, by simp⟩

end Path

end PlotTables
