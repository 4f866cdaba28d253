import PlotTables.Proofs.Json.Numbers

set_option autoImplicit false

namespace PlotTables.Json

theorem skipSpace_visible (first : Char) (rest : List Char) (visible : isSpace first = false) :
    skipSpace (first :: rest) = first :: rest := by
  simp [skipSpace, visible]

theorem isSpace_of_digit (c : Char) (digit : c.isDigit = true) : isSpace c = false := by
  simp only [isSpace, Bool.or_eq_false_iff, beq_eq_false_iff_ne]
  refine ⟨⟨⟨?_, ?_⟩, ?_⟩, ?_⟩ <;>
    · rintro rfl
      cases digit

def Plain (name : List Char) : Prop := ∀ c ∈ name, ¬c.toNat < 0x20 ∧ c ≠ '"' ∧ c ≠ '\\'

instance (name : List Char) : Decidable (Plain name) :=
  List.decidableBAll _ name

theorem readString?_plain (name after : List Char) (plain : Plain name) :
    readString? (name ++ '"' :: after) = some (name.map .char, after) := by
  induction name with
  | nil => rfl
  | cons c others ih =>
    obtain ⟨printed, notQuote, notEscape⟩ := plain c (by simp)
    have tail := ih fun other member => plain other (by simp [member])
    rw [List.cons_append, readString?.eq_def]
    split
    next none => cases none
    next rest same => exact absurd (List.cons.inj same).1 notQuote
    next same => exact absurd (List.cons.inj same).1 notEscape
    next same => exact absurd (List.cons.inj same).1 notEscape
    next first rest _ _ _ same =>
      cases same
      rw [if_neg (by simp [printed, notEscape]), tail]
      rfl

theorem decodeString?_plain (name : List Char) : decodeString? (name.map .char) = some name := by
  induction name with
  | nil => rfl
  | cons c others ih =>
    rw [List.map_cons, decodeString?, ih]
    rfl

/-- How a value is written after the colon of its member. -/
def Shows (text : List Char) (value : Value) : Prop :=
  ∀ fuel rest, EndsNumber rest → readValue? (fuel + 1) (' ' :: (text ++ rest)) = some (value, rest)

theorem shows_number (n : Number) (formed : n.WellFormed) : Shows n.text (.number n) := by
  intro fuel rest ends
  have read := n.readNumber?_text rest formed ends
  obtain ⟨first, others, shape, begins⟩ := n.text_first formed
  rw [shape, List.cons_append] at read ⊢
  have visible : isSpace first = false := by
    rcases begins with rfl | digit
    · rfl
    · exact isSpace_of_digit first digit
  have skipped : skipSpace (' ' :: first :: (others ++ rest)) = first :: (others ++ rest) :=
    skipSpace_visible first _ visible
  -- No other value begins with a sign or a digit.
  have other (c : Char) (begun : c = first) (letter : c ≠ '-' ∧ c.isDigit = false) : False := by
    subst begun
    rcases begins with sign | digit
    · exact letter.1 sign
    · rw [letter.2] at digit
      cases digit
  rw [readValue?, skipped]
  split
  next same => exact (other 'n' (List.cons.inj same).1.symm (by decide)).elim
  next same => exact (other 't' (List.cons.inj same).1.symm (by decide)).elim
  next same => exact (other 'f' (List.cons.inj same).1.symm (by decide)).elim
  next same => exact (other '"' (List.cons.inj same).1.symm (by decide)).elim
  next same => exact (other '[' (List.cons.inj same).1.symm (by decide)).elim
  next same => exact (other '{' (List.cons.inj same).1.symm (by decide)).elim
  next =>
    rw [read]
    rfl

def boolText (b : Bool) : List Char :=
  if b then ['t', 'r', 'u', 'e'] else ['f', 'a', 'l', 's', 'e']

theorem shows_bool (b : Bool) : Shows (boolText b) (.bool b) := by
  intro fuel rest _
  cases b <;> rfl

structure Member where
  name : List Char
  text : List Char
  value : Value

namespace Member

structure Readable (member : Member) : Prop where
  plain : Plain member.name
  shows : Shows member.text member.value

def line (member : Member) : List Char :=
  ' ' :: ' ' :: '"' :: (member.name ++ '"' :: ':' :: ' ' :: member.text)

def read (member : Member) : List Piece × Value := (member.name.map .char, member.value)

end Member

def membersText (members : List Member) : List Char :=
  '\n' :: ([',', '\n'].intercalate (members.map Member.line) ++ ['\n', '}'])

theorem skipSpace_line (member : Member) (rest : List Char) :
    skipSpace ('\n' :: (member.line ++ rest)) =
      '"' :: (member.name ++ '"' :: ':' :: ' ' :: (member.text ++ rest)) := by
  simp [skipSpace, isSpace, Member.line]

theorem readName?_line (member : Member) (rest : List Char) (plain : Plain member.name) :
    readName? ('\n' :: (member.line ++ rest)) =
      some (member.name.map .char, ' ' :: (member.text ++ rest)) := by
  have name := readString?_plain member.name (':' :: ' ' :: (member.text ++ rest)) plain
  simp only [readName?, skipSpace_line, name]
  rfl

theorem endsNumber_after (c : Char) (rest : List Char) (after : c = ',' ∨ c = '\n') :
    EndsNumber (c :: rest) := by
  intro first others shape
  cases shape
  rcases after with rfl | rfl <;> decide

theorem membersText_one (member : Member) :
    membersText [member] = '\n' :: (member.line ++ ['\n', '}']) := by
  simp [membersText]

theorem membersText_more (first second : Member) (more : List Member) :
    membersText (first :: second :: more) =
      '\n' :: (first.line ++ ',' :: membersText (second :: more)) := by
  simp [membersText, List.intercalate_cons_cons]

theorem readMembers?_text (first : Member) (others : List Member) (after : List Char) (fuel : Nat)
    (readable : ∀ member ∈ first :: others, member.Readable) (enough : others.length + 2 ≤ fuel) :
    readMembers? fuel (membersText (first :: others) ++ after) =
      some ((first :: others).map Member.read, after) := by
  obtain ⟨plain, shows⟩ := readable first (by simp)
  -- One step of the fuel goes to each member, and one more to the value of the last.
  obtain ⟨steps, rfl⟩ : ∃ steps, fuel = steps + 2 := ⟨fuel - 2, by omega⟩
  induction others generalizing first steps with
  | nil =>
    have name := readName?_line first ('\n' :: '}' :: after) plain
    have value := shows steps ('\n' :: '}' :: after) (endsNumber_after _ _ (.inr rfl))
    rw [membersText_one, List.cons_append, List.append_assoc, List.cons_append, List.cons_append,
      List.nil_append, readMembers?, name]
    simp only [value]
    rfl
  | cons second more ih =>
    rw [List.length_cons] at enough
    obtain ⟨fewer, rfl⟩ : ∃ fewer, steps = fewer + 1 := ⟨steps - 1, by omega⟩
    have name := readName?_line first (',' :: (membersText (second :: more) ++ after)) plain
    have value := shows (fewer + 1) (',' :: (membersText (second :: more) ++ after))
      (endsNumber_after _ _ (.inl rfl))
    obtain ⟨nextPlain, nextShows⟩ := readable second (by simp)
    have rest := ih second (fun member among => readable member (List.mem_cons_of_mem first among))
      nextPlain nextShows fewer (by omega)
    rw [membersText_more, List.cons_append, List.append_assoc, List.cons_append, readMembers?, name]
    simp only [value]
    rw [skipSpace_visible ',' _ (by decide)]
    simp only [rest]
    rfl

theorem length_membersText (first : Member) (others : List Member) :
    others.length + 2 ≤ (membersText (first :: others)).length := by
  induction others generalizing first with
  | nil => simp [membersText_one]
  | cons second more ih =>
    have fewer := ih second
    rw [membersText_more]
    simp only [List.length_cons, List.length_append] at fewer ⊢
    omega

theorem parse?_object (first : Member) (others : List Member)
    (readable : ∀ member ∈ first :: others, member.Readable) :
    parse? ('{' :: membersText (first :: others)) =
      some (.object ((first :: others).map Member.read)) := by
  have enough := length_membersText first others
  have members := readMembers?_text first others [] ('{' :: membersText (first :: others)).length
    readable (by rw [List.length_cons]; omega)
  rw [List.append_nil] at members
  obtain ⟨text, skipped⟩ : ∃ text, skipSpace (membersText (first :: others)) = '"' :: text := by
    cases others with
    | nil => exact ⟨_, by rw [membersText_one, skipSpace_line]⟩
    | cons second more => exact ⟨_, by rw [membersText_more, skipSpace_line]⟩
  simp only [parse?, readValue?]
  rw [skipSpace_visible '{' _ (by decide)]
  simp only [skipped, members]
  rfl

end PlotTables.Json
