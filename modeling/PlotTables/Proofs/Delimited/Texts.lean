import PlotTables.Proofs.Delimited.RoundTrip

set_option autoImplicit false

namespace PlotTables.Delimited

open Utf8

@[simp] theorem doubleQuotes_append (field more : List UInt8) :
    doubleQuotes (field ++ more) = doubleQuotes field ++ doubleQuotes more :=
  List.flatMap_append

theorem doubleQuotes_plain (field : List UInt8) (plain : quote ∉ field) :
    doubleQuotes field = field := by
  induction field with
  | nil => rfl
  | cons b rest ih =>
    simp only [List.mem_cons, not_or] at plain
    rw [doubleQuotes_cons, if_neg (Ne.symm plain.1), ih plain.2]
    rfl

theorem length_le_doubleQuotes (field : List UInt8) :
    field.length ≤ (doubleQuotes field).length := by
  induction field with
  | nil => exact Nat.le_refl 0
  | cons b rest ih =>
    rw [doubleQuotes_cons, List.length_append, List.length_cons]
    split
    next =>
      rw [List.length_cons]
      omega
    next =>
      rw [List.length_singleton]
      omega

@[simp] theorem quoteField_ne (field : List UInt8) : quoteField field ≠ field := by
  intro same
  have longer := length_le_doubleQuotes field
  have lengths := congrArg List.length same
  simp only [quoteField, List.cons_append, List.length_cons, List.length_append] at lengths
  omega

theorem doubleQuotes_text (cell : String) : IsText (doubleQuotes (encode cell)) := by
  have chars (text : List Char) : IsText (doubleQuotes (text.flatMap encodeChar)) := by
    induction text with
    | nil => exact ⟨"", rfl⟩
    | cons c rest ih =>
      rw [List.flatMap_cons, doubleQuotes_append]
      apply IsText.append _ _ _ ih
      have single : encode (String.ofList [c]) = encodeChar c := by simp [encode]
      by_cases quoting : quote ∈ encodeChar c
      next =>
        rw [← single, mem_encode_ascii _ quote (by decide), String.toList_ofList,
          List.mem_singleton] at quoting
        subst quoting
        exact ⟨"\"\"", by decide⟩
      next =>
        rw [doubleQuotes_plain _ quoting]
        exact ⟨String.ofList [c], single⟩
  exact chars cell.toList

theorem Spelled.isText (delimiter : UInt8) (cell : String) (text : List UInt8)
    (spelled : Spelled delimiter (encode cell) text) : IsText text := by
  cases spelled with
  | bare => exact ⟨cell, rfl⟩
  | quoted =>
    have mark : IsText [quote] := IsText.ascii quote (by decide)
    exact IsText.append _ _ (IsText.append _ _ mark (doubleQuotes_text cell)) mark

theorem Spelled.lineFeed_not_mem (delimiter : UInt8) (field text : List UInt8)
    (spelled : Spelled delimiter field text) (unbroken : lineFeed ∉ field) : lineFeed ∉ text := by
  cases spelled with
  | bare => exact unbroken
  | quoted =>
    have other : lineFeed ≠ quote := by decide
    simp only [quoteField, doubleQuotes, List.cons_append, List.mem_cons, List.mem_append,
      List.mem_flatMap, List.not_mem_nil, or_false, not_or, not_exists, not_and]
    refine ⟨other, ?_, other⟩
    intro b member
    split
    next => simp [other]
    next =>
      have different : lineFeed ≠ b := by
        intro same
        exact unbroken (same ▸ member)
      simp [different]

theorem Spelled.last_ne_carriageReturn (delimiter : UInt8) (field text : List UInt8)
    (spelled : Spelled delimiter field text) : text.getLast? ≠ some carriageReturn := by
  cases spelled with
  | bare plain =>
    intro last
    have ends := (plain _ (List.mem_of_getLast? last)).2.2
    cases ends
  | quoted =>
    rw [quoteField, List.getLast?_concat]
    decide

theorem SpelledRecord.cell_of_mem (delimiter : UInt8) (fields texts : List (List UInt8))
    (spelled : SpelledRecord delimiter fields texts) (text : List UInt8) (member : text ∈ texts) :
    ∃ field ∈ fields, Spelled delimiter field text := by
  induction spelled with
  | nil => cases member
  | cons first _ ih =>
    rcases List.mem_cons.mp member with here | later
    · subst here
      exact ⟨_, by simp, first⟩
    · obtain ⟨field, inside, spells⟩ := ih later
      exact ⟨field, by simp [inside], spells⟩

theorem SpelledRecord.joined_ne_nil (delimiter : UInt8) (fields texts : List (List UInt8))
    (spelled : SpelledRecord delimiter fields texts) (cells : fields ≠ [])
    (visible : fields = [[]] → texts = [quoteField []]) : [delimiter].intercalate texts ≠ [] := by
  cases spelled with
  | nil => exact absurd rfl cells
  | @cons field text others rest first spelledRest =>
    cases spelledRest with
    | cons => simp
    | nil =>
      intro nothing
      have empty : text = [] := by simpa [List.intercalate] using nothing
      subst empty
      cases first with
      | bare =>
        have quoted := visible rfl
        simp [quoteField] at quoted

section Joined

variable (delimiter : UInt8) (texts : List (List UInt8))

theorem joined_isText (ascii : delimiter.toNat < 0x80) (each : ∀ text ∈ texts, IsText text) :
    IsText ([delimiter].intercalate texts) := by
  induction texts with
  | nil => exact ⟨"", rfl⟩
  | cons first rest ih =>
    have valid := each first (by simp)
    cases rest with
    | nil => simpa [List.intercalate] using valid
    | cons second others =>
      rw [joined_cons]
      have more := ih fun text member => each text (by simp [member])
      exact IsText.append _ _ (IsText.append _ _ valid (IsText.ascii delimiter ascii)) more

theorem lineFeed_not_mem_joined (other : delimiter ≠ lineFeed)
    (each : ∀ text ∈ texts, lineFeed ∉ text) : lineFeed ∉ [delimiter].intercalate texts := by
  induction texts with
  | nil => simp [List.intercalate]
  | cons first rest ih =>
    have here := each first (by simp)
    cases rest with
    | nil => simpa [List.intercalate] using here
    | cons second others =>
      have more := ih fun text member => each text (by simp [member])
      rw [joined_cons]
      simp [here, more, other.symm]

theorem joined_last_ne_carriageReturn (other : delimiter ≠ carriageReturn)
    (each : ∀ text ∈ texts, text.getLast? ≠ some carriageReturn) :
    ([delimiter].intercalate texts).getLast? ≠ some carriageReturn := by
  induction texts with
  | nil => simp [List.intercalate]
  | cons first rest ih =>
    cases rest with
    | nil => simpa [List.intercalate] using each first (by simp)
    | cons second others =>
      have more := ih fun text member => each text (by simp [member])
      rw [joined_cons, List.getLast?_append]
      cases last : ([delimiter].intercalate (second :: others)).getLast? with
      | none => simpa using other
      | some b => simpa [last] using more

theorem mark_joined (first : List UInt8) (other : delimiter ∉ mark)
    (marked : mark <+: [delimiter].intercalate (first :: texts)) : mark <+: first := by
  cases texts with
  | nil => simpa [List.intercalate] using marked
  | cons second rest =>
    rw [joined_cons, List.append_assoc] at marked
    exact mark_before first _ delimiter other marked

theorem SpelledRecord.joined_not_marked (fields : List (List UInt8)) (other : delimiter ∉ mark)
    (spelled : SpelledRecord delimiter fields texts)
    (unmarked : ∀ first, fields.head? = some first → texts.head? = some first → ¬mark <+: first) :
    ¬mark <+: [delimiter].intercalate texts := by
  intro marked
  cases spelled with
  | nil => simp [List.intercalate, mark] at marked
  | @cons field text _ rest first _ =>
    have begins := mark_joined delimiter rest text other marked
    cases first with
    | bare => exact unmarked _ rfl rfl begins
    | quoted => exact not_mark_quote _ begins

end Joined

end PlotTables.Delimited
