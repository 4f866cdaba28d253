import PlotTables.Proofs.Delimited.Spelling
import PlotTables.Proofs.Text.Encoding

set_option autoImplicit false

namespace PlotTables.Delimited

theorem tab_separates : Separates tab := ⟨by decide, by decide⟩

theorem writeField_spelled (field : List UInt8) : Spelled tab field (writeField field) := by
  rw [writeField]
  split
  next => exact .quoted field
  next plain =>
    apply Spelled.bare
    intro b member
    simp only [needsQuotes, List.any_eq_true, not_exists, not_and, Bool.not_eq_true] at plain
    have special := plain b member
    simp only [Bool.or_eq_false_iff, beq_eq_false_iff_ne] at special
    exact ⟨special.1.1, special.1.2, special.2⟩

-- A record of no fields is written like one of an empty field.
def asRead (fields : List (List UInt8)) : List (List UInt8) := if fields = [] then [[]] else fields

theorem writeField_ne_nil (field : List UInt8) (something : field ≠ []) : writeField field ≠ [] := by
  rw [writeField]
  split
  next => simp [quoteField]
  next => exact something

theorem asRead_blank (fields : List (List UInt8)) (nothing : fields.flatten = [])
    (short : fields.length ≤ 1) : asRead fields = [[]] := by
  cases fields with
  | nil => rfl
  | cons field rest =>
    obtain rfl : rest = [] := by simpa using short
    simpa [asRead] using nothing

theorem writeRecord_spelled (fields : List (List UInt8)) :
    ∃ texts, SpelledRecord tab (asRead fields) texts ∧ [tab].intercalate texts ≠ [] ∧
      writeRecord fields = [tab].intercalate texts ++ [lineFeed] := by
  by_cases blank : fields.flatten = [] ∧ fields.length ≤ 1
  next =>
    refine ⟨[quoteField []], ?_, by simp [List.intercalate, quoteField], ?_⟩
    · rw [asRead_blank fields blank.1 blank.2]
      exact .cons (.quoted []) .nil
    · rw [writeRecord, if_pos blank]
      rfl
  next =>
    have some' : fields ≠ [] := by
      rintro rfl
      exact blank ⟨rfl, by simp⟩
    refine ⟨fields.map writeField, ?_, ?_, ?_⟩
    · rw [asRead, if_neg some']
      apply List.forall₂_map_right_iff.mpr
      exact List.forall₂_same.mpr fun field _ => writeField_spelled field
    · obtain ⟨field, rest, rfl⟩ := List.exists_cons_of_ne_nil some'
      cases rest with
      | nil =>
        have something : field ≠ [] := by simpa using blank
        simpa [List.intercalate] using writeField_ne_nil field something
      | cons second rest =>
        rw [List.map_cons, List.map_cons, joined_cons]
        simp
    · rw [writeRecord, if_neg blank]

theorem asRead_ne_nil (fields : List (List UInt8)) : asRead fields ≠ [] := by
  rw [asRead]
  split
  next => simp
  next something => exact something

theorem run_writeRecord (records : List (List (List UInt8))) (fields : List (List UInt8)) :
    Scan.run tab ⟨.recordStart, records, [], []⟩ (writeRecord fields) =
      ⟨.recordStart, asRead fields :: records, [], []⟩ := by
  obtain ⟨texts, spelled, something, written⟩ := writeRecord_spelled fields
  rw [written, Scan.run_joined tab _ (asRead fields) texts lineFeed (.inl ⟨rfl, something⟩) rfl
    tab_separates (by decide) (asRead_ne_nil fields) spelled]
  rfl

theorem run_writeRecords (before records : List (List (List UInt8))) :
    Scan.run tab ⟨.recordStart, before, [], []⟩ (records.flatMap writeRecord) =
      ⟨.recordStart, (records.map asRead).reverse ++ before, [], []⟩ := by
  induction records generalizing before with
  | nil => rfl
  | cons fields rest ih =>
    rw [List.flatMap_cons, Scan.run_append, run_writeRecord, ih]
    simp

theorem joined_front (front first : List UInt8) (rest : List (List UInt8)) :
    [tab].intercalate ((front ++ first) :: rest) = front ++ [tab].intercalate (first :: rest) := by
  cases rest <;> simp [List.intercalate]

theorem joined_bare (field : List UInt8) (fields : List (List UInt8)) :
    ∃ b more, (b = tab ∨ b = lineFeed) ∧
      [tab].intercalate (field :: fields) ++ [lineFeed] = field ++ b :: more := by
  cases fields with
  | nil => exact ⟨lineFeed, [], .inr rfl, by simp [List.intercalate]⟩
  | cons second rest =>
    exact ⟨tab, [tab].intercalate (second :: rest) ++ [lineFeed], .inl rfl, by simp⟩

theorem mark_before (field more : List UInt8) (b : UInt8) (other : b ∉ mark)
    (marked : mark <+: field ++ b :: more) : mark <+: field := by
  obtain ⟨rest, split⟩ := marked
  match field with
  -- A shorter field would have the other byte within the mark.
  | [] | [_] | [_, _] =>
    simp only [mark, List.cons_append, List.nil_append, List.cons.injEq, List.mem_cons,
      not_or] at split other
    simp [split] at other
  | x :: y :: z :: tail =>
    simp only [mark, List.cons_append, List.nil_append, List.cons.injEq] at split ⊢
    obtain ⟨rfl, rfl, rfl, _⟩ := split
    exact ⟨tail, rfl⟩

@[simp] theorem not_mark_quote (more : List UInt8) : ¬mark <+: quote :: more := by
  rintro ⟨rest, split⟩
  exact absurd (List.cons.inj split).1 (by decide)

theorem mark_writeRecord (field : List UInt8) (fields : List (List UInt8)) (rest : List UInt8)
    (marked : mark <+: writeRecord (field :: fields) ++ rest) :
    mark <+: field ∧ needsQuotes field = false := by
  rw [writeRecord] at marked
  split at marked
  next => exact absurd marked (not_mark_quote _)
  next =>
    rw [List.map_cons] at marked
    by_cases quoting : needsQuotes field
    next =>
      have opened : quoteField field = [quote] ++ (doubleQuotes field ++ [quote]) := rfl
      rw [writeField, if_pos quoting, opened, joined_front] at marked
      exact absurd marked (not_mark_quote _)
    next =>
      -- A bare field is followed by the byte that ends it, which is not of the mark.
      obtain ⟨b, more, special, shape⟩ := joined_bare field (fields.map writeField)
      rw [writeField, if_neg quoting, shape, List.append_assoc, List.cons_append] at marked
      refine ⟨mark_before field _ b ?_ marked, by simpa using quoting⟩
      rcases special with rfl | rfl <;> decide

theorem writeRecord_marked (tail : List UInt8) (fields : List (List UInt8))
    (plain : needsQuotes (mark ++ tail) = false) :
    writeRecord ((mark ++ tail) :: fields) =
      mark ++ if tail = [] ∧ fields = [] then [lineFeed] else writeRecord (tail :: fields) := by
  have plainTail : needsQuotes tail = false := by
    rw [needsQuotes, List.any_append, Bool.or_eq_false_iff] at plain
    exact plain.2
  rw [writeRecord, if_neg (by simp [mark]), List.map_cons, writeField, plain]
  simp only [Bool.false_eq_true, if_false]
  rw [joined_front, List.append_assoc]
  congr 1
  split
  next alone => simp [alone, List.intercalate]
  next more =>
    have shown : ¬((tail :: fields).flatten = [] ∧ (tail :: fields).length ≤ 1) := by
      rintro ⟨nothing, single⟩
      obtain rfl : fields = [] := by simpa using single
      exact more ⟨by simpa using nothing, rfl⟩
    rw [writeRecord, if_neg shown, List.map_cons, writeField, plainTail]
    rfl

end PlotTables.Delimited
