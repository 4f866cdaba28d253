import PlotTables.Text.Basic

set_option autoImplicit false

namespace PlotTables.Utf8

theorem byte_toNat (n : Nat) (small : n < 256) : (byte n).toNat = n := by
  simp [byte, Nat.mod_eq_of_lt small]

theorem byte_eq (n : Nat) (b : UInt8) (same : n = b.toNat) : byte n = b := by
  rw [same, byte, UInt8.ofNat_toNat]

theorem toNat_range (c : Char) : c.toNat < 0xD800 ∨ 0xDFFF < c.toNat ∧ c.toNat < 0x110000 := c.valid

theorem toNat_ofNat (n : Nat) (valid : n < 0xD800 ∨ 0xDFFF < n ∧ n < 0x110000) :
    (Char.ofNat n).toNat = n := by
  rw [Char.ofNat, dif_pos (show n.isValidChar from valid)]
  rfl

theorem begin_two (n : Nat) (low : 0x80 ≤ n) (high : n < 0x800) :
    begin (byte (0xC0 + n / 64)) = ([], some ⟨n / 64, 0x80, 0xBF, 0⟩) := by
  have lead : (byte (0xC0 + n / 64)).toNat = 0xC0 + n / 64 := byte_toNat _ (by omega)
  simp only [begin, lead]
  rw [if_neg (by omega), if_neg (by omega), if_pos (by omega), Nat.add_sub_cancel_left]

def secondOfThree (lead : Nat) : UInt8 × UInt8 :=
  if lead = 0 then (0xA0, 0xBF) else if lead = 13 then (0x80, 0x9F) else (0x80, 0xBF)

theorem begin_three (n : Nat) (high : n < 0x10000) :
    begin (byte (0xE0 + n / 4096)) =
      ([], some ⟨n / 4096, (secondOfThree (n / 4096)).1, (secondOfThree (n / 4096)).2, 1⟩) := by
  have lead : (byte (0xE0 + n / 4096)).toNat = 0xE0 + n / 4096 := byte_toNat _ (by omega)
  simp only [begin, lead, secondOfThree]
  rw [if_neg (by omega), if_neg (by omega), if_neg (by omega)]
  by_cases first : n / 4096 = 0
  next => simp [first]
  next =>
    rw [if_neg (by omega), if_neg first]
    by_cases surrogates : n / 4096 = 13
    next => simp [surrogates]
    next => rw [if_neg (by omega), if_pos (by omega), if_neg surrogates, Nat.add_sub_cancel_left]

def secondOfFour (lead : Nat) : UInt8 × UInt8 :=
  if lead = 0 then (0x90, 0xBF) else if lead = 4 then (0x80, 0x8F) else (0x80, 0xBF)

theorem begin_four (n : Nat) (high : n < 0x110000) :
    begin (byte (0xF0 + n / 262144)) =
      ([], some ⟨n / 262144, (secondOfFour (n / 262144)).1, (secondOfFour (n / 262144)).2, 2⟩) := by
  have lead : (byte (0xF0 + n / 262144)).toNat = 0xF0 + n / 262144 := byte_toNat _ (by omega)
  simp only [begin, lead, secondOfFour]
  rw [if_neg (by omega), if_neg (by omega), if_neg (by omega), if_neg (by omega),
    if_neg (by omega), if_neg (by omega)]
  by_cases first : n / 262144 = 0
  next => simp [first]
  next =>
    rw [if_neg (by omega), if_neg first]
    by_cases last : n / 262144 = 4
    next => simp [last]
    next => rw [if_pos (by omega), if_neg last, Nat.add_sub_cancel_left]

section Continuation

variable (bits n : Nat) (low high : UInt8) (small : n < 64) (above : low.toNat ≤ 0x80 + n)
  (below : 0x80 + n ≤ high.toNat)

include small above below

theorem continuation_inside : low ≤ byte (0x80 + n) ∧ byte (0x80 + n) ≤ high := by
  rw [UInt8.le_iff_toNat_le, UInt8.le_iff_toNat_le, byte_toNat _ (by omega)]
  exact ⟨above, below⟩

theorem advance_last :
    advance (some ⟨bits, low, high, 0⟩) (byte (0x80 + n)) =
      ([some (Char.ofNat (bits * 64 + n))], none) := by
  have inside := continuation_inside n low high small above below
  have value : (0x80 + n) % 64 = n := by omega
  simp only [advance, if_pos inside, byte_toNat _ (show 0x80 + n < 256 by omega), value]

theorem advance_more (more : Nat) :
    advance (some ⟨bits, low, high, more + 1⟩) (byte (0x80 + n)) =
      ([], some ⟨bits * 64 + n, 0x80, 0xBF, more⟩) := by
  have inside := continuation_inside n low high small above below
  have value : (0x80 + n) % 64 = n := by omega
  simp only [advance, if_pos inside, byte_toNat _ (show 0x80 + n < 256 by omega), value]

end Continuation

theorem scan_cons (state : Option Pending) (b : UInt8) (rest : List UInt8) :
    scan state (b :: rest) = (advance state b).1 ++ scan (advance state b).2 rest := by
  cases state <;> rfl

theorem second_of_three_range (c : Char) (low : 0x800 ≤ c.toNat) (high : c.toNat < 0x10000) :
    (secondOfThree (c.toNat / 4096)).1.toNat ≤ 0x80 + c.toNat / 64 % 64 ∧
      0x80 + c.toNat / 64 % 64 ≤ (secondOfThree (c.toNat / 4096)).2.toNat := by
  have range := toNat_range c
  simp only [secondOfThree]
  split
  next => exact ⟨by change 0xA0 ≤ _; omega, by change _ ≤ 0xBF; omega⟩
  next =>
    split
    -- Surrogates have no character.
    next => exact ⟨by change 0x80 ≤ _; omega, by change _ ≤ 0x9F; omega⟩
    next => exact ⟨by change 0x80 ≤ _; omega, by change _ ≤ 0xBF; omega⟩

theorem second_of_four_range (c : Char) (low : 0x10000 ≤ c.toNat) :
    (secondOfFour (c.toNat / 262144)).1.toNat ≤ 0x80 + c.toNat / 4096 % 64 ∧
      0x80 + c.toNat / 4096 % 64 ≤ (secondOfFour (c.toNat / 262144)).2.toNat := by
  have range := toNat_range c
  simp only [secondOfFour]
  split
  next => exact ⟨by change 0x90 ≤ _; omega, by change _ ≤ 0xBF; omega⟩
  next =>
    split
    next => exact ⟨by change 0x80 ≤ _; omega, by change _ ≤ 0x8F; omega⟩
    next => exact ⟨by change 0x80 ≤ _; omega, by change _ ≤ 0xBF; omega⟩

theorem scan_encodeChar (c : Char) (rest : List UInt8) :
    scan none (encodeChar c ++ rest) = some c :: scan none rest := by
  have range := toNat_range c
  have back (n : Nat) (same : n = c.toNat) : Char.ofNat n = c := by rw [same, Char.ofNat_toNat]
  simp only [encodeChar]
  split
  next ascii =>
    have value : (byte c.toNat).toNat = c.toNat := byte_toNat _ (by omega)
    simp [scan_cons, advance, begin, value, ascii]
  next =>
    split
    next two =>
      have lead : advance none (byte (0xC0 + c.toNat / 64)) = _ :=
        begin_two c.toNat (by omega) two
      have last := advance_last (c.toNat / 64) (c.toNat % 64) 0x80 0xBF (by omega)
        (by change 0x80 ≤ _; omega) (by change _ ≤ 0xBF; omega)
      simp only [List.cons_append, List.nil_append, scan_cons, lead, last]
      rw [back _ (by omega)]
    next =>
      split
      next three =>
        have second := second_of_three_range c (by omega) three
        have lead : advance none (byte (0xE0 + c.toNat / 4096)) = _ := begin_three c.toNat three
        have middle := advance_more (c.toNat / 4096) (c.toNat / 64 % 64) _ _ (by omega)
          second.1 second.2 0
        have last := advance_last (c.toNat / 4096 * 64 + c.toNat / 64 % 64) (c.toNat % 64) 0x80 0xBF
          (by omega) (by change 0x80 ≤ _; omega) (by change _ ≤ 0xBF; omega)
        simp only [List.cons_append, List.nil_append, scan_cons, lead, middle, last]
        rw [back _ (by omega)]
      next four =>
        have second := second_of_four_range c (by omega)
        have lead : advance none (byte (0xF0 + c.toNat / 262144)) = _ :=
          begin_four c.toNat (by omega)
        have middle := advance_more (c.toNat / 262144) (c.toNat / 4096 % 64) _ _ (by omega)
          second.1 second.2 1
        have third := advance_more (c.toNat / 262144 * 64 + c.toNat / 4096 % 64)
          (c.toNat / 64 % 64) 0x80 0xBF (by omega) (by change 0x80 ≤ _; omega)
          (by change _ ≤ 0xBF; omega) 0
        have last := advance_last
          ((c.toNat / 262144 * 64 + c.toNat / 4096 % 64) * 64 + c.toNat / 64 % 64)
          (c.toNat % 64) 0x80 0xBF (by omega) (by change 0x80 ≤ _; omega)
          (by change _ ≤ 0xBF; omega)
        simp only [List.cons_append, List.nil_append, scan_cons, lead, middle, third, last]
        rw [back _ (by omega)]

theorem scan_encode (text : List Char) (rest : List UInt8) :
    scan none (text.flatMap encodeChar ++ rest) = text.map some ++ scan none rest := by
  induction text with
  | nil => rfl
  | cons c cs ih => simp [List.flatMap_cons, List.append_assoc, scan_encodeChar, ih]

theorem items_encode (text : String) : items (encode text) = text.toList.map some := by
  have exact := scan_encode text.toList []
  rwa [List.append_nil, scan, List.append_nil] at exact

theorem mapM_id {α : Type} (items : List (Option α)) (values : List α) :
    items.mapM id = some values ↔ items = values.map some := by
  constructor
  next =>
    intro whole
    induction items generalizing values with
    | nil =>
      cases whole
      rfl
    | cons item others ih =>
      rw [List.mapM_cons] at whole
      obtain ⟨value, here, whole⟩ := Option.bind_eq_some_iff.mp whole
      obtain ⟨rest, later, whole⟩ := Option.bind_eq_some_iff.mp whole
      cases whole
      rw [List.map_cons, ← ih rest later, ← here]
      rfl
  next =>
    rintro rfl
    induction values with
    | nil => rfl
    | cons value rest ih => simp [List.mapM_cons, ih]

theorem decode_encode (text : String) : decode? (encode text) = some text := by
  rw [decode?, items_encode, (mapM_id _ _).mpr rfl, Option.map_some, String.ofList_toList]

theorem encodeChar_high (c : Char) (high : 0x80 ≤ c.toNat) (b : UInt8)
    (member : b ∈ encodeChar c) : 0x80 ≤ b.toNat := by
  have range := toNat_range c
  simp only [encodeChar, if_neg (show ¬c.toNat < 0x80 by omega)] at member
  split at member
  next =>
    simp only [List.mem_cons, List.not_mem_nil, or_false] at member
    rcases member with rfl | rfl <;> rw [byte_toNat _ (by omega)] <;> omega
  next =>
    split at member
    next =>
      simp only [List.mem_cons, List.not_mem_nil, or_false] at member
      rcases member with rfl | rfl | rfl <;> rw [byte_toNat _ (by omega)] <;> omega
    next =>
      simp only [List.mem_cons, List.not_mem_nil, or_false] at member
      rcases member with rfl | rfl | rfl | rfl <;> rw [byte_toNat _ (by omega)] <;> omega

theorem encodeChar_low (c : Char) (b : UInt8) (low : b.toNat < 0x80) (inside : b ∈ encodeChar c) :
    c.toNat < 0x80 := by
  apply Nat.lt_of_not_le
  intro high
  have bytes := encodeChar_high c high b inside
  omega

theorem mem_encode_ascii (text : String) (b : UInt8) (ascii : b.toNat < 0x80) :
    b ∈ encode text ↔ Char.ofNat b.toNat ∈ text.toList := by
  have code : (Char.ofNat b.toNat).toNat = b.toNat := toNat_ofNat _ (by omega)
  rw [encode, List.mem_flatMap]
  constructor
  next =>
    rintro ⟨c, member, inside⟩
    have low := encodeChar_low c b ascii inside
    simp only [encodeChar, if_pos low, List.mem_singleton] at inside
    rw [inside, byte_toNat _ (by omega), Char.ofNat_toNat]
    exact member
  next =>
    intro member
    refine ⟨_, member, ?_⟩
    simp [encodeChar, code, ascii, byte]

theorem encode_injective (text other : String) (same : encode text = encode other) :
    text = other := by
  have decoded := decode_encode text
  rw [same, decode_encode] at decoded
  exact (Option.some.inj decoded).symm

theorem encode_eq_nil (text : String) : encode text = [] ↔ text.toList = [] := by
  constructor
  next =>
    intro nothing
    have empty := encode_injective text "" nothing
    rw [empty]
    rfl
  next =>
    intro empty
    rw [encode, empty]
    rfl

theorem mark_prefix_encode (text : String) (rest : List UInt8) :
    encode text = [0xEF, 0xBB, 0xBF] ++ rest →
      ∃ tail, text.toList = Char.ofNat 0xFEFF :: tail ∧ rest = tail.flatMap encodeChar := by
  intro split
  have mark : encodeChar (Char.ofNat 0xFEFF) = [0xEF, 0xBB, 0xBF] := by decide
  have scanned := items_encode text
  rw [split, ← mark, items, scan_encodeChar] at scanned
  cases shape : text.toList with
  | nil => simp [shape] at scanned
  | cons c tail =>
    rw [shape, List.map_cons, List.cons.injEq] at scanned
    obtain rfl : Char.ofNat 0xFEFF = c := Option.some.inj scanned.1
    refine ⟨tail, rfl, ?_⟩
    rw [encode, shape, List.flatMap_cons, mark] at split
    exact (List.append_cancel_left split).symm

def IsText (bytes : List UInt8) : Prop := ∃ text : String, encode text = bytes

namespace IsText

theorem decodes (bytes : List UInt8) (valid : IsText bytes) : (decode? bytes).isNone = false := by
  obtain ⟨text, rfl⟩ := valid
  rw [decode_encode]
  rfl

theorem append (bytes more : List UInt8) (valid : IsText bytes) (moreValid : IsText more) :
    IsText (bytes ++ more) := by
  obtain ⟨text, rfl⟩ := valid
  obtain ⟨others, rfl⟩ := moreValid
  exact ⟨text ++ others, by simp [encode]⟩

theorem ascii (b : UInt8) (low : b.toNat < 0x80) : IsText [b] := by
  have code : (Char.ofNat b.toNat).toNat = b.toNat := toNat_ofNat _ (by omega)
  exact ⟨String.ofList [Char.ofNat b.toNat], by simp [encode, encodeChar, code, low, byte]⟩

end IsText

end PlotTables.Utf8
