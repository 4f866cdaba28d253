import PlotTables.Proofs.Text.Encoding

set_option autoImplicit false

namespace PlotTables.Utf8

section Characters

variable (lead second third last : UInt8) (n : Nat)

theorem encodeChar_one (ascii : lead.toNat < 0x80) :
    encodeChar (Char.ofNat lead.toNat) = [lead] := by
  have code := toNat_ofNat lead.toNat (by omega)
  simp only [encodeChar, code]
  rw [if_pos ascii, byte_eq _ lead rfl]

theorem encodeChar_two (begins : 0xC2 ≤ lead.toNat ∧ lead.toNat < 0xE0)
    (ends : 0x80 ≤ last.toNat ∧ last.toNat ≤ 0xBF)
    (value : n = (lead.toNat - 0xC0) * 64 + last.toNat % 64) :
    encodeChar (Char.ofNat n) = [lead, last] := by
  have code := toNat_ofNat n (by omega)
  simp only [encodeChar, code]
  rw [if_neg (by omega), if_pos (by omega), byte_eq _ lead (by omega), byte_eq _ last (by omega)]

theorem encodeChar_three (begins : 0xE0 ≤ lead.toNat ∧ lead.toNat < 0xF0)
    (goesOn : 0x80 ≤ second.toNat ∧ second.toNat ≤ 0xBF)
    (ends : 0x80 ≤ last.toNat ∧ last.toNat ≤ 0xBF)
    (value : n = ((lead.toNat - 0xE0) * 64 + second.toNat % 64) * 64 + last.toNat % 64)
    (needed : 0x800 ≤ n) (valid : n < 0xD800 ∨ 0xDFFF < n) :
    encodeChar (Char.ofNat n) = [lead, second, last] := by
  have code := toNat_ofNat n (by omega)
  simp only [encodeChar, code]
  rw [if_neg (by omega), if_neg (by omega), if_pos (by omega), byte_eq _ lead (by omega),
    byte_eq _ second (by omega), byte_eq _ last (by omega)]

theorem encodeChar_four (begins : 0xF0 ≤ lead.toNat)
    (goesOn : 0x80 ≤ second.toNat ∧ second.toNat ≤ 0xBF)
    (further : 0x80 ≤ third.toNat ∧ third.toNat ≤ 0xBF)
    (ends : 0x80 ≤ last.toNat ∧ last.toNat ≤ 0xBF)
    (value : n = (((lead.toNat - 0xF0) * 64 + second.toNat % 64) * 64 + third.toNat % 64) * 64 +
      last.toNat % 64)
    (needed : 0x10000 ≤ n) (valid : n < 0x110000) :
    encodeChar (Char.ofNat n) = [lead, second, third, last] := by
  have code := toNat_ofNat n (by omega)
  simp only [encodeChar, code]
  rw [if_neg (by omega), if_neg (by omega), if_neg (by omega), byte_eq _ lead (by omega),
    byte_eq _ second (by omega), byte_eq _ third (by omega), byte_eq _ last (by omega)]

end Characters

/-- The bytes that complete a character begun, and its number. -/
inductive Completes : Pending → List UInt8 → Nat → Prop
  | last (bits : Nat) (low high b : UInt8) (inside : low ≤ b ∧ b ≤ high) :
      Completes ⟨bits, low, high, 0⟩ [b] (bits * 64 + b.toNat % 64)
  | more (bits : Nat) (low high b : UInt8) (left : Nat) (tail : List UInt8) (n : Nat)
      (inside : low ≤ b ∧ b ≤ high)
      (rest : Completes ⟨bits * 64 + b.toNat % 64, 0x80, 0xBF, left⟩ tail n) :
      Completes ⟨bits, low, high, left + 1⟩ (b :: tail) n

section Completes

variable (bits : Nat) (low high : UInt8) (tail : List UInt8) (n : Nat)

theorem Completes.ends (completes : Completes ⟨bits, low, high, 0⟩ tail n) :
    ∃ b : UInt8, tail = [b] ∧ (low.toNat ≤ b.toNat ∧ b.toNat ≤ high.toNat) ∧
      n = bits * 64 + b.toNat % 64 := by
  cases completes with
  | last _ _ _ b inside => exact ⟨b, rfl, inside, rfl⟩

theorem Completes.goesOn (left : Nat) (completes : Completes ⟨bits, low, high, left + 1⟩ tail n) :
    ∃ (b : UInt8) (rest : List UInt8), tail = b :: rest ∧
      (low.toNat ≤ b.toNat ∧ b.toNat ≤ high.toNat) ∧
      Completes ⟨bits * 64 + b.toNat % 64, 0x80, 0xBF, left⟩ rest n := by
  cases completes with
  | more _ _ _ b _ rest _ inside completes => exact ⟨b, rest, rfl, inside, completes⟩

variable (lead : UInt8)

theorem Completes.two (begins : 0xC2 ≤ lead.toNat ∧ lead.toNat < 0xE0)
    (same : bits = lead.toNat - 0xC0) (completes : Completes ⟨bits, 0x80, 0xBF, 0⟩ tail n) :
    encodeChar (Char.ofNat n) = lead :: tail := by
  obtain ⟨last, rfl, ends, value⟩ := completes.ends
  rw [same] at value
  exact encodeChar_two lead last n begins ends value

theorem Completes.three (begins : 0xE0 ≤ lead.toNat ∧ lead.toNat < 0xF0)
    (same : bits = lead.toNat - 0xE0) (continuation : 0x80 ≤ low.toNat ∧ high.toNat ≤ 0xBF)
    (needed : lead.toNat = 0xE0 → 0xA0 ≤ low.toNat)
    (valid : lead.toNat = 0xED → high.toNat ≤ 0x9F)
    (completes : Completes ⟨bits, low, high, 1⟩ tail n) :
    encodeChar (Char.ofNat n) = lead :: tail := by
  obtain ⟨second, rest, rfl, goesOn, completes⟩ := completes.goesOn
  obtain ⟨last, rfl, ends, value⟩ := completes.ends
  have ends : 0x80 ≤ last.toNat ∧ last.toNat ≤ 0xBF := ends
  rw [same] at value
  exact encodeChar_three lead second last n begins (by omega) ends value (by omega) (by omega)

theorem Completes.four (begins : 0xF0 ≤ lead.toNat ∧ lead.toNat ≤ 0xF4)
    (same : bits = lead.toNat - 0xF0) (continuation : 0x80 ≤ low.toNat ∧ high.toNat ≤ 0xBF)
    (needed : lead.toNat = 0xF0 → 0x90 ≤ low.toNat)
    (valid : lead.toNat = 0xF4 → high.toNat ≤ 0x8F)
    (completes : Completes ⟨bits, low, high, 2⟩ tail n) :
    encodeChar (Char.ofNat n) = lead :: tail := by
  obtain ⟨second, rest, rfl, goesOn, completes⟩ := completes.goesOn
  obtain ⟨third, rest, rfl, further, completes⟩ := completes.goesOn
  obtain ⟨last, rfl, ends, value⟩ := completes.ends
  have further : 0x80 ≤ third.toNat ∧ third.toNat ≤ 0xBF := further
  have ends : 0x80 ≤ last.toNat ∧ last.toNat ≤ 0xBF := ends
  rw [same] at value
  exact encodeChar_four lead second third last n begins.1 (by omega) further ends value (by omega)
    (by omega)

end Completes

/-- What the bytes before have begun: nothing, or a character that they are the front of. -/
def Begun (front : List UInt8) : Option Pending → Prop
  | none => front = []
  | some p => ∀ tail n, Completes p tail n → encodeChar (Char.ofNat n) = front ++ tail

theorem begin_begun (lead : UInt8) (p : Pending) (begun : begin lead = ([], some p)) :
    Begun [lead] (some p) := by
  intro tail n completes
  -- In `begin` a lead that limits its second byte has a branch of its own.
  simp only [begin] at begun
  repeat' split at begun
  all_goals
    simp only [Prod.mk.injEq, List.cons_ne_nil, Option.some.injEq, reduceCtorEq, and_false,
      true_and] at begun
  all_goals subst begun
  next => exact completes.two _ _ _ lead (by omega) rfl
  next =>
    exact completes.three _ _ _ _ _ lead (by omega) (by omega) (by decide) (fun _ => by decide)
      (by omega)
  next =>
    exact completes.three _ _ _ _ _ lead (by omega) (by omega) (by decide) (by omega)
      (fun _ => by decide)
  next =>
    exact completes.three _ _ _ _ _ lead (by omega) rfl (by decide) (by omega) (by omega)
  next =>
    exact completes.four _ _ _ _ _ lead (by omega) (by omega) (by decide) (fun _ => by decide)
      (by omega)
  next =>
    exact completes.four _ _ _ _ _ lead (by omega) rfl (by decide) (by omega) (by omega)
  next =>
    exact completes.four _ _ _ _ _ lead (by omega) (by omega) (by decide) (by omega)
      (fun _ => by decide)

theorem begin_cases (b : UInt8) :
    (b.toNat < 0x80 ∧ begin b = ([some (Char.ofNat b.toNat)], none)) ∨ begin b = ([none], none) ∨
      ∃ p, begin b = ([], some p) := by
  simp only [begin]
  grind

theorem scan_item (item : Option Char) (rest : List UInt8) (text : List Char)
    (scanned : [item] ++ scan none rest = text.map some) :
    ∃ c others, item = some c ∧ text = c :: others ∧ scan none rest = others.map some := by
  obtain ⟨c, others, rfl, first, later⟩ := List.map_eq_cons_iff.mp scanned.symm
  exact ⟨c, others, first.symm, rfl, later.symm⟩

theorem scan_sound (state : Option Pending) (front bytes : List UInt8) (text : List Char)
    (begun : Begun front state) (scanned : scan state bytes = text.map some) :
    text.flatMap encodeChar = front ++ bytes := by
  induction bytes generalizing state front text with
  | nil =>
    cases state with
    | none =>
      obtain rfl : front = [] := begun
      obtain rfl : text = [] := List.map_eq_nil_iff.mp scanned.symm
      rfl
    | some p =>
      obtain ⟨c, _, broken, _⟩ := scan_item none [] text scanned
      cases broken
  | cons b rest ih =>
    rw [scan_cons] at scanned
    cases state with
    | none =>
      obtain rfl : front = [] := begun
      rcases begin_cases b with ⟨ascii, whole⟩ | broken | ⟨p, lead⟩
      next =>
        rw [advance, whole] at scanned
        obtain ⟨c, others, single, rfl, later⟩ := scan_item _ rest text scanned
        cases single
        rw [List.flatMap_cons, encodeChar_one b ascii, ih none [] others rfl later]
        rfl
      next =>
        rw [advance, broken] at scanned
        obtain ⟨c, _, whole, _⟩ := scan_item none rest text scanned
        cases whole
      next =>
        rw [advance, lead] at scanned
        exact ih (some p) [b] text (begin_begun b p lead) scanned
    | some p =>
      obtain ⟨bits, low, high, left⟩ := p
      by_cases inside : low ≤ b ∧ b ≤ high
      next =>
        cases left with
        | zero =>
          simp only [advance, if_pos inside] at scanned
          obtain ⟨c, others, whole, rfl, later⟩ := scan_item _ rest text scanned
          cases whole
          rw [List.flatMap_cons, begun [b] _ (.last bits low high b inside),
            ih none [] others rfl later, List.append_assoc]
          rfl
        | succ left =>
          simp only [advance, if_pos inside] at scanned
          rw [List.append_cons]
          apply ih _ (front ++ [b]) text _ scanned
          intro tail n completes
          rw [begun (b :: tail) n (.more bits low high b left tail n inside completes),
            List.append_cons]
      next =>
        simp only [advance, if_neg inside] at scanned
        obtain ⟨c, others, _, broken, _⟩ := List.map_eq_cons_iff.mp scanned.symm
        cases broken

theorem decode?_eq_some (bytes : List UInt8) (text : String) :
    decode? bytes = some text ↔ encode text = bytes := by
  constructor
  next =>
    intro decoded
    obtain ⟨chars, whole, rfl⟩ := Option.map_eq_some_iff.mp decoded
    rw [encode, String.toList_ofList]
    exact scan_sound none [] bytes chars rfl ((mapM_id _ _).mp whole)
  next =>
    rintro rfl
    exact decode_encode text

theorem isText_iff (bytes : List UInt8) : IsText bytes ↔ (decode? bytes).isNone = false := by
  constructor
  next => exact IsText.decodes bytes
  next =>
    intro decodes
    obtain ⟨text, decoded⟩ := Option.isSome_iff_exists.mp (Option.isNone_eq_false_iff.mp decodes)
    exact ⟨text, (decode?_eq_some bytes text).mp decoded⟩

theorem encodeChar_ne_nil (c : Char) : encodeChar c ≠ [] := by
  simp only [encodeChar]
  repeat' split
  all_goals simp

theorem IsText.of_concat (bytes : List UInt8) (b : UInt8) (low : b.toNat < 0x80)
    (valid : IsText (bytes ++ [b])) : IsText bytes := by
  obtain ⟨text, written⟩ := valid
  rcases List.eq_nil_or_concat text.toList with nothing | ⟨init, c, shape⟩
  next =>
    rw [encode, nothing] at written
    simp at written
  next =>
    have written : init.flatMap encodeChar ++ encodeChar c = bytes ++ [b] := by
      rw [← written, encode, shape]
      simp
    obtain ⟨front, last, ends⟩ :=
      (List.eq_nil_or_concat (encodeChar c)).resolve_left (encodeChar_ne_nil c)
    rw [ends, List.concat_eq_append, ← List.append_assoc] at written
    obtain ⟨before, same⟩ := List.append_inj' written rfl
    cases same
    -- The byte is below 128, so it is all that its character has.
    have single := encodeChar_low c b low (by simp [ends])
    obtain rfl : front = [] := by
      have one := congrArg List.length ends
      simpa [encodeChar, single] using one
    rw [List.append_nil] at before
    exact ⟨String.ofList init, by rw [encode, String.toList_ofList, before]⟩

theorem isText_append_ascii (bytes ending : List UInt8) (low : ∀ b ∈ ending, b.toNat < 0x80) :
    IsText (bytes ++ ending) ↔ IsText bytes := by
  induction ending generalizing bytes with
  | nil => rw [List.append_nil]
  | cons b rest ih =>
    have first := low b (by simp)
    rw [List.append_cons, ih (bytes ++ [b]) fun other member => low other (by simp [member])]
    exact ⟨IsText.of_concat bytes b first, fun valid => valid.append _ _ (IsText.ascii b first)⟩

end PlotTables.Utf8
