import PlotTables.Proofs.Text.Decoding

set_option autoImplicit false

namespace PlotTables.Utf8

def IsFront (part : List UInt8) : Prop := ∃ c, part <+: encodeChar c

/-- A part at the front of bytes that is replaced by one character. -/
structure Broken (part rest : List UInt8) : Prop where
  nonempty : part ≠ []
  noChar : ∀ c, ¬encodeChar c <+: part
  front : IsFront part ∨ ∃ b, part = [b]
  longest : ∀ b, rest.head? = some b → ¬IsFront (part ++ [b])

/-- Bytes and the text that stands for them once everything that is no character is replaced. -/
inductive Lossy : List UInt8 → List Char → Prop
  | done : Lossy [] []
  | char (c : Char) (rest : List UInt8) (text : List Char) (later : Lossy rest text) :
      Lossy (encodeChar c ++ rest) (c :: text)
  | broken (part rest : List UInt8) (text : List Char) (part_broken : Broken part rest)
      (later : Lossy rest text) : Lossy (part ++ rest) (replacement :: text)

section Scanned

theorem not_char_of_scan (bytes : List UInt8) (found : List (Option Char))
    (scanned : scan none bytes = none :: found) (c : Char) : ¬encodeChar c <+: bytes := by
  rintro ⟨rest, rfl⟩
  rw [scan_encodeChar] at scanned
  cases scanned

theorem not_front_of_scan (part : List UInt8)
    (scanned : ∀ rest, ∃ found, scan none (part ++ rest) = none :: found) : ¬IsFront part := by
  rintro ⟨c, tail, whole⟩
  obtain ⟨found, broken⟩ := scanned tail
  exact not_char_of_scan _ found broken c (whole ▸ List.prefix_refl _)

theorem exists_completes (bits : Nat) (low high : UInt8) (left : Nat) (range : low ≤ high) :
    ∃ tail n, Completes ⟨bits, low, high, left⟩ tail n := by
  induction left generalizing bits low high with
  | zero => exact ⟨[low], _, .last bits low high low ⟨UInt8.le_refl low, range⟩⟩
  | succ left ih =>
    obtain ⟨tail, n, rest⟩ := ih (bits * 64 + low.toNat % 64) 0x80 0xBF (by decide)
    exact ⟨low :: tail, n, .more bits low high low left tail n ⟨UInt8.le_refl low, range⟩ rest⟩

theorem begin_range (lead : UInt8) (p : Pending) (begun : begin lead = ([], some p)) :
    p.low ≤ p.high := by
  simp only [begin] at begun
  repeat' split at begun
  all_goals
    simp only [Prod.mk.injEq, List.cons_ne_nil, Option.some.injEq, reduceCtorEq, and_false,
      true_and] at begun
  all_goals
    subst begun
    dsimp only
    decide

/-- What the scan keeps while a character is begun. -/
structure Unfinished (front : List UInt8) (p : Pending) : Prop where
  begun : Begun front (some p)
  range : p.low ≤ p.high
  scanned : ∀ rest, scan none (front ++ rest) = scan (some p) rest

namespace Unfinished

theorem first (lead : UInt8) (p : Pending) (begun : begin lead = ([], some p)) :
    Unfinished [lead] p := by
  refine ⟨begin_begun lead p begun, begin_range lead p begun, ?_⟩
  intro rest
  rw [List.cons_append, List.nil_append, scan_cons, advance, begun, List.nil_append]

variable (front : List UInt8) (bits left : Nat) (low high : UInt8)

theorem next (b : UInt8) (unfinished : Unfinished front ⟨bits, low, high, left + 1⟩)
    (inside : low ≤ b ∧ b ≤ high) :
    Unfinished (front ++ [b]) ⟨bits * 64 + b.toNat % 64, 0x80, 0xBF, left⟩ := by
  have range : (0x80 : UInt8) ≤ 0xBF := by decide
  refine ⟨?_, range, ?_⟩
  · intro tail n completes
    rw [unfinished.begun (b :: tail) n (.more bits low high b left tail n inside completes),
      List.append_cons]
  · intro rest
    rw [← List.append_cons, unfinished.scanned, scan_cons]
    simp only [advance, if_pos inside, List.nil_append]

variable (p : Pending) (unfinished : Unfinished front p)

include unfinished

theorem isFront : IsFront front := by
  obtain ⟨tail, n, completes⟩ := exists_completes p.bits p.low p.high p.more unfinished.range
  exact ⟨Char.ofNat n, tail, (unfinished.begun tail n completes).symm⟩

theorem broken (rest : List UInt8)
    (outside : ∀ b, rest.head? = some b → ¬(p.low ≤ b ∧ b ≤ p.high)) : Broken front rest := by
  have alone : scan none front = [none] := by
    have scanned := unfinished.scanned []
    rwa [List.append_nil] at scanned
  refine ⟨?_, not_char_of_scan front [] alone, .inl unfinished.isFront, ?_⟩
  · rintro rfl
    cases alone
  · intro b next
    apply not_front_of_scan
    intro more
    refine ⟨(begin b).1 ++ scan (begin b).2 more, ?_⟩
    rw [← List.append_cons, unfinished.scanned, scan_cons]
    simp only [advance, if_neg (outside b next), List.cons_append]

end Unfinished

def shown (found : List (Option Char)) : List Char := found.map fun item => item.getD replacement

theorem broken_of_begin (b : UInt8) (rest : List UInt8) (begun : begin b = ([none], none)) :
    Broken [b] rest := by
  have scanned (more : List UInt8) : scan none (b :: more) = none :: scan none more := by
    rw [scan_cons, advance, begun]
    rfl
  refine ⟨List.cons_ne_nil _ _, not_char_of_scan [b] [] (scanned []), .inr ⟨b, rfl⟩, ?_⟩
  intro next _
  apply not_front_of_scan
  intro more
  exact ⟨_, scanned (next :: more)⟩

theorem scan_lossy (bytes : List UInt8) : Lossy bytes (shown (scan none bytes)) ∧
    ∀ front p, Unfinished front p → Lossy (front ++ bytes) (shown (scan (some p) bytes)) := by
  -- Both parts at once: a byte may begin a character, and one that does not go on begins anew.
  induction bytes with
  | nil =>
    refine ⟨.done, fun front p unfinished => ?_⟩
    exact .broken front [] [] (unfinished.broken front p [] (by simp)) .done
  | cons b rest ih =>
    have fresh : Lossy (b :: rest) (shown (scan none (b :: rest))) := by
      rcases begin_cases b with ⟨ascii, whole⟩ | broken | ⟨p, lead⟩
      next =>
        rw [scan_cons, advance, whole]
        have char := Lossy.char (Char.ofNat b.toNat) rest _ ih.1
        rwa [encodeChar_one b ascii] at char
      next =>
        rw [scan_cons, advance, broken]
        exact .broken [b] rest _ (broken_of_begin b rest broken) ih.1
      next =>
        rw [scan_cons, advance, lead]
        exact ih.2 [b] p (.first b p lead)
    refine ⟨fresh, fun front p unfinished => ?_⟩
    obtain ⟨bits, low, high, left⟩ := p
    rw [scan_cons]
    by_cases inside : low ≤ b ∧ b ≤ high
    next =>
      cases left with
      | zero =>
        have char := Lossy.char (Char.ofNat (bits * 64 + b.toNat % 64)) rest _ ih.1
        rw [unfinished.begun [b] _ (.last bits low high b inside), ← List.append_cons] at char
        simp only [advance, if_pos inside]
        exact char
      | succ left =>
        have longer := unfinished.next front bits left low high b inside
        rw [List.append_cons]
        simp only [advance, if_pos inside]
        exact ih.2 (front ++ [b]) _ longer
    next =>
      have again := Lossy.broken front (b :: rest) _
        (unfinished.broken front _ (b :: rest) (by simpa using inside)) fresh
      rw [scan_cons] at again
      simp only [advance, if_neg inside]
      exact again

end Scanned

section Unique

theorem Broken.noChar_after (part rest : List UInt8) (broken : Broken part rest) (c : Char) :
    ¬encodeChar c <+: part ++ rest := by
  intro whole
  rcases List.prefix_or_prefix_of_prefix whole (List.prefix_append part rest) with within | beyond
  next => exact broken.noChar c within
  next =>
    obtain ⟨tail, split⟩ := beyond
    cases tail with
    | nil =>
      rw [List.append_nil] at split
      exact broken.noChar c (split ▸ List.prefix_refl _)
    | cons b others =>
      have next : rest.head? = some b := by
        rw [← split, List.prefix_append_right_inj] at whole
        obtain ⟨more, rfl⟩ := whole
        rfl
      exact broken.longest b next ⟨c, others, by rw [← split, ← List.append_cons]⟩

theorem Broken.eq_of_front (part rest other more : List UInt8) (broken : Broken part rest)
    (otherBroken : Broken other more) (same : part ++ rest = other ++ more) (le : part <+: other) :
    part = other := by
  obtain ⟨tail, rfl⟩ := le
  cases tail with
  | nil => rw [List.append_nil]
  | cons b others =>
    rw [List.append_assoc, List.append_cancel_left_eq] at same
    have next : rest.head? = some b := by rw [same]; rfl
    -- The longer part has several bytes, so it is a front.
    rcases otherBroken.front with ⟨c, tail, whole⟩ | ⟨single, shape⟩
    next =>
      refine absurd ⟨c, others ++ tail, ?_⟩ (broken.longest b next)
      rw [← whole, ← List.append_assoc, ← List.append_cons]
    next =>
      have one := congrArg List.length shape
      have some := List.length_pos_iff.mpr broken.nonempty
      simp only [List.length_append, List.length_cons, List.length_nil] at one
      omega

theorem Broken.unique (part rest other more : List UInt8) (broken : Broken part rest)
    (otherBroken : Broken other more) (same : part ++ rest = other ++ more) : part = other := by
  rcases List.prefix_or_prefix_of_prefix (List.prefix_append part rest)
    (same ▸ List.prefix_append other more) with le | ge
  · exact broken.eq_of_front _ _ _ _ otherBroken same le
  · exact (otherBroken.eq_of_front _ _ _ _ broken same.symm ge).symm

theorem encodeChar_unique (c d : Char) (rest more : List UInt8)
    (same : encodeChar c ++ rest = encodeChar d ++ more) : c = d ∧ rest = more := by
  have scanned := congrArg (scan none) same
  rw [scan_encodeChar, scan_encodeChar, List.cons.injEq] at scanned
  cases Option.some.inj scanned.1
  exact ⟨rfl, List.append_cancel_left same⟩

variable (bytes : List UInt8) (text other : List Char)

theorem Lossy.shape (lossy : Lossy bytes text) : (bytes = [] ∧ text = []) ∨
    (∃ c rest later, bytes = encodeChar c ++ rest ∧ text = c :: later ∧ Lossy rest later) ∨
    ∃ part rest later, bytes = part ++ rest ∧ text = replacement :: later ∧ Broken part rest ∧
      Lossy rest later := by
  cases lossy with
  | done => exact .inl ⟨rfl, rfl⟩
  | char c rest later lossy => exact .inr (.inl ⟨c, rest, later, rfl, rfl, lossy⟩)
  | broken part rest later broken lossy =>
    exact .inr (.inr ⟨part, rest, later, rfl, rfl, broken, lossy⟩)

theorem Lossy.unique (lossy : Lossy bytes text) (again : Lossy bytes other) : text = other := by
  -- What comes first in the bytes decides which rule applies, and how far.
  induction lossy generalizing other with
  | done =>
    rcases again.shape with ⟨_, rfl⟩ | ⟨c, _, _, nothing, _⟩ | ⟨_, _, _, nothing, _, broken, _⟩
    · rfl
    · exact absurd (List.append_eq_nil_iff.mp nothing.symm).1 (encodeChar_ne_nil c)
    · exact absurd (List.append_eq_nil_iff.mp nothing.symm).1 broken.nonempty
  | char c rest text later ih =>
    rcases again.shape with ⟨nothing, _⟩ | ⟨_, more, others, same, rfl, lossy⟩ |
      ⟨part, more, _, same, _, broken, _⟩
    · exact absurd (List.append_eq_nil_iff.mp nothing).1 (encodeChar_ne_nil c)
    · obtain ⟨rfl, rfl⟩ := encodeChar_unique _ _ _ _ same
      rw [ih others lossy]
    · exact absurd ⟨rest, same⟩ (broken.noChar_after part more c)
  | broken part rest text broken later ih =>
    rcases again.shape with ⟨nothing, _⟩ | ⟨c, more, _, same, _⟩ |
      ⟨part', more, others, same, rfl, broken', lossy⟩
    · exact absurd (List.append_eq_nil_iff.mp nothing).1 broken.nonempty
    · exact absurd ⟨more, same.symm⟩ (broken.noChar_after part rest c)
    · obtain rfl := broken.unique _ _ _ _ broken' same
      obtain rfl := List.append_cancel_left same
      rw [ih others lossy]

theorem lossy_iff : Lossy bytes text ↔ text = decodeLossy bytes := by
  have decoded : Lossy bytes (decodeLossy bytes) := (scan_lossy bytes).1
  constructor
  next => exact fun lossy => lossy.unique bytes text _ decoded
  next =>
    rintro rfl
    exact decoded

end Unique

section Ascii

theorem mem_encodeChar_ascii (c : Char) (b : UInt8) (ascii : b.toNat < 0x80) :
    b ∈ encodeChar c ↔ c = Char.ofNat b.toNat := by
  have mem := mem_encode_ascii (String.ofList [c]) b ascii
  simpa [encode, eq_comm] using mem

theorem IsFront.single (part : List UInt8) (b : UInt8) (front : IsFront part) (member : b ∈ part)
    (ascii : b.toNat < 0x80) : part = [b] := by
  obtain ⟨c, tail, whole⟩ := front
  have char := (mem_encodeChar_ascii c b ascii).mp (by simp [← whole, member])
  rw [char, encodeChar_one b ascii, List.append_eq_cons_iff] at whole
  rcases whole with ⟨rfl, _⟩ | ⟨others, rfl, nothing⟩
  · cases member
  · rw [(List.append_eq_nil_iff.mp nothing.symm).1]

theorem Broken.high (part rest : List UInt8) (broken : Broken part rest) :
    ∀ b ∈ part, 0x80 ≤ b.toNat := by
  intro b member
  apply Nat.le_of_not_lt
  intro ascii
  have single : part = [b] := by
    rcases broken.front with front | ⟨other, rfl⟩
    · exact front.single part b member ascii
    · rw [List.mem_singleton.mp member]
  have whole : encodeChar (Char.ofNat b.toNat) = part :=
    (encodeChar_one b ascii).trans single.symm
  exact broken.noChar _ ⟨[], by rw [whole, List.append_nil]⟩

variable (bytes : List UInt8) (text : List Char)

theorem replacement_ne (b : UInt8) (ascii : b.toNat < 0x80) :
    replacement ≠ Char.ofNat b.toNat := by
  intro same
  have code := congrArg Char.toNat same
  rw [toNat_ofNat b.toNat (by omega)] at code
  change 0xFFFD = b.toNat at code
  omega

theorem Lossy.mem_ascii (lossy : Lossy bytes text) (b : UInt8) (ascii : b.toNat < 0x80)
    (member : Char.ofNat b.toNat ∈ text) : b ∈ bytes := by
  induction lossy with
  | done => cases member
  | char c rest text later ih =>
    rw [List.mem_append]
    rcases List.mem_cons.mp member with same | among
    · exact .inl ((mem_encodeChar_ascii c b ascii).mpr same.symm)
    · exact .inr (ih among)
  | broken part rest text broken later ih =>
    rw [List.mem_append]
    rcases List.mem_cons.mp member with same | among
    · exact absurd same.symm (replacement_ne b ascii)
    · exact .inr (ih among)

theorem Lossy.nil_iff (lossy : Lossy bytes text) : text = [] ↔ bytes = [] := by
  cases lossy with
  | done => simp
  | char c rest text later => simp [encodeChar_ne_nil]
  | broken part rest text broken later => simp [broken.nonempty]

theorem Lossy.takeWhile (lossy : Lossy bytes text) (b : UInt8) (ascii : b.toNat < 0x80) :
    Lossy (bytes.takeWhile fun other => other != b)
      (text.takeWhile fun c => c != Char.ofNat b.toNat) := by
  induction lossy with
  | done => exact .done
  | char c rest text later ih =>
    by_cases here : c = Char.ofNat b.toNat
    next =>
      rw [here, encodeChar_one b ascii]
      simpa using Lossy.done
    next =>
      have absent (other : UInt8) (member : other ∈ encodeChar c) : (other != b) = true := by
        rw [bne_iff_ne]
        rintro rfl
        exact here ((mem_encodeChar_ascii c other ascii).mp member)
      rw [List.takeWhile_append_of_pos absent, List.takeWhile_cons_of_pos (by simpa using here)]
      exact .char c _ _ ih
  | broken part rest text broken later ih =>
    have absent (other : UInt8) (member : other ∈ part) : (other != b) = true := by
      rw [bne_iff_ne]
      rintro rfl
      exact absurd (broken.high _ _ other member) (Nat.not_le.mpr ascii)
    have kept := replacement_ne b ascii
    rw [List.takeWhile_append_of_pos absent, List.takeWhile_cons_of_pos (by simpa using kept)]
    refine .broken part _ _ ⟨broken.nonempty, broken.noChar, broken.front, ?_⟩ ih
    intro next there
    rw [List.head?_takeWhile, Option.filter_eq_some_iff] at there
    exact broken.longest next there.1

section Map

variable (f : UInt8 → UInt8) (g : Char → Char)

/-- A change of bytes below 128 among themselves, and what it is for characters. -/
structure Changes : Prop where
  high : ∀ b : UInt8, 0x80 ≤ b.toNat → f b = b
  low : ∀ b : UInt8, b.toNat < 0x80 → (f b).toNat < 0x80
  chars : ∀ c, (encodeChar c).map f = encodeChar (g c)

theorem map_high (high : ∀ b : UInt8, 0x80 ≤ b.toNat → f b = b) (part : List UInt8)
    (all : ∀ b ∈ part, 0x80 ≤ b.toNat) : part.map f = part :=
  (List.map_congr_left fun b member => high b (all b member)).trans (List.map_id part)

variable (changes : Changes f g)

include changes

theorem Changes.replacement : g replacement = replacement := by
  have same := changes.chars Utf8.replacement
  have kept := map_high f changes.high _ (encodeChar_high Utf8.replacement (by decide))
  exact (encodeChar_unique _ _ [] [] (by rw [← same, kept])).1

theorem Lossy.map (lossy : Lossy bytes text) : Lossy (bytes.map f) (text.map g) := by
  induction lossy with
  | done => exact .done
  | char c rest text later ih =>
    rw [List.map_append, List.map_cons, changes.chars]
    exact .char (g c) _ _ ih
  | broken part rest text broken later ih =>
    have kept := map_high f changes.high part (broken.high part rest)
    rw [List.map_append, List.map_cons, kept, changes.replacement]
    refine .broken part _ _ ⟨broken.nonempty, broken.noChar, broken.front, ?_⟩ ih
    intro next there
    rw [List.head?_map, Option.map_eq_some_iff] at there
    obtain ⟨b, there, rfl⟩ := there
    rcases Nat.lt_or_ge b.toNat 0x80 with ascii | high
    next =>
      intro front
      have single := front.single _ (f b) (by simp) (changes.low b ascii)
      exact broken.nonempty (List.append_left_eq_self.mp single)
    next =>
      rw [changes.high b high]
      exact broken.longest b there

end Map

end Ascii

end PlotTables.Utf8
