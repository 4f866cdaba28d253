import Mathlib.Data.List.TakeWhile
import PlotTables.Proofs.Label.BaseName
import PlotTables.Proofs.Text.Lossy

set_option autoImplicit false

namespace PlotTables

open PlotTables.Path

def underscore : UInt8 := 95

def twoForHyphen (b : UInt8) : UInt8 := if b = 45 then 50 else b

def labelBytes (name : List UInt8) : List UInt8 :=
  (name.takeWhile fun b => b != underscore).map twoForHyphen

theorem twoForHyphen_changes : Utf8.Changes twoForHyphen hyphenToTwo := by
  refine ⟨?_, ?_, ?_⟩
  · intro b high
    rw [twoForHyphen, if_neg]
    rintro rfl
    exact absurd high (by decide)
  · intro b low
    rw [twoForHyphen]
    split
    next => decide
    next => exact low
  · intro c
    by_cases hyphen : c = '-'
    next =>
      rw [hyphen]
      decide
    next =>
      have kept (b : UInt8) (member : b ∈ Utf8.encodeChar c) : twoForHyphen b = b := by
        rw [twoForHyphen, if_neg]
        rintro rfl
        exact hyphen ((Utf8.mem_encodeChar_ascii c 45 (by decide)).mp member)
      rw [hyphenToTwo, if_neg hyphen]
      exact (List.map_congr_left kept).trans (List.map_id _)

theorem labelBytes_absent (name : List UInt8) (b : UInt8) (other : b ≠ 50)
    (absent : b = underscore ∨ b = 45 ∨ b ∉ name) : b ∉ labelBytes name := by
  intro member
  obtain ⟨before, among, rfl⟩ := List.mem_map.mp member
  have hyphen : before ≠ 45 := fun same => other (if_pos same)
  have kept : twoForHyphen before = before := if_neg hyphen
  have stays := List.mem_takeWhile_imp among
  rw [kept] at absent
  rcases absent with rfl | rfl | outside
  · simp at stays
  · exact hyphen rfl
  · exact outside ((List.takeWhile_sublist _).mem among)

section Label

variable (path name : List UInt8) (named : BaseName path name)

include named

theorem deriveLabel_lossy : Utf8.Lossy (labelBytes name) (deriveLabel path).toList := by
  have decoded := (Utf8.lossy_iff name _).mpr rfl
  have cut := decoded.takeWhile name _ underscore (by decide)
  have changed := cut.map _ _ twoForHyphen hyphenToTwo twoForHyphen_changes
  rw [deriveLabel, (baseName?_iff path name).mpr named, Option.getD_some, String.toList_ofList]
  exact changed

theorem deriveLabel_empty : deriveLabel path = "" ↔ name.head? = some underscore := by
  have lossy := deriveLabel_lossy path name named
  rw [← String.toList_eq_nil_iff, lossy.nil_iff, labelBytes, List.map_eq_nil_iff]
  cases shape : name with
  | nil => exact absurd shape named.nonempty
  | cons first rest =>
    by_cases stops : first = underscore <;> simp [stops]

theorem deriveLabel_absent :
    ∀ c ∈ (deriveLabel path).toList, c ≠ '_' ∧ c ≠ '-' ∧ c ≠ '/' := by
  have lossy := deriveLabel_lossy path name named
  intro c member
  refine ⟨?_, ?_, ?_⟩
  · rintro rfl
    exact labelBytes_absent name underscore (by decide) (.inl rfl)
      (lossy.mem_ascii _ _ underscore (by decide) member)
  · rintro rfl
    exact labelBytes_absent name 45 (by decide) (.inr (.inl rfl))
      (lossy.mem_ascii _ _ 45 (by decide) member)
  · rintro rfl
    exact labelBytes_absent name slash (by decide) (.inr (.inr named.part))
      (lossy.mem_ascii _ _ slash (by decide) member)

end Label

theorem deriveLabel_unnamed (path : List UInt8) (unnamed : ¬∃ name, BaseName path name) :
    deriveLabel path = "" := by
  have none : baseName? path = none := by
    rw [Option.eq_none_iff_forall_not_mem]
    intro name found
    exact unnamed ⟨name, (baseName?_iff path name).mp found⟩
  rw [deriveLabel, none]
  rfl

theorem deriveLabel_bytes (path : List UInt8) :
    (∀ name, BaseName path name →
      (∀ text, Utf8.Lossy (labelBytes name) text ↔ text = (deriveLabel path).toList) ∧
      (deriveLabel path = "" ↔ name.head? = some underscore) ∧
      ∀ directory, deriveLabel (directory ++ slash :: path) = deriveLabel path) ∧
    ((¬∃ name, BaseName path name) → deriveLabel path = "") ∧
    ∀ c ∈ (deriveLabel path).toList, c ≠ '_' ∧ c ≠ '-' ∧ c ≠ '/' := by
  refine ⟨?_, deriveLabel_unnamed path, ?_⟩
  next =>
    intro name named
    have lossy := deriveLabel_lossy path name named
    refine ⟨?_, deriveLabel_empty path name named, ?_⟩
    · intro text
      constructor
      · exact fun again => again.unique _ _ _ lossy
      · rintro rfl
        exact lossy
    · intro directory
      have below := (baseName?_iff _ _).mpr (named.below directory)
      rw [deriveLabel, deriveLabel, below, (baseName?_iff path name).mpr named]
  next =>
    intro c member
    by_cases named : ∃ name, BaseName path name
    next =>
      obtain ⟨name, named⟩ := named
      exact deriveLabel_absent path name named c member
    next =>
      rw [deriveLabel_unnamed path named] at member
      cases member

-- A character that is cut short by a hyphen, and a byte that begins none before the underscore.
def brokenName : List UInt8 := [114, 0xE2, 0x82, 45, 110, 0xFF, underscore, 0xFF, 120]

theorem deriveLabel_bytes_broken :
    BaseName (brokenName ++ [slash, dot, slash]) brokenName ∧
    Utf8.Lossy (labelBytes brokenName) "r\uFFFD2n\uFFFD".toList ∧
    deriveLabel ([dot, dot] ++ slash :: (brokenName ++ [slash, dot, slash])) = "r\uFFFD2n\uFFFD" ∧
    deriveLabel [dot, dot] = "" := by
  have named : BaseName (brokenName ++ [slash, dot, slash]) brokenName :=
    (baseName?_iff _ _).mp (by decide)
  have text : deriveLabel (brokenName ++ [slash, dot, slash]) = "r\uFFFD2n\uFFFD" := by
    decide +kernel
  have unnamed : ¬∃ name, BaseName [dot, dot] name := by
    rintro ⟨name, up⟩
    cases (baseName?_iff _ _).mpr up
  obtain ⟨lossy, _, below⟩ := (deriveLabel_bytes _).1 brokenName named
  rw [text] at lossy below
  exact ⟨named, (lossy _).mpr rfl, below [dot, dot], (deriveLabel_bytes _).2.1 unnamed⟩

end PlotTables
