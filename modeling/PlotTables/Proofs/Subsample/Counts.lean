import PlotTables.Proofs.Sequence
import PlotTables.Proofs.Spacing
import PlotTables.Subsample

set_option autoImplicit false

namespace PlotTables

open Magnitude Binary64

theorem countOf_inside (counts : List UInt64) (position : Nat) (inside : position < counts.length) :
    countOf counts position = .ok (counts.getD position 0) := by
  simp [countOf, inside]

@[simp] theorem normalizedIds_length (target : Nat) : (normalizedIds target).length = target := by
  simp [normalizedIds]

theorem SampleSeries.counts_zip (ids : List Binary64) (counts : List UInt64)
    (same : counts.length = ids.length) :
    SampleSeries.counts ⟨ids.zipWith SamplePoint.mk counts⟩ = counts := by
  induction ids generalizing counts with
  | nil => simpa [SampleSeries.counts] using same
  | cons id rest ih =>
    cases counts with
    | nil => cases same
    | cons count others =>
      have tail := ih others (Nat.succ.inj same)
      simp only [SampleSeries.counts] at tail ⊢
      simp [tail]

theorem subsampleCounts_invalid (counts : List UInt64) (target : Nat)
    (invalid : target = 0 ∨ counts.length < target) :
    subsampleCounts counts target = .error (.invalidTarget target counts.length) := by
  rw [subsampleCounts, uniformIndices_invalid _ _ invalid]
  rfl

theorem subsampleCounts_selection (counts : List UInt64) (target : Nat) (indices : List Nat)
    (computed : uniformIndices counts.length target = .ok indices)
    (selection : StrictSelection counts.length target indices) (positive : 0 < counts.length) :
    subsampleCounts counts target =
      .ok (⟨(normalizedIds target).zipWith SamplePoint.mk (indices.map (counts.getD · 0))⟩,
        Report.ofIndices counts.length indices true) := by
  have selected : indices.mapM (countOf counts) = .ok (indices.map (counts.getD · 0)) := by
    apply mapM_ok
    intro index member
    exact countOf_inside counts index (selection.lt _ _ _ positive index member)
  have first : (counts.head? == (indices.map (counts.getD · 0)).head?) = true := by
    cases counts with
    | nil => cases positive
    | cons count rest => simp [List.head?_map, selection.first]
  rw [subsampleCounts, computed]
  simp only [bind, Except.bind, selected, first]
  rfl

theorem inner_unsaturated (available target i : Nat) (addressable : available < 2 ^ 64)
    (le : target ≤ available) (small : target ≤ 2 ^ 50) (indices : List Nat)
    (computed : uniformIndices available target = .ok indices) (inner : i < target - 1) :
    ∃ m, (ofNat i).mul (spacing available target) = .finite false m ∧
      indices[i]? = some (m.scaled / unit) ∧ m.scaled / unit < wordMax := by
  obtain ⟨_, m, _, _, product, _, whole, below⟩ :=
    spacedAt_exact available target addressable le small i inner
  rw [uniformIndices_valid available target (by omega) le, if_neg (by omega)] at computed
  cases computed
  rw [value, Nat.floor_div_eq_div] at whole
  refine ⟨m, product, ?_, ?_⟩
  · rw [List.getElem?_append_left (by simpa using inner)]
    simp [inner, whole]
  · rw [← whole]
    simp only [wordMax]
    omega

theorem uniformIndices_strict (available target : Nat) (addressable : available < 2 ^ 64) :
    (target = 0 ∨ available < target →
      uniformIndices available target = .error (.invalidTarget target available)) ∧
    (1 ≤ target → target ≤ available → target ≤ 2 ^ 50 → ∃ indices,
      uniformIndices available target = .ok indices ∧
      StrictSelection available target indices ∧
      (∀ i < target - 1, ∃ m, (ofNat i).mul (spacing available target) = .finite false m ∧
        indices[i]? = some (m.scaled / unit) ∧ m.scaled / unit < wordMax) ∧
      (∀ counts : List UInt64, counts.length = available → ∃ series report,
        subsampleCounts counts target = .ok (series, report) ∧
          series.counts.map some = indices.map fun index => counts[index]?) ∧
      ∀ first second rest matched, indices = first :: second :: rest →
        first + (Report.ofIndices available indices matched).interval = second) := by
  refine ⟨uniformIndices_invalid available target, ?_⟩
  intro positive le small
  obtain ⟨indices, computed, selection⟩ :=
    uniformIndices_selection available target addressable positive le small
  refine ⟨indices, computed, selection, ?_, ?_, ?_⟩
  · intro i inner
    exact inner_unsaturated available target i addressable le small indices computed inner
  · intro counts same
    subst same
    refine ⟨_, _, subsampleCounts_selection counts target indices computed selection (by omega), ?_⟩
    rw [SampleSeries.counts_zip _ _ (by simp [selection.length]), List.map_map]
    apply List.map_congr_left
    intro index member
    have inside := selection.inside index member
    simp [show index < counts.length by omega]
  · intro first second rest matched shape
    have less : first < second := by
      have increasing := selection.increasing
      rw [shape] at increasing
      exact List.rel_of_pairwise_cons increasing (by simp)
    simp only [Report.ofIndices, shape]
    omega

theorem uniformIndices_strict_at_word_size :
    2 ^ 64 - 1 < 2 ^ 64 ∧ ∃ indices, uniformIndices (2 ^ 64 - 1) (2 ^ 50) = .ok indices ∧
      StrictSelection (2 ^ 64 - 1) (2 ^ 50) indices := by
  obtain ⟨indices, computed, selection, _⟩ :=
    (uniformIndices_strict (2 ^ 64 - 1) (2 ^ 50) (by decide)).2 (by decide) (by decide) (by decide)
  exact ⟨by decide, indices, computed, selection⟩

end PlotTables
