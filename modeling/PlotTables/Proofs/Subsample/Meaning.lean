import PlotTables.Proofs.Subsample.Idempotence
import PlotTables.Proofs.Subsample.Identifiers

set_option autoImplicit false

namespace PlotTables

open Magnitude Binary64
open Table (withColumn withCell countColumn idColumn)

theorem normalizedIds_nearest (target i : Nat) (small : target < 2 ^ 53) (inside : i < target) :
    ∃ id, (normalizedIds target)[i]? = some (.finite false id) ∧
      IsNearest ((i + 1 : Nat) / target) id := by
  obtain ⟨id, there, share⟩ := normalizedIds_share target small.le i inside
  exact ⟨id, there, share.rounds.nearest⟩

theorem Sampled.cellUnder_id {t s : Table} {target column : Nat} {indices : List Nat}
    {counts : Nat → UInt64} (sampled : Sampled t s target column indices counts) (i : Nat)
    (id : Binary64) (inside : i < target) (numbered : (normalizedIds target)[i]? = some id) :
    s.cellUnder idColumn i = some (Layout.identifier.text id) := by
  obtain ⟨same, there, selected, row⟩ := sampled.row i inside
  rw [numbered] at there
  cases there
  obtain ⟨place, found⟩ := Table.withColumn_named t.headers idColumn
  rw [s.cellUnder_named idColumn place i (sampled.headers ▸ found), row, Option.bind_some,
    sampledRow_id t counts _ column _ selected sampled.named place found]

end PlotTables
