import PlotTables.Command.Run

set_option autoImplicit false

namespace PlotTables

/-- Started where `before` holds, the session is done where `done` holds or fails where `failed` does. -/
def Meets {α : Type} (before : World → Prop) (session : Session α) (done : α → World → Prop)
    (failed : Failure → World → Prop) : Prop :=
  ∀ world, before world →
    match session.run.run world with
    | (.ok value, after) => done value after
    | (.error failure, after) => failed failure after

namespace Meets

variable {α β : Type} {before : World → Prop} {failed : Failure → World → Prop}

theorem pure (value : α) : Meets before (Pure.pure value) (fun _ => before) failed :=
  fun _ known => known

theorem bind {session : Session α} {next : α → Session β} {middle : α → World → Prop}
    {done : β → World → Prop} (first : Meets before session middle failed)
    (rest : ∀ value, Meets (middle value) (next value) done failed) :
    Meets before (session >>= next) done failed := by
  intro world known
  have one := first world known
  rw [ExceptT.run_bind, StateT.run_bind]
  revert one
  rcases session.run.run world with ⟨result, after⟩
  cases result with
  | ok value => exact rest value after
  | error failure => exact id

theorem weaken {session : Session α} {done other : α → World → Prop}
    {refused : Failure → World → Prop} (meets : Meets before session done failed)
    (implies : ∀ value world, done value world → other value world)
    (fails : ∀ failure world, failed failure world → refused failure world) :
    Meets before session other refused := by
  intro world holds
  have one := meets world holds
  revert one
  rcases session.run.run world with ⟨result, after⟩
  cases result with
  | ok value => exact implies value after
  | error failure => exact fails failure after

theorem forM {items : List α} {step : α → Session Unit}
    (each : ∀ item, Meets before (step item) (fun _ => before) failed) :
    Meets before (items.forM step) (fun _ => before) failed := by
  induction items with
  | nil => exact pure ()
  | cons item rest ih => exact bind (each item) fun _ => ih

section Known

variable (known : FileSystem → Prop)

theorem say (line : String) :
    Meets (fun world => known world.files) (World.host.say line)
      (fun _ world => known world.files) failed :=
  fun _ holds => holds

theorem remark (line : String) :
    Meets (fun world => known world.files) (World.host.remark line)
      (fun _ world => known world.files) failed :=
  fun _ holds => holds

end Known

theorem create (fs : FileSystem) (path : String) :
    Meets (fun world => world.files = fs) (Host.attempt (World.host.create path))
      (fun location world => fs.create path = .ok (location, world.files))
      (fun failure world => (∃ fault, fs.create path = .error fault ∧ failure = .file fault) ∧
        world.files = fs) := by
  rintro ⟨files, output, notes⟩ rfl
  cases created : files.create path with
  | error fault =>
    simp only [Host.attempt, World.host, StateT.run_modifyGet, ExceptT.run_mk, StateT.run_bind, created]
    exact ⟨⟨fault, rfl, rfl⟩, rfl⟩
  | ok place =>
    simp only [Host.attempt, World.host, StateT.run_modifyGet, ExceptT.run_mk, StateT.run_bind, created]
    rfl

theorem save (fs : FileSystem) (path : String) (rows : Nat) (content : List UInt8) :
    Meets (fun world => world.files = fs) (World.host.save path rows content)
      (fun _ world => fs.write path content = .ok world.files)
      (fun failure world => (∃ fault, fs.create path = .error fault ∧ failure = .file fault) ∧
        world.files = fs) := by
  apply bind (remark (fun files => files = fs) _)
  intro _
  -- Opening is the only step here that can fail, and then the file is not emptied.
  apply bind (create fs path)
  rintro location ⟨opened, output, notes⟩ created
  simp only [] at created
  rw [FileSystem.write, created]
  rfl

end Meets

end PlotTables
