import Mathlib.Control.Monad.Basic
import PlotTables.Proofs.Command.Session
import PlotTables.Proofs.Files.Frame
import PlotTables.Proofs.Sequence

set_option autoImplicit false

namespace PlotTables

namespace Command

def reportFormat : Command → Except Failure (Option ReportFormat)
  | .frequencies _ _ _ _ format | .subsample _ _ _ format => some <$> ReportFormat.parse format
  | .merge .. | .mergePair .. => .ok none

/-- The bytes a command has to write, computed from the files alone. -/
def result (files : Reader) : Command → Except Failure (List UInt8)
  | .frequencies input target _ marker _ => do
      let counts ← Trace.load files (.withMarker marker) input
      let (series, _) ← subsampleCounts counts target
      return series.write
  | .subsample input target _ _ => do
      let table ← Table.load files input
      let (selected, _) ← subsampleTable table target
      return selected.write
  | .merge manifest _ => do
      let (merged, _) ← Manifest.merge files manifest
      return merged.write
  | .mergePair withPath withoutPath _ => do
      let merged ← loadPair files withPath withoutPath
      return merged.write

/-- The files after a command, or what is found wrong first: its format, its inputs, its output. -/
def delivery (fs : FileSystem) (command : Command) : Except Failure FileSystem := do
  let _ ← command.reportFormat
  let content ← command.result fs.reader
  (fs.write command.output content).mapError .file

end Command

/-- From those files a session ends with the ones of the result, or fails like it and keeps them. -/
def Delivers {α : Type} (fs : FileSystem) (session : Session α)
    (result : Except Failure FileSystem) : Prop :=
  Meets (fun world => world.files = fs) session (fun _ world => result = .ok world.files)
    (fun failure world => result = .error failure ∧ world.files = fs)

def Quiet {α : Type} (fs : FileSystem) (session : Session α) : Prop :=
  Meets (fun world => world.files = fs) session (fun _ world => world.files = fs) fun _ _ => False

namespace Delivers

variable {α β : Type} {fs : FileSystem} {result : Except Failure FileSystem}

theorem lift {loaded : Except Failure α} {next : α → Session β}
    {rest : α → Except Failure FileSystem} (each : ∀ value, Delivers fs (next value) (rest value)) :
    Delivers fs (liftExcept loaded >>= next) (loaded >>= rest) := by
  cases loaded with
  | ok value => exact each value
  | error failure =>
    intro world same
    exact ⟨rfl, same⟩

theorem reading {load : Reader → Except Failure α} {next : α → Session β}
    {rest : α → Except Failure FileSystem} (each : ∀ value, Delivers fs (next value) (rest value)) :
    Delivers fs (World.host.reading load >>= next) (load fs.reader >>= rest) := by
  intro world same
  have lifted : Delivers fs (liftExcept (load fs.reader) >>= next) (load fs.reader >>= rest) :=
    lift each
  subst same
  exact lifted world rfl

theorem quiet {step : Session α} {next : α → Session β} (silent : Quiet fs step)
    (each : ∀ value, Delivers fs (next value) result) : Delivers fs (step >>= next) result := by
  intro world same
  have one := silent world same
  rw [ExceptT.run_bind, StateT.run_bind]
  revert one
  rcases step.run.run world with ⟨value, after⟩
  cases value with
  | ok value => exact each value after
  | error failure => exact False.elim

theorem save (path : String) (rows : Nat) (content : List UInt8) :
    Delivers fs (World.host.save path rows content)
      ((fs.write path content).mapError Failure.file) := by
  apply (Meets.save fs path rows content).weaken
  next =>
    intro _ world wrote
    rw [wrote]
    rfl
  next =>
    intro failure world refused
    obtain ⟨⟨fault, created, named⟩, same⟩ := refused
    refine ⟨?_, same⟩
    rw [FileSystem.write, created, named]
    rfl

theorem said {session : Session α} {line : String} (delivers : Delivers fs session result) :
    Delivers fs (session >>= fun _ => World.host.say line) result :=
  Meets.bind delivers fun _ => Meets.say (fun files => result = .ok files) line

end Delivers

theorem quiet_say (fs : FileSystem) (line : String) : Quiet fs (World.host.say line) :=
  Meets.say (fun files => files = fs) line

theorem quiet_remark (fs : FileSystem) (line : String) : Quiet fs (World.host.remark line) :=
  Meets.remark (fun files => files = fs) line

theorem perform_delivers (fs : FileSystem) (command : Command) :
    Delivers fs (command.perform World.host) (command.delivery fs) := by
  -- Both sides become one chain of steps; those that only print have nothing beside them.
  cases command with
  | frequencies input target output marker format =>
    simp only [Command.delivery, Command.reportFormat, Command.result, bind_assoc, pure_bind,
      bind_map_left]
    apply Delivers.lift
    intro parsed
    apply Delivers.quiet (quiet_remark fs _)
    intro _
    apply Delivers.reading
    intro counts
    apply Delivers.lift
    intro sampled
    exact (Delivers.save _ _ _).said
  | subsample input target output format =>
    simp only [Command.delivery, Command.reportFormat, Command.result, bind_assoc, pure_bind,
      bind_map_left]
    apply Delivers.lift
    intro parsed
    apply Delivers.quiet (quiet_remark fs _)
    intro _
    apply Delivers.reading
    intro table
    apply Delivers.lift
    intro sampled
    exact (Delivers.save _ _ _).said
  | merge manifest output =>
    simp only [Command.delivery, Command.reportFormat, Command.result, bind_assoc, pure_bind]
    apply Delivers.quiet (quiet_remark fs _)
    intro _
    apply Delivers.reading
    intro merged
    apply Delivers.quiet (quiet_say fs _)
    intro _
    apply Delivers.quiet (Meets.forM fun source => quiet_say fs _)
    intro _
    exact Delivers.save _ _ _
  | mergePair withPath withoutPath output =>
    simp only [Command.delivery, Command.reportFormat, Command.result, loadPair, bind_assoc,
      pure_bind]
    apply Delivers.reading
    intro withTable
    apply Delivers.quiet (quiet_say fs _)
    intro _
    apply Delivers.reading
    intro withoutTable
    apply Delivers.quiet (quiet_say fs _)
    intro _
    apply Delivers.lift
    intro merged
    exact Delivers.save _ _ _

theorem run_delivers (command : Command) (fs : FileSystem) :
    (command.delivery fs = .ok (command.run fs).2 ∧ (command.run fs).1.status = 0) ∨
      ∃ failure before, command.delivery fs = .error failure ∧ (command.run fs).2 = fs ∧
        (command.run fs).1.status = 1 ∧
        (command.run fs).1.notes = before ++ errorLine failure := by
  have delivers := perform_delivers fs command ⟨fs, "", ""⟩ rfl
  unfold Command.run
  revert delivers
  rcases (command.perform World.host).run.run ⟨fs, "", ""⟩ with ⟨result, world⟩
  cases result with
  | ok _ => exact fun delivered => .inl ⟨delivered, rfl⟩
  | error failure =>
    rintro ⟨refused, kept⟩
    exact .inr ⟨failure, world.notes, refused, kept, rfl, rfl⟩

theorem delivery_ok (fs after : FileSystem) (command : Command) :
    command.delivery fs = .ok after ↔ ∃ format content, command.reportFormat = .ok format ∧
      command.result fs.reader = .ok content ∧ fs.write command.output content = .ok after := by
  simp [Command.delivery]

theorem execute_refines (arguments : List String) (fs : FileSystem) (command : Command)
    (parsed : Invocation.parse? arguments = some (.run command)) :
    ∃ outcome after, Invocation.execute arguments fs = (outcome, after) ∧
      (outcome.status = 0 ↔ (∃ format, command.reportFormat = .ok format) ∧
        (∃ content, command.result fs.reader = .ok content) ∧
        ∃ opened, fs.create command.output = .ok opened) ∧
      (outcome.status = 0 → ∃ content, command.result fs.reader = .ok content ∧
        after.reader command.output = .ok (.readable content)) ∧
      (outcome.status ≠ 0 → outcome.status = 1 ∧ ∃ failure before,
        command.delivery fs = .error failure ∧
          outcome.notes = before ++ ("Error: " ++ failure.message ++ "\n")) := by
  refine ⟨(command.run fs).1, (command.run fs).2, by rw [Invocation.execute, parsed], ?_⟩
  rcases run_delivers command fs with
    ⟨delivered, done⟩ | ⟨failure, before, refused, _, status, notes⟩
  next =>
    obtain ⟨format, content, named, computed, wrote⟩ := (delivery_ok fs _ command).mp delivered
    have opened := (fs.write_isOk command.output content).mp ⟨_, wrote⟩
    refine ⟨?_, ?_, fun failed => absurd done failed⟩
    · exact ⟨fun _ => ⟨⟨format, named⟩, ⟨content, computed⟩, opened⟩, fun _ => done⟩
    · exact fun _ => ⟨content, computed, fs.reader_write _ command.output content wrote⟩
  next =>
    have failed : (command.run fs).1.status ≠ 0 := by simp [status]
    refine ⟨?_, fun done => absurd done failed, fun _ => ⟨status, failure, before, refused, notes⟩⟩
    constructor
    · exact fun done => absurd done failed
    · intro fine
      obtain ⟨⟨format, named⟩, ⟨content, computed⟩, opens⟩ := fine
      obtain ⟨after, wrote⟩ := (fs.write_isOk command.output content).mpr opens
      have delivered := (delivery_ok fs after command).mpr ⟨format, content, named, computed, wrote⟩
      rw [delivered] at refused
      cases refused

def selfListed : FileSystem where
  entries :=
    [(["list"], .file (Utf8.encode "File\na\nb_1\n")),
      (["a"], .file (Utf8.encode "ID\tCount\n1.0\t4\n")),
      (["b_1"], .file (Utf8.encode "Count\tID\n5.0\t0.5\n"))]
  working := []

theorem execute_refines_into_its_input :
    ∃ outcome after, Invocation.execute ["merge", "list", "a"] selfListed = (outcome, after) ∧
      outcome.status = 0 ∧
      after.reader "a" =
        .ok (.readable (Utf8.encode "ID\tType\tCount\n1.0\ta\t4\n0.5\tb\t5\n")) := by
  have parsed : Invocation.parse? ["merge", "list", "a"] = some (.run (.merge "list" "a")) := by
    decide
  obtain ⟨outcome, after, ran, ends, holds, _⟩ := execute_refines _ selfListed _ parsed
  have computed : Command.result selfListed.reader (.merge "list" "a") =
      .ok (Utf8.encode "ID\tType\tCount\n1.0\ta\t4\n0.5\tb\t5\n") := by
    decide +kernel
  have opens : ∃ opened, selfListed.create "a" = .ok opened := ⟨_, rfl⟩
  have done := ends.mpr ⟨⟨none, rfl⟩, ⟨_, computed⟩, opens⟩
  obtain ⟨content, same, read⟩ := holds done
  rw [computed] at same
  cases same
  exact ⟨outcome, after, ran, done, read⟩

end PlotTables
