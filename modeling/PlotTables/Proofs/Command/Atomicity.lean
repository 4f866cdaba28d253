import PlotTables.Proofs.Command.Delivery

set_option autoImplicit false

namespace PlotTables

/-- Nothing but one file differs, whether looked up by location or read by path. -/
structure ChangesOnly (location : Location) (before after : FileSystem) : Prop where
  working : after.working = before.working
  find? : ∀ other, other ≠ location → after.find? other = before.find? other
  reader : ∀ path opened, before.locate path ≠ .ok location →
    (after.reader path = .ok opened ↔ before.reader path = .ok opened)

theorem write_changesOnly (fs after : FileSystem) (path : String) (content : List UInt8)
    (written : fs.write path content = .ok after) :
    ∃ location, fs.locateOutput path = .ok location ∧ ChangesOnly location fs after := by
  obtain ⟨location, located, rfl⟩ := fs.write_ok after path content written
  obtain ⟨named, free⟩ := fs.locateOutput_ok path location located
  exact ⟨location, located, rfl, fun other => fs.find?_put_other location other _,
    fs.reader_put location content named free⟩

theorem run_atomic (command : Command) (fs : FileSystem) :
    ((command.run fs).1.status ≠ 0 ∧ (command.run fs).2 = fs) ∨
      ((command.run fs).1.status = 0 ∧ ∃ location,
        fs.locateOutput command.output = .ok location ∧
          ChangesOnly location fs (command.run fs).2) := by
  rcases run_delivers command fs with
    ⟨delivered, done⟩ | ⟨failure, before, refused, kept, status, notes⟩
  next =>
    obtain ⟨format, content, named, computed, wrote⟩ := (delivery_ok fs _ command).mp delivered
    exact .inr ⟨done, write_changesOnly fs _ command.output content wrote⟩
  next =>
    have failed : (command.run fs).1.status ≠ 0 := by simp [status]
    exact .inl ⟨failed, kept⟩

theorem execute_atomic (arguments : List String) (fs : FileSystem) :
    ((Invocation.execute arguments fs).1.status ≠ 0 → (Invocation.execute arguments fs).2 = fs) ∧
    ((Invocation.execute arguments fs).1.status = 0 →
      ((Invocation.parse? arguments = some .version ∨
          ∃ topic, Invocation.parse? arguments = some (.help topic)) ∧
        (Invocation.execute arguments fs).2 = fs) ∨
        ∃ command location, Invocation.parse? arguments = some (.run command) ∧
          fs.locateOutput command.output = .ok location ∧
          ChangesOnly location fs (Invocation.execute arguments fs).2) := by
  unfold Invocation.execute
  cases Invocation.parse? arguments with
  | none => exact ⟨fun _ => rfl, fun done => by cases done⟩
  | some invocation =>
    cases invocation with
    | version => exact ⟨fun _ => rfl, fun _ => .inl ⟨.inl rfl, rfl⟩⟩
    | help topic => exact ⟨fun _ => rfl, fun _ => .inl ⟨.inr ⟨topic, rfl⟩, rfl⟩⟩
    | run command =>
      rcases run_atomic command fs with ⟨fails, same⟩ | ⟨done, location, located, changes⟩
      · exact ⟨fun _ => same, fun done => absurd done fails⟩
      · exact ⟨fun fails => absurd done fails,
          fun _ => .inr ⟨command, location, rfl, located, changes⟩⟩

def unequalPair : FileSystem where
  entries :=
    [(["a"], .file (Utf8.encode "ID\tCount\n1.0\t4\n")),
      (["b"], .file (Utf8.encode "ID\tCount\n0.5\t4\n1.0\t5\n")),
      (["out"], .file (Utf8.encode "earlier"))]
  working := []

theorem execute_atomic_on_mismatch :
    (Invocation.execute ["merge-paired", "a", "b", "out"] unequalPair).1.status = 1 ∧
      (Invocation.execute ["merge-paired", "a", "b", "out"] unequalPair).2 = unequalPair := by
  have fails :
      (Invocation.execute ["merge-paired", "a", "b", "out"] unequalPair).1.status = 1 := by
    decide +kernel
  exact ⟨fails, (execute_atomic _ unequalPair).1 (by rw [fails]; decide)⟩

end PlotTables
