import PlotTables.Command.Help
import PlotTables.Files
import PlotTables.Merge
import PlotTables.Subsample
import PlotTables.Text.Quoted

set_option autoImplicit false

namespace PlotTables

/-- What a command asks of the system it runs on; a handle is a file opened for writing. -/
structure Host (m : Type → Type) (handle : Type) where
  files : m Reader
  -- What the file held before is gone once it is opened.
  create : String → m (Except FileFault handle)
  fill : handle → List UInt8 → m (Except FileFault Unit)
  print : String → m Unit
  note : String → m Unit

namespace Host

variable {m : Type → Type} [Monad m] {handle : Type}

def say (host : Host m handle) (line : String) : ExceptT Failure m Unit :=
  host.print (line ++ "\n")

def remark (host : Host m handle) (line : String) : ExceptT Failure m Unit :=
  host.note (line ++ "\n")

def reading {α : Type} (host : Host m handle) (load : Reader → Except Failure α) :
    ExceptT Failure m α := do
  liftExcept (load (← host.files))

def attempt {α : Type} (action : m (Except FileFault α)) : ExceptT Failure m α :=
  ExceptT.mk do return (← action).mapError Failure.file

def save (host : Host m handle) (path : String) (rows : Nat) (content : List UInt8) :
    ExceptT Failure m Unit := do
  host.remark s!"Writing {rows.repr} rows to {Text.quoted path}..."
  let opened ← attempt (host.create path)
  attempt (host.fill opened content)

end Host

section Perform

variable {m : Type → Type} [Monad m] {handle : Type}

-- The output is opened last, so it may be one of the inputs and no failure empties it.
def Command.perform (host : Host m handle) : Command → ExceptT Failure m Unit
  | .frequencies input target output marker format => do
      let format ← liftExcept (ReportFormat.parse format)
      host.remark s!"Extracting '{marker}' counts from {Text.quoted input}..."
      let counts ← host.reading fun files => Trace.load files (.withMarker marker) input
      let (series, report) ← liftExcept (subsampleCounts counts target)
      host.save output series.size series.write
      host.say (report.render format)
  | .subsample input target output format => do
      let format ← liftExcept (ReportFormat.parse format)
      host.remark s!"Loading table from {Text.quoted input}..."
      let table ← host.reading fun files => Table.load files input
      let (selected, report) ← liftExcept (subsampleTable table target)
      host.save output selected.rowCount selected.write
      host.say (report.render format)
  | .merge manifest output => do
      host.remark s!"Loading manifest from {Text.quoted manifest}..."
      -- Every listed file is read before anything is printed.
      let (merged, sources) ← host.reading fun files => Manifest.merge files manifest
      host.say s!"Total files: {sources.length.repr}"
      sources.forM fun source =>
        host.say s!"Total rows in {source.path}: {source.rows.repr} (label {source.label})"
      host.save output merged.size merged.write
  | .mergePair withPath withoutPath output => do
      let withTable ← host.reading fun files => Table.load files withPath
      host.say s!"Total rows with: {withTable.rowCount.repr}"
      let withoutTable ← host.reading fun files => Table.load files withoutPath
      host.say s!"Total rows without: {withoutTable.rowCount.repr}"
      let merged ← liftExcept (PlotTables.mergePair .standard withTable withoutTable)
      host.save output merged.size merged.write

end Perform

def Command.inputs : Command → List String
  | .frequencies input .. | .subsample input .. => [input]
  | .merge manifest _ => [manifest]
  | .mergePair withPath withoutPath _ => [withPath, withoutPath]

def Command.listedInputs (files : Reader) : Command → List String
  | .merge manifest _ => (Manifest.load files manifest).toOption.getD []
  | _ => []

def Command.output : Command → String
  | .frequencies _ _ output _ _ | .subsample _ _ output _ | .merge _ output
  | .mergePair _ _ output => output

structure World where
  files : FileSystem
  output : String
  notes : String
deriving DecidableEq

def World.host : Host (StateM World) Location where
  -- A file that could be opened can be filled.
  files := return (← get).files.reader
  create path := modifyGet fun world =>
    match world.files.create path with
    | .error fault => (.error fault, world)
    | .ok (location, opened) => (.ok location, { world with files := opened })
  fill location content := modifyGet fun world =>
    (.ok (), { world with files := world.files.fill location content })
  print text := modify fun world => { world with output := world.output ++ text }
  note text := modify fun world => { world with notes := world.notes ++ text }

abbrev Session := ExceptT Failure (StateM World)

structure Outcome where
  status : Nat
  output : String
  notes : String
deriving DecidableEq

def errorLine (failure : Failure) : String := s!"Error: {failure.message}\n"

def Command.run (command : Command) (fs : FileSystem) : Outcome × FileSystem :=
  match (command.perform World.host).run.run ⟨fs, "", ""⟩ with
  | (.error failure, world) => (⟨1, world.output, world.notes ++ errorLine failure⟩, world.files)
  | (.ok (), world) => (⟨0, world.output, world.notes⟩, world.files)

namespace Invocation

def versionText : String := "plotprep 0.1.0\n"

def execute (arguments : List String) (fs : FileSystem) : Outcome × FileSystem :=
  match parse? arguments with
  -- The text for no arguments at all; what else can be wrong is not told apart.
  | none => (⟨2, "", Topic.program.page.render⟩, fs)
  | some .version => (⟨0, versionText, ""⟩, fs)
  | some (.help topic) => (⟨0, topic.page.render, ""⟩, fs)
  | some (.run command) => command.run fs

end Invocation

end PlotTables
