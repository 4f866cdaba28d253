import PlotTables.Command.Run

set_option autoImplicit false

namespace PlotTables.Main

def faultOfCode (code : UInt32) (details : String) : FileFault :=
  if code = 20 then .notADirectory
  else if code = 21 then .isADirectory
  else if code = 36 then .nameTooLong
  else .other code.toNat details

def faultOf : IO.Error → FileFault
  | .noFileOrDirectory _ _ _ => .noSuchFile
  | .inappropriateType _ code details | .permissionDenied _ code details
  | .resourceExhausted _ code details | .invalidArgument _ code details
  | .otherError code details => faultOfCode code details
  | error => .other 0 error.toString

def openHandle (path : String) (mode : IO.FS.Mode) : IO (Except FileFault IO.FS.Handle) := do
  match pathFault? path with
  | some fault => return .error fault
  | none => return (← (IO.FS.Handle.mk path mode).toBaseIO).mapError faultOf

def openFile (path : String) : IO (Except FileFault Opened) := do
  match ← openHandle path .read with
  | .error fault => return .error fault
  | .ok handle =>
      match ← handle.readBinToEnd.toBaseIO with
      | .error error => return .ok (.unreadable (faultOf error))
      | .ok content => return .ok (.readable content.data.toList)

def gather (paths : List String) (other : Reader) : IO Reader := do
  let opened ← paths.mapM fun path => return (path, ← openFile path)
  return fun path => (opened.lookup path).getD (other path)

def host (inputs : Reader) : Host IO IO.FS.Handle where
  files := return inputs
  create path := openHandle path .write
  fill handle content := do
    return (← (handle.write ⟨content.toArray⟩).toBaseIO).mapError faultOf
  print text := do (← IO.getStdout).putStr text
  note text := do (← IO.getStderr).putStr text

def runCommand (command : Command) : IO UInt32 := do
  let inputs ← gather command.inputs fun _ => .error .noSuchFile
  let files ← gather (command.listedInputs inputs) inputs
  match ← (command.perform (host files)).run with
  | .error failure =>
      (← IO.getStderr).putStr (errorLine failure)
      return 1
  | .ok () => return 0

def runInvocation (arguments : List String) : IO UInt32 :=
  match Invocation.parse? arguments with
  | none => do
      (← IO.getStderr).putStr Topic.program.page.render
      return 2
  | some .version => do
      (← IO.getStdout).putStr Invocation.versionText
      return 0
  | some (.help topic) => do
      (← IO.getStdout).putStr topic.page.render
      return 0
  | some (.run command) => runCommand command

end PlotTables.Main

def main (arguments : List String) : IO UInt32 := PlotTables.Main.runInvocation arguments
