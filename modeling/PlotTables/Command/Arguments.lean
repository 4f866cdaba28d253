import PlotTables.Count
import PlotTables.Report.Basic
import PlotTables.Trace

set_option autoImplicit false

namespace PlotTables

inductive Command where
  | frequencies (input : String) (target : Nat) (output marker format : String)
  | subsample (input : String) (target : Nat) (output format : String)
  | merge (manifest output : String)
  | mergePair (withPath withoutPath output : String)
deriving DecidableEq

inductive Verb where
  | frequencies
  | subsample
  | merge
  | mergePair
deriving DecidableEq

def Verb.all : List Verb := [.frequencies, .subsample, .merge, .mergePair]

def Verb.name : Verb → String
  | .frequencies => "freq"
  | .subsample => "subsample"
  | .merge => "merge"
  | .mergePair => "merge-paired"

def Verb.ofName? (name : String) : Option Verb := Verb.all.find? fun verb => verb.name == name

inductive Topic where
  | program
  | command (verb : Verb)
  | help
deriving DecidableEq

inductive Invocation where
  | version
  | help (topic : Topic)
  | run (command : Command)
deriving DecidableEq

namespace Arguments

inductive Flag where
  | marker
  | format
deriving DecidableEq

def Flag.name : Flag → String
  | .marker => "marker"
  | .format => "format"

def Flag.default : Flag → String
  | .marker => TraceFormat.standard.marker
  | .format => "text"

inductive Kind where
  | path
  | number

inductive Value where
  | path (path : String)
  | number (n : Nat)

def Kind.read? (operand : String) : Kind → Option Value
  | .path => if operand = "" then none else some (.path operand)
  | .number => (Count.readWord? operand.toList).map fun n => .number n.toNat

structure Operand where
  name : String
  kind : Kind
  meaning : String

def operandsOf : Verb → List Operand
  | .frequencies =>
      [⟨"INPUT", .path, "Path to the `;`-delimited input"⟩,
        ⟨"TARGET", .number, "Number of rows to keep"⟩,
        ⟨"OUTPUT", .path, "Output path for the `ID\\tCount` TSV"⟩]
  | .subsample =>
      [⟨"INPUT", .path, "Path to the input TSV"⟩,
        ⟨"TARGET", .number, "Number of rows to keep"⟩,
        ⟨"OUTPUT", .path, "Output path for the subsampled TSV"⟩]
  | .merge =>
      [⟨"MANIFEST", .path, "Path to the manifest TSV (header, then one file per row)"⟩,
        ⟨"OUTPUT", .path, "Output path for the `ID\\tType\\tCount` TSV"⟩]
  | .mergePair =>
      [⟨"WITH", .path, "Table for the \"With\" rows"⟩,
        ⟨"WITHOUT", .path, "Table for the \"Without\" rows"⟩,
        ⟨"OUTPUT", .path, "Output path for the `ID\\tType\\tCount` TSV"⟩]

def flagsOf : Verb → List Flag
  | .frequencies => [.marker, .format]
  | .subsample => [.format]
  | .merge | .mergePair => []

/-- What an argument is by itself; an option may need the argument after it. -/
inductive Token where
  | operand
  | endOfOptions
  | option (flag : Flag) (value : Option String)
  | help
  | unknown

def splitValue (text : List Char) : List Char × Option String :=
  let name := text.takeWhile fun c => c != '='
  match text.dropWhile fun c => c != '=' with
  | [] => (name, none)
  | _ :: value => (name, some (String.ofList value))

def classify (argument : String) : Token :=
  match argument.toList with
  | ['-', '-'] => .endOfOptions
  | '-' :: '-' :: long =>
      let (name, value) := splitValue long
      if name = Flag.format.name.toList then .option .format value
      else if name = Flag.marker.name.toList then .option .marker value
      else if name = "help".toList ∧ value = none then .help
      else .unknown
  -- What stands after the letter is not looked at.
  | '-' :: 'h' :: _ => .help
  | ['-', 'f'] => .option .format none
  | '-' :: 'f' :: '=' :: value => .option .format (some (String.ofList value))
  | '-' :: 'f' :: value => .option .format (some (String.ofList value))
  | '-' :: _ :: _ => .unknown
  | _ => .operand

def isValue (argument : String) : Bool :=
  -- A lone hyphen is no option.
  match classify argument with
  | .operand => true
  | _ => false

/-- What has been given to a command: its first operands, and at most one value for each option. -/
structure Given where
  operands : List Value
  values : List (Flag × String)

namespace Given

def operand? (verb : Verb) (given : Given) (operand : String) : Option Given := do
  let declared ← (operandsOf verb)[given.operands.length]?
  return { given with operands := given.operands ++ [← declared.kind.read? operand] }

def option? (verb : Verb) (given : Given) (flag : Flag) (value : String) : Option Given :=
  if (flagsOf verb).contains flag ∧ given.values.lookup flag = none then
    some { given with values := (flag, value) :: given.values }
  else none

def value (given : Given) (flag : Flag) : String := (given.values.lookup flag).getD flag.default

def command? (given : Given) : Verb → Option Command
  | .frequencies =>
      match given.operands with
      | [.path input, .number target, .path output] =>
          some (.frequencies input target output (given.value .marker) (given.value .format))
      | _ => none
  | .subsample =>
      match given.operands with
      | [.path input, .number target, .path output] =>
          some (.subsample input target output (given.value .format))
      | _ => none
  | .merge =>
      match given.operands with
      | [.path manifest, .path output] => some (.merge manifest output)
      | _ => none
  | .mergePair =>
      match given.operands with
      | [.path withPath, .path withoutPath, .path output] =>
          some (.mergePair withPath withoutPath output)
      | _ => none

end Given

-- What is wrong before a request for help prevails, nothing after it does.
def read? (verb : Verb) (given : Given) : List String → Option Invocation
  | [] => (given.command? verb).map .run
  | argument :: rest =>
      match classify argument with
      | .help => some (.help (.command verb))
      | .unknown => none
      | .operand => (given.operand? verb argument).bind fun more => read? verb more rest
      | .endOfOptions =>
          (rest.foldlM (Given.operand? verb) given).bind fun all => (all.command? verb).map .run
      | .option flag (some value) =>
          (given.option? verb flag value).bind fun more => read? verb more rest
      | .option flag none =>
          match rest with
          | value :: later =>
              if isValue value then
                (given.option? verb flag value).bind fun more => read? verb more later
              else none
          | [] => none

def topic? : List String → Option Topic
  | [] => some .program
  | [name] => if name = "help" then some .help else (Verb.ofName? name).map .command
  | _ => none

def asksVersion (argument : String) : Bool :=
  argument == "--version" || ['-', 'V'].isPrefixOf argument.toList

def asksHelp (argument : String) : Bool :=
  match classify argument with
  | .help => true
  | _ => false

end Arguments

def Invocation.parse? : List String → Option Invocation
  | [] => none
  | name :: rest =>
      if Arguments.asksVersion name then some .version
      else if Arguments.asksHelp name then some (.help .program)
      else if name = "help" then (Arguments.topic? rest).map .help
      else (Verb.ofName? name).bind fun verb => Arguments.read? verb ⟨[], []⟩ rest

end PlotTables
