import PlotTables.Failure
import PlotTables.Text.Basic

set_option autoImplicit false

namespace PlotTables

/-- What opening a path yields; a directory can be opened but not read. -/
inductive Opened where
  | readable (content : List UInt8)
  | unreadable (fault : FileFault)
deriving DecidableEq

abbrev Reader := String → Except FileFault Opened

inductive Node where
  | file (content : List UInt8)
  | directory
deriving DecidableEq

abbrev Location := List String

structure FileSystem where
  entries : List (Location × Node)
  working : Location
deriving DecidableEq

-- The longest a name in a directory can be, and a path with the byte that ends it, in bytes.
def nameLimit : Nat := 255
def pathLimit : Nat := 4096

def isTooLong (name : String) : Bool := nameLimit < (Utf8.encode name).length

def pathFault? (path : String) : Option FileFault :=
  if path.toList.contains '\x00' then some .nulInName
  else if path = "" then some .noSuchFile
  else if pathLimit ≤ (Utf8.encode path).length then some .nameTooLong
  else none

namespace FileSystem

def find? (fs : FileSystem) (location : Location) : Option Node :=
  -- The root is a directory without an entry of its own.
  if location = [] then some .directory else fs.entries.lookup location

def put (fs : FileSystem) (location : Location) (node : Node) : FileSystem :=
  { fs with entries := (location, node) :: fs.entries.filter fun entry => entry.1 != location }

def pathParts (path : String) : List String := (splitAll '/' path.toList).map String.ofList

def base (fs : FileSystem) (path : String) : Location :=
  -- An absolute path has an empty first part.
  if path.toList.head? = some '/' then [] else fs.working

def step (fs : FileSystem) (location : Location) (part : String) : Except FileFault Location :=
  match fs.find? location with
  | none => .error .noSuchFile
  | some (.file _) => .error .notADirectory
  | some .directory =>
      if part = "" ∨ part = "." then .ok location
      else if part = ".." then .ok location.dropLast
      else if isTooLong part then .error .nameTooLong
      else .ok (location ++ [part])

def locate (fs : FileSystem) (path : String) : Except FileFault Location :=
  match pathFault? path with
  | some fault => .error fault
  | none => (pathParts path).foldlM fs.step (fs.base path)

def reader (fs : FileSystem) : Reader := fun path =>
  match fs.locate path with
  | .error fault => .error fault
  | .ok location =>
      match fs.find? location with
      | none => .error .noSuchFile
      | some .directory => .ok (.unreadable .isADirectory)
      | some (.file content) => .ok (.readable content)

def splitName? (path : String) : Option (List String × String) :=
  match (pathParts path).reverse.dropWhile fun part => part = "" with
  | [] => none
  | name :: before => some (before.reverse, name)

/-- Where a file of that name would be written: a new name in a directory, or a file there is. -/
def place (fs : FileSystem) (parent : Location) (name : String) (closed : Bool) :
    Except FileFault Location :=
  match fs.find? parent with
  | none => .error .noSuchFile
  | some (.file _) => .error .notADirectory
  | some .directory =>
      let location := parent ++ [name]
      -- The name is looked up only after it is known to ask for a file.
      if closed ∨ name = "." ∨ name = ".." then .error .isADirectory
      else if isTooLong name then .error .nameTooLong
      else if fs.find? location = some .directory then .error .isADirectory
      else .ok location

def locateOutput (fs : FileSystem) (path : String) : Except FileFault Location :=
  match pathFault? path with
  | some fault => .error fault
  | none =>
      match splitName? path with
      | none => .error .isADirectory
      | some (before, name) => do
          let parent ← before.foldlM fs.step (fs.base path)
          -- A path that ends in a slash asks for a directory.
          fs.place parent name ((pathParts path).getLast? = some "")

def create (fs : FileSystem) (path : String) : Except FileFault (Location × FileSystem) :=
  (fs.locateOutput path).map fun location => (location, fs.put location (.file []))

def fill (fs : FileSystem) (location : Location) (content : List UInt8) : FileSystem :=
  fs.put location (.file content)

def write (fs : FileSystem) (path : String) (content : List UInt8) :
    Except FileFault FileSystem :=
  (fs.create path).map fun (location, opened) => opened.fill location content

end FileSystem

end PlotTables
