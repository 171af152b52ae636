import TagInventory.Bench

/-!
# Devices on a bench

A bench stands for the serial devices of a machine.  Behind the path of one there is a
scripted reader; nearly every other path can only fail to be opened, in the way in which what
is there makes it fail.  Opening a device drops what the reader had sent before.

What is behind the paths of a machine is its `FileTree`.  A path is walked name by name, from the
root or from the working directory, through the directories of the tree.
-/

namespace TagInventory

/-- What is behind a path. -/
inductive Device
  /-- A serial line with a reader at its far end. -/
  | serial (reader : ScriptedReader)
  | directory
  /-- Something that is no terminal. -/
  | other
  | absent
  /-- A name follows something that is no directory. -/
  | blocked
  | tooLong
  /-- The path holds the character that no name may hold. -/
  | misnamed
  /-- A terminal that nobody holds. -/
  | unattached
  deriving DecidableEq, Repr

/-- The names of a path, from the root on. -/
abbrev Location := List String

/-- The places that the paths of a machine lead to. -/
structure FileTree where
  directories : List Location
  /-- Names that stand for another place. -/
  links : List (Location × Location)
  /-- What is at places that are no directories. -/
  devices : List (Location × Device)
  /-- Where relative paths begin. -/
  workingDirectory : Location
  deriving DecidableEq, Repr

namespace FileTree

/-- The tree of a machine with no files of its own.  Nobody answers at a new terminal. -/
def bare : FileTree where
  directories := [[], ["dev"]]
  links := []
  devices :=
    [(["dev", "null"], .other), (["dev", "tty"], .unattached),
     (["dev", "ptmx"], .serial (.ofReplies []))]
  workingDirectory := []

/-- A name has fewer bytes than this. -/
def nameLimit : Nat := 256

def pathLimit : Nat := 4096

/-- What is at a place outside the directories. -/
def atPlace (tree : FileTree) (location : Location) : Device :=
  (tree.devices.lookup location).getD .absent

/-- Walks from a directory along the names that are left of a path. -/
def walk (tree : FileTree) (location : Location) : List String → Device
  | [] => .directory
  | name :: rest =>
    if name = "" ∨ name = "." then tree.walk location rest
    else if name = ".." then tree.walk location.dropLast rest
    else if nameLimit ≤ name.utf8ByteSize then .tooLong
    else
      let there := (tree.links.lookup (location ++ [name])).getD (location ++ [name])
      if there ∈ tree.directories then tree.walk there rest
      else if rest = [] ∨ tree.atPlace there = .absent then tree.atPlace there
      else .blocked

/-- What is behind a path of a machine. -/
def deviceAt (tree : FileTree) (path : String) : Device :=
  if path = "" then .absent
  else if path.contains '\x00' then .misnamed
  else if pathLimit ≤ path.utf8ByteSize then .tooLong
  else tree.walk (if path.startsWith "/" then [] else tree.workingDirectory) (path.splitOn "/")

end FileTree

namespace Device

/-- What is behind a path of a bare machine. -/
def ofPath (path : String) : Device := FileTree.bare.deviceAt path

/-- The reader behind a device that was opened, or why there is none. -/
def opened : Device → Except Failure ScriptedReader
  | .serial reader => .ok { reader with line := [] }
  | .directory => .error (.serialLine "Is a directory")
  | .other => .error (.serialLine "Not a typewriter")
  | .absent => .error (.serialLine "No such file or directory")
  | .blocked => .error (.serialLine "Not a directory")
  | .tooLong => .error (.serialLine "File name too long")
  | .misnamed => .error (.serialLine "Invalid argument")
  | .unattached => .error (.serialLine "No such device or address")

end Device

namespace Bench

def tryOpen (path : String) (device : Device) (config : EngineConfig) : Except Failure Bench :=
  device.opened.map fun reader =>
    (((initial config true reader).note (.noted (.deviceOpened path config.baudRate))).operate
      .connect).2

/-- Connects an engine to a device.  Without one the engine has no link. -/
def openOrIdle (path : String) (device : Device) (config : EngineConfig) : Bench :=
  match tryOpen path device config with
  | .ok bench => bench
  | .error failure =>
    (((initial config false (.ofReplies [])).note (.noted (.openFailed path failure))).operate
      .connect).2

end Bench

end TagInventory
