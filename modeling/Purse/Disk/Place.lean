import Purse.Disk.Basic
import Purse.Disk.Path

/-!
# Places

A path is followed step by step. It leads to a directory, if it ends in dots, or else to a name in a
directory, whether or not something has that name.
-/

namespace Purse

/-- What the last step of a path leads to. -/
inductive Place where
  /-- A directory that is there, which dots lead to. -/
  | directory (location : Location)
  /-- A name in a directory that is there. -/
  | entry (parent : Location) (name : String)
  deriving DecidableEq

namespace Disk

/-- The greatest length of a path in bytes. -/
def maxPathLength : Nat := 4095

/-- The greatest length of a name in bytes. -/
def maxNameLength : Nat := 255

/-- The location of a name in a directory, which has none for a name that is too long. -/
def child (parent : Location) (name : String) : Except DiskFault Location :=
  if maxNameLength < name.utf8ByteSize then .error .nameTooLong else .ok (parent ++ [name])

/-- The location that one step leads to. Two dots lead upwards, but not above the root. -/
def follow (location : Location) (step : String) : Location :=
  if step = "." then location
  else if step = ".." then location.dropLast
  else location ++ [step]

/-- Walks from a location, which has to be a directory as long as steps are left. -/
def walk (disk : Disk) (location : Location) : List String → Except DiskFault Place
  | [] => .ok (.directory location)
  | step :: rest =>
      match disk.node? location with
      | none => .error .notFound
      | some (.file _) => .error .notDirectory
      | some .directory =>
          if step = "." ∨ step = ".." then walk disk (follow location step) rest
          else if rest.isEmpty then .ok (.entry location step)
          else
            match child location step with
            | .error fault => .error fault
            | .ok location => walk disk location rest

/-- Where a walk ends, whether or not something is there. -/
def reach (disk : Disk) (location : Location) (steps : List String) :
    Except DiskFault Location :=
  match disk.walk location steps with
  | .error fault => .error fault
  | .ok (.directory location) => .ok location
  | .ok (.entry parent name) => child parent name

/-- Where the walk along a path starts. -/
def start (disk : Disk) (path : Path) : Location :=
  if path.isAbsolute then [] else disk.workingDirectory

/-- Why a path leads nowhere on any disk, if it does not. -/
def refusal? (path : Path) : Option DiskFault :=
  if path.hasNul then some .nulInPath
  else if path.text.isEmpty then some .notFound
  else if maxPathLength < path.text.utf8ByteSize then some .nameTooLong
  else none

/-- What a path leads to. -/
def resolve (disk : Disk) (path : Path) : Except DiskFault Place :=
  match refusal? path with
  | some fault => .error fault
  | none => disk.walk (disk.start path) path.steps

/-- Where a path leads, whether or not something is there. -/
def locate (disk : Disk) (path : Path) : Except DiskFault Location :=
  match refusal? path with
  | some fault => .error fault
  | none => disk.reach (disk.start path) path.steps

/-- The node that a path names. If the path ends in a slash, it has to be a directory. -/
def find (disk : Disk) (path : Path) : Except DiskFault Node :=
  match disk.locate path with
  | .error fault => .error fault
  | .ok location =>
      match disk.node? location with
      | none => .error .notFound
      | some .directory => .ok .directory
      | some (.file contents) =>
          if path.endsInSlash then .error .notDirectory else .ok (.file contents)

def contains (disk : Disk) (path : Path) : Bool :=
  match disk.find path with
  | .error _ => false
  | .ok _ => true

end Disk

end Purse
