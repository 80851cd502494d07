/-!
# Disks

A disk is a tree of files and directories, kept as the list of its nodes by location, and the
directory that relative paths start from. Writing a file takes steps that may be interrupted: the
disk holds the faults still to come, one entry for each such step, and runs without fault after
the last entry.
-/

namespace Purse

/-- Why a step is refused. -/
inductive DiskFault where
  | notFound
  | inputOutput
  | busy
  | alreadyExists
  | notDirectory
  | isDirectory
  | noSpace
  | nameTooLong
  | nulInPath
  deriving DecidableEq

def DiskFault.message : DiskFault → String
  | .notFound => "No such file or directory (os error 2)"
  | .inputOutput => "Input/output error (os error 5)"
  | .busy => "Device or resource busy (os error 16)"
  | .alreadyExists => "File exists (os error 17)"
  | .notDirectory => "Not a directory (os error 20)"
  | .isDirectory => "Is a directory (os error 21)"
  | .noSpace => "No space left on device (os error 28)"
  | .nameTooLong => "File name too long (os error 36)"
  | .nulInPath => "file name contained an unexpected NUL byte"

/-- The names on the way from the root. -/
abbrev Location := List String

inductive Node where
  | file (contents : ByteArray)
  | directory

instance : DecidableEq Node
  | .file a, .file b =>
      match ByteArray.instDecidableEq a b with
      | .isTrue heq => .isTrue (congrArg Node.file heq)
      | .isFalse hne => .isFalse fun heq => hne (Node.file.inj heq)
  | .file _, .directory => .isFalse nofun
  | .directory, .file _ => .isFalse nofun
  | .directory, .directory => .isTrue rfl

structure Disk where
  nodes : List (Location × Node)
  workingDirectory : Location
  /-- What the next steps of writing meet, first step first. -/
  faults : List (Option DiskFault)

namespace Disk

/-- A disk with nothing on it but the working directory. -/
def empty (workingDirectory : Location) : Disk :=
  ⟨(List.range workingDirectory.length).map fun depth =>
      (workingDirectory.take (depth + 1), .directory), workingDirectory, []⟩

/-- The node at a location. The root is always there. -/
def node? (disk : Disk) (location : Location) : Option Node :=
  if location = [] then some .directory else disk.nodes.lookup location

def put (disk : Disk) (location : Location) (node : Node) : Disk :=
  { disk with nodes := (location, node) :: disk.nodes.filter fun entry => entry.1 ≠ location }

def erase (disk : Disk) (location : Location) : Disk :=
  { disk with nodes := disk.nodes.filter fun entry => entry.1 ≠ location }

/-- The fault of the step that comes next, and the disk after it. -/
def step (disk : Disk) : Option DiskFault × Disk :=
  match disk.faults with
  | [] => (none, disk)
  | fault :: rest => (fault, { disk with faults := rest })

end Disk

end Purse
