import Purse.Disk.Place

/-!
# Reading and writing files

A new text gets to a file in steps: a temporary file is created, written and forced out, and then
moved over the file.
-/

namespace Purse.Disk

def read (disk : Disk) (path : Path) : Except DiskFault ByteArray :=
  match disk.find path with
  | .error fault => .error fault
  | .ok .directory => .error .isDirectory
  | .ok (.file contents) => .ok contents

/-- Where a file may be created. A path that ends in a slash asks for a directory. -/
def newFile (disk : Disk) (path : Path) : Except DiskFault Location :=
  match disk.resolve path with
  | .error fault => .error fault
  | .ok (.directory _) => .error .isDirectory
  | .ok (.entry parent name) =>
      if path.endsInSlash then .error .isDirectory
      else
        match child parent name with
        | .error fault => .error fault
        | .ok location =>
            if disk.node? location = some .directory then .error .isDirectory else .ok location

/-- Makes an empty file, or empties the file that is there. -/
def createFile (disk : Disk) (path : Path) : Except DiskFault Location × Disk :=
  match disk.step with
  | (some fault, disk) => (.error fault, disk)
  | (none, disk) =>
      match disk.newFile path with
      | .error fault => (.error fault, disk)
      | .ok location => (.ok location, disk.put location (.file ByteArray.empty))

/-- Writes into a file just created. -/
def writeAll (disk : Disk) (location : Location) (contents : ByteArray) :
    Except DiskFault Unit × Disk :=
  match disk.step with
  | (some fault, disk) => (.error fault, disk)
  | (none, disk) => (.ok (), disk.put location (.file contents))

/-- Forces a file out to the medium. -/
def sync (disk : Disk) : Except DiskFault Unit × Disk :=
  match disk.step with
  | (some fault, disk) => (.error fault, disk)
  | (none, disk) => (.ok (), disk)

/-- Where a file may be moved to. A directory that dots lead to is in use. -/
def target (disk : Disk) (path : Path) : Except DiskFault Location :=
  match disk.resolve path with
  | .error fault => .error fault
  | .ok (.directory _) => .error .busy
  | .ok (.entry parent name) =>
      match child parent name with
      | .error fault => .error fault
      | .ok location =>
          if path.endsInSlash then .error .notDirectory
          else if disk.node? location = some .directory then .error .isDirectory
          else .ok location

/-- Moves the file at `source` over whatever file the path names. -/
def rename (disk : Disk) (source : Location) (path : Path) : Except DiskFault Unit × Disk :=
  match disk.step with
  | (some fault, disk) => (.error fault, disk)
  | (none, disk) =>
      match disk.target path, disk.node? source with
      | .error fault, _ => (.error fault, disk)
      | .ok _, none => (.error .notFound, disk)
      | .ok location, some node => (.ok (), (disk.erase source).put location node)

end Purse.Disk
