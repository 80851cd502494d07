import Purse.Action
import Purse.Disk.Place

/-!
# Making directories

A directory is made with those above it that are missing. Those that are made before one is refused
stay.
-/

namespace Purse.Disk

/-- Makes the directory that steps lead to, or accepts the one that is there. -/
def makeDirectory (start : Location) (steps : List String) : Action Disk DiskFault Unit :=
  fun disk =>
    match disk.reach start steps with
    | .error fault => (.error fault, disk)
    | .ok location =>
        match disk.node? location with
        | none => (.ok (), disk.put location .directory)
        | some .directory => (.ok (), disk)
        | some (.file _) => (.error .alreadyExists, disk)

/-- Makes a directory. If one above it is missing, `makeAbove` has to make it first. -/
def makeBelow (makeAbove : Action Disk DiskFault Unit) (start : Location) (steps : List String) :
    Action Disk DiskFault Unit :=
  fun disk =>
    match makeDirectory start steps disk with
    | (.error .notFound, disk) =>
        match makeAbove disk with
        | (.error fault, disk) => (.error fault, disk)
        | (.ok (), disk) => makeDirectory start steps disk
    | answer => answer

/-- Makes a directory and those above it. The names come last one first. -/
def makeNames (start : Location) : List String → Action Disk DiskFault Unit
  | [] => pure ()
  | name :: above => makeBelow (makeNames start above) start (name :: above).reverse

/-- Makes the directory of a path and those above it. If the path ends in a dot, the directory that
the dot is met in has to be there already, and only those above it are made. -/
def makeDirectories (path : Path) : Action Disk DiskFault Unit :=
  fun disk =>
    if path.text.isEmpty then (.ok (), disk)
    else
      match refusal? path with
      | some fault => (.error fault, disk)
      | none =>
          let start := disk.start path
          makeBelow (makeNames start path.names.reverse.tail) start path.steps disk

end Purse.Disk
