import Purse.Command.Run

/-!
# The command line

The program works on an image of the files that concern it, and what it changed in the image is
then carried over to the files.
-/

namespace Purse.Terminal

def textOf (location : Location) : String :=
  "/" ++ String.intercalate "/" location

/-- The node that is really at a location. -/
def lookAt (location : Location) : IO (Option Node) := do
  let path := System.mkFilePath [textOf location]
  if ← path.isDir then return some .directory
  else if ← path.pathExists then return some (.file (← IO.FS.readBinFile path))
  else return none

/-- Copies what is found on a way into the image, as far as the way goes. -/
def copyWay (image : Disk) (location : Location) : List String → IO Disk
  | [] => pure image
  | step :: rest => do
      let location := Disk.follow location step
      match ← lookAt location with
      | none => return image
      | some node => copyWay (image.put location node) location rest

def copyPaths (image : Disk) : List Path → IO Disk
  | [] => pure image
  | path :: rest => do
      copyPaths (← copyWay image (image.start path) path.steps) rest

/-- An image of what the arguments concern. The configuration, which names the other files, is
looked at before them. -/
def imageFor (environment : Environment) (arguments : List String) : IO Disk := do
  let start := Disk.empty (Path.mk (← IO.currentDir).toString).names
  match Invocation.parse arguments with
  | .error _ => return start
  | .ok invocation =>
      let image ← copyPaths start (Command.paths environment start invocation)
      copyPaths image (Command.paths environment image invocation)

/-- Writes a file by way of a temporary one beside it. -/
def writeFile (location : Location) (contents : ByteArray) : IO Unit := do
  let path : Path := ⟨textOf location⟩
  let temporary := path.withExtension "tmp"
  IO.FS.writeBinFile temporary.text contents
  IO.FS.rename temporary.text path.text

/-- Carries the changes of an image over to the files, removals first. -/
def carryOver (before after : Disk) : IO Unit := do
  for (location, _) in before.nodes do
    if (after.node? location).isNone then IO.FS.removeFile (textOf location)
  for (location, node) in after.nodes.reverse do
    if before.node? location ≠ some node then
      match node with
      | .directory => IO.FS.createDirAll (textOf location)
      | .file contents => writeFile location contents

def environment : IO Environment := do
  let names := ["HOME", "XDG_DATA_HOME", Environment.dataDirVariable, Environment.logVariable]
  let values ← names.mapM fun name => return (name, ← IO.getEnv name)
  return ⟨fun name => (values.lookup name).join⟩

def randomBytes (size : USize) : IO Bytes := do
  return (← IO.getRandomBytes size).toList

def surroundings : IO Surroundings := do
  return {
    environment := ← environment
    freshSeed := ⟨Blake3.hash (← randomBytes 32)⟩
    nonce := UInt64.ofNat (Bytes.toNat (← randomBytes 8))
    draw := drawnFrom (← randomBytes 32) }

/-- Runs the program on the real files. -/
def run (arguments : List String) : IO Outcome := do
  let surroundings ← surroundings
  let before ← imageFor surroundings.environment arguments
  let (outcome, after) := Command.main surroundings arguments before
  carryOver before after
  return outcome

end Purse.Terminal

def main (arguments : List String) : IO UInt32 := do
  let outcome ← Purse.Terminal.run arguments
  IO.print outcome.output
  match outcome with
  | .success _ => pure ()
  | .failure fault => IO.eprintln fault.report
  | .misuse => IO.eprintln "error: invalid arguments"
  return outcome.exitCode.toUInt32
