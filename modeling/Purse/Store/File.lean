import Purse.Disk.File
import Purse.Json.Parser
import Purse.Json.Printer
import Purse.Store.Basic

/-!
# Stores in a file

The store keeps a copy of what its file holds. A write goes to a temporary file beside it, which
then takes the file's place, and the copy changes only after that. So the file always holds either
the old data or the new.
-/

namespace Purse

/-- What the file holds around the data. -/
structure WalletFile where
  magic : String
  version : UInt32
  keychain : KeyChainData

namespace WalletFile

def currentMagic : String := "QUIL"

def currentVersion : UInt32 := 1

instance : Json.Form WalletFile where
  toJson file :=
    .ofFields [("magic", Json.toJson file.magic), ("version", Json.toJson file.version),
      ("keychain", Json.toJson file.keychain)]
  ofJson? json := do
    let [magic, version, keychain] ← json.fields? ["magic", "version", "keychain"] | none
    some {
      magic := ← Json.required? magic
      version := ← Json.required? version
      keychain := ← Json.required? keychain }

/-- The text of the file that holds `data`. -/
def print (data : KeyChainData) : String :=
  (Json.toJson (WalletFile.mk currentMagic currentVersion data)).pretty

/-- The data in a file. The form is checked first, then the magic, then the version. -/
def parse (contents : ByteArray) : Except StoreError KeyChainData :=
  match (Json.parseContents? contents).bind Json.ofJson? with
  | none => .error (.corrupt (.found .malformedWallet))
  | some (file : WalletFile) =>
      if file.magic ≠ currentMagic then .error (.corrupt (.found .wrongMagic))
      else if file.version ≠ currentVersion then
        .error (.corrupt (.found (.unsupportedVersion file.version)))
      else .ok file.keychain

end WalletFile

namespace FileStore

structure State where
  path : Path
  copy : Option KeyChainData
  disk : Disk

def diskError (fault : DiskFault) : StoreError :=
  .io (.found (.disk fault))

/-- Reads a wallet file. -/
def readFile (disk : Disk) (path : Path) : Except StoreError KeyChainData :=
  match disk.read path with
  | .error fault => .error (diskError fault)
  | .ok contents => WalletFile.parse contents

/-- What a fresh look at the path finds: nothing if there is no file. -/
def stored (disk : Disk) (path : Path) : Except StoreError (Option KeyChainData) :=
  if disk.contains path then (readFile disk path).map some else .ok none

def openAt (disk : Disk) (path : Path) : Except StoreError State :=
  match stored disk path with
  | .error fault => .error fault
  | .ok copy => .ok ⟨path, copy, disk⟩

/-- Writes through a temporary file beside `path`: create it, write, sync, rename. -/
def writeFile (path : Path) (contents : ByteArray) : Action Disk DiskFault Unit := do
  let temporary ← fun disk => disk.createFile (path.withExtension "tmp")
  let () ← fun disk => disk.writeAll temporary contents
  let () ← Disk.sync
  fun disk => disk.rename temporary path

def write (data : KeyChainData) : Action State StoreError Unit :=
  fun state =>
    match writeFile state.path (WalletFile.print data).toUTF8 state.disk with
    | (.error fault, disk) => (.error (diskError fault), { state with disk })
    | (.ok (), disk) => (.ok (), { state with disk, copy := some data })

def load : Action State StoreError (Option KeyChainData) :=
  fun state => (.ok state.copy, state)

def saveAccount (account : AccountId) (record : AccountRecord) : Action State StoreError Unit :=
  fun state =>
    match state.copy with
    | none => (.error .notInitialized, state)
    | some data => write (data.saveAccount account record) state

def store : AccountStore State := ⟨load, write, saveAccount⟩

end FileStore

end Purse
