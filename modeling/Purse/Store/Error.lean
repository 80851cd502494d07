import Purse.Cause
import Purse.Disk.Basic
import Purse.Disk.Path
import Purse.Json.Basic
import Purse.Text.Decimal

/-!
# Faults of files and stores
-/

namespace Purse

/-- Why a file could not be used. -/
inductive FileFault where
  | disk (fault : DiskFault)
  | walletExists (path : Path)
  | walletMissing (path : Path)
  deriving DecidableEq

def FileFault.message : FileFault → String
  | .disk fault => fault.message
  | .walletExists path => "wallet file already exists: " ++ path.text
  | .walletMissing path => "wallet file not found: " ++ path.text

/-- What is wrong with stored contents. -/
inductive Corruption where
  | malformedWallet
  | wrongMagic
  | unsupportedVersion (version : UInt32)
  | notInitialized
  | emptyStore
  | malformedConfig (path : Path)
  deriving DecidableEq

def Corruption.message : Corruption → String
  | .malformedWallet => "invalid wallet file: " ++ Json.faultText
  | .wrongMagic => "invalid magic"
  | .unsupportedVersion version => "unsupported version: " ++ Decimal.print version.toNat
  | .notInitialized => "store not initialized"
  | .emptyStore => "account store is empty"
  | .malformedConfig path => path.text ++ ": " ++ Json.faultText

inductive StoreError where
  | io (cause : Cause FileFault)
  | serialization (detail : String)
  | corrupt (cause : Cause Corruption)
  deriving DecidableEq

def StoreError.message : StoreError → String
  | .io cause => "I/O: " ++ cause.describe FileFault.message
  | .serialization detail => "serialization: " ++ detail
  | .corrupt cause => "corrupt store: " ++ cause.describe Corruption.message

end Purse
