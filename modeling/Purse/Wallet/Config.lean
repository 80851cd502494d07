import Purse.Authoring.Config
import Purse.Disk.File
import Purse.Json.Parser

/-!
# Configuration

Where a wallet keeps its files, and the defaults of authoring. The configuration is read from a
file in the data directory. The data directory is the one that the file was looked for in, whatever
the file says.
-/

namespace Purse

/-- The variables of a process. -/
structure Environment where
  get? : String → Option String

namespace Environment

def dataDirVariable : String := "QUILL_DATA_DIR"

def logVariable : String := "QUILL_LOG"

/-- Where programs keep data of the user, if the variables tell. -/
def platformDataDir? (environment : Environment) : Option Path :=
  match (environment.get? "XDG_DATA_HOME").filter fun text => (Path.mk text).isAbsolute with
  | some text => some ⟨text⟩
  | none =>
      ((environment.get? "HOME").filter fun text => !text.isEmpty).map fun home =>
        (Path.mk home).join ".local/share"

def defaultDataDir (environment : Environment) : Path :=
  (environment.platformDataDir?.getD ⟨"."⟩).join "quill"

end Environment

structure WalletConfig where
  dataDir : Path
  /-- The file of the account store, relative to `dataDir`. -/
  walletFile : String
  /-- The file of the ledger, relative to `dataDir`. -/
  ledgerFile : String
  logLevel : String
  author : AuthoringConfig
  deriving DecidableEq

namespace WalletConfig

def fileName : String := "quill.json"

def standard (dataDir : Path) : WalletConfig where
  dataDir := dataDir
  walletFile := "wallet.json"
  ledgerFile := "ledger.json"
  logLevel := "info"
  author := .standard

def walletPath (config : WalletConfig) : Path :=
  config.dataDir.join config.walletFile

def ledgerPath (config : WalletConfig) : Path :=
  config.dataDir.join config.ledgerFile

def toJson (config : WalletConfig) : Json :=
  .ofFields [("data_dir", Json.toJson config.dataDir.text),
    ("wallet_file", Json.toJson config.walletFile),
    ("ledger_file", Json.toJson config.ledgerFile), ("log_level", Json.toJson config.logLevel),
    ("author", Json.toJson config.author)]

/-- Reads a configuration. Fields that are missing stand for those of `fallback`. -/
def ofJson? (fallback : WalletConfig) (json : Json) : Option WalletConfig := do
  let [dataDir, walletFile, ledgerFile, logLevel, author] ←
    json.leadingFields? ["data_dir", "wallet_file", "ledger_file", "log_level", "author"] | none
  some {
    dataDir := ⟨← Json.withDefault? fallback.dataDir.text dataDir⟩
    walletFile := ← Json.withDefault? fallback.walletFile walletFile
    ledgerFile := ← Json.withDefault? fallback.ledgerFile ledgerFile
    logLevel := ← Json.withDefault? fallback.logLevel logLevel
    author := ← Json.withDefault? fallback.author author }

def parse? (fallback : WalletConfig) (contents : ByteArray) : Option WalletConfig :=
  (Json.parseContents? contents).bind (ofJson? fallback)

/-- Reads the file in the given directory, or takes the standard configuration if there is none. -/
def fromDir (environment : Environment) (disk : Disk) (dir : Path) :
    Except WalletError WalletConfig :=
  let fallback := standard environment.defaultDataDir
  let path := dir.join fileName
  if disk.contains path then
    match disk.read path with
    | .error fault => .error (.io (.found (.disk fault)))
    | .ok contents =>
        match parse? fallback contents with
        | none => .error (.corruptedFile (.found (.malformedConfig path)))
        | some config => .ok { config with dataDir := dir }
  else .ok { fallback with dataDir := dir }

/-- The data directory: the one given, or else the variable's, or else the platform's. -/
def chooseDir (environment : Environment) (dataDir : Option Path) : Path :=
  match dataDir with
  | some dir => dir
  | none =>
      match environment.get? Environment.dataDirVariable with
      | some text => ⟨text⟩
      | none => environment.defaultDataDir

/-- Reads the configuration. The variable for the log level wins over the file. -/
def load (environment : Environment) (disk : Disk) (dataDir : Option Path) :
    Except WalletError WalletConfig :=
  match fromDir environment disk (chooseDir environment dataDir) with
  | .error fault => .error fault
  | .ok config =>
      .ok { config with
        logLevel := (environment.get? Environment.logVariable).getD config.logLevel }

end WalletConfig

end Purse
