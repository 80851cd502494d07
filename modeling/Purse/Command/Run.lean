import Purse.Command.Basic
import Purse.Command.Error
import Purse.Disk.Directory
import Purse.Text.Blank
import Purse.Wallet.Config
import Purse.Wallet.Start

/-!
# Carrying out commands

Every command loads the configuration first. All but the one that makes a wallet then read the
ledger and open the wallet, and those that change the ledger write it back.
-/

namespace Purse

/-- What a command gets from outside besides the disk. -/
structure Surroundings where
  environment : Environment
  /-- A seed that no one has used before. -/
  freshSeed : Seed
  /-- A number that differs from call to call. -/
  nonce : UInt64
  /-- The number drawn in the given round at the given position. -/
  draw : (round position : Nat) → Nat

/-- What the program ends with. -/
inductive Outcome where
  | success (output : String)
  | failure (fault : CommandError)
  /-- The arguments were wrong. -/
  | misuse
  deriving DecidableEq

namespace Outcome

def exitCode : Outcome → UInt8
  | .success _ => 0
  | .failure _ => 1
  | .misuse => 2

/-- What goes to the standard output. -/
def output : Outcome → String
  | .success output => output
  | _ => ""

end Outcome

namespace Command

abbrev FileWallet := Wallet FileStore.State

def onDisk {ε α : Type} (action : Action Disk ε α) : Action FileWallet ε α :=
  action.within (fun wallet => wallet.book.store.disk)
    (fun wallet disk => { wallet with book.store.disk := disk })

def onWallet {α : Type} (action : Action FileWallet WalletError α) :
    Action FileWallet CommandError α :=
  action.mapError .wallet

/-- Reads a seed in hexadecimal digits, with blanks around them. -/
def parseSeed (text : String) : Except CommandError Seed :=
  match Hex.decode (Text.trim text) with
  | .error fault => .error (.seedNotHex fault)
  | .ok bytes =>
      match FixedBytes.ofBytes? 32 bytes with
      | none => .error (.seedLength bytes.length)
      | some bytes => .ok ⟨bytes⟩

/-- The ledger in a file. A file that is missing stands for an empty ledger. -/
def loadLedger (disk : Disk) (path : Path) : Except CommandError Ledger :=
  if disk.contains path then
    match disk.read path with
    | .error fault => .error (.readLedger path fault)
    | .ok contents =>
        match (Json.parseContents? contents).bind Json.ofJson? with
        | none => .error (.malformedLedger path)
        | some ledger => .ok ledger
  else .ok .empty

/-- Writes a ledger to a temporary file beside the path, which then takes the file's place. -/
def saveLedger (path : Path) (ledger : Ledger) : Action Disk CommandError Unit := do
  let temporary := path.withExtension "tmp"
  let location ← Action.mapError (.writeLedger temporary) fun disk => disk.createFile temporary
  let () ← Action.mapError (.writeLedger temporary) fun disk =>
    disk.writeAll location (Json.toJson ledger).pretty.toUTF8
  Action.mapError (.replaceLedger path) fun disk => disk.rename location path

/-- Writes the wallet's ledger back. -/
def keepLedger (config : WalletConfig) : Action FileWallet CommandError Unit :=
  fun wallet => onDisk (saveLedger config.ledgerPath wallet.ledger) wallet

def openWallet (config : WalletConfig) (disk : Disk) : Except CommandError FileWallet :=
  match loadLedger disk config.ledgerPath with
  | .error fault => .error fault
  | .ok ledger =>
      match Wallet.openFile disk config.walletPath ledger with
      | .error fault => .error (.openWallet config.dataDir fault)
      | .ok wallet => .ok { wallet with config := config.author }

def lines (texts : List String) : String :=
  String.join (texts.map fun text => text ++ "\n")

/-- Makes a wallet with its first address handed out, and an empty ledger. -/
def runInit (config : WalletConfig) (freshSeed : Seed) (kind : String) (seed : Option String) :
    Action Disk CommandError String := do
  let kind ← .ofExcept ((Script.parseKind kind).mapError .badKind)
  let seed ← .ofExcept (match seed with
    | some text => parseSeed text
    | none => .ok freshSeed)
  let () ← (Disk.makeDirectories config.dataDir).mapError (.createDirectory config.dataDir)
  let wallet ← (Wallet.createFile config.walletPath seed kind).mapError .createWallet
  let finish : Action FileWallet CommandError Script := do
    let address ← onWallet (Wallet.currentAddress FileStore.store .default)
    let () ← keepLedger config
    pure address
  let address ← fun disk =>
    match finish { wallet with book.store.disk := disk } with
    | (result, wallet) => (result, wallet.book.store.disk)
  pure (lines ["Wallet saved to: " ++ config.walletPath.text,
    "Receive address: " ++ address.toText])

def runAddress (account : AccountId) (fresh : Bool) : Action FileWallet CommandError String := do
  let address ← onWallet (if fresh then Wallet.newAddress FileStore.store account
    else Wallet.currentAddress FileStore.store account)
  pure (lines [address.toText])

def runAddresses (account : AccountId) : Action FileWallet CommandError String :=
  fun wallet =>
    ((wallet.accountAddresses account).mapError .wallet |>.map fun scripts =>
      lines (scripts.map Script.toText), wallet)

/-- A transaction that pays an amount out of nowhere. The nonce sets it apart from others. -/
def syntheticTransaction (script : Script) (amount : Amount) (tip nonce : UInt64) :
    Transaction where
  version := Transaction.currentVersion
  inputs := [.unsigned ⟨Digest.zero, nonce⟩]
  outputs := [⟨amount, script⟩]
  lockTime := tip

/-- Pays an amount to the account's current address, confirmed at the tip. -/
def runCredit (config : WalletConfig) (nonce : UInt64) (account : AccountId) (amount : Amount) :
    Action FileWallet CommandError String := do
  let script ← onWallet (Wallet.currentAddress FileStore.store account)
  let tip ← fun wallet => (.ok wallet.ledger.tipHeight, wallet)
  let () ← fun wallet =>
    (.ok (), (wallet.recordTransaction (syntheticTransaction script amount tip nonce)
      (some tip)).2)
  let () ← keepLedger config
  pure (lines ["Credited " ++ Decimal.print amount.toNat ++ " to " ++ script.toText ++
    " at height " ++ Decimal.print tip.toNat])

def runTip (config : WalletConfig) (height : UInt64) : Action FileWallet CommandError String := do
  let () ← fun wallet => (.ok (), wallet.setTip height)
  let () ← keepLedger config
  pure (lines ["Tip height: " ++ Decimal.print height.toNat])

def runBalance (config : WalletConfig) (account : AccountId) (minConf : Option UInt32) :
    Action FileWallet CommandError String :=
  fun wallet =>
    let minConf := minConf.getD config.author.minConf
    (.ok (lines ["Balance: " ++ Decimal.print (wallet.balance account minConf).toNat ++
      " (min_conf " ++ Decimal.print minConf.toNat ++ ")"]), wallet)

/-- The report of the author command, the keys of its records in ascending order. -/
def printReport (fields : List (String × Json)) : String :=
  lines [(Json.ofFields fields).sortKeys.pretty]

/-- Authors a transaction. With signing it is also signed, checked and recorded. -/
def runAuthor (config : WalletConfig) (draws : Nat → Draws) (arguments : AuthorArguments) :
    Action FileWallet CommandError String := do
  let payments ← .ofExcept ((arguments.payments.mapM Payment.parse).mapError .badPayment)
  let strategy ← .ofExcept (match arguments.strategy with
    | some name => (SelectionStrategy.parse name).mapError .wallet
    | none => .ok config.author.strategy)
  let options : Wallet.Options := {
    account := arguments.account
    minConf := arguments.minConf.getD config.author.minConf
    feeRate := (arguments.feeRate.map FeeRate.mk).getD config.author.feeRate
    strategy }
  if arguments.sign then
    let (authored, signed) ←
      onWallet (Wallet.createSigned FileStore.store draws payments options)
    let () ← fun wallet => (.ok (), (wallet.recordTransaction signed none).2)
    let () ← keepLedger config
    pure (printReport [("authored", Json.toJson authored), ("txid", Json.toJson signed.txid),
      ("raw", Json.toJson (Hex.encode signed.encode))])
  else
    let authored ←
      onWallet (Wallet.author FileStore.store draws payments options arguments.dryRun)
    pure (printReport [("authored", Json.toJson authored),
      ("dry_run", Json.toJson arguments.dryRun)])

/-- Opens the wallet and carries out an action on it. -/
def withWallet (config : WalletConfig) (action : Action FileWallet CommandError String) :
    Action Disk CommandError String :=
  fun disk =>
    match openWallet config disk with
    | .error fault => (.error fault, disk)
    | .ok wallet =>
        match action wallet with
        | (result, wallet) => (result, wallet.book.store.disk)

def run (surroundings : Surroundings) (config : WalletConfig) :
    Command → Action Disk CommandError String
  | .init kind seed => runInit config surroundings.freshSeed kind seed
  | .address account fresh => withWallet config (runAddress account fresh)
  | .addresses account => withWallet config (runAddresses account)
  | .credit account amount =>
      if amount = 0 then .fail .zeroCredit
      else withWallet config (runCredit config surroundings.nonce account amount)
  | .tip height => withWallet config (runTip config height)
  | .balance account minConf => withWallet config (runBalance config account minConf)
  | .author arguments =>
      withWallet config fun wallet =>
        runAuthor config (drawsOf surroundings.draw wallet.ledger.credits.length) arguments wallet

/-- The paths that an invocation may read or write, as far as the disk tells the configuration. -/
def paths (environment : Environment) (disk : Disk) (invocation : Invocation) : List Path :=
  let dir := WalletConfig.chooseDir environment (invocation.dataDir.map Path.mk)
  let files := match WalletConfig.fromDir environment disk dir with
    | .error _ => []
    | .ok config => [config.walletPath, config.ledgerPath]
  dir.join WalletConfig.fileName ::
    files.flatMap fun path => [path, path.withExtension "tmp"]

/-- What the program answers when asked for its version. -/
def versionText : String := lines ["quill-cli 0.1.0"]

/-- What the program answers when asked for help. -/
def helpText : String :=
  lines ["Fee-aware transaction authoring", "", "Usage: quill-cli [OPTIONS] <COMMAND>", "",
    "Commands:",
    "  init       Create a new wallet",
    "  address    Show the current receive address, or issue a new one",
    "  addresses  List every issued address of an account",
    "  credit     Record a synthetic confirmed credit to the current address",
    "  tip        Set the chain tip height",
    "  balance    Show the spendable balance",
    "  author     Author a transaction"]

/-- Carries out what the arguments ask for. -/
def main (surroundings : Surroundings) (arguments : List String) (disk : Disk) : Outcome × Disk :=
  match Invocation.parse arguments with
  | .error .version => (.success versionText, disk)
  | .error .help => (.success helpText, disk)
  | .error .misuse => (.misuse, disk)
  | .ok invocation =>
      match WalletConfig.load surroundings.environment disk (invocation.dataDir.map Path.mk) with
      | .error fault => (.failure (.configuration fault), disk)
      | .ok config =>
          match run surroundings config invocation.command disk with
          | (.error fault, disk) => (.failure fault, disk)
          | (.ok output, disk) => (.success output, disk)

end Command

end Purse
