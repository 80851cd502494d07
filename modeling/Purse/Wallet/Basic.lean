import Purse.Address.Book
import Purse.Authoring.Build

/-!
# Wallets

A wallet is an address book with a ledger and the defaults of authoring. Previews change neither
the book nor the ledger.
-/

namespace Purse

/-- A wallet over a store whose state is of type `σ`. -/
structure Wallet (σ : Type) where
  book : AddressBook σ
  ledger : Ledger
  config : AuthoringConfig
  /-- The kind that inputs are restricted to, if they are. -/
  inputKind : Option ScriptKind

namespace Wallet

variable {σ ε α : Type}

def ofBook (book : AddressBook σ) (ledger : Ledger) : Wallet σ :=
  ⟨book, ledger, .standard, none⟩

def onBook (action : Action (AddressBook σ) ε α) : Action (Wallet σ) ε α :=
  action.within Wallet.book fun wallet book => { wallet with book }

/-- A book's action, with its fault as one of the wallet's. -/
def onAddresses (action : Action (AddressBook σ) DerivationError α) :
    Action (Wallet σ) WalletError α :=
  (onBook action).mapError .ofDerivation

def createAccount (backend : AccountStore σ) (kind : ScriptKind) :
    Action (Wallet σ) WalletError AccountId :=
  onAddresses (AddressBook.createAccount backend kind)

def currentAddress (backend : AccountStore σ) (account : AccountId) :
    Action (Wallet σ) WalletError Script :=
  onAddresses (AddressBook.currentAddress backend account)

def newAddress (backend : AccountStore σ) (account : AccountId) :
    Action (Wallet σ) WalletError Script :=
  onAddresses (AddressBook.newAddress backend account)

def accountAddresses (wallet : Wallet σ) (account : AccountId) :
    Except WalletError (List Script) :=
  (wallet.book.accountAddresses account).mapError .ofDerivation

def recordCredit (wallet : Wallet σ) (credit : Credit) : Bool × Wallet σ :=
  match wallet.ledger.recordCredit credit with
  | (recorded, ledger) => (recorded, { wallet with ledger })

def markSpent (wallet : Wallet σ) (point : OutPoint) : Option Credit × Wallet σ :=
  match wallet.ledger.markSpent point with
  | (spent, ledger) => (spent, { wallet with ledger })

def setTip (wallet : Wallet σ) (height : UInt64) : Wallet σ :=
  { wallet with ledger := wallet.ledger.setTip height }

/-- The ledger without the outpoints that the inputs spend. -/
def spendInputs (ledger : Ledger) (inputs : List Input) : Ledger :=
  inputs.foldl (fun ledger input => (ledger.markSpent input.previousOutput).2) ledger

/-- What makes a credit of one output of a transaction. -/
structure CreditTemplate where
  txid : Digest
  blockHeight : Option UInt64
  isCoinbase : Bool

def CreditTemplate.credit (template : CreditTemplate) (index : Nat) (output : Output)
    (account : AccountId) : Credit :=
  ⟨⟨template.txid, UInt64.ofNat index⟩, output, account, template.blockHeight,
    template.isCoinbase⟩

/-- Credits the outputs, counted from `index` on, whose scripts the book has handed out. Tells how
many were added. -/
def creditOutputs (book : AddressBook σ) (template : CreditTemplate) (index : Nat)
    (ledger : Ledger) : List Output → Nat × Ledger
  | [] => (0, ledger)
  | output :: rest =>
      match book.accountOf? output.script with
      | none => creditOutputs book template (index + 1) ledger rest
      | some account =>
          let recorded := ledger.recordCredit (template.credit index output account)
          let later := creditOutputs book template (index + 1) recorded.2 rest
          (later.1 + recorded.1.toNat, later.2)

/-- Applies a transaction: spends its inputs and credits the outputs that pay the wallet. A
coinbase transaction spends nothing. Tells how many outputs were credited. -/
def recordTransaction (wallet : Wallet σ) (tx : Transaction) (blockHeight : Option UInt64) :
    Nat × Wallet σ :=
  let spent := if tx.isCoinbase then wallet.ledger else spendInputs wallet.ledger tx.inputs
  match creditOutputs wallet.book ⟨tx.txid, blockHeight, tx.isCoinbase⟩ 0 spent tx.outputs with
  | (credited, ledger) => (credited, { wallet with ledger })

/-- The credits that authoring would start from. -/
def eligible (wallet : Wallet σ) (account : AccountId) (minConf : UInt32) : List Credit :=
  Eligibility.filter ⟨account, minConf, wallet.inputKind⟩ wallet.ledger.tipHeight
    (wallet.ledger.listUnspent account minConf)

/-- The value that authoring could start from. -/
def balance (wallet : Wallet σ) (account : AccountId) (minConf : UInt32) : Amount :=
  (wallet.eligible account minConf).foldl (fun total credit => total + credit.amount) 0

/-- What a caller chooses for one transaction. -/
structure Options where
  account : AccountId
  minConf : UInt32
  feeRate : FeeRate
  strategy : SelectionStrategy

/-- The configured choices. -/
def defaultOptions (wallet : Wallet σ) (account : AccountId) : Options :=
  ⟨account, wallet.config.minConf, wallet.config.feeRate, wallet.config.strategy⟩

def request (wallet : Wallet σ) (payments : List Payment) (options : Options) (dryRun : Bool) :
    AuthoringRequest :=
  { AuthoringRequest.ofConfig wallet.config with
    payments
    feeRate := options.feeRate
    minConf := options.minConf
    strategy := options.strategy
    inputKind := wallet.inputKind
    dryRun }

/-- Authors an unsigned transaction. A dry run changes nothing. -/
def author (backend : AccountStore σ) (draws : Nat → Draws) (payments : List Payment)
    (options : Options) (dryRun : Bool) : Action (Wallet σ) WalletError AuthoredTransaction :=
  fun wallet =>
    onBook ((wallet.request payments options dryRun).build options.account
      (wallet.ledger.reader (AddressBook σ)) (AddressBook.changeSource backend) draws) wallet

/-- Signs the inputs from `index` on with the keys behind the scripts they spend. -/
def signInputs (book : AddressBook σ) (tx : Transaction) (index : Nat) :
    List (Script × Amount) → Except WalletError Transaction
  | [] => .ok tx
  | (script, value) :: rest =>
      match book.keyPairFor? script with
      | none => .error (.keyNotFound (.found script))
      | some pair =>
          match tx.signInput index script value pair with
          | .error fault => .error (.signing fault)
          | .ok tx => signInputs book tx (index + 1) rest

def sign (book : AddressBook σ) (authored : AuthoredTransaction) :
    Except WalletError Transaction :=
  signInputs book authored.tx 0 (authored.prevScripts.zip authored.prevValues)

/-- Signs an authored transaction, and checks the result. -/
def signChecked (book : AddressBook σ) (authored : AuthoredTransaction) :
    Except WalletError Transaction :=
  match sign book authored with
  | .error fault => .error fault
  | .ok signed =>
      match signed.validateSpend authored.prevScripts authored.prevValues with
      | .error fault => .error (.transaction fault)
      | .ok _ => .ok signed

/-- Authors, signs and checks a transaction in one step. -/
def createSigned (backend : AccountStore σ) (draws : Nat → Draws) (payments : List Payment)
    (options : Options) : Action (Wallet σ) WalletError (AuthoredTransaction × Transaction) := do
  let authored ← author backend draws payments options false
  let signed ← fun wallet => (signChecked wallet.book authored, wallet)
  pure (authored, signed)

end Wallet

end Purse
