import Purse.Authoring.Change
import Purse.Store.Basic

/-!
# Address books

An address book derives the addresses of its accounts and knows which scripts it has handed out. A
new address counts as handed out once the account's record has been stored, so that a failed write
changes nothing but the store itself.
-/

namespace Purse

/-- An address book over a store whose state is of type `σ`. -/
structure AddressBook (σ : Type) where
  keychain : KeyChain
  records : Registry AccountRecord
  /-- Where the key behind each digest comes from. Of several entries the first counts. -/
  owned : List (Digest × KeyPath)
  store : σ

namespace AddressBook

variable {σ : Type}

/-- The indices that a branch has handed out before `next`. -/
def indicesBelow (next : UInt32) : List UInt32 :=
  (List.range next.toNat).map UInt32.ofNat

/-- The paths that an account has handed out, the external branch first. -/
def issuedPaths (account : AccountId) (record : AccountRecord) : List KeyPath :=
  [Branch.external, .internal].flatMap fun branch =>
    (indicesBelow (record.nextIndex branch)).map fun index => ⟨account, branch, index⟩

/-- The entries of `owned` after every address that the data accounts for was handed out. -/
def ownedEntries (keychain : KeyChain) (data : KeyChainData) : List (Digest × KeyPath) :=
  (data.accounts.entries.flatMap fun (account, record) =>
    (issuedPaths account record).map fun path =>
      ((keychain.script path record.kind).pubkeyHash, path)).reverse

def ofData (data : KeyChainData) (store : σ) : AddressBook σ :=
  let keychain : KeyChain := ⟨data.seed⟩
  ⟨keychain, data.accounts, ownedEntries keychain data, store⟩

/-- The data of a new wallet: the seed, and the default account with nothing handed out. -/
def initialData (seed : Seed) (kind : ScriptKind) : KeyChainData :=
  ⟨seed, Registry.empty.insert .default (.fresh kind)⟩

/-- Starts a new book, and stores what it starts with. -/
def create (backend : AccountStore σ) (seed : Seed) (kind : ScriptKind) :
    Action σ StoreError (AddressBook σ) :=
  fun store =>
    let data := initialData seed kind
    match backend.replace data store with
    | (.error fault, store) => (.error fault, store)
    | (.ok (), store) => (.ok (ofData data store), store)

/-- Rebuilds a book from what is stored. -/
def openStore (backend : AccountStore σ) : Action σ StoreError (AddressBook σ) :=
  fun store =>
    match backend.load store with
    | (.error fault, store) => (.error fault, store)
    | (.ok none, store) => (.error (.corrupt (.found .emptyStore)), store)
    | (.ok (some data), store) => (.ok (ofData data store), store)

/-- The account numbers, ascending. -/
def accounts (book : AddressBook σ) : List AccountId :=
  book.records.accounts

def record (book : AddressBook σ) (account : AccountId) : Except DerivationError AccountRecord :=
  match book.records.get? account with
  | none => .error (.unknownAccount account)
  | some record => .ok record

def accountKind (book : AddressBook σ) (account : AccountId) : Except DerivationError ScriptKind :=
  (book.record account).map AccountRecord.kind

/-- Every address handed out for the account, the external branch first, in index order. -/
def accountAddresses (book : AddressBook σ) (account : AccountId) :
    Except DerivationError (List Script) :=
  (book.record account).map fun record =>
    (issuedPaths account record).map fun path => book.keychain.script path record.kind

def pathOf? (book : AddressBook σ) (script : Script) : Option KeyPath :=
  book.owned.lookup script.pubkeyHash

/-- The account that handed out the script. A script of another kind with the same key is not
owned. -/
def accountOf? (book : AddressBook σ) (script : Script) : Option AccountId :=
  match book.pathOf? script with
  | none => none
  | some path =>
      match book.accountKind path.account with
      | .error _ => none
      | .ok kind => if kind = script.kind then some path.account else none

/-- The key behind a digest that was handed out, whatever the kind of the script. -/
def keyPairFor? (book : AddressBook σ) (script : Script) : Option KeyPair :=
  (book.pathOf? script).map book.keychain.keyPair

/-- The book as logs show it. -/
def describe (book : AddressBook σ) : String :=
  "AddressBook \x7b accounts: " ++ Decimal.print book.records.size ++ ", .. \x7d"

/-- Stores a record, and takes it over once it is stored. -/
def saveRecord (backend : AccountStore σ) (account : AccountId) (record : AccountRecord) :
    Action (AddressBook σ) DerivationError Unit :=
  fun book =>
    match backend.saveAccount account record book.store with
    | (.error fault, store) => (.error (.store fault), { book with store })
    | (.ok (), store) =>
        (.ok (), { book with store, records := book.records.insert account record })

/-- The number after the greatest one in use. -/
def nextAccount (book : AddressBook σ) : AccountId :=
  match book.accounts.getLast? with
  | none => ⟨0⟩
  | some account => ⟨account.number + 1⟩

/-- Adds an account whose addresses are of the given kind. -/
def createAccount (backend : AccountStore σ) (kind : ScriptKind) :
    Action (AddressBook σ) DerivationError AccountId :=
  fun book =>
    let account := book.nextAccount
    match saveRecord backend account (.fresh kind) book with
    | (.error fault, book) => (.error fault, book)
    | (.ok (), book) => (.ok account, book)

/-- Hands out the next address on a branch. -/
def issue (backend : AccountStore σ) (account : AccountId) (branch : Branch) :
    Action (AddressBook σ) DerivationError Script :=
  fun book =>
    match book.record account with
    | .error fault => (.error fault, book)
    | .ok record =>
        match record.advanced account branch with
        | .error fault => (.error fault, book)
        | .ok advanced =>
            let path : KeyPath := ⟨account, branch, record.nextIndex branch⟩
            let script := book.keychain.script path record.kind
            match saveRecord backend account advanced book with
            | (.error fault, book) => (.error fault, book)
            | (.ok (), book) =>
                (.ok script, { book with owned := (script.pubkeyHash, path) :: book.owned })

/-- Hands out a fresh receive address. -/
def newAddress (backend : AccountStore σ) (account : AccountId) :
    Action (AddressBook σ) DerivationError Script :=
  issue backend account .external

/-- The receive address handed out last. Where there is none yet, the first is handed out. -/
def currentAddress (backend : AccountStore σ) (account : AccountId) :
    Action (AddressBook σ) DerivationError Script :=
  fun book =>
    match book.record account with
    | .error fault => (.error fault, book)
    | .ok record =>
        if record.nextExternal = 0 then issue backend account .external book
        else
          (.ok (book.keychain.script ⟨account, .external, record.nextExternal - 1⟩ record.kind),
            book)

/-- The change address handed out last, or the one to be handed out first. -/
def currentChange (book : AddressBook σ) (account : AccountId) : Except DerivationError Script :=
  (book.record account).map fun record =>
    let index := if record.nextInternal = 0 then 0 else record.nextInternal - 1
    book.keychain.script ⟨account, .internal, index⟩ record.kind

/-- Hands out a fresh change address. -/
def nextChange (backend : AccountStore σ) (account : AccountId) :
    Action (AddressBook σ) DerivationError Script :=
  issue backend account .internal

/-- The book as authoring uses it. -/
def changeSource (backend : AccountStore σ) : ChangeSource (AddressBook σ) where
  changeKind account := fun book => (book.accountKind account, book)
  currentChange account := fun book => (book.currentChange account, book)
  nextChange := nextChange backend

end AddressBook

end Purse
