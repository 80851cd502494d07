import Purse.Store.File
import Purse.Store.Memory
import Purse.Wallet.Basic

/-!
# Starting wallets

Wallets in memory, and wallets whose accounts are kept in a file.
-/

namespace Purse.Wallet

/-- A new wallet whose accounts live in memory only. -/
def inMemory (seed : Seed) (kind : ScriptKind) : Except WalletError (Wallet MemoryStore.State) :=
  match AddressBook.create MemoryStore.store seed kind none with
  | (.error fault, _) => .error (.ofStore fault)
  | (.ok book, _) => .ok (ofBook book .empty)

/-- A new wallet file. There must be nothing at the path yet. -/
def createFile (path : Path) (seed : Seed) (kind : ScriptKind) :
    Action Disk WalletError (Wallet FileStore.State) :=
  fun disk =>
    if disk.contains path then (.error (.io (.found (.walletExists path))), disk)
    else
      match FileStore.openAt disk path with
      | .error fault => (.error (.ofStore fault), disk)
      | .ok state =>
          match AddressBook.create FileStore.store seed kind state with
          | (.error fault, state) => (.error (.ofStore fault), state.disk)
          | (.ok book, state) => (.ok (ofBook book .empty), state.disk)

/-- The wallet in a file, with the given ledger. -/
def openFile (disk : Disk) (path : Path) (ledger : Ledger) :
    Except WalletError (Wallet FileStore.State) :=
  if disk.contains path then
    match FileStore.openAt disk path with
    | .error fault => .error (.ofStore fault)
    | .ok state =>
        match AddressBook.openStore FileStore.store state with
        | (.error fault, _) => .error (.ofStore fault)
        | (.ok book, _) => .ok (ofBook book ledger)
  else .error (.io (.found (.walletMissing path)))

end Purse.Wallet
