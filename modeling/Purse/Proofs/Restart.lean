import Mathlib
import Purse.Proofs.Alike
import Purse.Proofs.Ownership
import Purse.Proofs.Preview
import Purse.Proofs.StoreRuns
import Purse.Wallet.Start

/-!
# Restarts

A wallet in a file keeps there what its book can be rebuilt from, before it hands anything out.  A
wallet that is opened from the file answers like the one that wrote it, and goes on doing so.
-/

namespace Purse

variable {σ : Type}

/-! ## What calls do to a book -/

namespace AddressBook

/-- What becomes of a book while at most one record is sent to its store. -/
inductive Moves (backend : AccountStore σ) (book : AddressBook σ) : AddressBook σ → Prop where
  | stays : Moves backend book book
  | refused {account : AccountId} {record : AccountRecord} {fault : StoreError} {store : σ}
      (hsave : backend.saveAccount account record book.store = (.error fault, store)) :
      Moves backend book { book with store }
  | saved {account : AccountId} {record : AccountRecord} {store : σ}
      (hsave : backend.saveAccount account record book.store = (.ok (), store))
      (owned : List (Digest × KeyPath)) :
      Moves backend book ⟨book.keychain, book.records.insert account record, owned, store⟩

variable (backend : AccountStore σ)

theorem moves_issue (account : AccountId) (branch : Branch) (book : AddressBook σ) :
    Moves backend book (issue backend account branch book).2 := by
  rw [issue]
  cases book.record account with
  | error fault => exact .stays
  | ok record =>
      simp only
      cases record.advanced account branch with
      | error fault => exact .stays
      | ok advanced =>
          rcases hsave : backend.saveAccount account advanced book.store with ⟨fault | _, store⟩
          · simp only [saveRecord, hsave]
            exact .refused hsave
          · simp only [saveRecord, hsave]
            exact .saved hsave _

theorem moves_createAccount (kind : ScriptKind) (book : AddressBook σ) :
    Moves backend book (createAccount backend kind book).2 := by
  rcases hsave : backend.saveAccount book.nextAccount (.fresh kind) book.store with
    ⟨fault | _, store⟩
  · simp only [createAccount, saveRecord, hsave]
    exact .refused hsave
  · simp only [createAccount, saveRecord, hsave]
    exact .saved hsave _

theorem moves_perform (call : BookCall) (book : AddressBook σ) :
    Moves backend book (call.perform backend book).2 := by
  rcases call.perform_state_cases backend book with
    hsame | ⟨account, branch, hissue⟩ | ⟨kind, _, hcreate⟩
  · rw [hsame]
    exact .stays
  · rw [hissue]
    exact moves_issue backend account branch book
  · rw [hcreate]
    exact moves_createAccount backend kind book

end AddressBook

namespace Wallet

variable (backend : AccountStore σ)

theorem moves_build (request : AuthoringRequest) (account : AccountId) (draws : Nat → Draws)
    (wallet : Wallet σ) :
    wallet.book.Moves backend (build backend request account draws wallet).2.book := by
  rcases build_state_cases backend request account draws wallet with hunchanged | hasked
  · rw [hunchanged]
    exact .stays
  · rw [hasked]
    exact AddressBook.moves_issue backend account .internal wallet.book

theorem moves_perform (call : WalletCall) (wallet : Wallet σ) :
    wallet.book.Moves backend (call.perform backend wallet).book := by
  cases call with
  | addresses call => exact AddressBook.moves_perform backend call wallet.book
  | build request account draws => exact moves_build backend request account draws wallet
  | author payments options dryRun draws => exact moves_build backend _ options.account draws wallet
  | createSigned payments options draws =>
      rw [WalletCall.perform, createSigned_state]
      exact moves_build backend _ options.account draws wallet
  | recordTransaction | recordCredit | markSpent | setTip | configure | restrictInputs =>
      exact .stays

end Wallet

/-! ## What the file keeps -/

/-- A write that is refused leaves what the path holds as it was. -/
def FileStore.State.FailsCleanly (state : FileStore.State) : Prop :=
  ∀ (data : KeyChainData) (fault : StoreError) (after : FileStore.State),
    FileStore.write data state = (.error fault, after) →
      FileStore.stored after.disk state.path = FileStore.stored state.disk state.path

/-- Writes fail cleanly wherever the temporary file is another one. -/
theorem FileStore.failsCleanly_of_extension {state : FileStore.State}
    (hextension : state.path.extension? ≠ some "tmp") : state.FailsCleanly :=
  fun _ _ _ hwrite => (write_eq_error hwrite).stored_eq hextension

theorem FileStore.path_write (data : KeyChainData) (state : FileStore.State) :
    (write data state).2.path = state.path := by
  rcases hwrite : write data state with ⟨fault | _, after⟩
  · exact (write_eq_error hwrite).path_eq
  · exact (write_eq_ok hwrite).1

theorem FileStore.path_saveAccount (account : AccountId) (record : AccountRecord)
    (state : FileStore.State) : (saveAccount account record state).2.path = state.path := by
  cases hcopy : state.copy with
  | none => rw [saveAccount_of_none hcopy]
  | some data => rw [saveAccount_of_some hcopy, path_write]

theorem FileStore.path_of_openAt {disk : Disk} {path : Path} {state : FileStore.State}
    (hopen : openAt disk path = .ok state) : state.path = path := by
  rw [openAt] at hopen
  split at hopen
  · cases hopen
  · cases hopen
    rfl

namespace AddressBook

/-- The file at the path holds the seed and the records of the book, and the store knows it. -/
structure Kept (path : Path) (book : AddressBook FileStore.State) : Prop where
  path_eq : book.store.path = path
  copy_eq : book.store.copy = some ⟨book.keychain.seed, book.records⟩
  fresh : book.store.Fresh

variable {path : Path} {book after : AddressBook FileStore.State}

theorem Moves.path_eq (hmoves : book.Moves FileStore.store after) :
    after.store.path = book.store.path := by
  cases hmoves with
  | stays => rfl
  | refused hsave =>
      exact (congrArg (·.2.path) hsave).symm.trans (FileStore.path_saveAccount _ _ _)
  | saved hsave owned =>
      exact (congrArg (·.2.path) hsave).symm.trans (FileStore.path_saveAccount _ _ _)

theorem Kept.of_moves (hkept : book.Kept path) (hclean : book.store.FailsCleanly)
    (hmoves : book.Moves FileStore.store after) : after.Kept path := by
  cases hmoves with
  | stays => exact hkept
  | refused hsave =>
      have hwrite := (FileStore.saveAccount_of_some hkept.copy_eq _ _).symm.trans hsave
      have hsame := FileStore.write_eq_error hwrite
      exact ⟨hsame.path_eq.trans hkept.path_eq, hsame.copy_eq.trans hkept.copy_eq,
        hsame.fresh (hclean _ _ _ hwrite) hkept.fresh⟩
  | saved hsave owned =>
      have hwrite := (FileStore.saveAccount_of_some hkept.copy_eq _ _).symm.trans hsave
      obtain ⟨hpath, hcopy, hfresh⟩ := FileStore.write_eq_ok hwrite
      exact ⟨hpath.trans hkept.path_eq, hcopy, hfresh⟩

theorem kept_create {state store : FileStore.State} {seed : Seed} {kind : ScriptKind}
    (hcreate : create FileStore.store seed kind state = (.ok book, store)) :
    book.Kept state.path := by
  rw [create] at hcreate
  rcases hwrite : FileStore.store.replace (initialData seed kind) state with ⟨fault | _, stored⟩
  · simp only [hwrite] at hcreate
    cases hcreate
  · simp only [hwrite] at hcreate
    cases hcreate
    obtain ⟨hpath, hcopy, hfresh⟩ := FileStore.write_eq_ok hwrite
    exact ⟨hpath, hcopy, hfresh⟩

/-! ## The book that is rebuilt -/

section Rebuilt

variable {book : AddressBook σ} (hcoherent : book.Coherent) (hseparated : book.Separated)
include hcoherent hseparated

/-- Where digests tell paths apart, looking one up finds the path that was handed out for it. -/
theorem lookup_owned_eq_some_iff {digest : Digest} {path : KeyPath} :
    book.owned.lookup digest = some path ↔ book.Issued path ∧ book.digest path = digest := by
  have hfound {found : KeyPath} (hlookup : book.owned.lookup digest = some found) :
      book.Issued found ∧ book.digest found = digest := by
    obtain ⟨earlier, later, howned, _⟩ := List.lookup_eq_some_iff.1 hlookup
    exact (hcoherent digest found).1 (howned ▸ List.mem_append_right _ List.mem_cons_self)
  refine ⟨hfound, fun ⟨hissued, hdigest⟩ => ?_⟩
  have hknown : (book.owned.lookup digest).isSome = true :=
    List.lookup_isSome_iff.2
      ⟨_, (hcoherent digest path).2 ⟨hissued, hdigest⟩, beq_self_eq_true _⟩
  obtain ⟨found, hlookup⟩ := Option.isSome_iff_exists.1 hknown
  obtain ⟨hother, hsame⟩ := hfound hlookup
  rw [hlookup, hseparated found path hother hissued (hsame.trans hdigest.symm)]

/-- The seed and the records are enough to answer for the whole book. -/
theorem alike_ofData :
    book.Alike (ofData ⟨book.keychain.seed, book.records⟩ book.store) := by
  have hrebuilt : (ofData ⟨book.keychain.seed, book.records⟩ book.store).Separated := hseparated
  refine ⟨rfl, rfl, rfl, fun digest => ?_⟩
  ext path
  rw [lookup_owned_eq_some_iff (coherent_ofData _ _) hrebuilt,
    lookup_owned_eq_some_iff hcoherent hseparated]
  exact Iff.rfl

end Rebuilt

end AddressBook

/-! ## Runs -/

/-- No account is added, or there is a number left for it. -/
def WalletCall.CountsOn (book : AddressBook σ) : WalletCall → Prop
  | .addresses (.createAccount _) => ⟨4294967295⟩ ∉ book.accounts
  | _ => True

theorem WalletCall.freshNumber_of_countsOn {book : AddressBook σ} {call : WalletCall}
    (hroom : call.CountsOn book) : call.FreshNumber book := by
  cases call with
  | addresses call =>
      cases call with
      | createAccount kind => exact BookCall.freshNumber_of_room hroom (.createAccount kind)
      | _ => trivial
  | _ => trivial

namespace Wallet

open FileStore (store)

/-- The condition holds of every call of the run and the wallet that it is made to. -/
def Throughout (condition : WalletCall → Wallet FileStore.State → Prop) :
    List WalletCall → Wallet FileStore.State → Prop
  | [], _ => True
  | call :: rest, wallet =>
      condition call wallet ∧ Throughout condition rest (call.perform store wallet)

/-- Account numbers do not run out in the run. -/
def Numbered : List WalletCall → Wallet FileStore.State → Prop :=
  Throughout fun call wallet => call.CountsOn wallet.book

/-- Whatever write is refused in the run fails cleanly. -/
def Clean : List WalletCall → Wallet FileStore.State → Prop :=
  Throughout fun _ wallet => wallet.book.store.FailsCleanly

variable {path : Path} {wallet : Wallet FileStore.State} {calls : List WalletCall}

/-- The path of a store stays, and with it where its temporary file is. -/
theorem clean_of_extension (hextension : wallet.book.store.path.extension? ≠ some "tmp") :
    Clean calls wallet := by
  induction calls generalizing wallet with
  | nil => trivial
  | cons call rest ih =>
      refine ⟨FileStore.failsCleanly_of_extension hextension, ih ?_⟩
      rwa [(moves_perform store call wallet).path_eq]

theorem kept_reach (hkept : wallet.book.Kept path) (hclean : Clean calls wallet) :
    (reach store calls wallet).book.Kept path := by
  induction calls generalizing wallet with
  | nil => exact hkept
  | cons call rest ih =>
      exact ih (hkept.of_moves hclean.1 (moves_perform store call wallet)) hclean.2

theorem genuine_reach (hgenuine : wallet.book.Genuine store) (hnumbered : Numbered calls wallet) :
    (reach store calls wallet).book.Genuine store := by
  induction calls generalizing wallet with
  | nil => exact hgenuine
  | cons call rest ih =>
      exact ih (genuine_perform hgenuine call (WalletCall.freshNumber_of_countsOn hnumbered.1))
        hnumbered.2

theorem kept_createFile {seed : Seed} {kind : ScriptKind} {disk after : Disk}
    (hcreate : createFile path seed kind disk = (.ok wallet, after)) :
    wallet.book.Kept path ∧ wallet.book.Genuine store := by
  rw [createFile] at hcreate
  split_ifs at hcreate
  · cases hcreate
  · cases hopen : FileStore.openAt disk path with
    | error fault => simp [hopen] at hcreate
    | ok state =>
        simp only [hopen] at hcreate
        rcases hbook : AddressBook.create store seed kind state with ⟨fault | book, created⟩
        · simp [hbook] at hcreate
        · simp only [hbook] at hcreate
          cases hcreate
          exact ⟨FileStore.path_of_openAt hopen ▸ AddressBook.kept_create hbook, .created hbook⟩

/-- The file holds what the wallet is opened with. -/
theorem openFile_of_kept (hkept : wallet.book.Kept path) (ledger : Ledger) :
    openFile wallet.book.store.disk path ledger =
      .ok (ofBook (.ofData ⟨wallet.book.keychain.seed, wallet.book.records⟩ wallet.book.store)
        ledger) := by
  have hopen : FileStore.openAt wallet.book.store.disk path = .ok wallet.book.store :=
    hkept.path_eq ▸ FileStore.openAt_of_fresh hkept.fresh
  have hload : store.load wallet.book.store =
      (.ok (some ⟨wallet.book.keychain.seed, wallet.book.records⟩), wallet.book.store) :=
    congrArg (fun copy => (Except.ok copy, wallet.book.store)) hkept.copy_eq
  have hcontains := FileStore.contains_of_stored hkept.fresh
  rw [hkept.path_eq, hkept.copy_eq, Option.isSome_some] at hcontains
  rw [openFile, if_pos hcontains, hopen]
  simp only [AddressBook.openStore, hload]

/-- Nothing that the wallets are asked for tells them apart. -/
structure Indistinguishable (backend : AccountStore σ) (first second : Wallet σ) : Prop where
  /-- Accounts and their records, addresses old and new, owners and keys. -/
  answer_eq (call : BookCall) :
    (call.perform backend first.book).1 = (call.perform backend second.book).1
  balance_eq (account : AccountId) (minConf : UInt32) :
    first.balance account minConf = second.balance account minConf
  /-- What is drawn for either does not matter. -/
  author_eq (draws other : Nat → Draws) (payments : List Payment) (options : Options)
    (dryRun : Bool) (hlargest : options.strategy = .largest) :
    (author backend draws payments options dryRun first).1 =
      (author backend other payments options dryRun second).1

theorem build_eq_of_largest {backend : AccountStore σ} {request : AuthoringRequest}
    (hlargest : request.strategy = .largest) (account : AccountId) (draws other : Nat → Draws)
    (wallet : Wallet σ) :
    build backend request account draws wallet = build backend request account other wallet := by
  have hprepare : prepare backend request account draws wallet =
      prepare backend request account other wallet :=
    prepare_eq_of_largest hlargest account draws other wallet
  rw [build, build, onBook, onBook, Action.within, Action.within,
    AuthoringRequest.build_eq_prepare_complete, AuthoringRequest.build_eq_prepare_complete,
    Action.bind_apply, Action.bind_apply, prepare_eq _ rfl, prepare_eq _ rfl, hprepare]

theorem Alike.indistinguishable {first second : Wallet σ} (halike : first.Alike second)
    (backend : AccountStore σ) : Indistinguishable backend first second where
  answer_eq call := (call.respects_perform backend halike.book).1
  balance_eq account minConf := by
    rw [balance, balance, eligible, eligible, halike.ledger_eq, halike.inputKind_eq]
  author_eq draws other payments options dryRun hlargest := by
    have hdraws : author backend draws payments options dryRun first =
        author backend other payments options dryRun first :=
      build_eq_of_largest hlargest options.account draws other first
    rw [hdraws]
    exact (respects_author backend other payments options dryRun halike).1

/-- A wallet that is opened from the file of a live one, with the ledger, the configuration and the
kind of inputs that the live one has, cannot be told apart from it, then or later.  Account numbers
must not have run out while it was live: it adds no account once 4294967295 is in use. -/
theorem openFile_indistinguishable {seed : Seed} {kind : ScriptKind} {disk after : Disk}
    {created : Wallet FileStore.State}
    (hcreate : createFile path seed kind disk = (.ok created, after)) {calls : List WalletCall}
    (hnumbered : Numbered calls created) (hclean : Clean calls created)
    (hseparated : (reach store calls created).book.Separated) :
    let live := reach store calls created
    ∃ opened, openFile live.book.store.disk path live.ledger = .ok opened ∧
      ∀ later, Indistinguishable store (reach store later live)
        (reach store later
          { opened with config := live.config, inputKind := live.inputKind }) := by
  intro live
  obtain ⟨hcreated, hgenuine⟩ := kept_createFile hcreate
  have hkept := kept_reach hcreated hclean
  have hlive := genuine_reach hgenuine hnumbered
  refine ⟨_, openFile_of_kept hkept live.ledger, fun later => ?_⟩
  have hbook := AddressBook.alike_ofData hlive.coherent hseparated
  have halike : live.Alike { ofBook (.ofData ⟨live.book.keychain.seed, live.book.records⟩
      live.book.store) live.ledger with config := live.config, inputKind := live.inputKind } :=
    ⟨hbook, rfl, rfl, rfl⟩
  exact (halike.reach store later).indistinguishable store

/-- The second account is refused when its record cannot be written at all, and the second address
when the file that was written cannot be moved into place. -/
def strainedDisk : Disk :=
  { Disk.empty ["home"] with
    faults := [none, none, none, none, none, none, none, none, some .noSpace,
      none, none, none, some .inputOutput] }

def strainedCalls : List WalletCall :=
  [.addresses (.newAddress .default), .addresses (.createAccount .p2tr),
    .addresses (.newAddress .default), .setTip 5, .addresses (.createAccount .p2tr)]

def strainedStart : Wallet FileStore.State :=
  let data := AddressBook.initialData default .p2wpkh
  let disk := { strainedDisk.put ["home", "wallet.json"] (.file (WalletFile.print data).toUTF8) with
    faults := strainedDisk.faults.drop 4 }
  ofBook (.ofData data ⟨⟨"wallet.json"⟩, some data, disk⟩) .empty

theorem createFile_strainedDisk :
    createFile ⟨"wallet.json"⟩ default .p2wpkh strainedDisk =
      (.ok strainedStart, strainedStart.book.store.disk) :=
  rfl

theorem entries_strained :
    (reach store strainedCalls strainedStart).book.records.entries =
      [(.default, ⟨.p2wpkh, 1, 0⟩), (⟨1⟩, ⟨.p2tr, 0, 0⟩)] :=
  rfl

theorem numbered_strained : Numbered strainedCalls strainedStart := by
  have hroom : (⟨4294967295⟩ : AccountId) ∉ [AccountId.default] := by decide
  exact ⟨trivial, hroom, trivial, trivial, hroom, trivial⟩

/-- Only one address has been handed out, so there is nothing to confuse it with. -/
theorem separated_strained : (reach store strainedCalls strainedStart).book.Separated := by
  have hone {path : KeyPath}
      (hissued : (reach store strainedCalls strainedStart).book.Issued path) :
      path = ⟨.default, .external, 0⟩ := by
    obtain ⟨account, branch, index⟩ := path
    obtain ⟨record, hrecord, hindex⟩ := hissued
    rw [Registry.get?_eq_some_iff_mem, entries_strained, List.mem_cons, List.mem_singleton]
      at hrecord
    rcases hrecord with hfirst | hsecond
    · cases hfirst
      cases branch with
      | external =>
          have hzero : index.toNat = (0 : UInt32).toNat := Nat.lt_one_iff.1 hindex
          cases UInt32.toNat_inj.1 hzero
          rfl
      | internal => exact absurd hindex (Nat.not_lt_zero _)
    · cases hsecond
      cases branch with
      | external => exact absurd hindex (Nat.not_lt_zero _)
      | internal => exact absurd hindex (Nat.not_lt_zero _)
  intro first second hfirst hsecond _
  rw [hone hfirst, hone hsecond]

theorem openFile_strained_indistinguishable :
    let live := reach store strainedCalls strainedStart
    ∃ opened, openFile live.book.store.disk ⟨"wallet.json"⟩ live.ledger = .ok opened ∧
      ∀ later, Indistinguishable store (reach store later live)
        (reach store later
          { opened with config := live.config, inputKind := live.inputKind }) :=
  openFile_indistinguishable createFile_strainedDisk numbered_strained
    (clean_of_extension (by decide)) separated_strained

end Wallet

end Purse
