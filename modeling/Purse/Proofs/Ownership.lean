import Purse.Proofs.Issuing
import Purse.Proofs.Spendable

/-!
# Whose script it is

A book looks digests up in a list that it keeps beside its records.  In every book that was created
or opened the list says no more and no less than the records: as long as keys have different
digests, a script belongs to the account that lists it among its addresses.
-/

namespace Purse

variable {σ : Type}

namespace AddressBook

/-! ## What the records account for -/

/-- The digest of the key at the path. -/
def digest (book : AddressBook σ) (path : KeyPath) : Digest :=
  (book.keychain.keyPair path).publicKey.hash

/-- The index of the path has been handed out. -/
def Issued (book : AddressBook σ) (path : KeyPath) : Prop :=
  ∃ record, book.records.get? path.account = some record ∧
    path.index.toNat < (record.nextIndex path.branch).toNat

/-- No two paths that were handed out lead to one digest. -/
def Separated (book : AddressBook σ) : Prop :=
  ∀ first second, book.Issued first → book.Issued second →
    book.digest first = book.digest second → first = second

/-- Whether the script is among the addresses of the account. -/
def lists (book : AddressBook σ) (account : AccountId) (script : Script) : Bool :=
  match book.accountAddresses account with
  | .ok scripts => script ∈ scripts
  | .error _ => false

/-- The account that lists the script among its addresses. -/
def issuer? (book : AddressBook σ) (script : Script) : Option AccountId :=
  book.accounts.find? fun account => book.lists account script

theorem mem_issuedPaths {account : AccountId} {record : AccountRecord} {path : KeyPath} :
    path ∈ issuedPaths account record ↔
      path.account = account ∧ path.index.toNat < (record.nextIndex path.branch).toNat := by
  simp only [issuedPaths, List.mem_flatMap, List.mem_map, mem_indicesBelow]
  constructor
  · rintro ⟨branch, _, index, hindex, rfl⟩
    exact ⟨rfl, hindex⟩
  · rintro ⟨rfl, hindex⟩
    refine ⟨path.branch, ?_, path.index, hindex, rfl⟩
    cases path.branch <;> simp

/-- The book knows exactly the digests of what its records account for. -/
def Coherent (book : AddressBook σ) : Prop :=
  ∀ digest path, (digest, path) ∈ book.owned ↔ book.Issued path ∧ book.digest path = digest

/-! ## Starting -/

theorem coherent_ofData (data : KeyChainData) (store : σ) : (ofData data store).Coherent := by
  intro digest path
  simp only [ofData, ownedEntries, List.mem_reverse, List.mem_flatMap, List.mem_map, Prod.exists,
    Prod.mk.injEq, KeyChain.script, mem_issuedPaths, ← Registry.get?_eq_some_iff_mem]
  constructor
  · rintro ⟨account, record, hrecord, _, ⟨rfl, hindex⟩, rfl, rfl⟩
    exact ⟨⟨record, hrecord, hindex⟩, rfl⟩
  · rintro ⟨⟨record, hrecord, hindex⟩, rfl⟩
    exact ⟨path.account, record, hrecord, path, ⟨rfl, hindex⟩, rfl, rfl⟩

variable {backend : AccountStore σ} {book after : AddressBook σ}

theorem coherent_create {seed : Seed} {kind : ScriptKind} {store created : σ}
    (hcreate : create backend seed kind store = (.ok book, created)) : book.Coherent := by
  rw [create] at hcreate
  rcases hreplace : backend.replace (initialData seed kind) store with ⟨fault | _, stored⟩
  · simp only [hreplace] at hcreate
    cases hcreate
  · simp only [hreplace] at hcreate
    cases hcreate
    exact coherent_ofData _ _

theorem coherent_openStore {store opened : σ}
    (hopen : openStore backend store = (.ok book, opened)) : book.Coherent := by
  rw [openStore] at hopen
  rcases hload : backend.load store with ⟨fault | _ | data, loaded⟩
  · simp only [hload] at hopen
    cases hopen
  · simp only [hload] at hopen
    cases hopen
  · simp only [hload] at hopen
    cases hopen
    exact coherent_ofData _ _

/-! ## One call -/

namespace Coherent

variable (hcoherent : book.Coherent)
include hcoherent

theorem of_same (hkeychain : after.keychain = book.keychain)
    (hissued : ∀ path, after.Issued path ↔ book.Issued path)
    (howned : after.owned = book.owned) : after.Coherent := by
  intro digest path
  rw [howned, hissued, AddressBook.digest, hkeychain]
  exact hcoherent digest path

theorem of_sameUpTo (hsame : book.SameUpTo (fun _ => ()) after) : after.Coherent :=
  hcoherent.of_same hsame.keychain_eq (fun _ => by rw [Issued, hsame.records_eq, Issued])
    hsame.owned_eq

/-- What is handed out next is the one path that both the records and the list gain. -/
theorem of_handsOut {account : AccountId} {branch : Branch} {script : Script}
    (hhanded : HandsOut backend account branch script book after) : after.Coherent := by
  obtain ⟨record, advanced, hrecord, hadvanced, hadvances, _, hscript, howned⟩ := hhanded.advances
  have hissued (path : KeyPath) : after.Issued path ↔
      path = ⟨account, branch, record.nextIndex branch⟩ ∨ book.Issued path := by
    obtain ⟨owner, side, index⟩ := path
    by_cases howner : owner = account
    · subst howner
      simp only [Issued, hrecord, hadvanced, Option.some.injEq, exists_eq_left', KeyPath.mk.injEq,
        true_and]
      by_cases hside : side = branch
      · subst hside
        rw [hadvances.next_eq, Nat.lt_succ_iff_lt_or_eq, or_comm, UInt32.toNat_inj]
        simp only [true_and]
      · rw [hadvances.others_eq side hside]
        simp only [hside, false_and, false_or]
    · simp only [Issued, hhanded.others_eq owner howner, KeyPath.mk.injEq, howner, false_and,
        false_or]
  intro digest path
  rw [howned, List.mem_cons, hcoherent digest path, hissued, AddressBook.digest,
    AddressBook.digest, hhanded.keychain_eq, Prod.mk.injEq, hscript, or_and_right]
  refine or_congr_left ⟨?_, ?_⟩
  · rintro ⟨rfl, rfl⟩
    exact ⟨rfl, rfl⟩
  · rintro ⟨rfl, rfl⟩
    exact ⟨rfl, rfl⟩

theorem issue (account : AccountId) (branch : Branch) :
    (AddressBook.issue backend account branch book).2.Coherent := by
  rcases issue_cases backend.keepsOnFailure_unit account branch book with
    ⟨fault, after, hissue, hsame⟩ | ⟨script, after, hissue, hhanded⟩
  · rw [hissue]
    exact hcoherent.of_sameUpTo hsame
  · rw [hissue]
    exact hcoherent.of_handsOut hhanded

/-- A new account has handed nothing out, and replaces none that has. -/
theorem createAccount (kind : ScriptKind) (hfresh : book.nextAccount ∉ book.accounts) :
    (AddressBook.createAccount backend kind book).2.Coherent := by
  rcases createAccount_cases backend.keepsOnFailure_unit kind book with
    ⟨fault, after, hcreate, hsame⟩ | ⟨after, hcreate, hadds⟩
  · rw [hcreate]
    exact hcoherent.of_sameUpTo hsame
  · rw [hcreate]
    refine hcoherent.of_same hadds.keychain_eq (fun path => ?_) hadds.owned_eq
    rw [Issued, Issued, hadds.records_eq]
    by_cases hnew : path.account = book.nextAccount
    · rw [hnew, Registry.get?_insert_self, (Registry.get?_eq_none_iff _ _).2 hfresh]
      cases path.branch <;> simp [AccountRecord.fresh, AccountRecord.nextIndex]
    · rw [Registry.get?_insert_of_ne _ hnew]

end Coherent

end AddressBook

/-- The call adds no account, or one whose number is not in use. -/
def BookCall.FreshNumber (book : AddressBook σ) : BookCall → Prop
  | .createAccount _ => book.nextAccount ∉ book.accounts
  | _ => True

/-- As long as the last account number is not in use, neither is the next one. -/
theorem AddressBook.nextAccount_notMem {book : AddressBook σ}
    (hroom : ⟨4294967295⟩ ∉ book.accounts) : book.nextAccount ∉ book.accounts := by
  rw [nextAccount]
  rcases List.eq_nil_or_concat book.accounts with hnone | ⟨others, last, haccounts⟩
  · rw [hnone]
    exact List.not_mem_nil
  · have hascending : book.accounts.Pairwise fun a b => a.number < b.number :=
      List.pairwise_map.2 book.records.ascending
    have hnumber : last.number ≠ 4294967295 := by
      intro heq
      refine hroom (haccounts ▸ ?_)
      rw [List.concat_eq_append, ← heq]
      exact List.mem_append_right _ List.mem_cons_self
    have hsucc : last.number < last.number + 1 := UInt32.lt_add_one hnumber
    rw [haccounts, List.concat_eq_append] at hascending ⊢
    rw [List.getLast?_concat]
    intro hmem
    rcases List.mem_append.1 hmem with hother | hlast
    · have hless := (List.pairwise_append.1 hascending).2.2 _ hother last List.mem_cons_self
      exact UInt32.lt_asymm hless hsucc
    · have heq := congrArg AccountId.number (List.mem_singleton.1 hlast)
      exact UInt32.ne_of_lt hsucc heq.symm

/-- No call runs out of account numbers before the last one is in use. -/
theorem BookCall.freshNumber_of_room {book : AddressBook σ} (hroom : ⟨4294967295⟩ ∉ book.accounts)
    (call : BookCall) : call.FreshNumber book := by
  cases call with
  | createAccount kind => exact AddressBook.nextAccount_notMem hroom
  | _ => trivial

theorem AddressBook.Coherent.perform (backend : AccountStore σ) {book : AddressBook σ}
    (hcoherent : book.Coherent) (call : BookCall) (hfresh : call.FreshNumber book) :
    (call.perform backend book).2.Coherent := by
  rcases call.perform_state_cases backend book with
    hsame | ⟨account, branch, hissue⟩ | ⟨kind, rfl, hcreate⟩
  · rw [hsame]
    exact hcoherent
  · rw [hissue]
    exact hcoherent.issue account branch
  · rw [hcreate]
    exact hcoherent.createAccount kind hfresh

/-! ## Runs -/

namespace AddressBook

/-- The book was created or opened, and calls made it what it is, whatever has become of its store
in between.  The numbers of its accounts have not run out: no account was added under a number in
use, which cannot happen before 4294967295 is in use (`BookCall.freshNumber_of_room`). -/
inductive Genuine (backend : AccountStore σ) : AddressBook σ → Prop where
  | created {seed : Seed} {kind : ScriptKind} {store after : σ} {book : AddressBook σ}
      (hcreate : create backend seed kind store = (.ok book, after)) : Genuine backend book
  | opened {store after : σ} {book : AddressBook σ}
      (hopen : openStore backend store = (.ok book, after)) : Genuine backend book
  | performed {book : AddressBook σ} (hgenuine : Genuine backend book) (call : BookCall)
      (hfresh : call.FreshNumber book) : Genuine backend (call.perform backend book).2
  | stored {book : AddressBook σ} (hgenuine : Genuine backend book) (store : σ) :
      Genuine backend { book with store }

variable {backend : AccountStore σ}

theorem Genuine.coherent {book : AddressBook σ} (hgenuine : book.Genuine backend) :
    book.Coherent := by
  induction hgenuine with
  | created hcreate => exact coherent_create hcreate
  | opened hopen => exact coherent_openStore hopen
  | performed _ call hfresh ih => exact ih.perform backend call hfresh
  | stored _ store ih => exact ih

end AddressBook

/-- The call adds no account, or one whose number is not in use. -/
def WalletCall.FreshNumber (book : AddressBook σ) : WalletCall → Prop
  | .addresses call => call.FreshNumber book
  | _ => True

namespace Wallet

variable {backend : AccountStore σ} {wallet : Wallet σ}

theorem genuine_build (hgenuine : wallet.book.Genuine backend) (request : AuthoringRequest)
    (account : AccountId) (draws : Nat → Draws) :
    (build backend request account draws wallet).2.book.Genuine backend := by
  rcases build_state_cases backend request account draws wallet with hunchanged | hasked
  · rw [hunchanged]
    exact hgenuine
  · have hissued := hgenuine.performed (.nextChange account) trivial
    rw [BookCall.perform, Action.bind_pure_state] at hissued
    rw [hasked]
    exact hissued

/-- Whatever a wallet does, its book stays genuine. -/
theorem genuine_perform (hgenuine : wallet.book.Genuine backend) (call : WalletCall)
    (hfresh : call.FreshNumber wallet.book) :
    (call.perform backend wallet).book.Genuine backend := by
  cases call with
  | addresses call => exact hgenuine.performed call hfresh
  | build request account draws => exact genuine_build hgenuine request account draws
  | author payments options dryRun draws => exact genuine_build hgenuine _ options.account draws
  | createSigned payments options draws =>
      rw [WalletCall.perform, createSigned_state]
      exact genuine_build hgenuine _ options.account draws
  | recordTransaction | recordCredit | markSpent | setTip | configure | restrictInputs =>
      exact hgenuine

end Wallet

/-! ## Looking a script up -/

namespace AddressBook

variable {book : AddressBook σ} {script : Script} {account other : AccountId}

theorem lists_iff :
    book.lists account script = true ↔
      ∃ record path, book.records.get? account = some record ∧
        path ∈ issuedPaths account record ∧ book.keychain.script path record.kind = script := by
  rw [lists, accountAddresses]
  cases hrecord : book.record account with
  | error fault =>
      rw [(record_eq_error_iff.1 hrecord).1]
      simp [Except.map]
  | ok record =>
      rw [record_eq_ok_iff.1 hrecord]
      simp [Except.map]

/-- An account lists only what its own paths lead to. -/
theorem exists_issued_of_lists (hlists : book.lists account script = true) :
    ∃ path, book.Issued path ∧ path.account = account ∧ book.digest path = script.pubkeyHash := by
  obtain ⟨record, path, hrecord, hpath, rfl⟩ := lists_iff.1 hlists
  obtain ⟨rfl, hindex⟩ := mem_issuedPaths.1 hpath
  exact ⟨path, ⟨record, hrecord, hindex⟩, rfl, rfl⟩

theorem accountKind_eq_ok_iff {kind : ScriptKind} :
    book.accountKind account = .ok kind ↔
      ∃ record, book.records.get? account = some record ∧ record.kind = kind := by
  rw [accountKind]
  cases hrecord : book.record account with
  | error fault =>
      rw [(record_eq_error_iff.1 hrecord).1]
      simp [Except.map]
  | ok record =>
      rw [record_eq_ok_iff.1 hrecord]
      simp [Except.map]

theorem accountOf?_eq_some_iff :
    book.accountOf? script = some account ↔
      ∃ path, book.pathOf? script = some path ∧ path.account = account ∧
        book.accountKind account = .ok script.kind := by
  rw [accountOf?]
  cases hpath : book.pathOf? script with
  | none => simp
  | some path =>
      simp only [Option.some.injEq, exists_eq_left']
      cases hkind : book.accountKind path.account with
      | error fault =>
          constructor
          · intro howner
            cases howner
          · rintro ⟨rfl, hsame⟩
            cases hkind.symm.trans hsame
      | ok kind =>
          rw [Option.ite_none_right_eq_some, Option.some.injEq, and_comm]
          refine and_congr_right ?_
          rintro rfl
          rw [hkind, Except.ok.injEq]

theorem lists_of_accountOf? (hcoherent : book.Coherent)
    (howner : book.accountOf? script = some account) : book.lists account script = true := by
  obtain ⟨path, hpath, rfl, hkind⟩ := accountOf?_eq_some_iff.1 howner
  obtain ⟨record, hrecord, hkind⟩ := accountKind_eq_ok_iff.1 hkind
  obtain ⟨⟨found, hfound, hindex⟩, hdigest⟩ :=
    (hcoherent _ path).1 (mem_owned_of_pathOf? hpath)
  cases hrecord.symm.trans hfound
  refine lists_iff.2 ⟨record, path, hrecord, mem_issuedPaths.2 ⟨rfl, hindex⟩, ?_⟩
  rw [KeyChain.script, hkind, ← digest, hdigest]

section Separated

variable (hseparated : book.Separated)
include hseparated

theorem accountOf?_of_lists (hcoherent : book.Coherent)
    (hlists : book.lists account script = true) : book.accountOf? script = some account := by
  obtain ⟨record, path, hrecord, hpath, rfl⟩ := lists_iff.1 hlists
  obtain ⟨rfl, hindex⟩ := mem_issuedPaths.1 hpath
  have hissued : book.Issued path := ⟨record, hrecord, hindex⟩
  have hknown : (book.digest path, path) ∈ book.owned := (hcoherent _ _).2 ⟨hissued, rfl⟩
  have hfound : (book.pathOf? (book.keychain.script path record.kind)).isSome = true :=
    List.lookup_isSome_iff.2 ⟨_, hknown, beq_self_eq_true _⟩
  obtain ⟨found, hpath⟩ := Option.isSome_iff_exists.1 hfound
  obtain ⟨hfoundIssued, hdigest⟩ := (hcoherent _ found).1 (mem_owned_of_pathOf? hpath)
  cases hseparated found path hfoundIssued hissued hdigest
  exact accountOf?_eq_some_iff.2
    ⟨path, hpath, rfl, accountKind_eq_ok_iff.2 ⟨record, hrecord, rfl⟩⟩

/-- No two accounts list the same script. -/
theorem eq_of_lists (hlists : book.lists account script = true)
    (hother : book.lists other script = true) : account = other := by
  obtain ⟨path, hissued, rfl, hdigest⟩ := exists_issued_of_lists hlists
  obtain ⟨second, hsecond, rfl, hsame⟩ := exists_issued_of_lists hother
  rw [hseparated path second hissued hsecond (hdigest.trans hsame.symm)]

theorem issuer?_eq_some_iff :
    book.issuer? script = some account ↔ book.lists account script = true := by
  have hfirst (found : AccountId) :
      book.issuer? script = some found → book.lists found script = true := List.find?_some
  constructor
  · exact hfirst account
  · intro hlists
    obtain ⟨record, _, hrecord, _⟩ := lists_iff.1 hlists
    have hknown : account ∈ book.accounts := by
      by_contra habsent
      rw [(Registry.get?_eq_none_iff _ _).2 habsent] at hrecord
      cases hrecord
    have hfound : (book.issuer? script).isSome = true :=
      List.find?_isSome.2 ⟨account, hknown, hlists⟩
    obtain ⟨found, hissuer⟩ := Option.isSome_iff_exists.1 hfound
    rw [hissuer, eq_of_lists hseparated (hfirst found hissuer) hlists]

/-- Looking the digest up finds the account that lists the script. -/
theorem accountOf?_eq_issuer? (hcoherent : book.Coherent) (script : Script) :
    book.accountOf? script = book.issuer? script := by
  ext account
  rw [issuer?_eq_some_iff hseparated]
  exact ⟨lists_of_accountOf? hcoherent, accountOf?_of_lists hseparated hcoherent⟩

end Separated

/-- What has just been handed out belongs to the account that asked for it. -/
theorem accountOf?_of_issue {backend : AccountStore σ} {after : AddressBook σ} {branch : Branch}
    (hissue : issue backend account branch book = (.ok script, after)) :
    after.accountOf? script = some account := by
  obtain ⟨record, advanced, store, _, hadvanced, _, rfl, rfl⟩ := issue_eq_ok hissue
  refine accountOf?_eq_some_iff.2 ⟨⟨account, branch, record.nextIndex branch⟩, ?_, rfl, ?_⟩
  · exact List.lookup_cons_self
  · exact accountKind_eq_ok_iff.2 ⟨advanced, Registry.get?_insert_self _ _ _,
      (AccountRecord.advances_of_advanced hadvanced).kind_eq⟩

end AddressBook

end Purse
