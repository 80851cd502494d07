import Purse.Proofs.Allocation
import Purse.Proofs.BookRuns
import Purse.Wallet.Basic

/-!
# Runs of a wallet

A run makes one call after another and goes on whatever becomes of each.  Authoring reads the
ledger and the book, and changes the book at most by asking for one change address.
-/

namespace Purse

variable {σ : Type}

/-- The wallet's own ledger always answers. -/
theorem Eligibility.read_reader (rule : Eligibility) (ledger : Ledger) (state : σ) :
    rule.read (ledger.reader σ) state =
      (.ok (rule.filter ledger.tipHeight (ledger.listUnspent rule.account rule.minConf)), state) :=
  rfl

namespace AuthoringRequest

/-- What is authored where change is left to the fee. -/
def unchanging (request : AuthoringRequest) (prepared : Prepared) : AuthoredTransaction :=
  .spending prepared.funding.selection request.requested none request.lockTime
    (prepared.funding.selection.total - prepared.totalOut)

/-- What is authored where change is paid to `script`. -/
def changing (request : AuthoringRequest) (prepared : Prepared) (script : Script) :
    AuthoredTransaction :=
  .spending prepared.funding.selection (request.requested ++ [prepared.changeOutput script])
    (some (UInt64.ofNat request.requested.length)) request.lockTime prepared.funding.fee

end AuthoringRequest

namespace Wallet

open AuthoringRequest

/-- Authors any request from the wallet's own ledger and book. -/
def build (backend : AccountStore σ) (request : AuthoringRequest) (account : AccountId)
    (draws : Nat → Draws) : Action (Wallet σ) WalletError AuthoredTransaction :=
  fun wallet =>
    onBook (request.build account (wallet.ledger.reader (AddressBook σ))
      (AddressBook.changeSource backend) draws) wallet

theorem author_eq_build (backend : AccountStore σ) (draws : Nat → Draws) (payments : List Payment)
    (options : Options) (dryRun : Bool) (wallet : Wallet σ) :
    author backend draws payments options dryRun wallet =
      build backend (wallet.request payments options dryRun) options.account draws wallet := rfl

/-- The first half of authoring, which changes nothing. -/
def prepare (backend : AccountStore σ) (request : AuthoringRequest) (account : AccountId)
    (draws : Nat → Draws) (wallet : Wallet σ) : Except WalletError Prepared :=
  (request.prepare account (wallet.ledger.reader (AddressBook σ))
    (AddressBook.changeSource backend) draws wallet.book).1

variable {backend : AccountStore σ} {request : AuthoringRequest} {account : AccountId}
  {draws : Nat → Draws} {wallet : Wallet σ} {prepared : Prepared}

theorem prepare_eq (result : Except WalletError Prepared)
    (hprepare : prepare backend request account draws wallet = result) :
    request.prepare account (wallet.ledger.reader (AddressBook σ))
      (AddressBook.changeSource backend) draws wallet.book = (result, wallet.book) := by
  have hpreserves : (request.prepare account (wallet.ledger.reader (AddressBook σ))
      (AddressBook.changeSource backend) draws).Preserves id :=
    prepare_preserves (Action.preserves_pure _) (fun _ _ => Action.preserves_pure _) fun _ _ => rfl
  exact Prod.ext hprepare (hpreserves wallet.book)

theorem sound_of_prepare
    (hprepare : prepare backend request account draws wallet = .ok prepared) :
    request.Sound prepared :=
  AuthoringRequest.sound_of_prepare (prepare_eq _ hprepare)

/-- Funds are found among the credits that the ledger lists, for known accounts only. -/
theorem prepare_eq_ok
    (hprepare : prepare backend request account draws wallet = .ok prepared) :
    (∃ record, wallet.book.records.get? account = some record) ∧
      prepared.eligible = (request.eligibility account).filter wallet.ledger.tipHeight
        (wallet.ledger.listUnspent account request.minConf) := by
  obtain ⟨_, _, asked, hread, hkind⟩ := prepare_eq_ok_iff.1 (prepare_eq _ hprepare)
  obtain ⟨heligible, rfl⟩ := Prod.mk.inj ((Eligibility.read_reader _ _ _).symm.trans hread)
  refine ⟨?_, (Except.ok.inj heligible).symm⟩
  have hknown := congrArg Prod.fst (Action.mapError_eq_ok_iff.1 hkind)
  cases hrecord : wallet.book.record account with
  | error fault =>
      simp only [AddressBook.changeSource, AddressBook.accountKind, hrecord] at hknown
      cases hknown
  | ok record => exact ⟨record, AddressBook.record_eq_ok_iff.1 hrecord⟩

/-! ## The second half -/

theorem build_of_refused {fault : WalletError}
    (hprepare : prepare backend request account draws wallet = .error fault) :
    build backend request account draws wallet = (.error fault, wallet) := by
  rw [build, onBook, Action.within, build_eq_prepare_complete,
    Action.bind_of_error (prepare_eq _ hprepare)]

theorem build_of_drops
    (hprepare : prepare backend request account draws wallet = .ok prepared)
    (hdrops : request.dropsChange prepared.change prepared.changeKind = true) :
    build backend request account draws wallet = (.ok (request.unchanging prepared), wallet) := by
  rw [build, onBook, Action.within, build_eq_prepare_complete,
    Action.bind_of_ok (prepare_eq _ hprepare),
    (sound_of_prepare hprepare).complete_of_drops hdrops, unchanging]

/-- A preview pays its change to the address in use. -/
theorem build_of_preview
    (hprepare : prepare backend request account draws wallet = .ok prepared)
    (hdry : request.dryRun = true)
    (hkeeps : request.dropsChange prepared.change prepared.changeKind = false) :
    ∃ script, wallet.book.currentChange account = .ok script ∧
      build backend request account draws wallet =
        (.ok (request.changing prepared script), wallet) := by
  obtain ⟨⟨record, hrecord⟩, _⟩ := prepare_eq_ok hprepare
  have hcurrent : ∃ script, wallet.book.currentChange account = .ok script := by
    rw [AddressBook.currentChange, AddressBook.record_eq_ok_iff.2 hrecord]
    exact ⟨_, rfl⟩
  obtain ⟨script, hscript⟩ := hcurrent
  refine ⟨script, hscript, ?_⟩
  rw [build, onBook, Action.within, build_eq_prepare_complete,
    Action.bind_of_ok (prepare_eq _ hprepare),
    (sound_of_prepare hprepare).complete_of_keeps hkeeps, hdry]
  simp only [ChangeSource.script, ChangeSource.peek, AddressBook.changeSource, Action.mapError,
    Bool.not_true, Bool.false_eq_true, if_false, hscript, changing]

/-- A commit pays its change to the address that is handed out for it. -/
theorem build_of_commit
    (hprepare : prepare backend request account draws wallet = .ok prepared)
    (hcommits : request.dryRun = false)
    (hkeeps : request.dropsChange prepared.change prepared.changeKind = false) :
    build backend request account draws wallet =
      match AddressBook.issue backend account .internal wallet.book with
      | (.error cause, book) => (.error (.ofDerivation cause), { wallet with book })
      | (.ok script, book) => (.ok (request.changing prepared script), { wallet with book }) := by
  rw [build, onBook, Action.within, build_eq_prepare_complete,
    Action.bind_of_ok (prepare_eq _ hprepare),
    (sound_of_prepare hprepare).complete_of_keeps hkeeps, hcommits]
  simp only [ChangeSource.script, ChangeSource.allocate, AddressBook.changeSource,
    AddressBook.nextChange, Action.mapError, Bool.not_false, if_true, changing]
  rcases AddressBook.issue backend account .internal wallet.book with ⟨cause | script, book⟩
  · rfl
  · rfl

/-- What is authored pays no change, or has a script to pay it to. -/
theorem build_eq_ok {after : Wallet σ} {authored : AuthoredTransaction}
    (hbuild : build backend request account draws wallet = (.ok authored, after)) :
    ∃ prepared, prepare backend request account draws wallet = .ok prepared ∧
      (authored = request.unchanging prepared ∨
        request.dropsChange prepared.change prepared.changeKind = false ∧
          ∃ script, authored = request.changing prepared script) := by
  rw [build, onBook, Action.within] at hbuild
  rcases hinner : request.build account (wallet.ledger.reader (AddressBook σ))
    (AddressBook.changeSource backend) draws wallet.book with ⟨result, book⟩
  rw [hinner] at hbuild
  cases hbuild
  obtain ⟨prepared, asked, hprepare, _, ⟨_, _, hauthored⟩ | ⟨hkeeps, script, _, hauthored⟩⟩ :=
    AuthoringRequest.build_eq_ok hinner
  · exact ⟨prepared, congrArg Prod.fst hprepare, Or.inl hauthored⟩
  · exact ⟨prepared, congrArg Prod.fst hprepare, Or.inr ⟨hkeeps, script, hauthored⟩⟩

theorem changeOutput?_changing (hsound : request.Sound prepared) (script : Script) :
    (request.changing prepared script).changeOutput? = some (prepared.changeOutput script) :=
  hsound.changeOutput?_spending _ _

/-- How authoring ends: it is refused, keeps no change, shows the change address in use, or asks for
the next one, which is refused or handed out. -/
theorem build_cases (backend : AccountStore σ) (request : AuthoringRequest) (account : AccountId)
    (draws : Nat → Draws) (wallet : Wallet σ) :
    (∃ fault, build backend request account draws wallet = (.error fault, wallet)) ∨
    (∃ authored, authored.changeIndex = none ∧
      build backend request account draws wallet = (.ok authored, wallet)) ∨
    (∃ authored change, request.dryRun = true ∧ authored.changeOutput? = some change ∧
      wallet.book.currentChange account = .ok change.script ∧
      build backend request account draws wallet = (.ok authored, wallet)) ∨
    (∃ cause book, request.dryRun = false ∧
      AddressBook.issue backend account .internal wallet.book = (.error cause, book) ∧
      build backend request account draws wallet =
        (.error (.ofDerivation cause), { wallet with book })) ∨
    (∃ authored change book, request.dryRun = false ∧ authored.changeOutput? = some change ∧
      AddressBook.issue backend account .internal wallet.book = (.ok change.script, book) ∧
      build backend request account draws wallet = (.ok authored, { wallet with book })) := by
  cases hprepare : prepare backend request account draws wallet with
  | error fault => exact Or.inl ⟨fault, build_of_refused hprepare⟩
  | ok prepared =>
      have hchanging := changeOutput?_changing (sound_of_prepare hprepare)
      cases hchange : request.dropsChange prepared.change prepared.changeKind with
      | true => exact Or.inr (Or.inl ⟨_, rfl, build_of_drops hprepare hchange⟩)
      | false =>
          cases hdry : request.dryRun with
          | true =>
              obtain ⟨script, hscript, hbuild⟩ := build_of_preview hprepare hdry hchange
              exact Or.inr (Or.inr (Or.inl
                ⟨_, prepared.changeOutput script, rfl, hchanging script, hscript, hbuild⟩))
          | false =>
              rw [build_of_commit hprepare hdry hchange]
              rcases AddressBook.issue backend account .internal wallet.book with
                ⟨cause | script, book⟩
              · exact Or.inr (Or.inr (Or.inr (Or.inl ⟨cause, book, rfl, rfl, rfl⟩)))
              · exact Or.inr (Or.inr (Or.inr (Or.inr
                  ⟨_, prepared.changeOutput script, book, rfl, hchanging script, rfl, rfl⟩)))

/-- Authoring leaves the wallet as it was, or has asked its book for a change address. -/
theorem build_state_cases (backend : AccountStore σ) (request : AuthoringRequest)
    (account : AccountId) (draws : Nat → Draws) (wallet : Wallet σ) :
    (build backend request account draws wallet).2 = wallet ∨
      (build backend request account draws wallet).2 =
        { wallet with book := (AddressBook.issue backend account .internal wallet.book).2 } := by
  rcases build_cases backend request account draws wallet with
    ⟨_, hbuild⟩ | ⟨_, _, hbuild⟩ | ⟨_, _, _, _, _, hbuild⟩ | ⟨_, _, _, hissue, hbuild⟩ |
      ⟨_, _, _, _, _, hissue, hbuild⟩
  · exact Or.inl (congrArg Prod.snd hbuild)
  · exact Or.inl (congrArg Prod.snd hbuild)
  · exact Or.inl (congrArg Prod.snd hbuild)
  · rw [hbuild, hissue]
    exact Or.inr rfl
  · rw [hbuild, hissue]
    exact Or.inr rfl

end Wallet

/-! ## Runs -/

/-- A call to a wallet, of those that may change it. -/
inductive WalletCall where
  | addresses (call : BookCall)
  | build (request : AuthoringRequest) (account : AccountId) (draws : Nat → Draws)
  | author (payments : List Payment) (options : Wallet.Options) (dryRun : Bool)
      (draws : Nat → Draws)
  | createSigned (payments : List Payment) (options : Wallet.Options) (draws : Nat → Draws)
  | recordTransaction (tx : Transaction) (blockHeight : Option UInt64)
  | recordCredit (credit : Credit)
  | markSpent (point : OutPoint)
  | setTip (height : UInt64)
  | configure (config : AuthoringConfig)
  | restrictInputs (kind : Option ScriptKind)

/-- The wallet after a call, whatever its answer. -/
def WalletCall.perform (backend : AccountStore σ) (wallet : Wallet σ) : WalletCall → Wallet σ
  | .addresses call => (Wallet.onBook (call.perform backend) wallet).2
  | .build request account draws => (Wallet.build backend request account draws wallet).2
  | .author payments options dryRun draws =>
      (Wallet.author backend draws payments options dryRun wallet).2
  | .createSigned payments options draws =>
      (Wallet.createSigned backend draws payments options wallet).2
  | .recordTransaction tx blockHeight => (wallet.recordTransaction tx blockHeight).2
  | .recordCredit credit => (wallet.recordCredit credit).2
  | .markSpent point => (wallet.markSpent point).2
  | .setTip height => wallet.setTip height
  | .configure config => { wallet with config }
  | .restrictInputs inputKind => { wallet with inputKind }

namespace Wallet

/-- The wallet after the calls have been made in turn. -/
def reach (backend : AccountStore σ) (calls : List WalletCall) (wallet : Wallet σ) : Wallet σ :=
  calls.foldl (WalletCall.perform backend) wallet

/-- One step is authoring for good, then signing and the check, which change nothing. -/
theorem createSigned_eq (backend : AccountStore σ) (draws : Nat → Draws)
    (payments : List Payment) (options : Options) (wallet : Wallet σ) :
    createSigned backend draws payments options wallet =
      match author backend draws payments options false wallet with
      | (.error fault, after) => (.error fault, after)
      | (.ok authored, after) =>
          ((signChecked after.book authored).map fun signed => (authored, signed), after) := by
  rw [createSigned, Action.bind_apply]
  rcases author backend draws payments options false wallet with ⟨fault | authored, after⟩
  · rfl
  · let signing : Action (Wallet σ) WalletError Transaction :=
      fun wallet => (signChecked wallet.book authored, wallet)
    change (signing >>= fun signed => pure (authored, signed)) after = _
    cases hsigned : signChecked after.book authored with
    | error fault =>
        have hrefused : signing after = (.error fault, after) := congrArg (·, after) hsigned
        rw [Action.bind_of_error hrefused]
        simp only [hsigned, Except.map]
    | ok signed =>
        have hanswered : signing after = (.ok signed, after) := congrArg (·, after) hsigned
        rw [Action.bind_of_ok hanswered]
        simp only [hsigned, Except.map, Action.pure_apply]

theorem createSigned_state (backend : AccountStore σ) (draws : Nat → Draws)
    (payments : List Payment) (options : Options) (wallet : Wallet σ) :
    (createSigned backend draws payments options wallet).2 =
      (author backend draws payments options false wallet).2 := by
  rw [createSigned_eq]
  rcases author backend draws payments options false wallet with ⟨fault | authored, after⟩
  · rfl
  · rfl

end Wallet

/-- A new book over a store in memory. -/
def AddressBook.inMemory : AddressBook MemoryStore.State :=
  let data := initialData default .p2wpkh
  ofData data (some data)

end Purse
