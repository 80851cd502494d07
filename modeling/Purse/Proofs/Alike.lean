import Mathlib
import Purse.Proofs.WalletRuns

/-!
# Wallets that answer alike

Books that differ in nothing but the order of what they know to be handed out give the same answers
and go on to differ in nothing else.  The same holds of wallets over such books.
-/

namespace Purse

variable {σ ε φ α β : Type}

namespace Action

/-- Related states get one answer, and leave related states. -/
def Respects (related : σ → σ → Prop) (action : Action σ ε α) : Prop :=
  ∀ ⦃first second : σ⦄, related first second →
    (action first).1 = (action second).1 ∧ related (action first).2 (action second).2

variable {related : σ → σ → Prop}

theorem respects_ofExcept (result : Except ε α) : (ofExcept result).Respects related :=
  fun _ _ hrelated => ⟨rfl, hrelated⟩

theorem respects_pure (value : α) : (pure value : Action σ ε α).Respects related :=
  fun _ _ hrelated => ⟨rfl, hrelated⟩

/-- An answer from the state as it is. -/
theorem respects_looking {answer : σ → Except ε α}
    (hanswer : ∀ first second, related first second → answer first = answer second) :
    Respects related fun state => (answer state, state) :=
  fun _ _ hrelated => ⟨hanswer _ _ hrelated, hrelated⟩

namespace Respects

variable {action : Action σ ε α}

theorem exists_answer (haction : action.Respects related) {first second : σ}
    (hrelated : related first second) :
    ∃ result afterFirst afterSecond, action first = (result, afterFirst) ∧
      action second = (result, afterSecond) ∧ related afterFirst afterSecond := by
  obtain ⟨hanswer, hafter⟩ := haction hrelated
  exact ⟨(action first).1, _, (action second).2, rfl, Prod.ext hanswer.symm rfl, hafter⟩

theorem bind (haction : action.Respects related) {next : α → Action σ ε β}
    (hnext : ∀ value, (next value).Respects related) : (action >>= next).Respects related := by
  intro first second hrelated
  obtain ⟨result, _, _, hfirst, hsecond, hafter⟩ := haction.exists_answer hrelated
  rw [bind_apply, bind_apply, hfirst, hsecond]
  cases result with
  | error fault => exact ⟨rfl, hafter⟩
  | ok value => exact hnext value hafter

theorem mapError (haction : action.Respects related) (change : ε → φ) :
    (action.mapError change).Respects related := by
  intro first second hrelated
  obtain ⟨result, _, _, hfirst, hsecond, hafter⟩ := haction.exists_answer hrelated
  rw [Action.mapError, Action.mapError, hfirst, hsecond]
  cases result with
  | error fault => exact ⟨rfl, hafter⟩
  | ok value => exact ⟨rfl, hafter⟩

theorem ite (condition : Bool) (haction : action.Respects related) {other : Action σ ε α}
    (hother : other.Respects related) : (if condition then action else other).Respects related := by
  cases condition with
  | true => exact haction
  | false => exact hother

end Respects

end Action

/-! ## Authoring -/

namespace AuthoringRequest

variable {related : σ → σ → Prop} {ledger : LedgerReader σ} {addresses : ChangeSource σ}

/-- Authoring respects what its collaborators respect. -/
theorem respects_build (hheight : ledger.tipHeight.Respects related)
    (hlist : ∀ account minConf, (ledger.listUnspent account minConf).Respects related)
    (hkind : ∀ account, (addresses.changeKind account).Respects related)
    (hcurrent : ∀ account, (addresses.currentChange account).Respects related)
    (hnext : ∀ account, (addresses.nextChange account).Respects related)
    (request : AuthoringRequest) (account : AccountId) (draws : Nat → Draws) :
    (request.build account ledger addresses draws).Respects related := by
  have hscript (commit : Bool) : (addresses.script account commit).Respects related :=
    .ite commit ((hnext account).mapError _) ((hcurrent account).mapError _)
  have hread : ((request.eligibility account).read ledger).Respects related :=
    (hheight.mapError _).bind fun _ => ((hlist _ _).mapError _).bind fun _ =>
      Action.respects_pure _
  have hfinish (totalOut : Amount) (changeKind : ScriptKind) (funding : Funding) :
      (request.finish account addresses totalOut changeKind funding).Respects related :=
    .ite _ (Action.respects_ofExcept _) ((hscript _).bind fun _ => Action.respects_ofExcept _)
  exact (Action.respects_ofExcept _).bind fun totalOut => hread.bind fun eligible =>
    ((hkind account).mapError _).bind fun changeKind =>
      (Action.respects_ofExcept _).bind fun funding => hfinish totalOut changeKind funding

end AuthoringRequest

/-! ## Books -/

namespace AddressBook

/-- The books look digests up alike, and agree in all else. -/
structure Alike (first second : AddressBook σ) : Prop where
  keychain_eq : second.keychain = first.keychain
  records_eq : second.records = first.records
  store_eq : second.store = first.store
  lookup_eq (digest : Digest) : second.owned.lookup digest = first.owned.lookup digest

namespace Alike

variable {first second : AddressBook σ} (halike : first.Alike second)
include halike

theorem record_eq (account : AccountId) : second.record account = first.record account := by
  rw [record, record, halike.records_eq]

theorem accountKind_eq (account : AccountId) :
    second.accountKind account = first.accountKind account := by
  rw [accountKind, accountKind, halike.record_eq]

theorem accountAddresses_eq (account : AccountId) :
    second.accountAddresses account = first.accountAddresses account := by
  rw [accountAddresses, accountAddresses, halike.record_eq, halike.keychain_eq]

theorem currentChange_eq (account : AccountId) :
    second.currentChange account = first.currentChange account := by
  rw [currentChange, currentChange, halike.record_eq, halike.keychain_eq]

theorem accountOf?_eq (script : Script) : second.accountOf? script = first.accountOf? script := by
  simp only [accountOf?, pathOf?, halike.lookup_eq, halike.accountKind_eq]

theorem keyPairFor?_eq (script : Script) :
    second.keyPairFor? script = first.keyPairFor? script := by
  rw [keyPairFor?, keyPairFor?, pathOf?, pathOf?, halike.lookup_eq, halike.keychain_eq]

end Alike

variable (backend : AccountStore σ)

theorem respects_saveRecord (account : AccountId) (record : AccountRecord) :
    (saveRecord backend account record).Respects Alike := by
  intro first second halike
  rw [saveRecord, saveRecord, halike.store_eq]
  rcases backend.saveAccount account record first.store with ⟨fault | _, store⟩
  · exact ⟨rfl, halike.keychain_eq, halike.records_eq, rfl, halike.lookup_eq⟩
  · exact ⟨rfl, halike.keychain_eq, congrArg (·.insert account record) halike.records_eq, rfl,
      halike.lookup_eq⟩

theorem respects_createAccount (kind : ScriptKind) :
    (createAccount backend kind).Respects Alike := by
  intro first second halike
  have hnext : second.nextAccount = first.nextAccount := by
    rw [nextAccount, nextAccount, accounts, accounts, halike.records_eq]
  obtain ⟨result, _, _, hfirst, hsecond, hafter⟩ :=
    (respects_saveRecord backend first.nextAccount (.fresh kind)).exists_answer halike
  simp only [createAccount, hnext, hfirst, hsecond]
  cases result with
  | error fault => exact ⟨rfl, hafter⟩
  | ok _ => exact ⟨rfl, hafter⟩

theorem respects_issue (account : AccountId) (branch : Branch) :
    (issue backend account branch).Respects Alike := by
  intro first second halike
  simp only [issue, halike.record_eq, halike.keychain_eq]
  cases first.record account with
  | error fault => exact ⟨rfl, halike⟩
  | ok record =>
      simp only
      cases record.advanced account branch with
      | error fault => exact ⟨rfl, halike⟩
      | ok advanced =>
          obtain ⟨result, _, _, hfirst, hsecond, hafter⟩ :=
            (respects_saveRecord backend account advanced).exists_answer halike
          simp only [hfirst, hsecond]
          cases result with
          | error fault => exact ⟨rfl, hafter⟩
          | ok _ =>
              refine ⟨rfl, hafter.keychain_eq, hafter.records_eq, hafter.store_eq, fun digest => ?_⟩
              rw [List.lookup_cons, List.lookup_cons, hafter.lookup_eq]

theorem respects_currentAddress (account : AccountId) :
    (currentAddress backend account).Respects Alike := by
  intro first second halike
  have hissue := respects_issue backend account .external halike
  simp only [currentAddress, halike.record_eq, halike.keychain_eq]
  cases first.record account with
  | error fault => exact ⟨rfl, halike⟩
  | ok record =>
      simp only
      split_ifs
      · exact hissue
      · exact ⟨rfl, halike⟩

theorem respects_build (request : AuthoringRequest) (account : AccountId) (ledger : Ledger)
    (draws : Nat → Draws) :
    (request.build account (ledger.reader (AddressBook σ)) (changeSource backend) draws).Respects
      Alike :=
  AuthoringRequest.respects_build (Action.respects_pure _) (fun _ _ => Action.respects_pure _)
    (fun account => Action.respects_looking fun _ _ halike => (halike.accountKind_eq account).symm)
    (fun account =>
      Action.respects_looking fun _ _ halike => (halike.currentChange_eq account).symm)
    (fun account => respects_issue backend account .internal) request account draws

end AddressBook

theorem BookCall.respects_perform (backend : AccountStore σ) (call : BookCall) :
    (call.perform backend).Respects AddressBook.Alike := by
  cases call with
  | createAccount kind =>
      exact (AddressBook.respects_createAccount backend kind).bind fun _ => Action.respects_pure _
  | currentAddress account =>
      exact (AddressBook.respects_currentAddress backend account).bind fun _ =>
        Action.respects_pure _
  | newAddress account =>
      exact (AddressBook.respects_issue backend account .external).bind fun _ =>
        Action.respects_pure _
  | nextChange account =>
      exact (AddressBook.respects_issue backend account .internal).bind fun _ =>
        Action.respects_pure _
  | currentChange account =>
      exact Action.respects_looking fun _ _ halike => by rw [halike.currentChange_eq]
  | accounts =>
      exact Action.respects_looking fun _ _ halike => by
        rw [AddressBook.accounts, AddressBook.accounts, halike.records_eq]
  | record account => exact Action.respects_looking fun _ _ halike => by rw [halike.record_eq]
  | accountKind account =>
      exact Action.respects_looking fun _ _ halike => by rw [halike.accountKind_eq]
  | accountAddresses account =>
      exact Action.respects_looking fun _ _ halike => by rw [halike.accountAddresses_eq]
  | accountOf script => exact Action.respects_looking fun _ _ halike => by rw [halike.accountOf?_eq]
  | keyPairFor script =>
      exact Action.respects_looking fun _ _ halike => by rw [halike.keyPairFor?_eq]

/-! ## Wallets -/

namespace Wallet

/-- The wallets are over books that are alike, and agree in all else. -/
structure Alike (first second : Wallet σ) : Prop where
  book : first.book.Alike second.book
  ledger_eq : second.ledger = first.ledger
  config_eq : second.config = first.config
  inputKind_eq : second.inputKind = first.inputKind

variable {first second : Wallet σ}

theorem Alike.onBook (halike : first.Alike second) {action : Action (AddressBook σ) ε α}
    (haction : action.Respects AddressBook.Alike) :
    (Wallet.onBook action first).1 = (Wallet.onBook action second).1 ∧
      (Wallet.onBook action first).2.Alike (Wallet.onBook action second).2 := by
  obtain ⟨hanswer, hafter⟩ := haction halike.book
  exact ⟨hanswer, hafter, halike.ledger_eq, halike.config_eq, halike.inputKind_eq⟩

variable (backend : AccountStore σ)

theorem respects_build (request : AuthoringRequest) (account : AccountId) (draws : Nat → Draws) :
    (build backend request account draws).Respects Alike := by
  intro first second halike
  rw [build, build, halike.ledger_eq]
  exact halike.onBook (AddressBook.respects_build backend request account first.ledger draws)

theorem respects_author (draws : Nat → Draws) (payments : List Payment) (options : Options)
    (dryRun : Bool) : (author backend draws payments options dryRun).Respects Alike := by
  intro first second halike
  have hrequest : second.request payments options dryRun =
      first.request payments options dryRun := by
    rw [request, request, halike.config_eq, halike.inputKind_eq]
  rw [author_eq_build, author_eq_build, hrequest]
  exact respects_build backend _ options.account draws halike

theorem Alike.creditOutputs_eq (halike : first.Alike second) (template : CreditTemplate)
    (outputs : List Output) (index : Nat) (ledger : Ledger) :
    creditOutputs second.book template index ledger outputs =
      creditOutputs first.book template index ledger outputs := by
  induction outputs generalizing index ledger with
  | nil => rfl
  | cons output outputs ih => simp only [creditOutputs, halike.book.accountOf?_eq, ih]

/-- Whatever is asked of both wallets, they stay alike. -/
theorem Alike.perform (halike : first.Alike second) (call : WalletCall) :
    (call.perform backend first).Alike (call.perform backend second) := by
  cases call with
  | addresses call => exact (halike.onBook (call.respects_perform backend)).2
  | build request account draws => exact (respects_build backend request account draws halike).2
  | author payments options dryRun draws =>
      exact (respects_author backend draws payments options dryRun halike).2
  | createSigned payments options draws =>
      rw [WalletCall.perform, WalletCall.perform, createSigned_state, createSigned_state]
      exact (respects_author backend draws payments options false halike).2
  | recordTransaction tx blockHeight =>
      refine ⟨halike.book, ?_, halike.config_eq, halike.inputKind_eq⟩
      simp only [WalletCall.perform, recordTransaction, halike.ledger_eq, halike.creditOutputs_eq]
  | recordCredit credit =>
      refine ⟨halike.book, ?_, halike.config_eq, halike.inputKind_eq⟩
      simp only [WalletCall.perform, recordCredit, halike.ledger_eq]
  | markSpent point =>
      refine ⟨halike.book, ?_, halike.config_eq, halike.inputKind_eq⟩
      simp only [WalletCall.perform, markSpent, halike.ledger_eq]
  | setTip height =>
      exact ⟨halike.book, congrArg (·.setTip height) halike.ledger_eq, halike.config_eq,
        halike.inputKind_eq⟩
  | configure config => exact ⟨halike.book, halike.ledger_eq, rfl, halike.inputKind_eq⟩
  | restrictInputs kind => exact ⟨halike.book, halike.ledger_eq, halike.config_eq, rfl⟩

theorem Alike.reach (halike : first.Alike second) (calls : List WalletCall) :
    (reach backend calls first).Alike (Wallet.reach backend calls second) := by
  induction calls generalizing first second with
  | nil => exact halike
  | cons call calls ih => exact ih (halike.perform backend call)

end Wallet

end Purse
