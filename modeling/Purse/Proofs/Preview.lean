import Purse.Proofs.WalletRuns

/-!
# Previews and commits

A preview goes the same way as the commit from the same wallet, up to the address that change is
paid to.  What a commit has shown as its change address is what later previews show, until the
account takes the next one.
-/

namespace Purse

variable {σ : Type}

/-! ## Orders without draws -/

namespace FundingPlan

variable {plan : FundingPlan} (hlargest : plan.strategy = .largest)
include hlargest

theorem round_eq_of_largest (draws other : Draws) (targetFee : Amount) :
    plan.round draws targetFee = plan.round other targetFee := by
  rw [round, round, hlargest]
  rfl

/-- The largest credits come first whatever is drawn. -/
theorem fundFrom_eq_of_largest (draws other : Nat → Draws) (rounds number : Nat)
    (targetFee reached : Amount) :
    plan.fundFrom draws rounds number targetFee reached =
      plan.fundFrom other rounds number targetFee reached := by
  induction rounds generalizing number targetFee reached with
  | zero => rfl
  | succ rounds ih =>
      rw [fundFrom, fundFrom, round_eq_of_largest hlargest (draws number) (other number)]
      cases plan.round (other number) targetFee with
      | error fault => rfl
      | ok funding => simp only [ih]

end FundingPlan

theorem Wallet.prepare_eq_of_largest {backend : AccountStore σ} {request : AuthoringRequest}
    (hlargest : request.strategy = .largest) (account : AccountId) (draws other : Nat → Draws)
    (wallet : Wallet σ) :
    prepare backend request account draws wallet =
      prepare backend request account other wallet := by
  have hfund (eligible : List Credit) (totalOut : Amount) (kind : ScriptKind) (rounds : Nat) :
      (request.plan eligible totalOut kind).fund draws rounds =
        (request.plan eligible totalOut kind).fund other rounds :=
    FundingPlan.fundFrom_eq_of_largest hlargest draws other rounds 0 _ _
  simp only [prepare, AuthoringRequest.prepare, hfund]

/-! ## The script that change is paid to -/

/-- The transaction with its change, if there is any, paid to `script`. -/
def AuthoredTransaction.withChangeScript (authored : AuthoredTransaction) (script : Script) :
    AuthoredTransaction :=
  match authored.changeIndex with
  | none => authored
  | some index =>
      { authored with
        tx := { authored.tx with
          outputs := authored.tx.outputs.modify index.toNat fun output => { output with script } } }

theorem AuthoredTransaction.withChangeScript_of_none {authored : AuthoredTransaction}
    (hnone : authored.changeIndex = none) (script : Script) :
    authored.withChangeScript script = authored := by
  rw [withChangeScript, hnone]

theorem modify_concat_length {α : Type} (items : List α) (last : α) (change : α → α) :
    (items ++ [last]).modify items.length change = items ++ [change last] := by
  induction items with
  | nil => rfl
  | cons first rest ih =>
      rw [List.cons_append, List.length_cons, List.modify_succ_cons, ih, List.cons_append]

theorem AuthoringRequest.Sound.withChangeScript_changing {request : AuthoringRequest}
    {prepared : Prepared} (hsound : request.Sound prepared) (script other : Script) :
    (request.changing prepared script).withChangeScript other =
      request.changing prepared other := by
  simp only [AuthoredTransaction.withChangeScript, changing, AuthoredTransaction.spending,
    hsound.toNat_length, ← request.requested_length, modify_concat_length,
    Prepared.changeOutput]

namespace AddressBook

variable {backend : AccountStore σ} {account : AccountId} {book after : AddressBook σ}
  {script : Script}

/-- Handing out the first change address hands out the one that was shown before. -/
theorem currentChange_before_first (hissue : issue backend account .internal book =
      (.ok script, after))
    (hfirst : ∀ record, book.record account = .ok record → record.nextInternal = 0) :
    book.currentChange account = .ok script := by
  obtain ⟨record, advanced, store, hrecord, hadvanced, _, rfl, rfl⟩ := issue_eq_ok hissue
  have hzero := hfirst record (record_eq_ok_iff.2 hrecord)
  rw [currentChange, record_eq_ok_iff.2 hrecord]
  simp only [Except.map, hzero, if_true, AccountRecord.nextIndex]

/-- The change address handed out last is the one in use. -/
theorem currentChange_of_issue (hissue : issue backend account .internal book =
      (.ok script, after)) : after.currentChange account = .ok script := by
  obtain ⟨record, advanced, store, hrecord, hadvanced, _, rfl, rfl⟩ := issue_eq_ok hissue
  have hadvances := AccountRecord.advances_of_advanced hadvanced
  have hnext : advanced.nextInternal = record.nextInternal + 1 := by
    have hsucc : advanced.nextInternal.toNat = record.nextInternal.toNat + 1 := hadvances.next_eq
    have hsize := advanced.nextInternal.toNat_lt
    rw [← UInt32.toNat_inj, UInt32.toNat_add, UInt32.toNat_one, hsucc]
    omega
  have hpositive : advanced.nextInternal ≠ 0 := by
    intro hzero
    have hsucc : advanced.nextInternal.toNat = record.nextInternal.toNat + 1 := hadvances.next_eq
    rw [hzero] at hsucc
    cases hsucc
  rw [currentChange, record_eq_ok_iff.2 (Registry.get?_insert_self _ _ _)]
  simp only [Except.map, hpositive, if_false, hadvances.kind_eq]
  rw [hnext, UInt32.add_sub_cancel]
  rfl

theorem currentChange_congr {other : AddressBook σ} (hkeychain : other.keychain = book.keychain)
    (hrecord : other.records.get? account = book.records.get? account) :
    other.currentChange account = book.currentChange account := by
  simp only [currentChange, record, hrecord, hkeychain]

/-- The change address in use stays in use while the next one is not handed out. -/
theorem currentChange_issue (backend : AccountStore σ) {other : AccountId} {branch : Branch}
    (book : AddressBook σ) (hother : ¬ (other = account ∧ branch = .internal)) :
    (issue backend other branch book).2.currentChange account = book.currentChange account := by
  rcases hissue : issue backend other branch book with ⟨fault | script, after⟩
  · have hsame := (issue_eq_error backend.keepsOnFailure_unit hissue).1
    exact currentChange_congr hsame.keychain_eq (by rw [hsame.records_eq])
  · have hhanded := handsOut_of_issue hissue
    obtain ⟨record, advanced, hbefore, hafter, hadvances, _⟩ := hhanded.advances
    by_cases hsame : other = account
    · subst hsame
      have hindex : advanced.nextInternal = record.nextInternal :=
        hadvances.others_eq .internal fun hinternal => hother ⟨rfl, hinternal.symm⟩
      simp only [currentChange, record_eq_ok_iff.2 hbefore, record_eq_ok_iff.2 hafter, Except.map,
        hindex, hadvances.kind_eq, hhanded.keychain_eq]
    · exact currentChange_congr hhanded.keychain_eq (hhanded.others_eq account (Ne.symm hsame))

theorem currentChange_createAccount (backend : AccountStore σ) (kind : ScriptKind)
    (book : AddressBook σ) (hnew : book.nextAccount ≠ account) :
    (createAccount backend kind book).2.currentChange account = book.currentChange account := by
  rcases createAccount_cases backend.keepsOnFailure_unit kind book with
    ⟨fault, after, hcreate, hsame⟩ | ⟨after, hcreate, hadds⟩
  · rw [hcreate]
    exact currentChange_congr hsame.keychain_eq (by rw [hsame.records_eq])
  · rw [hcreate]
    refine currentChange_congr hadds.keychain_eq ?_
    rw [hadds.records_eq, Registry.get?_insert_of_ne _ hnew.symm]

end AddressBook

/-! ## Runs that take no change address -/

/-- The call neither has a change address of the account handed out nor adds the account. -/
def BookCall.LeavesChange (account : AccountId) (book : AddressBook σ) : BookCall → Prop
  | .nextChange other => other ≠ account
  | .createAccount _ => book.nextAccount ≠ account
  | _ => True

theorem BookCall.currentChange_perform {backend : AccountStore σ} {account : AccountId}
    {call : BookCall} {book : AddressBook σ} (hleaves : call.LeavesChange account book) :
    (call.perform backend book).2.currentChange account = book.currentChange account := by
  have hexternal (other : AccountId) : ¬ (other = account ∧ Branch.external = .internal) :=
    fun hboth => by cases hboth.2
  cases call with
  | createAccount kind =>
      rw [perform, Action.bind_pure_state]
      exact AddressBook.currentChange_createAccount backend kind book hleaves
  | newAddress other =>
      rw [perform, Action.bind_pure_state]
      exact AddressBook.currentChange_issue backend book (hexternal other)
  | nextChange other =>
      rw [perform, Action.bind_pure_state]
      exact AddressBook.currentChange_issue backend book fun hboth => hleaves hboth.1
  | currentAddress other =>
      rw [perform, Action.bind_pure_state]
      rcases AddressBook.currentAddress_cases other book with ⟨_, _, _, hshown⟩ | ⟨_, hfirst⟩
      · rw [hshown]
      · rw [hfirst]
        exact AddressBook.currentChange_issue backend book (hexternal other)
  | currentChange | accounts | record | accountKind | accountAddresses | accountOf | keyPairFor =>
      rfl

/-- The request is a preview, or fails, or keeps no change. -/
def Wallet.TakesNoChange (backend : AccountStore σ) (request : AuthoringRequest)
    (account : AccountId) (draws : Nat → Draws) (wallet : Wallet σ) : Prop :=
  request.dryRun = false → ∀ authored,
    (build backend request account draws wallet).1 = .ok authored → authored.changeIndex = none

/-- The call is no commit of the account that keeps change, and takes none of its change addresses
otherwise. -/
def WalletCall.LeavesChange (backend : AccountStore σ) (account : AccountId) (wallet : Wallet σ) :
    WalletCall → Prop
  | .addresses call => call.LeavesChange account wallet.book
  | .build request other draws =>
      other = account → wallet.TakesNoChange backend request other draws
  | .author payments options dryRun draws =>
      options.account = account →
        wallet.TakesNoChange backend (wallet.request payments options dryRun) options.account draws
  | .createSigned payments options draws =>
      options.account = account →
        wallet.TakesNoChange backend (wallet.request payments options false) options.account draws
  | _ => True

/-- Each of the calls, made in turn, leaves the account's change address in use. -/
def Wallet.LeaveChange (backend : AccountStore σ) (account : AccountId) :
    List WalletCall → Wallet σ → Prop
  | [], _ => True
  | call :: rest, wallet =>
      call.LeavesChange backend account wallet ∧
        LeaveChange backend account rest (call.perform backend wallet)

namespace Wallet

variable {backend : AccountStore σ} {account : AccountId}

theorem currentChange_build {request : AuthoringRequest} {other : AccountId} {draws : Nat → Draws}
    {wallet : Wallet σ}
    (hleaves : other = account → wallet.TakesNoChange backend request other draws) :
    (build backend request other draws wallet).2.book.currentChange account =
      wallet.book.currentChange account := by
  by_cases hsame : other = account
  · rcases build_cases backend request other draws wallet with
      ⟨_, hbuild⟩ | ⟨_, _, hbuild⟩ | ⟨_, _, _, _, _, hbuild⟩ | ⟨_, _, _, hissue, hbuild⟩ |
        ⟨authored, change, _, hcommits, hchange, _, hbuild⟩
    · rw [hbuild]
    · rw [hbuild]
    · rw [hbuild]
    · have hbook := (AddressBook.issue_eq_error backend.keepsOnFailure_unit hissue).1
      rw [hbuild]
      exact AddressBook.currentChange_congr hbook.keychain_eq (by rw [hbook.records_eq])
    · have hnone := hleaves hsame hcommits authored (congrArg Prod.fst hbuild)
      rw [AuthoredTransaction.changeOutput?, hnone] at hchange
      cases hchange
  · rcases build_state_cases backend request other draws wallet with hunchanged | hasked
    · rw [hunchanged]
    · rw [hasked]
      exact AddressBook.currentChange_issue backend wallet.book fun hboth => hsame hboth.1

theorem currentChange_perform {call : WalletCall} {wallet : Wallet σ}
    (hleaves : call.LeavesChange backend account wallet) :
    (call.perform backend wallet).book.currentChange account =
      wallet.book.currentChange account := by
  cases call with
  | addresses call => exact BookCall.currentChange_perform hleaves
  | build request other draws => exact currentChange_build hleaves
  | author payments options dryRun draws => exact currentChange_build hleaves
  | createSigned payments options draws =>
      rw [WalletCall.perform, createSigned_state]
      exact currentChange_build hleaves
  | recordTransaction | recordCredit | markSpent | setTip | configure | restrictInputs => rfl

/-- The change address in use stays in use along a run that does not take the next one. -/
theorem currentChange_reach {calls : List WalletCall} {wallet : Wallet σ}
    (hleave : wallet.LeaveChange backend account calls) :
    (reach backend calls wallet).book.currentChange account =
      wallet.book.currentChange account := by
  induction calls generalizing wallet with
  | nil => rfl
  | cons call rest ih => exact (ih hleave.2).trans (currentChange_perform hleave.1)

/-! ## From the same wallet -/

section Both

variable (backend : AccountStore σ) (request : AuthoringRequest) (account : AccountId)
  (previewDraws commitDraws : Nat → Draws) (wallet : Wallet σ)

/-- The request, as a preview. -/
def preview : Except WalletError AuthoredTransaction × Wallet σ :=
  build backend { request with dryRun := true } account previewDraws wallet

/-- The request, for good. -/
def commit : Except WalletError AuthoredTransaction × Wallet σ :=
  build backend { request with dryRun := false } account commitDraws wallet

/-- What preview and commit share: they fail alike, or author the same where no change is kept, or
they differ in no more than who is asked for the change address. -/
theorem preview_commit_cases (hlargest : request.strategy = .largest) :
    (∃ fault, preview backend request account previewDraws wallet = (.error fault, wallet) ∧
      commit backend request account commitDraws wallet = (.error fault, wallet)) ∨
    (∃ authored, authored.changeIndex = none ∧
      preview backend request account previewDraws wallet = (.ok authored, wallet) ∧
      commit backend request account commitDraws wallet = (.ok authored, wallet)) ∨
    ∃ prepared script, request.Sound prepared ∧
      (∃ record, wallet.book.records.get? account = some record) ∧
      wallet.book.currentChange account = .ok script ∧
      preview backend request account previewDraws wallet =
        (.ok (request.changing prepared script), wallet) ∧
      commit backend request account commitDraws wallet =
        match AddressBook.issue backend account .internal wallet.book with
        | (.error cause, book) => (.error (.ofDerivation cause), { wallet with book })
        | (.ok fresh, book) => (.ok (request.changing prepared fresh), { wallet with book }) := by
  cases hprepare : prepare backend request account commitDraws wallet with
  | error fault =>
      have hpreview := (prepare_eq_of_largest hlargest account previewDraws commitDraws
        wallet).trans hprepare
      exact Or.inl ⟨fault, build_of_refused hpreview, build_of_refused hprepare⟩
  | ok prepared =>
      have hpreview : prepare backend { request with dryRun := true } account previewDraws wallet =
          .ok prepared :=
        (prepare_eq_of_largest hlargest account previewDraws commitDraws wallet).trans hprepare
      have hcommit : prepare backend { request with dryRun := false } account commitDraws wallet =
          .ok prepared := hprepare
      cases hchange : request.dropsChange prepared.change prepared.changeKind with
      | true =>
          exact Or.inr (Or.inl ⟨request.unchanging prepared, rfl,
            build_of_drops hpreview hchange, build_of_drops hprepare hchange⟩)
      | false =>
          obtain ⟨script, hscript, hshown⟩ := build_of_preview hpreview rfl hchange
          exact Or.inr (Or.inr ⟨prepared, script, sound_of_prepare hprepare,
            (prepare_eq_ok hprepare).1, hscript, hshown,
            build_of_commit hcommit rfl hchange⟩)

/-- A preview with change shows the change address in use. -/
theorem preview_shows {shown : AuthoredTransaction}
    (hshown : (preview backend request account previewDraws wallet).1 = .ok shown)
    (hkept : shown.changeIndex ≠ none) :
    ∃ output, shown.changeOutput? = some output ∧
      wallet.book.currentChange account = .ok output.script := by
  rcases build_cases backend { request with dryRun := true } account previewDraws wallet with
    ⟨_, hbuild⟩ | ⟨_, hnone, hbuild⟩ | ⟨_, change, _, hchange, hcurrent, hbuild⟩ |
      ⟨_, _, hcommits, _⟩ | ⟨_, _, _, hcommits, _⟩
  · rw [preview, hbuild] at hshown
    cases hshown
  · rw [preview, hbuild] at hshown
    cases hshown
    exact absurd hnone hkept
  · rw [preview, hbuild] at hshown
    cases hshown
    exact ⟨change, hchange, hcurrent⟩
  · cases hcommits
  · cases hcommits

/-- A commit with change leaves the address of its change in use. -/
theorem currentChange_of_commit {authored : AuthoredTransaction}
    (hcommit : (commit backend request account commitDraws wallet).1 = .ok authored)
    (hkept : authored.changeIndex ≠ none) :
    ∃ change, authored.changeOutput? = some change ∧
      (commit backend request account commitDraws wallet).2.book.currentChange account =
        .ok change.script := by
  rcases build_cases backend { request with dryRun := false } account commitDraws wallet with
    ⟨_, hbuild⟩ | ⟨_, hnone, hbuild⟩ | ⟨_, _, hdry, _⟩ | ⟨_, _, _, _, hbuild⟩ |
      ⟨_, change, _, _, hchange, hissue, hbuild⟩
  · rw [commit, hbuild] at hcommit
    cases hcommit
  · rw [commit, hbuild] at hcommit
    cases hcommit
    exact absurd hnone hkept
  · cases hdry
  · rw [commit, hbuild] at hcommit
    cases hcommit
  · rw [commit, hbuild] at hcommit ⊢
    cases hcommit
    exact ⟨change, hchange, AddressBook.currentChange_of_issue hissue⟩

theorem preview_state : (preview backend request account previewDraws wallet).2 = wallet := by
  rcases build_cases backend { request with dryRun := true } account previewDraws wallet with
    ⟨_, hbuild⟩ | ⟨_, _, hbuild⟩ | ⟨_, _, _, _, _, hbuild⟩ | ⟨_, _, hcommits, _⟩ |
      ⟨_, _, _, hcommits, _⟩
  · exact congrArg Prod.snd hbuild
  · exact congrArg Prod.snd hbuild
  · exact congrArg Prod.snd hbuild
  · cases hcommits
  · cases hcommits

variable {request} (hlargest : request.strategy = .largest)
include hlargest

theorem commit_of_refused_preview {fault : WalletError}
    (hrefused : (preview backend request account previewDraws wallet).1 = .error fault) :
    commit backend request account commitDraws wallet = (.error fault, wallet) := by
  rcases preview_commit_cases backend request account previewDraws commitDraws wallet hlargest with
    ⟨cause, hpreview, hcommit⟩ | ⟨_, _, hpreview, _⟩ | ⟨_, _, _, _, _, hpreview, _⟩
  · rw [hpreview] at hrefused
    cases hrefused
    exact hcommit
  · rw [hpreview] at hrefused
    cases hrefused
  · rw [hpreview] at hrefused
    cases hrefused

theorem preview_of_commit {authored : AuthoredTransaction}
    (hcommitted : (commit backend request account commitDraws wallet).1 = .ok authored) :
    (∃ script, (preview backend request account previewDraws wallet).1 =
      .ok (authored.withChangeScript script)) ∧
    ((authored.changeIndex = none ∨
        ∀ record, wallet.book.record account = .ok record → record.nextInternal = 0) →
      (preview backend request account previewDraws wallet).1 = .ok authored) := by
  rcases preview_commit_cases backend request account previewDraws commitDraws wallet hlargest with
    ⟨_, _, hcommit⟩ | ⟨_, hdropped, hpreview, hcommit⟩ |
      ⟨prepared, script, hsound, _, hcurrent, hpreview, hcommit⟩
  · rw [hcommit] at hcommitted
    cases hcommitted
  · rw [hcommit] at hcommitted
    cases hcommitted
    rw [hpreview]
    exact ⟨⟨default, by rw [AuthoredTransaction.withChangeScript_of_none hdropped]⟩, fun _ => rfl⟩
  · rcases hissue : AddressBook.issue backend account .internal wallet.book with
      ⟨cause | fresh, book⟩
    · rw [hcommit, hissue] at hcommitted
      cases hcommitted
    · rw [hcommit, hissue] at hcommitted
      cases hcommitted
      rw [hpreview]
      refine ⟨⟨script, by rw [hsound.withChangeScript_changing]⟩, fun hsame => ?_⟩
      rcases hsame with hnone | hfirst
      · cases hnone
      · cases hcurrent.symm.trans (AddressBook.currentChange_before_first hissue hfirst)
        rfl

/-- Where only the commit fails, the address for its change was refused. -/
theorem refused_commit_of_preview {authored : AuthoredTransaction} {fault : WalletError}
    (hpreviewed : (preview backend request account previewDraws wallet).1 = .ok authored)
    (hrefused : (commit backend request account commitDraws wallet).1 = .error fault) :
    fault = .ofDerivation (.indexExhausted account .internal) ∨
      ∃ cause, fault = .ofDerivation (.store cause) := by
  rcases preview_commit_cases backend request account previewDraws commitDraws wallet hlargest with
    ⟨_, hpreview, _⟩ | ⟨_, _, _, hcommit⟩ | ⟨_, _, _, ⟨record, hrecord⟩, _, _, hcommit⟩
  · rw [hpreview] at hpreviewed
    cases hpreviewed
  · rw [hcommit] at hrefused
    cases hrefused
  · rcases hissue : AddressBook.issue backend account .internal wallet.book with
      ⟨cause | fresh, book⟩
    · rw [hcommit, hissue] at hrefused
      cases hrefused
      rcases (AddressBook.issue_eq_error backend.keepsOnFailure_unit hissue).2 with
        hunknown | rfl | ⟨failure, rfl⟩
      · cases hrecord.symm.trans hunknown
      · exact Or.inl rfl
      · exact Or.inr ⟨failure, rfl⟩
    · rw [hcommit, hissue] at hrefused
      cases hrefused

end Both

/-- A preview changes nothing, fails only as the commit does, and authors what the commit authors up
to the script of the change output; without change, or before the account's first change address,
there is no difference at all. Where only the commit fails, it was refused the address. The change
script of a commit is the one that previews of the account show from then on, until the account
takes the next change address. -/
theorem preview_agrees_with_commit (backend : AccountStore σ) (request : AuthoringRequest)
    (hlargest : request.strategy = .largest) (account : AccountId)
    (previewDraws commitDraws : Nat → Draws) (wallet : Wallet σ) :
    let previewed := preview backend request account previewDraws wallet
    let committed := commit backend request account commitDraws wallet
    previewed.2 = wallet ∧
    (∀ fault, previewed.1 = .error fault → committed = (.error fault, wallet)) ∧
    (∀ authored, committed.1 = .ok authored →
      (∃ script, previewed.1 = .ok (authored.withChangeScript script)) ∧
      ((authored.changeIndex = none ∨
          ∀ record, wallet.book.record account = .ok record → record.nextInternal = 0) →
        previewed.1 = .ok authored)) ∧
    (∀ authored fault, previewed.1 = .ok authored → committed.1 = .error fault →
      fault = .ofDerivation (.indexExhausted account .internal) ∨
        ∃ cause, fault = .ofDerivation (.store cause)) ∧
    (∀ authored, committed.1 = .ok authored → authored.changeIndex ≠ none →
      ∃ change, authored.changeOutput? = some change ∧
        ∀ calls, committed.2.LeaveChange backend account calls →
        ∀ (later : AuthoringRequest) (draws : Nat → Draws) (shown : AuthoredTransaction),
          (preview backend later account draws (reach backend calls committed.2)).1 = .ok shown →
          shown.changeIndex ≠ none →
            ∃ output, shown.changeOutput? = some output ∧ output.script = change.script) := by
  refine ⟨preview_state backend request account previewDraws wallet,
    fun fault => commit_of_refused_preview backend account previewDraws commitDraws wallet hlargest,
    fun authored => preview_of_commit backend account previewDraws commitDraws wallet hlargest,
    fun authored fault =>
      refused_commit_of_preview backend account previewDraws commitDraws wallet hlargest,
    fun authored hcommit hkept => ?_⟩
  obtain ⟨change, hchange, hused⟩ :=
    currentChange_of_commit backend request account commitDraws wallet hcommit hkept
  refine ⟨change, hchange, fun calls hleave later draws shown hshown hshows => ?_⟩
  obtain ⟨output, houtput, hscript⟩ := preview_shows backend later account draws _ hshown hshows
  rw [currentChange_reach hleave, hused] at hscript
  exact ⟨output, houtput, (Except.ok.inj hscript).symm⟩

/-- A payment of 50000 from the largest credits. -/
def largestPayment : AuthoringRequest :=
  { AuthoringRequest.ofConfig .standard with
    payments := [⟨⟨.p2wpkh, Digest.zero⟩, 50000⟩]
    strategy := .largest }

/-- A new wallet over a store in memory, with a credit of 100000. -/
def fundedWallet : Wallet MemoryStore.State :=
  .ofBook .inMemory
    ⟨100, [⟨⟨Digest.zero, 0⟩, ⟨100000, ⟨.p2wpkh, Digest.zero⟩⟩, .default, some 50, false⟩]⟩

theorem preview_largestPayment_agrees_with_commit :
    let committed := commit MemoryStore.store largestPayment .default (fun _ => []) fundedWallet
    ∃ authored change, committed.1 = .ok authored ∧ authored.changeOutput? = some change ∧
      (preview MemoryStore.store largestPayment .default (fun _ => []) fundedWallet).1 =
        .ok authored ∧
      ∀ later draws shown,
        (preview MemoryStore.store later .default draws (reach MemoryStore.store
          [.addresses (.newAddress .default), .build largestPayment ⟨1⟩ fun _ => []]
          committed.2)).1 = .ok shown →
        shown.changeIndex ≠ none →
          ∃ output, shown.changeOutput? = some output ∧ output.script = change.script := by
  obtain ⟨_, _, hagree, _, hlater⟩ := preview_agrees_with_commit MemoryStore.store largestPayment
    rfl .default (fun _ => []) (fun _ => []) fundedWallet
  have hkept : ((commit MemoryStore.store largestPayment .default (fun _ => [])
      fundedWallet).1.toOption.bind AuthoredTransaction.changeIndex) = some 1 := by
    decide +kernel
  cases hcommit :
      (commit MemoryStore.store largestPayment .default (fun _ => []) fundedWallet).1 with
  | error fault =>
      rw [hcommit] at hkept
      cases hkept
  | ok authored =>
      rw [hcommit] at hkept
      have hindex : authored.changeIndex ≠ none := by
        intro hnone
        cases hnone.symm.trans hkept
      obtain ⟨change, hchange, hshow⟩ := hlater authored hcommit hindex
      refine ⟨authored, change, hcommit, hchange, (hagree authored hcommit).2 (Or.inr ?_), ?_⟩
      · intro record hrecord
        cases hrecord
        rfl
      · exact hshow _ ⟨trivial, fun hother => absurd hother (by decide), trivial⟩

end Wallet

end Purse
