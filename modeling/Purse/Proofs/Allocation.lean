import Purse.Proofs.AddressBook
import Purse.Proofs.Preservation
import Purse.Proofs.Trace

/-!
# Handing out change addresses last

Authoring has a change address handed out only once nothing but that can fail any more.  What failed
has therefore handed out nothing, and what was authored has handed out the address that it pays its
change to.
-/

namespace Purse.AuthoringRequest

open Purse.Action

variable {σ τ β γ : Type}

section Calls

variable (request : AuthoringRequest) (account : AccountId) (ledger : LedgerReader σ)
  (addresses : ChangeSource σ) (draws : Nat → Draws)

/-- Authoring has a change address handed out, and knows what was prepared when it does so. The
address is all that is missing then: if it is refused authoring fails with that fault, and otherwise
it ends with the change paid to it. -/
structure AllocatesLast (state : σ) (prepared : Prepared) (asked : σ) : Prop where
  committed : request.dryRun = false
  validated : Payment.total request.payments = .ok prepared.totalOut
  listed : ∃ read,
    (request.eligibility account).read ledger state = (.ok prepared.eligible, read) ∧
      addresses.kind account read = (.ok prepared.changeKind, asked)
  funded : (request.plan prepared.eligible prepared.totalOut prepared.changeKind).fund draws
    request.maxFeeIterations.toNat = .ok prepared.funding
  kept : 0 < prepared.change ∧
    isDust prepared.change prepared.changeKind request.relayFee = false
  calls_eq : request.calls account ledger addresses draws state =
    [.tipHeight, .listUnspent account request.minConf, .changeKind account, .nextChange account]
  refused : ∀ fault after, addresses.nextChange account asked = (.error fault, after) →
    request.build account ledger addresses draws state = (.error (.ofDerivation fault), after)
  handedOut : ∀ script after, addresses.nextChange account asked = (.ok script, after) →
    ∃ authored, request.build account ledger addresses draws state = (.ok authored, after) ∧
      authored.tx.outputs =
        request.payments.map Payment.output ++ [prepared.changeOutput script] ∧
      authored.changeOutput? = some (prepared.changeOutput script)

variable {request account ledger addresses draws}

/-- The change position leads to the change output. -/
theorem Sound.changeOutput?_spending {prepared : Prepared} (hsound : request.Sound prepared)
    (output : Output) (fee : Amount) :
    (AuthoredTransaction.spending prepared.funding.selection (request.requested ++ [output])
      (some (UInt64.ofNat request.requested.length)) request.lockTime fee).changeOutput? =
      some output := by
  rw [AuthoredTransaction.changeOutput?, AuthoredTransaction.spending, Option.bind_some,
    hsound.toNat_length, ← requested_length, List.getElem?_concat_length]

theorem allocatesLast_of_calls {state asked : σ} {prepared : Prepared}
    (hcommitted : request.dryRun = false)
    (hprepare : request.prepare account ledger addresses draws state = (.ok prepared, asked))
    (hkeeps : request.dropsChange prepared.change prepared.changeKind = false)
    (hcalls : request.calls account ledger addresses draws state =
      request.opening account ++ [.nextChange account]) :
    request.AllocatesLast account ledger addresses draws state prepared asked := by
  obtain ⟨hvalidated, hfunded, read, hread, hkind⟩ := prepare_eq_ok_iff.1 hprepare
  have hsound := sound_of_prepare hprepare
  have hbuild : request.build account ledger addresses draws state =
      request.complete account addresses prepared asked := by
    rw [build_eq_prepare_complete, bind_of_ok hprepare]
  rw [hsound.complete_of_keeps hkeeps, hcommitted, Bool.not_false] at hbuild
  have hallocate : addresses.script account true asked =
      (addresses.nextChange account).mapError .ofDerivation asked := rfl
  rw [hallocate, mapError] at hbuild
  exact {
    committed := hcommitted
    validated := hvalidated
    listed := ⟨read, hread, hkind⟩
    funded := hfunded
    kept := dropsChange_eq_false_iff.1 hkeeps
    calls_eq := hcalls
    refused := by
      intro fault after hrefused
      rw [hbuild, hrefused]
    handedOut := by
      intro script after hscript
      rw [hbuild, hscript]
      exact ⟨_, rfl, rfl, hsound.changeOutput?_spending _ _⟩ }

variable (request account ledger addresses draws)

/-- Either no call has an address handed out, or exactly the last one does. -/
theorem calls_cases (state : σ) :
    (∀ call ∈ request.calls account ledger addresses draws state, call.allocates = false) ∨
      ∃ prepared asked,
        request.AllocatesLast account ledger addresses draws state prepared asked := by
  obtain ⟨noted, htraced, hcases⟩ :=
    request.build_traced_cases account ledger addresses draws state
  have hcalls : request.calls account ledger addresses draws state = noted := by
    rw [calls, htraced]
  have hopening : ∀ call ∈ request.opening account, call.allocates = false := by
    simp [opening, Call.allocates]
  rw [hcalls]
  rcases hcases with ⟨_, _, _, hnoted⟩ |
    ⟨prepared, asked, hprepare, ⟨_, rfl⟩ | ⟨hkeeps, hnoted⟩⟩
  · exact Or.inl fun call hcall => hopening call (hnoted.subset hcall)
  · exact Or.inl hopening
  · cases hdry : request.dryRun with
    | true =>
        rw [hdry, if_pos rfl] at hnoted
        refine Or.inl fun call hcall => ?_
        rw [hnoted, List.mem_append, List.mem_singleton] at hcall
        rcases hcall with hfirst | rfl
        · exact hopening call hfirst
        · rfl
    | false =>
        rw [hdry, if_neg Bool.false_ne_true] at hnoted
        exact Or.inr ⟨prepared, asked,
          allocatesLast_of_calls hdry hprepare hkeeps (hcalls.trans hnoted)⟩

/-- The finished outputs never overflow, with change or without. -/
theorem build_ne_outputOverflow (state : σ) :
    (request.build account ledger addresses draws state).1 ≠
      .error (.request .outputOverflow) := by
  intro hresult
  rw [build_eq_prepare_complete] at hresult
  rcases hprepare : request.prepare account ledger addresses draws state with
    ⟨fault | prepared, asked⟩
  · rw [bind_of_error hprepare] at hresult
    cases hresult
    exact prepare_ne_outputOverflow hprepare rfl
  · rw [bind_of_ok hprepare] at hresult
    have hsound := sound_of_prepare hprepare
    cases hchange : request.dropsChange prepared.change prepared.changeKind with
    | true =>
        rw [hsound.complete_of_drops hchange] at hresult
        cases hresult
    | false =>
        rw [hsound.complete_of_keeps hchange] at hresult
        rcases hscript : addresses.script account (!request.dryRun) asked with
          ⟨fault | script, after⟩
        · rw [hscript] at hresult
          cases hresult
          obtain ⟨_, hcause⟩ := ChangeSource.script_eq_error hscript
          cases hcause
        · rw [hscript] at hresult
          cases hresult

end Calls

section Book

/-- An address book beside a ledger refuses a script and changes nothing, shows one that is in use
and changes nothing, or hands one out. -/
theorem script_book_cases {backend : AccountStore σ} {stored : σ → β}
    (hkeeps : backend.KeepsOnFailure stored) (account : AccountId) (commit : Bool)
    (state : τ × AddressBook σ) :
    (∃ fault after,
      (AddressBook.changeSource backend).onSecond.script account commit state =
        (.error fault, after) ∧ state.2.SameUpTo stored after.2) ∨
    (∃ script after,
      (AddressBook.changeSource backend).onSecond.script account commit state =
        (.ok script, after) ∧
      (commit = false ∧ after.2 = state.2 ∨
        commit = true ∧
          AddressBook.HandsOut backend account .internal script state.2 after.2)) := by
  cases commit with
  | false =>
      simp only [ChangeSource.script, Bool.false_eq_true, if_false, ChangeSource.peek,
        ChangeSource.onSecond, AddressBook.changeSource, Action.onSecond, within, mapError]
      cases state.2.currentChange account with
      | error fault => exact Or.inl ⟨_, _, rfl, .refl stored state.2⟩
      | ok script => exact Or.inr ⟨script, _, rfl, Or.inl ⟨trivial, rfl⟩⟩
  | true =>
      simp only [ChangeSource.script, if_true, ChangeSource.allocate, ChangeSource.onSecond,
        AddressBook.changeSource, AddressBook.nextChange, Action.onSecond, within, mapError]
      rcases AddressBook.issue_cases hkeeps account .internal state.2 with
        ⟨fault, after, hissue, hsame⟩ | ⟨script, after, hissue, hhanded⟩
      · rw [hissue]
        exact Or.inl ⟨_, _, rfl, hsame⟩
      · rw [hissue]
        exact Or.inr ⟨script, _, rfl, Or.inr ⟨trivial, hhanded⟩⟩

variable {request : AuthoringRequest} {account : AccountId} {draws : Nat → Draws}

/-- The first half of authoring preserves what its collaborators preserve in their answers. -/
theorem prepare_preserves {ledger : LedgerReader σ} {addresses : ChangeSource σ} {view : σ → γ}
    (htip : ledger.tipHeight.Preserves view)
    (hlist : ∀ account minConf, (ledger.listUnspent account minConf).Preserves view)
    (hkind : ∀ account, (addresses.changeKind account).Preserves view) :
    (request.prepare account ledger addresses draws).Preserves view := by
  have hread : ((request.eligibility account).read ledger).Preserves view :=
    (htip.mapError _).bind fun _ => ((hlist _ _).mapError _).bind fun _ => preserves_pure _
  exact (preserves_ofExcept _).bind fun _ => hread.bind fun _ =>
    ((hkind account).mapError _).bind fun _ => (preserves_ofExcept _).bind fun _ =>
      preserves_pure _

variable (request account draws)

/-- Beside any ledger, authoring with an address book fails and hands out nothing, or succeeds and
hands out the address of its change output, unless it is a dry run or has none. -/
theorem build_book_cases (ledger : LedgerReader τ) {backend : AccountStore σ} {stored : σ → β}
    (hkeeps : backend.KeepsOnFailure stored) (state : τ × AddressBook σ) :
    (∃ fault after,
      request.build account ledger.onFirst (AddressBook.changeSource backend).onSecond draws state =
        (.error fault, after) ∧ state.2.SameUpTo stored after.2) ∨
    (∃ authored after,
      request.build account ledger.onFirst (AddressBook.changeSource backend).onSecond draws state =
        (.ok authored, after) ∧
      ((request.dryRun = true ∨ authored.changeIndex = none) ∧ after.2 = state.2 ∨
        (request.dryRun = false ∧ authored.changeIndex ≠ none) ∧
          ∃ change, authored.changeOutput? = some change ∧
            AddressBook.HandsOut backend account .internal change.script state.2 after.2)) := by
  have hpreserves : (request.prepare account ledger.onFirst
      (AddressBook.changeSource backend).onSecond draws).Preserves Prod.snd :=
    prepare_preserves (onFirst_preserves _) (fun _ _ => onFirst_preserves _) fun _ _ => rfl
  rw [build_eq_prepare_complete]
  rcases hprepare : request.prepare account ledger.onFirst
    (AddressBook.changeSource backend).onSecond draws state with ⟨fault | prepared, asked⟩
  · have hbook : asked.2 = state.2 := hpreserves.eq_after hprepare
    rw [bind_of_error hprepare, ← hbook]
    exact Or.inl ⟨fault, asked, rfl, .refl stored asked.2⟩
  · have hbook : asked.2 = state.2 := hpreserves.eq_after hprepare
    have hsound := sound_of_prepare hprepare
    rw [bind_of_ok hprepare, ← hbook]
    cases hchange : request.dropsChange prepared.change prepared.changeKind with
    | true =>
        rw [hsound.complete_of_drops hchange]
        exact Or.inr ⟨_, asked, rfl, Or.inl ⟨Or.inr rfl, rfl⟩⟩
    | false =>
        rw [hsound.complete_of_keeps hchange]
        rcases script_book_cases hkeeps account (!request.dryRun) asked with
          ⟨fault, after, hscript, hsame⟩ | ⟨script, after, hscript, hend⟩
        · rw [hscript]
          exact Or.inl ⟨fault, after, rfl, hsame⟩
        · rw [hscript]
          refine Or.inr ⟨_, after, rfl, ?_⟩
          rcases hend with ⟨hdry, hunchanged⟩ | ⟨hcommit, hhanded⟩
          · exact Or.inl ⟨Or.inl (by simpa using hdry), hunchanged⟩
          · refine Or.inr ⟨⟨by simpa using hcommit, Option.some_ne_none _⟩,
              prepared.changeOutput script, hsound.changeOutput?_spending _ _, hhanded⟩

end Book

/-- A change address is handed out at most once, by the last call, and only for change that is kept
where nothing but the handing out can fail any more; the finished outputs never overflow. With an
address book over a store that keeps what it holds when it refuses, authoring that fails changes
nothing, and authoring that succeeds hands out exactly the address of its change output, or changes
nothing if it is a dry run or has none. -/
theorem build_allocates_last (request : AuthoringRequest) (account : AccountId)
    (draws : Nat → Draws) :
    (∀ {σ : Type} (ledger : LedgerReader σ) (addresses : ChangeSource σ) (state : σ),
      request.build account (Traced.ledger ledger) (Traced.addresses addresses) draws
          ⟨state, []⟩ =
        ((request.build account ledger addresses draws state).1,
          ⟨(request.build account ledger addresses draws state).2,
            request.calls account ledger addresses draws state⟩) ∧
      (request.calls account ledger addresses draws state).countP Call.allocates ≤ 1 ∧
      (∀ other, .nextChange other ∈ request.calls account ledger addresses draws state →
        other = account ∧ ∃ prepared asked,
          request.AllocatesLast account ledger addresses draws state prepared asked) ∧
      (request.build account ledger addresses draws state).1 ≠
        .error (.request .outputOverflow)) ∧
    ∀ {τ σ β : Type} (ledger : LedgerReader τ) (backend : AccountStore σ) (stored : σ → β),
      backend.KeepsOnFailure stored → ∀ state : τ × AddressBook σ,
      (∀ fault after,
        request.build account ledger.onFirst (AddressBook.changeSource backend).onSecond draws
            state = (.error fault, after) →
          state.2.SameUpTo stored after.2) ∧
      (∀ authored after,
        request.build account ledger.onFirst (AddressBook.changeSource backend).onSecond draws
            state = (.ok authored, after) →
          (request.dryRun = false ∧ authored.changeIndex ≠ none →
            ∃ change, authored.changeOutput? = some change ∧
              AddressBook.HandsOut backend account .internal change.script state.2 after.2) ∧
          (¬ (request.dryRun = false ∧ authored.changeIndex ≠ none) → after.2 = state.2)) := by
  constructor
  · intro σ ledger addresses state
    refine ⟨request.build_traced account ledger addresses draws state, ?_, ?_,
      request.build_ne_outputOverflow account ledger addresses draws state⟩
    · rcases request.calls_cases account ledger addresses draws state with
        hnone | ⟨prepared, asked, hlast⟩
      · rw [List.countP_eq_zero.2 (by simpa using hnone)]
        exact Nat.zero_le 1
      · rw [hlast.calls_eq]
        exact le_refl 1
    · intro other hother
      rcases request.calls_cases account ledger addresses draws state with
        hnone | ⟨prepared, asked, hlast⟩
      · cases hnone _ hother
      · rw [hlast.calls_eq] at hother
        exact ⟨by simpa using hother, prepared, asked, hlast⟩
  · intro τ σ β ledger backend stored hkeeps state
    rcases request.build_book_cases account draws ledger hkeeps state with
      ⟨fault, after, hbuild, hsame⟩ | ⟨authored, after, hbuild, hend⟩
    · rw [hbuild]
      constructor
      · intro _ _ hresult
        cases hresult
        exact hsame
      · intro _ _ hresult
        cases hresult
    · rw [hbuild]
      constructor
      · intro _ _ hresult
        cases hresult
      · intro _ _ hresult
        cases hresult
        rcases hend with ⟨hnothing, hunchanged⟩ | ⟨hcommits, hhanded⟩
        · refine ⟨fun hcommits => ?_, fun _ => hunchanged⟩
          rcases hnothing with hdry | hdropped
          · cases hdry.symm.trans hcommits.1
          · exact absurd hdropped hcommits.2
        · exact ⟨fun _ => hhanded, fun hnothing => absurd hcommits hnothing⟩

/-- A payment of 50000, from a credit that leaves change. -/
def changedPayment : AuthoringRequest :=
  { ofConfig .standard with
    payments := [⟨⟨.p2wpkh, Digest.zero⟩, 50000⟩]
    strategy := .random }

def largeCredit : Credit :=
  ⟨⟨Digest.zero, 0⟩, ⟨100000, ⟨.p2wpkh, Digest.zero⟩⟩, .default, some 50, false⟩

/-- A new book over a store in memory that fails with `fault` if it is one. -/
def newBook (fault : Option StoreError) :
    AddressBook (FailingStore.State MemoryStore.State) :=
  let data := AddressBook.initialData default .p2wpkh
  .ofData data ⟨some data, fault⟩

theorem build_changedPayment_allocates_last :
    (∃ prepared asked, changedPayment.AllocatesLast .default (.constant 100 [largeCredit])
      (.constant ⟨.p2wpkh, Digest.zero⟩) (fun _ => []) () prepared asked) ∧
    (∃ authored after, changedPayment.build .default (.onFirst (.constant 100 [largeCredit]))
        (.onSecond (AddressBook.changeSource (FailingStore.store MemoryStore.store)))
        (fun _ => []) ((), newBook none) = (.ok authored, after) ∧
      ∃ change, authored.changeOutput? = some change ∧
        AddressBook.HandsOut (FailingStore.store MemoryStore.store) .default .internal
          change.script (newBook none) after.2) ∧
    ∃ after, changedPayment.build .default (.onFirst (.constant 100 [largeCredit]))
        (.onSecond (AddressBook.changeSource (FailingStore.store MemoryStore.store)))
        (fun _ => []) ((), newBook (some .notInitialized)) =
          (.error (.ofDerivation (.store .notInitialized)), after) ∧
      (newBook (some .notInitialized)).SameUpTo FailingStore.State.inner after.2 := by
  obtain ⟨hcalls, hbooks⟩ := build_allocates_last changedPayment .default fun _ => []
  have hcalled : Call.nextChange .default ∈ changedPayment.calls .default
      (.constant 100 [largeCredit]) (.constant ⟨.p2wpkh, Digest.zero⟩) (fun _ => []) () := by
    decide
  have hbook (fault : Option StoreError) :=
    @hbooks Unit _ _ (.constant 100 [largeCredit]) (FailingStore.store MemoryStore.store)
      FailingStore.State.inner (FailingStore.keepsOnFailure MemoryStore.keepsOnFailure)
      ((), newBook fault)
  refine ⟨((hcalls _ _ _).2.2.1 _ hcalled).2, ?_, ?_⟩
  · refine ⟨_, _, rfl, ?_⟩
    exact ((hbook none).2 _ _ rfl).1 ⟨rfl, nofun⟩
  · refine ⟨_, rfl, ?_⟩
    exact (hbook _).1 _ _ rfl

end Purse.AuthoringRequest
