import Purse.Authoring.Build
import Purse.Proofs.Eligibility
import Purse.Proofs.Funding
import Purse.Proofs.Request

/-!
# Authoring in two halves

The first half checks the request, reads the ledger and finds the funds, and asks for no address.
The second half deals with change, and fails only where the address that it asks for is refused.
-/

namespace Purse

variable {σ : Type}

/-- What authoring knows before it deals with change. -/
structure Prepared where
  totalOut : Amount
  eligible : List Credit
  changeKind : ScriptKind
  funding : Funding

/-- What is left when the outputs and the fee are paid. -/
def Prepared.change (prepared : Prepared) : Amount :=
  prepared.funding.selection.total - prepared.totalOut - prepared.funding.fee

def Prepared.changeOutput (prepared : Prepared) (script : Script) : Output :=
  ⟨prepared.change, script⟩

/-- The unsigned transaction that spends a selection and leaves `fee` to nobody. -/
def AuthoredTransaction.spending (selection : Selection) (outputs : List Output)
    (changeIndex : Option UInt64) (lockTime : UInt64) (fee : Amount) : AuthoredTransaction where
  tx := {
    version := Transaction.currentVersion
    inputs := selection.selected.map fun credit => .unsigned credit.outpoint
    outputs
    lockTime }
  changeIndex
  totalInput := selection.total
  fee
  prevScripts := selection.selected.map Credit.script
  prevValues := selection.selected.map Credit.amount

/-- Outputs within 64 bits always make a transaction. -/
theorem AuthoredTransaction.ofSelection_eq_spending {selection : Selection}
    {outputs : List Output} {changeIndex : Option UInt64} {lockTime : UInt64}
    {totalOutput : Amount}
    (htotal : totalOutput.toNat = Amount.total (outputs.map Output.value)) :
    ofSelection selection outputs changeIndex lockTime =
      .ok (spending selection outputs changeIndex lockTime (selection.total - totalOutput)) := by
  have hsum : Amount.sum? (outputs.map Output.value) = some totalOutput :=
    Amount.sum?_eq_some_iff.2 htotal
  simp only [ofSelection, Transaction.totalOutput?, hsum, spending]

/-- Whoever hands out scripts fails to do so with the fault of a derivation. -/
theorem ChangeSource.script_eq_error {addresses : ChangeSource σ} {account : AccountId}
    {commit : Bool} {state after : σ} {fault : WalletError}
    (hscript : addresses.script account commit state = (.error fault, after)) :
    ∃ cause, fault = .ofDerivation cause := by
  cases commit with
  | false =>
      obtain ⟨cause, _, hcause⟩ := Action.mapError_eq_error_iff.1 hscript
      exact ⟨cause, hcause.symm⟩
  | true =>
      obtain ⟨cause, _, hcause⟩ := Action.mapError_eq_error_iff.1 hscript
      exact ⟨cause, hcause.symm⟩

namespace AuthoringRequest

variable (request : AuthoringRequest) (account : AccountId) (ledger : LedgerReader σ)
  (addresses : ChangeSource σ) (draws : Nat → Draws)

/-- The outputs asked for, in their order. -/
def requested : List Output :=
  request.payments.map Payment.output

@[simp]
theorem requested_length : request.requested.length = request.payments.length := by
  rw [requested, List.length_map]

theorem requested_values :
    request.requested.map Output.value = request.payments.map Payment.amount := by
  rw [requested, List.map_map]
  rfl

/-- The first half of authoring. -/
def prepare : Action σ WalletError Prepared := do
  let totalOut ← .ofExcept ((Payment.total request.payments).mapError .request)
  let eligible ← (request.eligibility account).read ledger
  let changeKind ← addresses.kind account
  let funding ← .ofExcept
    ((request.plan eligible totalOut changeKind).fund draws request.maxFeeIterations.toNat)
  pure ⟨totalOut, eligible, changeKind, funding⟩

/-- The second half of authoring. -/
def complete (prepared : Prepared) : Action σ WalletError AuthoredTransaction :=
  request.finish account addresses prepared.totalOut prepared.changeKind prepared.funding

theorem complete_eq (prepared : Prepared) :
    request.complete account addresses prepared =
      if request.dropsChange prepared.change prepared.changeKind then
        .ofExcept (AuthoredTransaction.ofSelection prepared.funding.selection request.requested
          none request.lockTime)
      else addresses.script account (!request.dryRun) >>= fun script =>
        .ofExcept (AuthoredTransaction.ofSelection prepared.funding.selection
          (request.requested ++ [prepared.changeOutput script])
          (some (UInt64.ofNat request.requested.length)) request.lockTime) := rfl

theorem build_eq_prepare_complete :
    request.build account ledger addresses draws =
      request.prepare account ledger addresses draws >>= request.complete account addresses := by
  funext state
  simp only [build, prepare, complete, Action.bind_apply, Action.ofExcept_apply,
    Action.pure_apply]
  split
  · rfl
  · split
    · rfl
    · split
      · rfl
      · split
        · rfl
        · rfl

variable {request account ledger addresses draws} {state after : σ} {prepared : Prepared}

theorem prepare_eq_ok_iff :
    request.prepare account ledger addresses draws state = (.ok prepared, after) ↔
      Payment.total request.payments = .ok prepared.totalOut ∧
      (request.plan prepared.eligible prepared.totalOut prepared.changeKind).fund draws
          request.maxFeeIterations.toNat = .ok prepared.funding ∧
      ∃ asked, (request.eligibility account).read ledger state =
          (.ok prepared.eligible, asked) ∧
        addresses.kind account asked = (.ok prepared.changeKind, after) := by
  simp only [prepare, Action.bind_eq_ok_iff, Action.ofExcept_mapError, Action.mapError_eq_ok_iff,
    Action.ofExcept_apply, Action.pure_apply, Prod.mk.injEq, Except.ok.injEq]
  constructor
  · rintro ⟨totalOut, _, ⟨hchecked, rfl⟩, eligible, asked, hread, changeKind, _, hkind, funding, _,
      ⟨hfund, rfl⟩, rfl, rfl⟩
    exact ⟨hchecked, hfund, asked, hread, hkind⟩
  · rintro ⟨hchecked, hfund, asked, hread, hkind⟩
    exact ⟨_, _, ⟨hchecked, rfl⟩, _, asked, hread, _, _, hkind, _, _, ⟨hfund, rfl⟩, rfl, rfl⟩

/-- Whatever keeps the first half from its end, it is not that the outputs overflow. -/
theorem prepare_ne_outputOverflow {fault : WalletError}
    (hprepare : request.prepare account ledger addresses draws state = (.error fault, after)) :
    fault ≠ .request .outputOverflow := by
  rintro rfl
  rw [prepare, Action.ofExcept_mapError] at hprepare
  rcases Action.bind_eq_error_iff.1 hprepare with hchecked | ⟨totalOut, _, _, hprepare⟩
  · obtain ⟨cause, htotal, hcause⟩ := Action.mapError_eq_error_iff.1 hchecked
    cases hcause
    exact Payment.total_ne_outputOverflow _ (congrArg Prod.fst htotal)
  rcases Action.bind_eq_error_iff.1 hprepare with hread | ⟨eligible, _, _, hprepare⟩
  · obtain ⟨cause, hcause⟩ := Eligibility.read_eq_error hread
    cases hcause
  rcases Action.bind_eq_error_iff.1 hprepare with hkind | ⟨changeKind, _, _, hprepare⟩
  · obtain ⟨cause, _, hcause⟩ := Action.mapError_eq_error_iff.1 hkind
    cases hcause
  rcases Action.bind_eq_error_iff.1 hprepare with hfund | ⟨funding, _, _, hprepare⟩
  · obtain ⟨_, _, hcause⟩ := FundingPlan.fundFrom_eq_error _ (congrArg Prod.fst hfund)
    cases hcause
  · cases hprepare

/-- What holds of a request once its funds are found. -/
structure Sound (request : AuthoringRequest) (prepared : Prepared) : Prop where
  positive : ∀ payment ∈ request.payments, 0 < payment.amount
  totalOut_pos : 0 < prepared.totalOut.toNat
  totalOut_eq : prepared.totalOut.toNat = Amount.total (request.requested.map Output.value)
  totalOut_money : prepared.totalOut.toNat ≤ Amount.maxMoney
  distinct : (prepared.eligible.map Credit.outpoint).Nodup
  funded : ∃ draws targetFee,
    (request.plan prepared.eligible prepared.totalOut prepared.changeKind).Funded draws targetFee
      prepared.funding

theorem sound_of_prepare
    (hprepare : request.prepare account ledger addresses draws state = (.ok prepared, after)) :
    request.Sound prepared := by
  obtain ⟨hchecked, hfund, asked, hread, _⟩ := prepare_eq_ok_iff.1 hprepare
  obtain ⟨hnonempty, hpositive, htotal, hmoney⟩ := Payment.total_eq_ok_iff.1 hchecked
  obtain ⟨number, targetFee, hfunded⟩ := FundingPlan.exists_funded_of_fund hmoney hfund
  exact {
    positive := hpositive
    totalOut_pos := by
      have hlength := Payment.length_le_total hpositive
      have hsome := List.length_pos_of_ne_nil hnonempty
      omega
    totalOut_eq := by rw [htotal, requested_values]
    totalOut_money := hmoney
    distinct := Eligibility.nodup_of_read hread
    funded := ⟨draws number, targetFee, hfunded⟩ }

namespace Sound

variable (hsound : request.Sound prepared)
include hsound

theorem pays :
    prepared.totalOut.toNat + prepared.funding.fee.toNat ≤
      prepared.funding.selection.total.toNat := by
  obtain ⟨_, _, hfunded⟩ := hsound.funded
  exact hfunded.pays

/-- What comes in goes to the outputs, to the fee and to change. -/
theorem toNat_change :
    prepared.change.toNat + prepared.totalOut.toNat + prepared.funding.fee.toNat =
      prepared.funding.selection.total.toNat := by
  have hpays := hsound.pays
  rw [Prepared.change, Amount.toNat_sub_of_le, Amount.toNat_sub_of_le (by omega)]
  · omega
  · rw [Amount.toNat_sub_of_le (by omega)]
    omega

/-- The payments and the change add up to a word. -/
theorem toNat_totalOut_add_change (script : Script) :
    (prepared.totalOut + prepared.change).toNat =
      Amount.total ((request.requested ++ [prepared.changeOutput script]).map Output.value) := by
  have hchange := hsound.toNat_change
  have hsize : prepared.funding.selection.total.toNat < UInt64.size :=
    prepared.funding.selection.total.toNat_lt
  calc
    (prepared.totalOut + prepared.change).toNat =
        prepared.totalOut.toNat + prepared.change.toNat :=
      Amount.toNat_add_of_lt (by omega)
    _ = Amount.total (request.requested.map Output.value) + prepared.change.toNat := by
      rw [hsound.totalOut_eq]
    _ = Amount.total ((request.requested ++ [prepared.changeOutput script]).map Output.value) := by
      rw [List.map_append, Amount.total_append]
      rfl

/-- Without a change output, what the payments leave is the fee. -/
theorem balance_of_drops :
    prepared.funding.selection.total.toNat =
      Amount.total (request.requested.map Output.value) +
        (prepared.funding.selection.total - prepared.totalOut).toNat := by
  have hpays := hsound.pays
  rw [← hsound.totalOut_eq, Amount.toNat_sub_of_le (by omega)]
  omega

/-- With a change output, the payments and the change leave the fee that was found. -/
theorem balance_of_keeps (script : Script) :
    prepared.funding.selection.total.toNat =
      Amount.total ((request.requested ++ [prepared.changeOutput script]).map Output.value) +
        prepared.funding.fee.toNat := by
  have hchange := hsound.toNat_change
  simp only [List.map_append, Amount.total_append, ← hsound.totalOut_eq, List.map_cons,
    List.map_nil, Amount.total, Prepared.changeOutput]
  omega

/-- Requests ask for fewer payments than there are 64-bit words, so the change position is exact. -/
theorem toNat_length :
    (UInt64.ofNat request.requested.length).toNat = request.payments.length := by
  have hlength : request.payments.length < UInt64.size := by
    calc
      request.payments.length ≤ Amount.total (request.payments.map Payment.amount) :=
        Payment.length_le_total hsound.positive
      _ = prepared.totalOut.toNat := by rw [hsound.totalOut_eq, requested_values]
      _ ≤ Amount.maxMoney := hsound.totalOut_money
      _ < UInt64.size := Amount.maxMoney_lt_size
  rw [requested_length, UInt64.toNat_ofNat_of_lt' hlength]

/-- Change that is dropped is left to the fee. -/
theorem complete_of_drops (hdrops : request.dropsChange prepared.change prepared.changeKind)
    (state : σ) :
    request.complete account addresses prepared state =
      (.ok (.spending prepared.funding.selection request.requested none request.lockTime
        (prepared.funding.selection.total - prepared.totalOut)), state) := by
  rw [complete_eq, if_pos hdrops, Action.ofExcept_apply,
    AuthoredTransaction.ofSelection_eq_spending hsound.totalOut_eq]

/-- Change that is kept goes to the script handed out for it, whatever that script is. -/
theorem complete_of_keeps
    (hkeeps : request.dropsChange prepared.change prepared.changeKind = false) (state : σ) :
    request.complete account addresses prepared state =
      match addresses.script account (!request.dryRun) state with
      | (.error fault, after) => (.error fault, after)
      | (.ok script, after) =>
          (.ok (.spending prepared.funding.selection
            (request.requested ++ [prepared.changeOutput script])
            (some (UInt64.ofNat request.requested.length)) request.lockTime
            prepared.funding.fee), after) := by
  rw [complete_eq, if_neg (by simp [hkeeps]), Action.bind_apply]
  rcases addresses.script account (!request.dryRun) state with ⟨fault | script, after⟩
  · rfl
  · have htotal := hsound.toNat_totalOut_add_change script
    have hbalance := hsound.balance_of_keeps script
    have hfee : prepared.funding.selection.total - (prepared.totalOut + prepared.change) =
        prepared.funding.fee := by
      rw [← UInt64.toNat_inj, Amount.toNat_sub_of_le (by omega)]
      omega
    simp only [Action.ofExcept_apply, AuthoredTransaction.ofSelection_eq_spending htotal, hfee]

end Sound

/-- A request that is authored went through both halves, and dropped its change or had a script
for it. -/
theorem build_eq_ok {authored : AuthoredTransaction}
    (hbuild : request.build account ledger addresses draws state = (.ok authored, after)) :
    ∃ prepared asked,
      request.prepare account ledger addresses draws state = (.ok prepared, asked) ∧
      request.Sound prepared ∧
      ((request.dropsChange prepared.change prepared.changeKind = true ∧ after = asked ∧
          authored = .spending prepared.funding.selection request.requested none
            request.lockTime (prepared.funding.selection.total - prepared.totalOut)) ∨
        (request.dropsChange prepared.change prepared.changeKind = false ∧
          ∃ script, addresses.script account (!request.dryRun) asked = (.ok script, after) ∧
            authored = .spending prepared.funding.selection
              (request.requested ++ [prepared.changeOutput script])
              (some (UInt64.ofNat request.requested.length)) request.lockTime
              prepared.funding.fee)) := by
  rw [build_eq_prepare_complete] at hbuild
  obtain ⟨prepared, asked, hprepare, hcomplete⟩ := Action.bind_eq_ok_iff.1 hbuild
  have hsound := sound_of_prepare hprepare
  refine ⟨prepared, asked, hprepare, hsound, ?_⟩
  cases hchange : request.dropsChange prepared.change prepared.changeKind with
  | true =>
      rw [hsound.complete_of_drops hchange] at hcomplete
      cases hcomplete
      exact Or.inl ⟨rfl, rfl, rfl⟩
  | false =>
      rw [hsound.complete_of_keeps hchange] at hcomplete
      rcases hscript : addresses.script account (!request.dryRun) asked with
        ⟨fault | script, last⟩
      · rw [hscript] at hcomplete
        cases hcomplete
      · rw [hscript] at hcomplete
        cases hcomplete
        exact Or.inr ⟨rfl, script, rfl, rfl⟩

theorem dropsChange_eq_false_iff {change : Amount} {kind : ScriptKind} :
    request.dropsChange change kind = false ↔
      0 < change ∧ isDust change kind request.relayFee = false := by
  rw [dropsChange, Bool.or_eq_false_iff, decide_eq_false_iff_not, UInt64.pos_iff_ne_zero]

end AuthoringRequest

/-! ## Constant collaborators -/

/-- A ledger that answers every question in the same way. -/
def LedgerReader.constant (tip : UInt64) (credits : List Credit) : LedgerReader σ where
  tipHeight := pure tip
  listUnspent _ _ := pure credits

/-- An address source with a single script. -/
def ChangeSource.constant (script : Script) : ChangeSource σ where
  changeKind _ := pure script.kind
  currentChange _ := pure script
  nextChange _ := pure script

end Purse
