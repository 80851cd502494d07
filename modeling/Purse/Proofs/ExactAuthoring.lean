import Purse.Proofs.Allocation
import Purse.Proofs.Conservation
import Purse.Proofs.Progress

/-!
# Authoring within 64 bits

Only the total of a random selection may stop at the greatest word.  Whatever the credits are worth,
every other sum that authoring forms is below 2^64, and nothing that it takes away is more than what
is there.
-/

namespace Purse

variable {σ : Type}

/-- Where the outputs and the fee are what comes in, the outputs add up to a word, and taking it
from the input leaves the fee. -/
theorem Transaction.exists_totalOutput {tx : Transaction} {totalInput fee : Amount}
    (hbalance : totalInput.toNat = Amount.total (tx.outputs.map Output.value) + fee.toNat) :
    ∃ totalOutput, tx.totalOutput? = some totalOutput ∧ totalOutput ≤ totalInput ∧
      fee = totalInput - totalOutput := by
  have hinput : totalInput.toNat < UInt64.size := totalInput.toNat_lt
  have hexact : (UInt64.ofNat (Amount.total (tx.outputs.map Output.value))).toNat =
      Amount.total (tx.outputs.map Output.value) :=
    UInt64.toNat_ofNat_of_lt' (by omega)
  refine ⟨_, Amount.sum?_eq_some_iff.2 hexact, ?_, ?_⟩
  · rw [UInt64.le_iff_toNat_le]
    omega
  · rw [← UInt64.toNat_inj, Amount.toNat_sub_of_le (by omega)]
    omega

namespace AuthoringRequest

theorem totalOut_le_maxMoney {request : AuthoringRequest} {totalOut : Amount}
    (htotal : Payment.total request.payments = .ok totalOut) : totalOut.toNat ≤ Amount.maxMoney :=
  (Payment.total_eq_ok_iff.1 htotal).2.2.2

variable (request : AuthoringRequest) (account : AccountId) (ledger : LedgerReader σ)
  (addresses : ChangeSource σ) (draws : Nat → Draws) (state : σ) in
/-- No sum of authoring passes 64 bits, and no difference falls below zero: in the rounds, which are
those of any eligible credits, where funding has succeeded, and in what is authored. -/
structure ComputesExactly : Prop where
  target {totalOut targetFee reached : Amount} {eligible : List Credit} {kind : ScriptKind}
    {number : Nat} (htotal : Payment.total request.payments = .ok totalOut)
    (hcomes : (request.plan eligible totalOut kind).ComesTo draws number targetFee reached) :
    totalOut.toNat + targetFee.toNat < UInt64.size ∧
      ((request.plan eligible totalOut kind).target targetFee).toNat =
        totalOut.toNat + targetFee.toNat
  selected {totalOut targetFee reached : Amount} {eligible : List Credit} {kind : ScriptKind}
    {number : Nat} {funding : Funding} (htotal : Payment.total request.payments = .ok totalOut)
    (hcomes : (request.plan eligible totalOut kind).ComesTo draws number targetFee reached)
    (hround : (request.plan eligible totalOut kind).round (draws number) targetFee = .ok funding) :
    totalOut ≤ funding.selection.total
  change {totalOut : Amount} {eligible : List Credit} {kind : ScriptKind} {funding : Funding}
    (htotal : Payment.total request.payments = .ok totalOut)
    (hfund : (request.plan eligible totalOut kind).fund draws request.maxFeeIterations.toNat =
      .ok funding) :
    totalOut ≤ funding.selection.total ∧ funding.fee ≤ funding.selection.total - totalOut
  fee {authored : AuthoredTransaction} {after : σ}
    (hbuild : request.build account ledger addresses draws state = (.ok authored, after)) :
    ∃ totalOutput, authored.tx.totalOutput? = some totalOutput ∧
      totalOutput ≤ authored.totalInput ∧ authored.fee = authored.totalInput - totalOutput
  outputs : (request.build account ledger addresses draws state).1 ≠
    .error (.request .outputOverflow)

/-- Authoring computes as with natural numbers, whatever the credits are worth. -/
theorem build_computes_exactly (request : AuthoringRequest) (account : AccountId)
    (ledger : LedgerReader σ) (addresses : ChangeSource σ) (draws : Nat → Draws) (state : σ) :
    request.ComputesExactly account ledger addresses draws state where
  target htotal hcomes := by
    have hmoney := totalOut_le_maxMoney htotal
    have hfee := hcomes.fee_le_maxMoney hmoney
    exact ⟨Amount.add_lt_size_of_le_maxMoney hmoney hfee, FundingPlan.toNat_target hmoney hfee⟩
  selected htotal hcomes hround := by
    have htarget := hcomes.target_le_total (totalOut_le_maxMoney htotal) hround
    exact UInt64.le_iff_toNat_le.2 ((Nat.le_add_right _ _).trans htarget)
  change {totalOut _ _ funding} htotal hfund := by
    obtain ⟨_, _, hfunded⟩ :=
      FundingPlan.exists_funded_of_fund (totalOut_le_maxMoney htotal) hfund
    have hpays : totalOut.toNat + funding.fee.toNat ≤ funding.selection.total.toNat := hfunded.pays
    have hworth := (Nat.le_add_right _ _).trans hpays
    refine ⟨UInt64.le_iff_toNat_le.2 hworth, ?_⟩
    rw [UInt64.le_iff_toNat_le, Amount.toNat_sub_of_le hworth]
    exact Nat.le_sub_of_add_le' hpays
  fee hbuild := by
    obtain ⟨prepared, asked, _, hsound, hend⟩ := build_eq_ok hbuild
    rcases hend with ⟨_, _, rfl⟩ | ⟨_, script, _, rfl⟩
    · exact Transaction.exists_totalOutput hsound.balance_of_drops
    · exact Transaction.exists_totalOutput (hsound.balance_of_keeps script)
  outputs := build_ne_outputOverflow request account ledger addresses draws state

/-- The greatest word, at which the selected total stops, is what the outputs and the fee take. -/
theorem build_smallAndGreatest_computes_exactly :
    ∃ authored totalOutput, randomPayment.build .default (.constant 100 smallAndGreatest)
        (.constant ⟨.p2wpkh, Digest.zero⟩) (fun _ => []) () = (.ok authored, ()) ∧
      authored.totalInput = Amount.maximum ∧ authored.tx.totalOutput? = some totalOutput ∧
      totalOutput ≤ authored.totalInput ∧ authored.fee = Amount.maximum - totalOutput := by
  have hexact := build_computes_exactly randomPayment .default (.constant 100 smallAndGreatest)
    (.constant ⟨.p2wpkh, Digest.zero⟩) (fun _ => []) ()
  obtain ⟨totalOutput, hsum, hless, hfee⟩ := hexact.fee rfl
  exact ⟨_, totalOutput, rfl, rfl, hsum, hless, hfee⟩

end AuthoringRequest

end Purse
