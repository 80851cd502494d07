import Purse.Proofs.Authoring
import Purse.Proofs.LargestFunding

/-!
# Value in authored transactions

An authored transaction spends eligible credits that are worth spending, pays what was asked for,
and keeps at most one change output.  What it counts as its input is what its outputs and its fee
take.  That count is the exact value of the credits unless a random order lets it pass 64 bits.
-/

namespace Purse.AuthoringRequest

open Credit

variable {σ : Type}

/-- The input is the exact value of the credits, or a random order led past the greatest word. -/
theorem Sound.total_exact_or_maximum {request : AuthoringRequest} {prepared : Prepared}
    (hsound : request.Sound prepared) :
    prepared.funding.selection.total.toNat = worth prepared.funding.selection.selected ∨
      request.strategy = .random ∧
        UInt64.size ≤ worth prepared.funding.selection.selected ∧
        prepared.funding.selection.total = Amount.maximum := by
  obtain ⟨draws, targetFee, hfunded⟩ := hsound.funded
  cases hstrategy : request.strategy with
  | largest =>
      exact Or.inl (hfunded.total_eq_worth hstrategy hsound.totalOut_money hfunded.target_money)
  | random =>
      by_cases hsize : worth prepared.funding.selection.selected < UInt64.size
      · exact Or.inl (hfunded.shortest.total_eq_worth hsize)
      · have hlarge := Nat.le_of_not_lt hsize
        refine Or.inr ⟨rfl, hlarge, UInt64.toNat_inj.1 ?_⟩
        rw [hfunded.shortest.total_eq, Nat.min_eq_right (le_trans (Nat.sub_le _ 1) hlarge)]
        rfl

/-- An authored transaction spends eligible credits of distinct outpoints that are worth spending,
in the order of their selection, and pays the requested outputs and worthwhile change. Its input is
what its outputs and its fee take, and is the exact value of the credits, unless a random order led
past the greatest 64-bit word. -/
theorem build_conserves_value (request : AuthoringRequest) (account : AccountId)
    (ledger : LedgerReader σ) (addresses : ChangeSource σ) (draws : Nat → Draws)
    {state after : σ} {authored : AuthoredTransaction}
    (hbuild : request.build account ledger addresses draws state = (.ok authored, after)) :
    ∃ (eligible : List Credit) (read asked : σ) (changeKind : ScriptKind) (credits : List Credit),
      (request.eligibility account).read ledger state = (.ok eligible, read) ∧
      addresses.kind account read = (.ok changeKind, asked) ∧
      (∀ credit ∈ credits, credit ∈ eligible) ∧
      (credits.map Credit.outpoint).Nodup ∧
      (∀ credit ∈ credits, credit.yieldsPositively request.feeRate) ∧
      (∃ number, credits <+: Selection.arrange request.strategy (draws number)
        (Selection.candidates eligible request.feeRate)) ∧
      authored.tx.inputs = credits.map (fun credit => .unsigned credit.outpoint) ∧
      authored.prevScripts = credits.map Credit.script ∧
      authored.prevValues = credits.map Credit.amount ∧
      ((authored.changeIndex = none ∧
          authored.tx.outputs = request.payments.map Payment.output) ∨
        ∃ index change, authored.changeIndex = some index ∧
          index.toNat = request.payments.length ∧
          authored.tx.outputs = request.payments.map Payment.output ++ [change] ∧
          0 < change.value ∧ isDust change.value changeKind request.relayFee = false) ∧
      authored.totalInput.toNat =
        Amount.total (authored.tx.outputs.map Output.value) + authored.fee.toNat ∧
      (authored.totalInput.toNat = Amount.total authored.prevValues ∨
        request.strategy = .random ∧ UInt64.size ≤ Amount.total authored.prevValues ∧
          authored.totalInput = Amount.maximum) := by
  obtain ⟨prepared, asked, hprepare, hsound, hend⟩ := build_eq_ok hbuild
  obtain ⟨_, hfund, read, hread, hkind⟩ := prepare_eq_ok_iff.1 hprepare
  obtain ⟨number, targetFee, hfunded⟩ :=
    FundingPlan.exists_funded_of_fund hsound.totalOut_money hfund
  have hchange := hsound.toNat_change
  have hcandidate : ∀ credit ∈ prepared.funding.selection.selected,
      credit ∈ Selection.candidates prepared.eligible request.feeRate :=
    fun credit hcredit => hfunded.mem_candidates hcredit
  refine ⟨prepared.eligible, read, asked, prepared.changeKind,
    prepared.funding.selection.selected, hread, hkind, ?_, ?_, ?_,
    ⟨number, hfunded.shortest.begins⟩, ?_⟩
  · intro credit hcredit
    exact List.mem_of_mem_filter (hcandidate credit hcredit)
  · exact hfunded.outpoints_nodup hsound.distinct
  · intro credit hcredit
    exact Selection.yieldsPositively_of_mem_candidates (hcandidate credit hcredit)
  · rcases hend with ⟨hdrops, rfl, rfl⟩ | ⟨hkeeps, script, hscript, rfl⟩
    · refine ⟨rfl, rfl, rfl, Or.inl ⟨rfl, rfl⟩, ?_, hsound.total_exact_or_maximum⟩
      simp only [AuthoredTransaction.spending]
      rw [← hsound.totalOut_eq, Amount.toNat_sub_of_le (by omega)]
      omega
    · refine ⟨rfl, rfl, rfl, Or.inr ⟨_, prepared.changeOutput script, rfl, hsound.toNat_length,
        rfl, dropsChange_eq_false_iff.1 hkeeps⟩, ?_, hsound.total_exact_or_maximum⟩
      simp only [AuthoredTransaction.spending, List.map_append, Amount.total_append,
        ← hsound.totalOut_eq, List.map_cons, List.map_nil, Amount.total, Prepared.changeOutput]
      omega

/-- A payment of 50000 in a random order. -/
def randomPayment : AuthoringRequest :=
  { ofConfig .standard with
    payments := [⟨⟨.p2pkh, Digest.zero⟩, 50000⟩]
    strategy := .random }

/-- A credit too small for the payment, and one of the greatest amount there is. -/
def smallAndGreatest : List Credit :=
  [⟨⟨Digest.zero, 0⟩, ⟨1000, ⟨.p2wpkh, Digest.zero⟩⟩, .default, some 50, false⟩,
    ⟨⟨Digest.zero, 1⟩, ⟨Amount.maximum, ⟨.p2wpkh, Digest.zero⟩⟩, .default, some 50, false⟩]

/-- Drawn in this order, the two credits are worth more than the input that they count as. -/
theorem build_random_total_inexact :
    ∃ authored, randomPayment.build .default (.constant 100 smallAndGreatest)
        (.constant ⟨.p2wpkh, Digest.zero⟩) (fun _ => []) () = (.ok authored, ()) ∧
      authored.totalInput.toNat ≠ Amount.total authored.prevValues :=
  ⟨_, rfl, by decide⟩

theorem build_smallAndGreatest_conserves_value :
    ∃ authored, randomPayment.build .default (.constant 100 smallAndGreatest)
        (.constant ⟨.p2wpkh, Digest.zero⟩) (fun _ => []) () = (.ok authored, ()) ∧
      authored.totalInput.toNat =
        Amount.total (authored.tx.outputs.map Output.value) + authored.fee.toNat ∧
      authored.totalInput = Amount.maximum := by
  refine ⟨_, rfl, ?_⟩
  obtain ⟨_, _, _, _, _, _, _, _, _, _, _, _, _, _, _, hbalance, hexact | ⟨_, _, hmaximum⟩⟩ :=
    @build_conserves_value Unit randomPayment .default
      (.constant 100 smallAndGreatest) (.constant ⟨.p2wpkh, Digest.zero⟩) (fun _ => [])
      () () _ rfl
  · exact absurd hexact (by decide)
  · exact ⟨hbalance, hmaximum⟩

end Purse.AuthoringRequest
