import Purse.Authoring.Funding
import Purse.Proofs.Fee
import Purse.Proofs.Selection

/-!
# Rounds of funding

A round selects for the fee so far, and what it selects reaches that fee.  Funding is therefore a
walk of growing fees: a round that does not cover its fee asks for a larger one in the next.
-/

namespace Purse.FundingPlan

open Credit Selection

variable (plan : FundingPlan)

/-- The credits in the order in which a round takes them. -/
def ordered (draws : Draws) : List Credit :=
  arrange plan.strategy draws (candidates plan.eligible plan.feeRate)

theorem worth_ordered (draws : Draws) :
    worth (plan.ordered draws) = worth (candidates plan.eligible plan.feeRate) :=
  worth_perm (arrange_perm _ _ _)

/-- The credits are worth the outputs and the fee of spending them. -/
def Funds (credits : List Credit) : Prop :=
  plan.totalOut.toNat + (plan.requiredFee credits).toNat ≤ worth credits

theorem toNat_requiredFee_le_maxMoney (credits : List Credit) :
    (plan.requiredFee credits).toNat ≤ Amount.maxMoney :=
  plan.feeRate.toNat_fee_le_maxMoney _

theorem requiredFee_perm {left right : List Credit} (hperm : left.Perm right) :
    plan.requiredFee left = plan.requiredFee right := by
  rw [requiredFee, requiredFee, estimateVirtualSize_perm plan.outputs _ (hperm.map _)]

/-- `funding` is what a round finds that is asked for `targetFee`. -/
structure Found (draws : Draws) (targetFee : Amount) (funding : Funding) : Prop where
  shortest : Shortest (plan.ordered draws) (plan.target targetFee) funding.selection
  fee_eq : funding.fee = plan.requiredFee funding.selection.selected

/-- A round finds something, or all candidates together fall short of what it is asked for. -/
theorem round_cases (draws : Draws) (targetFee : Amount) :
    (∃ funding, plan.round draws targetFee = .ok funding ∧ plan.Found draws targetFee funding) ∨
    (∃ available, plan.round draws targetFee =
        .error (.insufficientFunds available (plan.target targetFee)) ∧
      available.toNat = worth (plan.ordered draws) ∧
      worth (plan.ordered draws) < (plan.target targetFee).toNat) := by
  rcases select_cases plan.strategy draws plan.eligible (plan.target targetFee) plan.feeRate with
    ⟨selection, hselect, hshortest⟩ | ⟨available, hselect, havailable, hshort⟩
  · refine Or.inl ⟨⟨selection, plan.requiredFee selection.selected⟩, ?_, hshortest, rfl⟩
    rw [round, hselect]
  · rw [← plan.worth_ordered draws] at havailable hshort
    refine Or.inr ⟨available, ?_, havailable, hshort⟩
    rw [round, hselect]

variable {plan} in
theorem Found.mem_candidates {draws : Draws} {targetFee : Amount} {funding : Funding}
    (hfound : plan.Found draws targetFee funding) {credit : Credit}
    (hcredit : credit ∈ funding.selection.selected) :
    credit ∈ candidates plan.eligible plan.feeRate :=
  (arrange_perm _ _ _).subset (hfound.shortest.begins.subset hcredit)

variable {plan} in
theorem Found.outpoints_nodup {draws : Draws} {targetFee : Amount} {funding : Funding}
    (hfound : plan.Found draws targetFee funding)
    (hdistinct : (plan.eligible.map Credit.outpoint).Nodup) :
    (funding.selection.selected.map Credit.outpoint).Nodup := by
  have hcandidates :
      ((candidates plan.eligible plan.feeRate).map Credit.outpoint).Nodup :=
    hdistinct.sublist (List.filter_sublist.map _)
  have hordered : ((plan.ordered draws).map Credit.outpoint).Nodup :=
    ((arrange_perm _ _ _).map _).nodup_iff.2 hcandidates
  exact hordered.sublist (hfound.shortest.begins.sublist.map _)

theorem found_of_round {draws : Draws} {targetFee : Amount} {funding : Funding}
    (hround : plan.round draws targetFee = .ok funding) : plan.Found draws targetFee funding := by
  rcases plan.round_cases draws targetFee with ⟨found, hfound, hspec⟩ | ⟨_, herror, _⟩
  · rw [hfound] at hround
    cases hround
    exact hspec
  · rw [herror] at hround
    cases hround

/-! ## What a round does to the loop -/

section Loop

variable {plan} {draws : Nat → Draws} {number : Nat} {targetFee reached : Amount} (left : Nat)

theorem fundFrom_of_refused {fault : WalletError}
    (hround : plan.round (draws number) targetFee = .error fault) :
    plan.fundFrom draws (left + 1) number targetFee reached = .error fault := by
  rw [fundFrom, hround]

variable {funding : Funding} (hround : plan.round (draws number) targetFee = .ok funding)
include hround

theorem fundFrom_of_covers (hcovers : plan.covers funding = true) :
    plan.fundFrom draws (left + 1) number targetFee reached = .ok funding := by
  rw [fundFrom, hround]
  exact if_pos hcovers

/-- A round that does not cover its fee hands on to the next one. -/
theorem fundFrom_of_short (hshort : plan.covers funding = false) :
    plan.fundFrom draws (left + 1) number targetFee reached =
      plan.fundFrom draws left (number + 1) funding.fee funding.selection.total := by
  rw [fundFrom, hround]
  exact if_neg (Bool.eq_false_iff.1 hshort)

end Loop

theorem fundFrom_eq_error {draws : Nat → Draws} {rounds number : Nat} {targetFee reached : Amount}
    {fault : WalletError}
    (hfund : plan.fundFrom draws rounds number targetFee reached = .error fault) :
    ∃ available needed, fault = .insufficientFunds available needed := by
  induction rounds generalizing number targetFee reached with
  | zero =>
      cases hfund
      exact ⟨_, _, rfl⟩
  | succ rounds ih =>
      rcases plan.round_cases (draws number) targetFee with
        ⟨funding, hround, _⟩ | ⟨available, hround, _⟩
      · cases hcovers : plan.covers funding with
        | true =>
            rw [fundFrom_of_covers rounds hround hcovers] at hfund
            cases hfund
        | false =>
            rw [fundFrom_of_short rounds hround hcovers] at hfund
            exact ih hfund
      · rw [fundFrom_of_refused rounds hround] at hfund
        cases hfund
        exact ⟨_, _, rfl⟩

section Bounded

/-! Requests are validated, so that the outputs are an amount of money. -/

variable {plan} (hmoney : plan.totalOut.toNat ≤ Amount.maxMoney)
include hmoney

theorem toNat_target {targetFee : Amount} (hfee : targetFee.toNat ≤ Amount.maxMoney) :
    (plan.target targetFee).toNat = plan.totalOut.toNat + targetFee.toNat :=
  Amount.toNat_addSaturating_of_lt (Amount.add_lt_size_of_le_maxMoney hmoney hfee)

variable {draws : Draws} {targetFee : Amount} {funding : Funding}

/-- A round reaches the outputs and the fee that it was asked for. -/
theorem Found.target_le_total (hfee : targetFee.toNat ≤ Amount.maxMoney)
    (hfound : plan.Found draws targetFee funding) :
    plan.totalOut.toNat + targetFee.toNat ≤ funding.selection.total.toNat := by
  rw [← toNat_target hmoney hfee]
  exact hfound.shortest.target_le_total

/-- The subtraction in the exit test loses nothing. -/
theorem Found.covers_iff (hfee : targetFee.toNat ≤ Amount.maxMoney)
    (hfound : plan.Found draws targetFee funding) :
    plan.covers funding = true ↔
      plan.totalOut.toNat + funding.fee.toNat ≤ funding.selection.total.toNat := by
  have htotal := hfound.target_le_total hmoney hfee
  rw [covers, decide_eq_true_iff, UInt64.le_iff_toNat_le, Amount.toNat_sub_of_le (by omega)]
  omega

theorem Found.covers_eq_false_iff (hfee : targetFee.toNat ≤ Amount.maxMoney)
    (hfound : plan.Found draws targetFee funding) :
    plan.covers funding = false ↔
      funding.selection.total.toNat < plan.totalOut.toNat + funding.fee.toNat := by
  rw [← Bool.not_eq_true, hfound.covers_iff hmoney hfee, Nat.not_le]

/-- A round that does not cover its fee asks for a larger one. -/
theorem Found.lt_fee (hfee : targetFee.toNat ≤ Amount.maxMoney)
    (hfound : plan.Found draws targetFee funding) (huncovered : plan.covers funding = false) :
    targetFee.toNat < funding.fee.toNat := by
  have htotal := hfound.target_le_total hmoney hfee
  have hshort := (hfound.covers_eq_false_iff hmoney hfee).1 huncovered
  omega

omit hmoney in
/-- What holds of the first fee, and of the fee of each failed round if it held of the one before,
holds of the fee that the successful round was asked for. -/
theorem exists_found_of_fundFrom (Keeps : Amount → Prop) {draws : Nat → Draws}
    (hstep : ∀ draws targetFee funding, Keeps targetFee → plan.Found draws targetFee funding →
      plan.covers funding = false → Keeps funding.fee)
    {rounds number : Nat} {targetFee reached : Amount} (hstart : Keeps targetFee)
    (hfund : plan.fundFrom draws rounds number targetFee reached = .ok funding) :
    ∃ number targetFee, Keeps targetFee ∧ plan.Found (draws number) targetFee funding ∧
      plan.covers funding = true := by
  induction rounds generalizing number targetFee reached with
  | zero => cases hfund
  | succ rounds ih =>
      cases hround : plan.round (draws number) targetFee with
      | error fault =>
          rw [fundFrom_of_refused rounds hround] at hfund
          cases hfund
      | ok tried =>
          have hfound := plan.found_of_round hround
          cases hcovers : plan.covers tried with
          | true =>
              rw [fundFrom_of_covers rounds hround hcovers] at hfund
              cases hfund
              exact ⟨number, targetFee, hstart, hfound, hcovers⟩
          | false =>
              rw [fundFrom_of_short rounds hround hcovers] at hfund
              exact ih (hstep _ _ _ hstart hfound hcovers) hfund

/-- What funding hands on: the last round's selection, which covers its own fee and the one that
the round was asked for. -/
structure Funded (plan : FundingPlan) (draws : Draws) (targetFee : Amount) (funding : Funding) :
    Prop extends plan.Found draws targetFee funding where
  start_le : (plan.requiredFee []).toNat ≤ targetFee.toNat
  target_le : plan.totalOut.toNat + targetFee.toNat ≤ funding.selection.total.toNat
  pays : plan.totalOut.toNat + funding.fee.toNat ≤ funding.selection.total.toNat
  target_eq : (plan.target targetFee).toNat = plan.totalOut.toNat + targetFee.toNat
  target_money : targetFee.toNat ≤ Amount.maxMoney

theorem exists_funded_of_fund {draws : Nat → Draws} {rounds : Nat}
    (hfund : plan.fund draws rounds = .ok funding) :
    ∃ number targetFee, Funded plan (draws number) targetFee funding := by
  let Keeps (targetFee : Amount) : Prop :=
    (plan.requiredFee []).toNat ≤ targetFee.toNat ∧ targetFee.toNat ≤ Amount.maxMoney
  have hstep : ∀ draws targetFee funding, Keeps targetFee →
      plan.Found draws targetFee funding → plan.covers funding = false → Keeps funding.fee := by
    intro draws targetFee funding hkeeps hfound huncovered
    have hgrows := hfound.lt_fee hmoney hkeeps.2 huncovered
    refine ⟨le_of_lt (lt_of_le_of_lt hkeeps.1 hgrows), ?_⟩
    rw [hfound.fee_eq]
    exact plan.toNat_requiredFee_le_maxMoney _
  have hstart : Keeps (plan.requiredFee []) :=
    ⟨le_refl _, plan.toNat_requiredFee_le_maxMoney []⟩
  obtain ⟨number, targetFee, hkeeps, hfound, hcovers⟩ :=
    exists_found_of_fundFrom Keeps hstep hstart hfund
  exact ⟨number, targetFee, {
    toFound := hfound
    start_le := hkeeps.1
    target_le := hfound.target_le_total hmoney hkeeps.2
    pays := (hfound.covers_iff hmoney hkeeps.2).1 hcovers
    target_eq := toNat_target hmoney hkeeps.2
    target_money := hkeeps.2 }⟩

end Bounded

end Purse.FundingPlan
