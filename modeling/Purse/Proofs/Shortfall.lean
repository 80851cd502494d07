import Purse.Proofs.LargestFunding

/-!
# Where funding falls short

Funding goes from one round to the next as long as no round covers its fee.  It ends with a round
that does, or falls short in one of two ways: the candidates are worth less than what a round is
asked for, or the rounds run out.  Either way less is reported to be there than is needed.
-/

namespace Purse

open Credit Selection

namespace FundingPlan

variable {plan : FundingPlan}

/-! ## One round -/

theorem Found.unique {draws : Draws} {targetFee : Amount} {first second : Funding}
    (hfirst : plan.Found draws targetFee first) (hsecond : plan.Found draws targetFee second) :
    first = second := by
  have hselection := hfirst.shortest.unique hsecond.shortest
  have hfee : first.fee = second.fee := by
    rw [hfirst.fee_eq, hsecond.fee_eq, hselection]
  cases first
  cases second
  cases hselection
  cases hfee
  rfl

/-- Nothing is found that the candidates are not worth. -/
theorem Found.target_le_worth {draws : Draws} {targetFee : Amount} {funding : Funding}
    (hfound : plan.Found draws targetFee funding) :
    (plan.target targetFee).toNat ≤ worth (candidates plan.eligible plan.feeRate) := by
  calc
    (plan.target targetFee).toNat ≤ worth funding.selection.selected := hfound.shortest.reaches
    _ ≤ worth (plan.ordered draws) := worth_le_of_begins hfound.shortest.begins
    _ = worth (candidates plan.eligible plan.feeRate) := plan.worth_ordered draws

theorem round_eq_ok_iff {draws : Draws} {targetFee : Amount} {funding : Funding} :
    plan.round draws targetFee = .ok funding ↔ plan.Found draws targetFee funding := by
  constructor
  · exact plan.found_of_round
  · intro hfound
    rcases plan.round_cases draws targetFee with ⟨other, hround, hother⟩ | ⟨_, _, _, hshort⟩
    · rw [hround, hother.unique hfound]
    · rw [plan.worth_ordered] at hshort
      exact absurd hfound.target_le_worth (Nat.not_le.2 hshort)

theorem round_eq_error_iff {draws : Draws} {targetFee : Amount} {fault : WalletError} :
    plan.round draws targetFee = .error fault ↔
      ∃ available, fault = .insufficientFunds available (plan.target targetFee) ∧
        available.toNat = worth (candidates plan.eligible plan.feeRate) ∧
        available < plan.target targetFee := by
  constructor
  · intro hrefused
    rcases plan.round_cases draws targetFee with
      ⟨funding, hround, _⟩ | ⟨available, hround, havailable, hshort⟩
    · cases hround.symm.trans hrefused
    · cases hround.symm.trans hrefused
      rw [plan.worth_ordered] at havailable hshort
      refine ⟨available, rfl, havailable, ?_⟩
      rw [UInt64.lt_iff_toNat_lt, havailable]
      exact hshort
  · rintro ⟨available, rfl, havailable, hshort⟩
    rw [UInt64.lt_iff_toNat_lt, havailable] at hshort
    rcases plan.round_cases draws targetFee with
      ⟨funding, _, hfound⟩ | ⟨other, hround, hother, _⟩
    · exact absurd hfound.target_le_worth (Nat.not_le.2 hshort)
    · rw [plan.worth_ordered] at hother
      rw [hround, UInt64.toNat_inj.1 (hother.trans havailable.symm)]

/-! ## Rounds that do not cover their fee -/

variable (plan) in
/-- Funding comes to round `number` and asks it for `targetFee`: every round before it selects
credits that do not cover their fee.  The last of these has the total `reached`. -/
inductive ComesTo (draws : Nat → Draws) : (number : Nat) → (targetFee reached : Amount) → Prop where
  | start : ComesTo draws 0 (plan.requiredFee []) 0
  | next {number : Nat} {targetFee reached : Amount} {funding : Funding}
      (hbefore : ComesTo draws number targetFee reached)
      (hround : plan.round (draws number) targetFee = .ok funding)
      (hshort : plan.covers funding = false) :
      ComesTo draws (number + 1) funding.fee funding.selection.total

variable (plan) in
/-- None of the first rounds covers its fee.  The next one is asked for `targetFee`, and the last
one has reached the total `reached`. -/
inductive Uncovered (draws : Nat → Draws) : (rounds : Nat) → (targetFee reached : Amount) → Prop
  where
  | start : Uncovered draws 0 (plan.requiredFee []) 0
  | next {rounds : Nat} {targetFee reached : Amount} {funding : Funding}
      (hbefore : Uncovered draws rounds targetFee reached)
      (hfound : plan.Found (draws rounds) targetFee funding)
      (hshort : funding.selection.total.toNat < plan.totalOut.toNat + funding.fee.toNat) :
      Uncovered draws (rounds + 1) funding.fee funding.selection.total

variable (plan) in
/-- One of the rounds covers its fee, and none before it does. -/
inductive Covered (draws : Nat → Draws) (rounds : Nat) : Funding → Prop where
  | mk {round : Nat} {targetFee reached : Amount} {funding : Funding} (hround : round < rounds)
      (huncovered : plan.Uncovered draws round targetFee reached)
      (hfound : plan.Found (draws round) targetFee funding)
      (hcovers : plan.totalOut.toNat + funding.fee.toNat ≤ funding.selection.total.toNat) :
      Covered draws rounds funding

variable (plan) in
/-- The candidates are worth less than what some round is asked for, or all rounds pass and none
covers its fee. -/
inductive Shortfall (draws : Nat → Draws) (rounds : Nat) : (available needed : Amount) → Prop where
  | selection {round : Nat} {targetFee reached available needed : Amount} (hround : round < rounds)
      (huncovered : plan.Uncovered draws round targetFee reached)
      (havailable : available.toNat = worth (candidates plan.eligible plan.feeRate))
      (hneeded : needed.toNat = plan.totalOut.toNat + targetFee.toNat)
      (hshort : available < needed) : Shortfall draws rounds available needed
  | exhausted {targetFee reached needed : Amount}
      (huncovered : plan.Uncovered draws rounds targetFee reached)
      (hneeded : needed.toNat = plan.totalOut.toNat + targetFee.toNat) :
      Shortfall draws rounds reached needed

variable {draws : Nat → Draws} {rounds : Nat} {targetFee reached : Amount}

/-- With rounds to spare, funding goes on from every round that it comes to. -/
theorem ComesTo.fund_eq (hcomes : plan.ComesTo draws rounds targetFee reached) (left : Nat) :
    plan.fund draws (rounds + left) = plan.fundFrom draws left rounds targetFee reached := by
  induction hcomes generalizing left with
  | start => rw [fund, Nat.zero_add]
  | next _ hround hshort ih =>
      rw [Nat.add_right_comm, Nat.add_assoc, ih, fundFrom_of_short left hround hshort]

theorem Uncovered.fee_le_maxMoney (huncovered : plan.Uncovered draws rounds targetFee reached) :
    targetFee.toNat ≤ Amount.maxMoney := by
  cases huncovered with
  | start => exact plan.toNat_requiredFee_le_maxMoney []
  | next _ hfound _ =>
      rw [hfound.fee_eq]
      exact plan.toNat_requiredFee_le_maxMoney _

/-- What the rounds have reached is less than what is asked for next. -/
theorem Uncovered.reached_lt (hpositive : 0 < plan.totalOut.toNat)
    (huncovered : plan.Uncovered draws rounds targetFee reached) :
    reached.toNat < plan.totalOut.toNat + targetFee.toNat := by
  cases huncovered with
  | start => exact Nat.lt_of_lt_of_le hpositive (Nat.le_add_right _ _)
  | next _ _ hshort => exact hshort

theorem Shortfall.lt {available needed : Amount} (hpositive : 0 < plan.totalOut.toNat)
    (hshortfall : plan.Shortfall draws rounds available needed) : available < needed := by
  cases hshortfall with
  | selection _ _ _ _ hshort => exact hshort
  | exhausted huncovered hneeded =>
      rw [UInt64.lt_iff_toNat_lt, hneeded]
      exact huncovered.reached_lt hpositive

section Bounded

variable (hmoney : plan.totalOut.toNat ≤ Amount.maxMoney)
include hmoney

/-! The exit test of the loop, which subtracts words, asks the exact question in every round. -/

theorem ComesTo.uncovered (hcomes : plan.ComesTo draws rounds targetFee reached) :
    plan.Uncovered draws rounds targetFee reached := by
  induction hcomes with
  | start => exact .start
  | next _ hround hshort ih =>
      have hfound := plan.found_of_round hround
      exact ih.next hfound ((hfound.covers_eq_false_iff hmoney ih.fee_le_maxMoney).1 hshort)

theorem Uncovered.comesTo (huncovered : plan.Uncovered draws rounds targetFee reached) :
    plan.ComesTo draws rounds targetFee reached := by
  induction huncovered with
  | start => exact .start
  | next hbefore hfound hshort ih =>
      have hround := round_eq_ok_iff.2 hfound
      exact ih.next hround ((hfound.covers_eq_false_iff hmoney hbefore.fee_le_maxMoney).2 hshort)

/-- Rounds that do not cover their fee are gone through. -/
theorem Uncovered.fund_eq (huncovered : plan.Uncovered draws rounds targetFee reached)
    (left : Nat) :
    plan.fund draws (rounds + left) = plan.fundFrom draws left rounds targetFee reached :=
  (huncovered.comesTo hmoney).fund_eq left

theorem Covered.fund_eq {funding : Funding} (hcovered : plan.Covered draws rounds funding) :
    plan.fund draws rounds = .ok funding := by
  obtain ⟨hround, huncovered, hfound, hpays⟩ := hcovered
  obtain ⟨left, rfl⟩ := Nat.exists_eq_add_of_lt hround
  have hcovers := (hfound.covers_iff hmoney huncovered.fee_le_maxMoney).2 hpays
  rw [Nat.add_assoc, huncovered.fund_eq hmoney,
    fundFrom_of_covers left (round_eq_ok_iff.2 hfound) hcovers]

theorem Shortfall.fund_eq {available needed : Amount}
    (hshortfall : plan.Shortfall draws rounds available needed) :
    plan.fund draws rounds = .error (.insufficientFunds available needed) := by
  have hasked {targetFee : Amount} (hfee : targetFee.toNat ≤ Amount.maxMoney)
      (hneeded : needed.toNat = plan.totalOut.toNat + targetFee.toNat) :
      needed = plan.target targetFee := by
    rw [← UInt64.toNat_inj, hneeded, toNat_target hmoney hfee]
  cases hshortfall with
  | selection hround huncovered havailable hneeded hshort =>
      obtain ⟨left, rfl⟩ := Nat.exists_eq_add_of_lt hround
      cases hasked huncovered.fee_le_maxMoney hneeded
      rw [Nat.add_assoc, huncovered.fund_eq hmoney]
      apply fundFrom_of_refused
      exact round_eq_error_iff.2 ⟨available, rfl, havailable, hshort⟩
  | exhausted huncovered hneeded =>
      have hfund := huncovered.fund_eq hmoney 0
      rwa [Nat.add_zero, fundFrom, ← hasked huncovered.fee_le_maxMoney hneeded] at hfund

/-- Funding that is not over either covers the fee of a later round, or falls short. -/
theorem Uncovered.cases_of_left (huncovered : plan.Uncovered draws rounds targetFee reached)
    (left : Nat) :
    (∃ funding, plan.Covered draws (rounds + left) funding) ∨
      ∃ available needed, plan.Shortfall draws (rounds + left) available needed := by
  -- on the rounds left: a round that falls short of its fee is one more of those gone through
  induction left generalizing rounds targetFee reached with
  | zero =>
      have hneeded := toNat_target hmoney huncovered.fee_le_maxMoney
      exact Or.inr ⟨reached, plan.target targetFee, .exhausted huncovered hneeded⟩
  | succ left ih =>
      have hround : rounds < rounds + (left + 1) := by omega
      have hfee := huncovered.fee_le_maxMoney
      rcases plan.round_cases (draws rounds) targetFee with
        ⟨funding, _, hfound⟩ | ⟨available, hrefused, _⟩
      · by_cases hpays : plan.totalOut.toNat + funding.fee.toNat ≤ funding.selection.total.toNat
        · exact Or.inl ⟨funding, .mk hround huncovered hfound hpays⟩
        · have hlater := ih (huncovered.next hfound (Nat.not_le.1 hpays))
          rwa [Nat.add_right_comm, Nat.add_assoc] at hlater
      · obtain ⟨_, hsame, havailable, hshort⟩ := round_eq_error_iff.1 hrefused
        cases hsame
        exact Or.inr ⟨available, plan.target targetFee,
          .selection hround huncovered havailable (toNat_target hmoney hfee) hshort⟩

theorem covered_or_shortfall (draws : Nat → Draws) (rounds : Nat) :
    (∃ funding, plan.Covered draws rounds funding) ∨
      ∃ available needed, plan.Shortfall draws rounds available needed := by
  have hstart : plan.Uncovered draws 0 (plan.requiredFee []) 0 := .start
  have hcases := hstart.cases_of_left hmoney rounds
  rwa [Nat.zero_add] at hcases

/-- Funding succeeds with the first round that covers its fee, and only so. -/
theorem fund_eq_ok_iff {funding : Funding} :
    plan.fund draws rounds = .ok funding ↔ plan.Covered draws rounds funding := by
  constructor
  · intro hfund
    rcases covered_or_shortfall hmoney draws rounds with ⟨other, hcovered⟩ | ⟨_, _, hshortfall⟩
    · cases (hcovered.fund_eq hmoney).symm.trans hfund
      exact hcovered
    · cases (hshortfall.fund_eq hmoney).symm.trans hfund
  · exact fun hcovered => hcovered.fund_eq hmoney

theorem fund_eq_error_iff {fault : WalletError} :
    plan.fund draws rounds = .error fault ↔
      ∃ available needed, fault = .insufficientFunds available needed ∧
        plan.Shortfall draws rounds available needed := by
  constructor
  · intro hfund
    rcases covered_or_shortfall hmoney draws rounds with
      ⟨other, hcovered⟩ | ⟨available, needed, hshortfall⟩
    · cases (hcovered.fund_eq hmoney).symm.trans hfund
    · cases (hshortfall.fund_eq hmoney).symm.trans hfund
      exact ⟨available, needed, rfl, hshortfall⟩
  · rintro ⟨available, needed, rfl, hshortfall⟩
    exact hshortfall.fund_eq hmoney

end Bounded

end FundingPlan

end Purse
