import Purse.Proofs.Shortfall

/-!
# Progress of funding

A round that does not cover its fee is followed by one that is asked for more, and that one selects
more or fails, whatever the order of either.  With the largest credits first each selection begins
with the one before, so that no more rounds select than there are candidates.
-/

namespace Purse.FundingPlan

open Credit Selection

variable {plan : FundingPlan} {draws : Nat → Draws} {number : Nat} {targetFee reached : Amount}
  {funding : Funding}

namespace ComesTo

/-- The rounds before settle what a round is asked for. -/
theorem unique {otherFee otherReached : Amount}
    (hcomes : plan.ComesTo draws number targetFee reached)
    (hother : plan.ComesTo draws number otherFee otherReached) :
    targetFee = otherFee ∧ reached = otherReached := by
  induction hcomes generalizing otherFee otherReached with
  | start =>
      cases hother
      exact ⟨rfl, rfl⟩
  | next _ hround _ ih =>
      cases hother with
      | next hbefore hsame _ =>
          obtain ⟨rfl, _⟩ := ih hbefore
          cases hround.symm.trans hsame
          exact ⟨rfl, rfl⟩

section Bounded

variable (hmoney : plan.totalOut.toNat ≤ Amount.maxMoney)
include hmoney

theorem fee_le_maxMoney (hcomes : plan.ComesTo draws number targetFee reached) :
    targetFee.toNat ≤ Amount.maxMoney :=
  (hcomes.uncovered hmoney).fee_le_maxMoney

theorem target_le_total (hcomes : plan.ComesTo draws number targetFee reached)
    (hround : plan.round (draws number) targetFee = .ok funding) :
    plan.totalOut.toNat + targetFee.toNat ≤ funding.selection.total.toNat :=
  (plan.found_of_round hround).target_le_total hmoney (hcomes.fee_le_maxMoney hmoney)

/-- A round that does not cover its fee has the next one asked for more. -/
theorem lt_fee (hcomes : plan.ComesTo draws number targetFee reached)
    (hround : plan.round (draws number) targetFee = .ok funding)
    (hshort : plan.covers funding = false) : targetFee < funding.fee :=
  UInt64.lt_iff_toNat_lt.2
    ((plan.found_of_round hround).lt_fee hmoney (hcomes.fee_le_maxMoney hmoney) hshort)

/-- A round that selects has a larger total than the one before. -/
theorem reached_lt_total (hpositive : 0 < plan.totalOut.toNat)
    (hcomes : plan.ComesTo draws number targetFee reached)
    (hround : plan.round (draws number) targetFee = .ok funding) :
    reached < funding.selection.total := by
  rw [UInt64.lt_iff_toNat_lt]
  exact ((hcomes.uncovered hmoney).reached_lt hpositive).trans_le
    (hcomes.target_le_total hmoney hround)

/-- Over a whole run, what is asked for and what is reached grow from round to round. -/
theorem climbs (hpositive : 0 < plan.totalOut.toNat) {later : Nat} {laterFee laterReached : Amount}
    (hcomes : plan.ComesTo draws number targetFee reached)
    (hlater : plan.ComesTo draws later laterFee laterReached) (hnumber : number < later) :
    targetFee < laterFee ∧ reached < laterReached := by
  -- on the later round: it is the next one, or the next of one that is itself later
  induction hlater with
  | start => exact absurd hnumber (Nat.not_lt_zero number)
  | @next between betweenFee betweenReached found hbefore hround hshort ih =>
      have hfee := hbefore.lt_fee hmoney hround hshort
      have htotal := hbefore.reached_lt_total hmoney hpositive hround
      rcases Nat.lt_succ_iff_lt_or_eq.1 hnumber with hbetween | rfl
      · obtain ⟨hfees, hreached⟩ := ih hbetween
        exact ⟨UInt64.lt_trans hfees hfee, UInt64.lt_trans hreached htotal⟩
      · obtain ⟨rfl, rfl⟩ := hcomes.unique hbefore
        exact ⟨hfee, htotal⟩

section Largest

variable (hlargest : plan.strategy = .largest)
include hlargest

/-- With the largest credits first, a round that follows one that did not cover its fee takes the
same credits and more. -/
theorem extends_selection (hcomes : plan.ComesTo draws number targetFee reached)
    (hround : plan.round (draws number) targetFee = .ok funding)
    (hshort : plan.covers funding = false) {next : Funding} {order : Draws}
    (hnext : plan.round order funding.fee = .ok next) :
    funding.selection.selected <+: next.selection.selected ∧
      funding.selection.selected.length < next.selection.selected.length := by
  have hfound := plan.found_of_round hround
  have hfollows := plan.found_of_round hnext
  have hbegins := hfound.begins_ranked hlargest
  have hunfunded :=
    hfound.not_funds_of_short hlargest hmoney (hcomes.fee_le_maxMoney hmoney) hshort
  have hlength : funding.selection.selected.length < next.selection.selected.length := by
    rw [hfound.fee_eq] at hfollows
    exact hfollows.length_lt hlargest hmoney hbegins hunfunded
  exact ⟨List.prefix_of_prefix_length_le hbegins (hfollows.begins_ranked hlargest) hlength.le,
    hlength⟩

/-- A round takes more credits than there were rounds before it. -/
theorem number_lt_length (hpositive : 0 < plan.totalOut.toNat)
    (hcomes : plan.ComesTo draws number targetFee reached)
    (hround : plan.round (draws number) targetFee = .ok funding) :
    number < funding.selection.selected.length := by
  induction hcomes generalizing funding with
  | start =>
      have hreaches := (plan.found_of_round hround).shortest.reaches
      rw [toNat_target hmoney (plan.toNat_requiredFee_le_maxMoney [])] at hreaches
      apply List.length_pos_of_ne_nil
      intro hnil
      rw [hnil, worth_nil] at hreaches
      omega
  | next hbefore hbetween hshort ih =>
      have hlonger := (hbefore.extends_selection hmoney hlargest hbetween hshort hround).2
      have hlength := ih hbetween
      omega

theorem number_lt_candidates (hpositive : 0 < plan.totalOut.toNat)
    (hcomes : plan.ComesTo draws number targetFee reached)
    (hround : plan.round (draws number) targetFee = .ok funding) :
    number < (candidates plan.eligible plan.feeRate).length := by
  calc
    number < funding.selection.selected.length :=
      hcomes.number_lt_length hmoney hlargest hpositive hround
    _ ≤ (plan.ordered (draws number)).length :=
      (plan.found_of_round hround).shortest.begins.length_le
    _ = (candidates plan.eligible plan.feeRate).length := (arrange_perm _ _ _).length_eq

/-- Once more rounds are left than can select, it does not matter how many there are. -/
theorem fundFrom_eq_fundFrom (hpositive : 0 < plan.totalOut.toNat)
    (hcomes : plan.ComesTo draws number targetFee reached) {left more : Nat} (hmore : left ≤ more)
    (hleft : (candidates plan.eligible plan.feeRate).length < number + left) :
    plan.fundFrom draws more number targetFee reached =
      plan.fundFrom draws left number targetFee reached := by
  induction left generalizing number targetFee reached more with
  | zero =>
      -- more rounds have selected than there are candidates
      cases hcomes with
      | start => exact absurd hleft (Nat.not_lt_zero _)
      | next hbefore hround _ =>
          have hfew := hbefore.number_lt_candidates hmoney hlargest hpositive hround
          omega
  | succ left ih =>
      obtain ⟨more, rfl⟩ := Nat.exists_eq_succ_of_ne_zero (Nat.ne_zero_of_lt hmore)
      cases hround : plan.round (draws number) targetFee with
      | error fault => rw [fundFrom_of_refused more hround, fundFrom_of_refused left hround]
      | ok funding =>
          cases hcovers : plan.covers funding with
          | true =>
              rw [fundFrom_of_covers more hround hcovers, fundFrom_of_covers left hround hcovers]
          | false =>
              rw [fundFrom_of_short more hround hcovers, fundFrom_of_short left hround hcovers]
              exact ih (hcomes.next hround hcovers) (Nat.le_of_succ_le_succ hmore) (by omega)

end Largest

end Bounded

/-- A round that funding comes to fails or finds a selection.  One that covers its fee ends the
funding, and one that does not has funding come to the next round. -/
theorem round_cases (hcomes : plan.ComesTo draws number targetFee reached) (left : Nat) :
    (∃ fault, plan.round (draws number) targetFee = .error fault ∧
      plan.fundFrom draws (left + 1) number targetFee reached = .error fault) ∨
    (∃ funding, plan.round (draws number) targetFee = .ok funding ∧
      plan.covers funding = true ∧
      plan.fundFrom draws (left + 1) number targetFee reached = .ok funding) ∨
    ∃ funding, plan.round (draws number) targetFee = .ok funding ∧
      plan.covers funding = false ∧
      plan.ComesTo draws (number + 1) funding.fee funding.selection.total ∧
      plan.fundFrom draws (left + 1) number targetFee reached =
        plan.fundFrom draws left (number + 1) funding.fee funding.selection.total := by
  cases hround : plan.round (draws number) targetFee with
  | error fault => exact Or.inl ⟨fault, rfl, fundFrom_of_refused left hround⟩
  | ok funding =>
      apply Or.inr
      cases hcovers : plan.covers funding with
      | true => exact Or.inl ⟨funding, rfl, hcovers, fundFrom_of_covers left hround hcovers⟩
      | false =>
          exact Or.inr ⟨funding, rfl, hcovers, hcomes.next hround hcovers,
            fundFrom_of_short left hround hcovers⟩

end ComesTo

variable (plan draws) in
/-- How funding gets on from one round to the next and over a run of them, in the orders that the
draws settle. -/
structure Progresses : Prop where
  loop {number : Nat} {targetFee reached : Amount}
    (hcomes : plan.ComesTo draws number targetFee reached) (left : Nat) :
    plan.fund draws (number + left) = plan.fundFrom draws left number targetFee reached
  /-- What a round finds, or fails with, ends the funding, unless it does not cover its fee. -/
  round {number : Nat} {targetFee reached : Amount}
    (hcomes : plan.ComesTo draws number targetFee reached) (left : Nat) :
    (∃ fault, plan.round (draws number) targetFee = .error fault ∧
      plan.fundFrom draws (left + 1) number targetFee reached = .error fault) ∨
    (∃ funding, plan.round (draws number) targetFee = .ok funding ∧
      plan.covers funding = true ∧
      plan.fundFrom draws (left + 1) number targetFee reached = .ok funding) ∨
    ∃ funding, plan.round (draws number) targetFee = .ok funding ∧
      plan.covers funding = false ∧
      plan.ComesTo draws (number + 1) funding.fee funding.selection.total ∧
      plan.fundFrom draws (left + 1) number targetFee reached =
        plan.fundFrom draws left (number + 1) funding.fee funding.selection.total
  /-- Without a round left, funding falls short of what the next one would have been asked for. -/
  exhausted {number : Nat} {targetFee reached : Amount}
    (hcomes : plan.ComesTo draws number targetFee reached) :
    plan.fund draws number = .error (.insufficientFunds reached (plan.target targetFee))
  step {number : Nat} {targetFee reached : Amount} {funding : Funding}
    (hcomes : plan.ComesTo draws number targetFee reached)
    (hround : plan.round (draws number) targetFee = .ok funding)
    (hshort : plan.covers funding = false) :
    targetFee < funding.fee ∧
      ((∃ available, plan.round (draws (number + 1)) funding.fee =
          .error (.insufficientFunds available (plan.target funding.fee))) ∨
        ∃ next, plan.round (draws (number + 1)) funding.fee = .ok next ∧
          funding.selection.total < next.selection.total)
  run {number later : Nat} {targetFee reached laterFee laterReached : Amount}
    (hcomes : plan.ComesTo draws number targetFee reached)
    (hlater : plan.ComesTo draws later laterFee laterReached) (hnumber : number < later) :
    targetFee < laterFee ∧ reached < laterReached
  lengthens {number : Nat} {targetFee reached : Amount} {funding next : Funding}
    (hlargest : plan.strategy = .largest) (hcomes : plan.ComesTo draws number targetFee reached)
    (hround : plan.round (draws number) targetFee = .ok funding)
    (hshort : plan.covers funding = false)
    (hnext : plan.round (draws (number + 1)) funding.fee = .ok next) :
    funding.selection.selected <+: next.selection.selected ∧
      funding.selection.selected ≠ next.selection.selected
  bounded {number : Nat} {targetFee reached : Amount} {funding : Funding}
    (hlargest : plan.strategy = .largest) (hcomes : plan.ComesTo draws number targetFee reached)
    (hround : plan.round (draws number) targetFee = .ok funding) :
    number < (candidates plan.eligible plan.feeRate).length
  enough {rounds : Nat} (hlargest : plan.strategy = .largest)
    (hrounds : (candidates plan.eligible plan.feeRate).length < rounds) :
    plan.fund draws rounds =
      plan.fund draws ((candidates plan.eligible plan.feeRate).length + 1)

/-- Funding goes from round to round until one fails or covers its fee, or none is left.  Every
round that falls short of its fee makes progress: the next one is asked for more, and selects more
or fails.  With the largest credits first the selections grow by further credits, and one round more
than there are candidates always suffices. -/
theorem fund_progresses (plan : FundingPlan) (draws : Nat → Draws) (houtputs : plan.outputs ≠ [])
    (hpositive : ∀ output ∈ plan.outputs, 0 < output.value)
    (htotal : plan.totalOut.toNat = Amount.total (plan.outputs.map Output.value))
    (hmoney : plan.totalOut.toNat ≤ Amount.maxMoney) : plan.Progresses draws := by
  have hpaid := totalOut_pos houtputs hpositive htotal
  exact {
    loop := ComesTo.fund_eq
    round := ComesTo.round_cases
    exhausted := fun hcomes => hcomes.fund_eq 0
    step := fun {number targetFee reached funding} hcomes hround hshort => by
      refine ⟨hcomes.lt_fee hmoney hround hshort, ?_⟩
      rcases plan.round_cases (draws (number + 1)) funding.fee with
        ⟨next, hnext, _⟩ | ⟨available, hrefused, _⟩
      · exact Or.inr ⟨next, hnext,
          (hcomes.next hround hshort).reached_lt_total hmoney hpaid hnext⟩
      · exact Or.inl ⟨available, hrefused⟩
    run := fun hcomes hlater hnumber => hcomes.climbs hmoney hpaid hlater hnumber
    lengthens := fun hlargest hcomes hround hshort hnext => by
      obtain ⟨hbegins, hlonger⟩ :=
        hcomes.extends_selection hmoney hlargest hround hshort hnext
      exact ⟨hbegins, fun hsame => hlonger.ne (congrArg List.length hsame)⟩
    bounded := fun hlargest hcomes hround =>
      hcomes.number_lt_candidates hmoney hlargest hpaid hround
    enough := fun hlargest hrounds =>
      ComesTo.start.fundFrom_eq_fundFrom hmoney hlargest hpaid hrounds (by omega) }

/-- A payment of 50000 out of a credit that is worth that much but not the fee, and another one. -/
def shortByFee : FundingPlan where
  eligible := [⟨⟨Digest.zero, 0⟩, ⟨50100, ⟨.p2wpkh, Digest.zero⟩⟩, .default, some 1, false⟩,
    ⟨⟨Digest.zero, 1⟩, ⟨40000, ⟨.p2wpkh, Digest.zero⟩⟩, .default, some 1, false⟩]
  outputs := [⟨50000, ⟨.p2pkh, Digest.zero⟩⟩]
  totalOut := 50000
  changeKind := .p2wpkh
  strategy := .random
  feeRate := ⟨1000⟩

/-- The first round takes the first credit alone, so the second one takes both and ends the funding.
With the largest first, a third round is never reached. -/
theorem fund_shortByFee_progresses :
    (∃ first second, shortByFee.round [] (shortByFee.requiredFee []) = .ok first ∧
      shortByFee.covers first = false ∧ shortByFee.requiredFee [] < first.fee ∧
      shortByFee.round [] first.fee = .ok second ∧
      first.selection.total < second.selection.total ∧
      shortByFee.fund (fun _ => []) 2 = .ok second) ∧
    { shortByFee with strategy := .largest }.fund (fun _ => []) 9 =
      { shortByFee with strategy := .largest }.fund (fun _ => []) 3 := by
  constructor
  · have hprogress := fund_progresses shortByFee (fun _ => []) (by decide) (by decide) rfl
      (by decide)
    have hround : shortByFee.round [] (shortByFee.requiredFee []) = .ok _ := rfl
    obtain ⟨hfee, ⟨available, hrefused⟩ | ⟨second, hsecond, hgrows⟩⟩ :=
      hprogress.step .start hround (by decide)
    · cases hrefused
    · have hcomes : shortByFee.ComesTo (fun _ => []) 1 _ _ := .next .start hround (by decide)
      have hends : shortByFee.fund (fun _ => []) 2 = .ok second := by
        rw [hprogress.loop hcomes 1]
        rcases hprogress.round hcomes 0 with
          ⟨_, hfails, _⟩ | ⟨found, hfound, _, hends⟩ | ⟨found, hfound, hshort, _⟩
        · cases hsecond.symm.trans hfails
        · rw [hends, ← hfound, hsecond]
        · cases hfound
          exact absurd hshort (by decide)
      exact ⟨_, second, rfl, by decide, hfee, hsecond, hgrows, hends⟩
  · exact (fund_progresses { shortByFee with strategy := .largest } (fun _ => []) (by decide)
      (by decide) rfl (by decide)).enough rfl (by decide)

end Purse.FundingPlan
