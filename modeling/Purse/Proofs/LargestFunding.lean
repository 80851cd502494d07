import Purse.Proofs.Funding

/-!
# Funding with the largest credits first

While the input count stays within one byte and every size is charged for, the fee rounds climb
through the beginnings of the ranked credits without passing the least one that pays for itself.
Funding then fails only if no choice of credits would do.
-/

namespace Purse.FundingPlan

open Credit Selection

variable {plan : FundingPlan}

/-! ## More credits never hurt -/

theorem toNat_requiredFee_append_le (plan : FundingPlan) {credits : List Credit}
    {credit : Credit} (hyields : credit.yieldsPositively plan.feeRate)
    (hcount : credits.length < 252) :
    (plan.requiredFee (credits ++ [credit])).toNat ≤
      (plan.requiredFee credits).toNat + credit.amount.toNat := by
  have hlength : compactSizeLength ((credits.map fun credit => credit.script.kind).length + 1) =
      compactSizeLength (credits.map fun credit => credit.script.kind).length := by
    rw [List.length_map, Size.compactSizeLength_of_le hcount,
      Size.compactSizeLength_of_le (le_of_lt hcount)]
  have hfee := plan.feeRate.toNat_fee_append_input_le
    (credits.map fun credit => credit.script.kind) plan.outputs (some plan.changeKind) hlength
    (lt_amount_of_yieldsPositively hyields)
  simpa only [requiredFee, List.map_append, List.map_cons, List.map_nil] using hfee

theorem Funds.append {credits more : List Credit} (hfunds : plan.Funds credits)
    (hyields : ∀ credit ∈ more, credit.yieldsPositively plan.feeRate)
    (hcount : (credits ++ more).length ≤ 252) : plan.Funds (credits ++ more) := by
  induction more generalizing credits with
  | nil => simpa using hfunds
  | cons credit rest ih =>
      rw [List.length_append, List.length_cons] at hcount
      have hone : plan.Funds (credits ++ [credit]) := by
        have hfee := plan.toNat_requiredFee_append_le (hyields credit List.mem_cons_self)
          (by omega : credits.length < 252)
        rw [Funds, worth_append, worth_cons, worth_nil]
        rw [Funds] at hfunds
        omega
      have hall := ih hone (fun other hother => hyields other (List.mem_cons_of_mem _ hother))
        (by simp only [List.length_append, List.length_singleton]; omega)
      rwa [List.append_assoc, List.singleton_append] at hall

theorem Funds.of_perm {left right : List Credit} (hfunds : plan.Funds left)
    (hperm : left.Perm right) : plan.Funds right := by
  rw [Funds, ← plan.requiredFee_perm hperm, ← worth_perm hperm]
  exact hfunds

/-- If some candidates pay for themselves, then all of them together do. -/
theorem Funds.of_sublist {chosen : List Credit}
    (hchosen : chosen.Sublist (candidates plan.eligible plan.feeRate))
    (hcount : (candidates plan.eligible plan.feeRate).length ≤ 252)
    (hfunds : plan.Funds chosen) : plan.Funds (candidates plan.eligible plan.feeRate) := by
  obtain ⟨others, hothers⟩ := hchosen.exists_perm_append
  apply Funds.of_perm _ hothers.symm
  apply hfunds.append
  · intro credit hcredit
    have hcandidate : credit ∈ candidates plan.eligible plan.feeRate :=
      hothers.symm.subset (List.mem_append_right chosen hcredit)
    exact yieldsPositively_of_mem_candidates hcandidate
  · rwa [← hothers.length_eq]

/-! ## Beginnings of the ranked credits -/

/-- The candidates in descending order. -/
def ranked (plan : FundingPlan) : List Credit :=
  arrange .largest [] (candidates plan.eligible plan.feeRate)

theorem ranked_descending : Descending (candidates plan.eligible plan.feeRate) plan.ranked :=
  arrange_largest_descending [] _

theorem ordered_eq_ranked (hlargest : plan.strategy = .largest) (draws : Draws) :
    plan.ordered draws = plan.ranked := by
  rw [ordered, hlargest]
  rfl

theorem worth_le_of_begins {left right : List Credit} (hbegins : left <+: right) :
    worth left ≤ worth right := by
  obtain ⟨rest, rfl⟩ := hbegins
  rw [worth_append]
  exact Nat.le_add_right _ _

/-- Even a transaction without inputs is charged for, unless the rate is zero. -/
def Charged (plan : FundingPlan) : Prop :=
  plan.feeRate.Charges (estimateVirtualSize [] plan.outputs (some plan.changeKind))

theorem toNat_requiredFee_mono (hcharged : plan.Charged) {left right : List Credit}
    (hbegins : left <+: right) :
    (plan.requiredFee left).toNat ≤ (plan.requiredFee right).toNat := by
  obtain ⟨rest, rfl⟩ := hbegins
  rw [requiredFee, requiredFee, List.map_append]
  apply plan.feeRate.toNat_fee_mono hcharged
  · exact estimateVirtualSize_le_append plan.outputs _ [] _
  · exact estimateVirtualSize_le_append plan.outputs _ _ _

/-- No beginning that pays for itself needs a smaller fee. -/
def Undershoots (plan : FundingPlan) (targetFee : Amount) : Prop :=
  targetFee.toNat ≤ Amount.maxMoney ∧
    ∀ beginning, beginning <+: plan.ranked → plan.Funds beginning →
      targetFee.toNat ≤ (plan.requiredFee beginning).toNat

section Walk

variable (hlargest : plan.strategy = .largest) (hmoney : plan.totalOut.toNat ≤ Amount.maxMoney)
  {draws : Draws} {targetFee : Amount} {funding : Funding}
include hlargest hmoney

omit hmoney in
theorem Found.begins_ranked (hfound : plan.Found draws targetFee funding) :
    funding.selection.selected <+: plan.ranked := by
  rw [← ordered_eq_ranked hlargest draws]
  exact hfound.shortest.begins

/-- A round over ranked credits never saturates, so that its total is exact. -/
theorem Found.total_eq_worth (hfee : targetFee.toNat ≤ Amount.maxMoney)
    (hfound : plan.Found draws targetFee funding) :
    funding.selection.total.toNat = worth funding.selection.selected := by
  apply hfound.shortest.total_eq_worth
  apply hfound.shortest.worth_lt_size
  · rw [ordered_eq_ranked hlargest]
    exact ranked_descending.sorted
  · have hroom : 4 * Amount.maxMoney ≤ UInt64.size := by decide
    rw [toNat_target hmoney hfee]
    omega

/-- The exit test asks whether the selected credits pay for themselves. -/
theorem Found.covers_iff_funds (hfee : targetFee.toNat ≤ Amount.maxMoney)
    (hfound : plan.Found draws targetFee funding) :
    plan.covers funding = true ↔ plan.Funds funding.selection.selected := by
  rw [hfound.covers_iff hmoney hfee, hfound.total_eq_worth hlargest hmoney hfee, hfound.fee_eq,
    Funds]

theorem Found.not_funds_of_short (hfee : targetFee.toNat ≤ Amount.maxMoney)
    (hfound : plan.Found draws targetFee funding) (hshort : plan.covers funding = false) :
    ¬ plan.Funds funding.selection.selected := by
  rw [← hfound.covers_iff_funds hlargest hmoney hfee, hshort]
  exact Bool.false_ne_true

/-- A round that undershoots stops within every beginning that pays for itself. -/
theorem Found.begins_of_funds (hunder : plan.Undershoots targetFee)
    (hfound : plan.Found draws targetFee funding) {beginning : List Credit}
    (hbegins : beginning <+: plan.ranked) (hfunds : plan.Funds beginning) :
    funding.selection.selected <+: beginning := by
  have hselected := hfound.begins_ranked hlargest
  rcases List.prefix_or_prefix_of_prefix hselected hbegins with hwithin | hbeyond
  · exact hwithin
  · by_cases heq : beginning = funding.selection.selected
    · rw [heq]
    · have hshort := hfound.shortest.short beginning hbeyond heq
      have hleast := hunder.2 beginning hbegins hfunds
      rw [toNat_target hmoney hunder.1] at hshort
      rw [Funds] at hfunds
      omega

theorem Found.undershoots_fee (hcharged : plan.Charged) (hunder : plan.Undershoots targetFee)
    (hfound : plan.Found draws targetFee funding) : plan.Undershoots funding.fee := by
  rw [hfound.fee_eq]
  refine ⟨plan.toNat_requiredFee_le_maxMoney _, fun beginning hbegins hfunds => ?_⟩
  apply toNat_requiredFee_mono hcharged
  exact hfound.begins_of_funds hlargest hmoney hunder hbegins hfunds

/-- The beginning selected by a successful run is the least one that pays for itself. -/
theorem least_of_fund (hcharged : plan.Charged) {draws : Nat → Draws} {rounds : Nat}
    (hfund : plan.fund draws rounds = .ok funding) :
    funding.selection.selected <+: plan.ranked ∧
      plan.Funds funding.selection.selected ∧
      funding.selection.total.toNat = worth funding.selection.selected ∧
      funding.fee = plan.requiredFee funding.selection.selected ∧
      ∀ beginning, beginning <+: plan.ranked → plan.Funds beginning →
        funding.selection.selected <+: beginning := by
  have hstart : plan.Undershoots (plan.requiredFee []) :=
    ⟨plan.toNat_requiredFee_le_maxMoney [], fun beginning _ _ =>
      toNat_requiredFee_mono hcharged List.nil_prefix⟩
  obtain ⟨number, targetFee, hunder, hfound, hcovers⟩ :=
    exists_found_of_fundFrom plan.Undershoots
      (fun _ _ _ hunder hfound _ =>
        hfound.undershoots_fee hlargest hmoney hcharged hunder) hstart hfund
  refine ⟨hfound.begins_ranked hlargest, ?_, ?_, hfound.fee_eq, ?_⟩
  · exact (hfound.covers_iff_funds hlargest hmoney hunder.1).1 hcovers
  · exact hfound.total_eq_worth hlargest hmoney hunder.1
  · exact fun beginning hbegins hfunds =>
      hfound.begins_of_funds hlargest hmoney hunder hbegins hfunds

/-- A round asked for the fee of a beginning that does not pay for itself selects a longer one. -/
theorem Found.length_lt {beginning : List Credit} (hbegins : beginning <+: plan.ranked)
    (hunfunded : ¬ plan.Funds beginning)
    (hfound : plan.Found draws (plan.requiredFee beginning) funding) :
    beginning.length < funding.selection.selected.length := by
  have hreaches := hfound.shortest.reaches
  rw [toNat_target hmoney (plan.toNat_requiredFee_le_maxMoney _)] at hreaches
  rw [Funds] at hunfunded
  rcases List.prefix_or_prefix_of_prefix (hfound.begins_ranked hlargest) hbegins with
    hwithin | hbeyond
  · have hworth := worth_le_of_begins hwithin
    omega
  · apply lt_of_le_of_ne hbeyond.length_le
    intro hlength
    have heq := hbeyond.eq_of_length hlength
    rw [← heq] at hreaches
    omega

/-- Funding fails only when all ranked credits together do not pay for themselves.  The induction
is on the rounds left, which the lengthening beginnings never outrun. -/
theorem not_funds_of_fundFrom (hcharged : plan.Charged) {draws : Nat → Draws}
    {rounds number : Nat} {reached : Amount} {beginning : List Credit}
    (hbegins : beginning <+: plan.ranked) (hunfunded : ¬ plan.Funds beginning)
    (hrounds : plan.ranked.length ≤ rounds + beginning.length) {fault : WalletError}
    (hfund : plan.fundFrom draws rounds number (plan.requiredFee beginning) reached =
      .error fault) :
    (∃ available needed, fault = .insufficientFunds available needed) ∧
      ¬ plan.Funds plan.ranked := by
  induction rounds generalizing number reached beginning with
  | zero =>
      rw [fundFrom] at hfund
      cases hfund
      have heq : beginning = plan.ranked := hbegins.eq_of_length_le (by omega)
      exact ⟨⟨_, _, rfl⟩, heq ▸ hunfunded⟩
  | succ rounds ih =>
      rcases plan.round_cases (draws number) (plan.requiredFee beginning) with
        ⟨tried, hround, hfound⟩ | ⟨available, hround, _, hshort⟩
      · have hfee := plan.toNat_requiredFee_le_maxMoney beginning
        cases hcovers : plan.covers tried with
        | true =>
            rw [fundFrom_of_covers rounds hround hcovers] at hfund
            cases hfund
        | false =>
            rw [fundFrom_of_short rounds hround hcovers, hfound.fee_eq] at hfund
            have hlonger := hfound.length_lt hlargest hmoney hbegins hunfunded
            apply ih (hfound.begins_ranked hlargest) _ (by omega) hfund
            exact hfound.not_funds_of_short hlargest hmoney hfee hcovers
      · rw [fundFrom_of_refused rounds hround] at hfund
        cases hfund
        refine ⟨⟨_, _, rfl⟩, fun hfunds => ?_⟩
        rw [toNat_target hmoney (plan.toNat_requiredFee_le_maxMoney _),
          ordered_eq_ranked hlargest] at hshort
        have hmono := toNat_requiredFee_mono hcharged hbegins
        rw [Funds] at hfunds
        omega

end Walk

/-! ## Completeness and minimality -/

theorem totalOut_pos (houtputs : plan.outputs ≠ [])
    (hpositive : ∀ output ∈ plan.outputs, 0 < output.value)
    (htotal : plan.totalOut.toNat = Amount.total (plan.outputs.map Output.value)) :
    0 < plan.totalOut.toNat := by
  obtain ⟨first, rest, hcons⟩ := List.exists_cons_of_ne_nil houtputs
  have hfirst : 0 < first.value.toNat :=
    UInt64.lt_iff_toNat_lt.1 (hpositive first (by simp [hcons]))
  rw [htotal, hcons, List.map_cons, Amount.total]
  omega

/-- With the largest credits first, funding fails for want of funds exactly when no choice of the
candidates pays for the outputs and its own fee.  Otherwise it takes the shortest beginning of the
ranked candidates that does. -/
theorem fund_largest_complete_minimal (plan : FundingPlan) (draws : Nat → Draws) (rounds : Nat)
    (hlargest : plan.strategy = .largest) (houtputs : plan.outputs ≠ [])
    (hpositive : ∀ output ∈ plan.outputs, 0 < output.value)
    (htotal : plan.totalOut.toNat = Amount.total (plan.outputs.map Output.value))
    (hmoney : plan.totalOut.toNat ≤ Amount.maxMoney)
    (hcount : (candidates plan.eligible plan.feeRate).length ≤ 252)
    (hrounds : (candidates plan.eligible plan.feeRate).length ≤ rounds)
    (hcharged : plan.feeRate.perKvb = 0 ∨ 1000 ≤ plan.feeRate.perKvb.toNat *
      estimateVirtualSize [] plan.outputs (some plan.changeKind)) :
    ((∃ available needed,
        plan.fund draws rounds = .error (.insufficientFunds available needed)) ↔
      ¬ ∃ chosen, chosen.Sublist (candidates plan.eligible plan.feeRate) ∧
        plan.Funds chosen) ∧
    (∀ fault, plan.fund draws rounds = .error fault →
      ∃ available needed, fault = .insufficientFunds available needed) ∧
    ∃ ranked, Descending (candidates plan.eligible plan.feeRate) ranked ∧
      ∀ funding, plan.fund draws rounds = .ok funding →
        funding.selection.selected <+: ranked ∧
        plan.Funds funding.selection.selected ∧
        funding.selection.total.toNat = worth funding.selection.selected ∧
        funding.fee = plan.requiredFee funding.selection.selected ∧
        ∀ beginning, beginning <+: ranked → plan.Funds beginning →
          funding.selection.selected <+: beginning := by
  have hperm : plan.ranked.Perm (candidates plan.eligible plan.feeRate) := ranked_descending.perm
  have hempty : ¬ plan.Funds [] := by
    have hpos := totalOut_pos houtputs hpositive htotal
    rw [Funds, worth_nil]
    omega
  have herror : ∀ fault, plan.fund draws rounds = .error fault →
      (∃ available needed, fault = .insufficientFunds available needed) ∧
        ¬ plan.Funds plan.ranked := by
    intro fault hfund
    apply not_funds_of_fundFrom hlargest hmoney hcharged List.nil_prefix hempty _ hfund
    rwa [List.length_nil, Nat.add_zero, hperm.length_eq]
  have hleast : ∀ funding, plan.fund draws rounds = .ok funding → _ :=
    fun funding hfund => least_of_fund hlargest hmoney hcharged hfund
  refine ⟨⟨?_, ?_⟩, fun fault hfund => (herror fault hfund).1,
    plan.ranked, ranked_descending, hleast⟩
  · rintro ⟨available, needed, hfund⟩ ⟨chosen, hchosen, hfunds⟩
    exact (herror _ hfund).2 ((hfunds.of_sublist hchosen hcount).of_perm hperm.symm)
  · intro hnone
    cases hfund : plan.fund draws rounds with
    | error fault =>
        obtain ⟨available, needed, rfl⟩ := (herror fault hfund).1
        exact ⟨available, needed, rfl⟩
    | ok funding =>
        obtain ⟨hbegins, hfunds, _⟩ := hleast funding hfund
        obtain ⟨chosen, hchosen, hsublist⟩ := hbegins.sublist.subperm.trans hperm.subperm
        exact absurd ⟨chosen, hsublist, hfunds.of_perm hchosen.symm⟩ hnone

/-- A payment of 50000 out of two credits, neither of which is worth that much. -/
def twoCredits : FundingPlan where
  eligible := [⟨⟨Digest.zero, 0⟩, ⟨30000, ⟨.p2tr, Digest.zero⟩⟩, .default, some 1, false⟩,
    ⟨⟨Digest.zero, 1⟩, ⟨40000, ⟨.p2wpkh, Digest.zero⟩⟩, .default, some 1, false⟩]
  outputs := [⟨50000, ⟨.p2pkh, Digest.zero⟩⟩]
  totalOut := 50000
  changeKind := .p2wpkh
  strategy := .largest
  feeRate := ⟨1000⟩

theorem fund_twoCredits :
    ∃ funding, twoCredits.fund (fun _ => []) 2 = .ok funding ∧
      twoCredits.Funds funding.selection.selected := by
  obtain ⟨hiff, hfault, ranked, _, hleast⟩ :=
    fund_largest_complete_minimal twoCredits (fun _ => []) 2 rfl (by decide) (by decide) rfl
      (by decide) (by decide) (by decide) (by decide)
  cases hfund : twoCredits.fund (fun _ => []) 2 with
  | ok funding => exact ⟨funding, rfl, (hleast funding hfund).2.1⟩
  | error fault =>
      obtain ⟨available, needed, rfl⟩ := hfault fault hfund
      have hall : twoCredits.Funds (candidates twoCredits.eligible twoCredits.feeRate) := by
        unfold Funds
        decide
      exact absurd ⟨_, List.Sublist.refl _, hall⟩ (hiff.1 ⟨available, needed, hfund⟩)

end Purse.FundingPlan
