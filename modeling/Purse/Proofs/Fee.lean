import Purse.Credit
import Purse.Proofs.Amount
import Purse.Proofs.Size

/-!
# Fees of growing transactions

The fee of a transaction is not monotone in its size: where the cost rounds down to nothing, a
positive rate takes the fee of a whole kilobyte.  It is monotone above such sizes, and between two
sizes it never passes the larger of their fees.
-/

namespace Purse

namespace FeeRate

variable (rate : FeeRate)

theorem toNat_floorFee (vsize : Nat) :
    (rate.floorFee vsize).toNat = min (rate.perKvb.toNat * vsize / 1000) Amount.maxMoney :=
  Amount.toNat_ofNatCapped _

theorem floorFee_eq_zero_iff (vsize : Nat) :
    rate.floorFee vsize = 0 ↔ rate.perKvb.toNat * vsize < 1000 := by
  have hmoney : 0 < Amount.maxMoney := by decide
  rw [← UInt64.toNat_inj, toNat_floorFee, UInt64.toNat_zero]
  omega

/-- The fee in natural numbers: a cost below one unit is lifted to the fee of a kilobyte. -/
theorem toNat_fee (vsize : Nat) :
    (rate.fee vsize).toNat =
      min (if rate.perKvb.toNat * vsize < 1000 then rate.perKvb.toNat
        else rate.perKvb.toNat * vsize / 1000) Amount.maxMoney := by
  simp only [fee, floorFee_eq_zero_iff, UInt64.lt_iff_toNat_lt, UInt64.toNat_zero]
  by_cases hsmall : rate.perKvb.toNat * vsize < 1000
  · by_cases hrate : 0 < rate.perKvb.toNat
    · rw [if_pos ⟨hsmall, hrate⟩, if_pos hsmall, Amount.toNat_ofNatCapped]
    · have hzero : rate.perKvb.toNat = 0 := by omega
      rw [if_neg (fun h => hrate h.2), if_pos hsmall, toNat_floorFee, hzero, Nat.zero_mul]
  · rw [if_neg (fun h => hsmall h.1), if_neg hsmall, toNat_floorFee]

theorem toNat_fee_le_maxMoney (vsize : Nat) : (rate.fee vsize).toNat ≤ Amount.maxMoney := by
  rw [toNat_fee]
  exact min_le_right _ _

/-- Between two sizes the fee is at most the larger of their fees. -/
theorem toNat_fee_le_max {small middle large : Nat} (hsmall : small ≤ middle)
    (hlarge : middle ≤ large) :
    (rate.fee middle).toNat ≤ max (rate.fee small).toNat (rate.fee large).toNat := by
  have hfirst := Nat.mul_le_mul_left rate.perKvb.toNat hsmall
  have hsecond := Nat.mul_le_mul_left rate.perKvb.toNat hlarge
  simp only [toNat_fee]
  by_cases hlow : rate.perKvb.toNat * middle < 1000
  · have hlower : rate.perKvb.toNat * small < 1000 := by omega
    rw [if_pos hlow, if_pos hlower]
    exact le_max_left _ _
  · have hhigher : ¬ rate.perKvb.toNat * large < 1000 := by omega
    rw [if_neg hlow, if_neg hhigher]
    refine le_trans ?_ (le_max_right _ _)
    exact min_le_min_right _ (Nat.div_le_div_right hsecond)

/-- The rate is zero, or a transaction of `vsize` virtual bytes costs at least one unit. -/
def Charges (vsize : Nat) : Prop :=
  rate.perKvb = 0 ∨ 1000 ≤ rate.perKvb.toNat * vsize

/-- Above a size that is charged for, a larger transaction never pays a smaller fee. -/
theorem toNat_fee_mono {least small large : Nat} (hcharges : rate.Charges least)
    (hleast : least ≤ small) (hlarge : small ≤ large) :
    (rate.fee small).toNat ≤ (rate.fee large).toNat := by
  simp only [toNat_fee]
  rcases hcharges with hzero | hcharged
  · simp [hzero]
  · have hfirst := Nat.mul_le_mul_left rate.perKvb.toNat hleast
    have hsecond := Nat.mul_le_mul_left rate.perKvb.toNat hlarge
    rw [if_neg (by omega), if_neg (by omega)]
    exact min_le_min_right _ (Nat.div_le_div_right hsecond)

/-! ## The order of fees -/

/-- A higher rate and a larger size never lower the cost. -/
theorem floorFee_le_floorFee {lower higher : FeeRate} {small large : Nat}
    (hrate : lower.perKvb ≤ higher.perKvb) (hsize : small ≤ large) :
    lower.floorFee small ≤ higher.floorFee large := by
  rw [UInt64.le_iff_toNat_le, toNat_floorFee, toNat_floorFee]
  apply min_le_min_right
  apply Nat.div_le_div_right
  exact Nat.mul_le_mul (UInt64.le_iff_toNat_le.1 hrate) hsize

/-- The fee falls only from a size whose cost is lifted to one that is charged for. -/
theorem fee_lt_fee_iff {lower higher : FeeRate} {small large : Nat}
    (hrate : lower.perKvb ≤ higher.perKvb) (hsize : small ≤ large) :
    higher.fee large < lower.fee small ↔
      lower.perKvb.toNat * small < 1000 ∧ 1000 ≤ higher.perKvb.toNat * large ∧
        higher.floorFee large < Amount.ofNatCapped lower.perKvb.toNat := by
  have hrates : lower.perKvb.toNat ≤ higher.perKvb.toNat := UInt64.le_iff_toNat_le.1 hrate
  have hcosts : lower.perKvb.toNat * small / 1000 ≤ higher.perKvb.toNat * large / 1000 :=
    Nat.div_le_div_right (Nat.mul_le_mul hrates hsize)
  simp only [UInt64.lt_iff_toNat_lt, toNat_fee, toNat_floorFee, Amount.toNat_ofNatCapped]
  by_cases hlifted : lower.perKvb.toNat * small < 1000
  · by_cases hcharged : 1000 ≤ higher.perKvb.toNat * large
    · rw [if_pos hlifted, if_neg (Nat.not_lt.2 hcharged)]
      exact ⟨fun hfalls => ⟨hlifted, hcharged, hfalls⟩, fun hfalls => hfalls.2.2⟩
    · -- Both costs are lifted, and the rates decide.
      rw [if_pos hlifted, if_pos (Nat.not_le.1 hcharged)]
      have hkeeps := min_le_min_right Amount.maxMoney hrates
      exact ⟨fun hfalls => absurd hkeeps (Nat.not_le.2 hfalls),
        fun hfalls => absurd hfalls.2.1 hcharged⟩
  · have hcharged : ¬ higher.perKvb.toNat * large < 1000 := by
      have hproducts := Nat.mul_le_mul hrates hsize
      omega
    rw [if_neg hlifted, if_neg hcharged]
    have hkeeps := min_le_min_right Amount.maxMoney hcosts
    exact ⟨fun hfalls => absurd hkeeps (Nat.not_le.2 hfalls),
      fun hfalls => absurd hfalls.1 hlifted⟩

/-- A higher rate and a larger size never lower the cost.  They lower the fee exactly where the
smaller cost is below one unit, and so lifted to the fee of a kilobyte, while the larger one is not
lifted and stays below that.  A kilobyte or more never pays less. -/
theorem fee_order (lower higher : FeeRate) (small large : Nat)
    (hrate : lower.perKvb ≤ higher.perKvb) (hsize : small ≤ large) :
    lower.floorFee small ≤ higher.floorFee large ∧
      (lower.fee small ≤ higher.fee large ↔
        ¬ (lower.perKvb.toNat * small < 1000 ∧ 1000 ≤ higher.perKvb.toNat * large ∧
          higher.floorFee large < Amount.ofNatCapped lower.perKvb.toNat)) ∧
      (1000 ≤ large → lower.fee small ≤ higher.fee large) := by
  have horder : lower.fee small ≤ higher.fee large ↔
      ¬ (lower.perKvb.toNat * small < 1000 ∧ 1000 ≤ higher.perKvb.toNat * large ∧
        higher.floorFee large < Amount.ofNatCapped lower.perKvb.toNat) := by
    rw [← fee_lt_fee_iff hrate hsize, UInt64.not_lt]
  refine ⟨floorFee_le_floorFee hrate hsize, horder, fun hkilobyte => horder.2 ?_⟩
  rintro ⟨_, _, hbelow⟩
  have hrates : lower.perKvb.toNat ≤ higher.perKvb.toNat := UInt64.le_iff_toNat_le.1 hrate
  have hcost : higher.perKvb.toNat ≤ higher.perKvb.toNat * large / 1000 :=
    (Nat.le_div_iff_mul_le (by decide)).2 (Nat.mul_le_mul_left _ hkilobyte)
  rw [UInt64.lt_iff_toNat_lt, toNat_floorFee, Amount.toNat_ofNatCapped] at hbelow
  omega

/-- From 99 virtual bytes to 1000 the fee at 10 a kilobyte stays the same. -/
theorem fee_order_kilobyte :
    (10 : Amount) ≤ 10 ∧ 99 ≤ 1000 ∧ FeeRate.fee ⟨10⟩ 99 = 10 ∧ FeeRate.fee ⟨10⟩ 1000 = 10 ∧
      FeeRate.fee ⟨10⟩ 99 ≤ FeeRate.fee ⟨10⟩ 1000 :=
  ⟨by decide, by decide, by decide, by decide,
    (fee_order ⟨10⟩ ⟨10⟩ 99 1000 (by decide) (by decide)).2.2 (by decide)⟩

/-- At 10 a kilobyte 99 virtual bytes pay the fee of a kilobyte, and 100 pay one unit. -/
theorem fee_not_mono :
    ¬ ∀ (lower higher : FeeRate) (small large : Nat), lower.perKvb ≤ higher.perKvb →
      small ≤ large → lower.fee small ≤ higher.fee large := by
  intro hmono
  have hfee : FeeRate.fee ⟨10⟩ 99 ≤ FeeRate.fee ⟨10⟩ 100 :=
    hmono ⟨10⟩ ⟨10⟩ 99 100 (by decide) (by decide)
  revert hfee
  decide

/-! ## Growing transactions -/

/-- A size that grows by at most `extra` raises the fee by at most one unit above the floor fee of
`extra` alone. -/
theorem toNat_fee_add_le {small large extra : Nat} {value : Nat} (hgrows : small ≤ large)
    (hextra : large ≤ small + extra) (hvalue : (rate.floorFee extra).toNat < value) :
    (rate.fee large).toNat ≤ (rate.fee small).toNat + value := by
  have hlower := Nat.mul_le_mul_left rate.perKvb.toNat hgrows
  have hupper := Nat.mul_le_mul_left rate.perKvb.toNat hextra
  rw [Nat.mul_add] at hupper
  rw [toNat_floorFee] at hvalue
  simp only [toNat_fee]
  split_ifs <;> omega

/-- While the input count keeps its length, one input more raises the fee by at most one unit above
the floor fee of the input's own size. -/
theorem toNat_fee_append_input_le (inputs : List ScriptKind) (outputs : List Output)
    (change : Option ScriptKind) {kind : ScriptKind} {value : Nat}
    (hcount : compactSizeLength (inputs.length + 1) = compactSizeLength inputs.length)
    (hvalue : (rate.floorFee kind.minInputVsize).toNat < value) :
    (rate.fee (estimateVirtualSize (inputs ++ [kind]) outputs change)).toNat ≤
      (rate.fee (estimateVirtualSize inputs outputs change)).toNat + value :=
  rate.toNat_fee_add_le (estimateVirtualSize_le_append outputs change inputs _)
    (estimateVirtualSize_append_input_le outputs change inputs _ hcount) hvalue

end FeeRate

/-- What makes a credit worth spending is what it may add to the fee of a whole transaction. -/
theorem Credit.lt_amount_of_yieldsPositively {credit : Credit} {rate : FeeRate}
    (hyields : credit.yieldsPositively rate) :
    (rate.floorFee credit.script.kind.minInputVsize).toNat < credit.amount.toNat := by
  rw [Credit.yieldsPositively, decide_eq_true_iff] at hyields
  exact UInt64.lt_iff_toNat_lt.1 hyields

/-- Spending one more credit that yields positively raises the fee by at most its amount. -/
theorem Credit.toNat_fee_append_le {credit : Credit} {rate : FeeRate}
    (hyields : credit.yieldsPositively rate) (inputs : List ScriptKind) (outputs : List Output)
    (change : Option ScriptKind)
    (hcount : compactSizeLength (inputs.length + 1) = compactSizeLength inputs.length) :
    (rate.fee (estimateVirtualSize (inputs ++ [credit.script.kind]) outputs change)).toNat ≤
      (rate.fee (estimateVirtualSize inputs outputs change)).toNat + credit.amount.toNat :=
  rate.toNat_fee_append_input_le inputs outputs change hcount
    (lt_amount_of_yieldsPositively hyields)

/-- A credit of 59 units that pays for its own input of 58 virtual bytes at 1000 a kilobyte. -/
def narrowCredit : Credit :=
  ⟨⟨Digest.zero, 0⟩, ⟨59, ⟨.p2tr, Digest.zero⟩⟩, .default, some 1, false⟩

/-- As the first input with a witness it adds 58 virtual bytes, marker bytes among them. -/
theorem Credit.toNat_fee_append_narrowCredit :
    narrowCredit.yieldsPositively ⟨1000⟩ = true ∧
      compactSizeLength 2 = compactSizeLength 1 ∧
      (FeeRate.fee ⟨1000⟩ (estimateVirtualSize [.p2pkh] [⟨5000, ⟨.p2wpkh, Digest.zero⟩⟩]
        (some .p2tr))).toNat = 233 ∧
      (FeeRate.fee ⟨1000⟩ (estimateVirtualSize [.p2pkh, .p2tr] [⟨5000, ⟨.p2wpkh, Digest.zero⟩⟩]
        (some .p2tr))).toNat ≤ 233 + narrowCredit.amount.toNat :=
  ⟨by decide, rfl, by decide,
    toNat_fee_append_le (by decide : narrowCredit.yieldsPositively ⟨1000⟩ = true) [.p2pkh]
      [⟨5000, ⟨.p2wpkh, Digest.zero⟩⟩] (some .p2tr) rfl⟩

end Purse
