import Purse.Authoring.Request
import Purse.Proofs.Amount

/-!
# Valid requests

A request passes its check exactly when it asks for something, asks for no empty payment, and asks
for no more than all the money there is.
-/

namespace Purse.Payment

theorem totalFrom_eq_ok_iff (index : Nat) {start result : Amount} {payments : List Payment}
    (hstart : start.toNat ≤ Amount.maxMoney) :
    totalFrom index start payments = .ok result ↔
      (∀ payment ∈ payments, 0 < payment.amount) ∧
        result.toNat = start.toNat + Amount.total (payments.map Payment.amount) ∧
        result.toNat ≤ Amount.maxMoney := by
  have hroom := Amount.maxMoney_lt_size
  induction payments generalizing index start with
  | nil =>
      simp only [totalFrom, Except.ok.injEq, List.not_mem_nil, false_implies, implies_true,
        true_and, List.map_nil, Amount.total, Nat.add_zero, ← UInt64.toNat_inj]
      omega
  | cons payment rest ih =>
      simp only [totalFrom, List.forall_mem_cons, List.map_cons, Amount.total]
      by_cases hzero : payment.amount = 0
      · simp [hzero]
      rw [if_neg hzero]
      have hpositive : 0 < payment.amount := UInt64.pos_iff_ne_zero.2 hzero
      cases hadd : Amount.add? start payment.amount with
      | none =>
          have hover : ¬ start.toNat + payment.amount.toNat < UInt64.size := by
            intro hsum
            rw [Amount.add?, if_pos hsum] at hadd
            cases hadd
          simp only [reduceCtorEq, false_iff, not_and]
          omega
      | some sum =>
          obtain ⟨hsum, rfl⟩ := Amount.add?_eq_some_iff.1 hadd
          have hexact := Amount.toNat_add_of_lt hsum
          simp only
          split
          · rename_i hmoney
            refine (ih (index + 1) hmoney).trans ?_
            rw [hexact]
            simp only [hpositive, true_and, Nat.add_assoc]
          · rename_i hmoney
            simp only [reduceCtorEq, false_iff, not_and]
            omega

theorem total_eq_ok_iff {payments : List Payment} {result : Amount} :
    total payments = .ok result ↔
      payments ≠ [] ∧ (∀ payment ∈ payments, 0 < payment.amount) ∧
        result.toNat = Amount.total (payments.map Payment.amount) ∧
        result.toNat ≤ Amount.maxMoney := by
  cases payments with
  | nil => simp [total]
  | cons payment rest =>
      have hzero : (0 : Amount).toNat ≤ Amount.maxMoney := by decide
      rw [total, totalFrom_eq_ok_iff 0 hzero, UInt64.toNat_zero, Nat.zero_add]
      · simp
      · simp

theorem totalFrom_ne_outputOverflow (index : Nat) (sum : Amount) (payments : List Payment) :
    totalFrom index sum payments ≠ .error .outputOverflow := by
  induction payments generalizing index sum with
  | nil => simp [totalFrom]
  | cons payment rest ih =>
      rw [totalFrom]
      split
      · simp
      · split
        · simp
        · split
          · exact ih _ _
          · simp

/-- The check of a request never reports the overflow that is left to the finished outputs. -/
theorem total_ne_outputOverflow (payments : List Payment) :
    total payments ≠ .error .outputOverflow := by
  cases payments with
  | nil => simp [total]
  | cons payment rest => exact totalFrom_ne_outputOverflow 0 0 _

/-- Payments of at least one unit each are no more than what they add up to. -/
theorem length_le_total {payments : List Payment}
    (hpositive : ∀ payment ∈ payments, 0 < payment.amount) :
    payments.length ≤ Amount.total (payments.map Payment.amount) := by
  rw [← List.length_map]
  exact Amount.length_le_total (List.forall_mem_map.2 hpositive)

end Purse.Payment
