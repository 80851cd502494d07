import Mathlib
import Purse.Amount

/-!
# Exact amounts

Authoring adds, caps and subtracts 64-bit words.  These lemmas say when each result is the one that
natural numbers give.
-/

namespace Purse.Amount

theorem maxMoney_lt_size : maxMoney < UInt64.size := by
  decide

/-- Two amounts of money always have an exact sum. -/
theorem add_lt_size_of_le_maxMoney {a b : Nat} (ha : a ≤ maxMoney) (hb : b ≤ maxMoney) :
    a + b < UInt64.size := by
  have hroom : maxMoney + maxMoney < UInt64.size := by decide
  omega

theorem toNat_ofNatCapped (value : Nat) :
    (ofNatCapped value).toNat = min value maxMoney := by
  rw [ofNatCapped, UInt64.toNat_ofNat_of_lt']
  exact lt_of_le_of_lt (min_le_right value maxMoney) maxMoney_lt_size

theorem toNat_addSaturating_of_lt {a b : Amount} (hsum : a.toNat + b.toNat < UInt64.size) :
    (addSaturating a b).toNat = a.toNat + b.toNat := by
  rw [toNat_addSaturating, Nat.min_eq_left (Nat.le_sub_one_of_lt hsum)]

theorem toNat_sub_of_le {a b : Amount} (hle : b.toNat ≤ a.toNat) :
    (a - b).toNat = a.toNat - b.toNat :=
  UInt64.toNat_sub_of_le a b (UInt64.le_iff_toNat_le.2 hle)

theorem sum?_eq (amounts : List Amount) :
    sum? amounts = if total amounts < UInt64.size then some (UInt64.ofNat (total amounts))
      else none := by
  split
  · rename_i hsmall
    rw [sum?_eq_some_iff, UInt64.toNat_ofNat_of_lt' hsmall]
  · rename_i hlarge
    rw [Option.eq_none_iff_forall_ne_some]
    intro result hresult
    have hsmall := result.toNat_lt
    rw [sum?_eq_some_iff.1 hresult] at hsmall
    exact hlarge hsmall

theorem isNone_sum?_iff {amounts : List Amount} :
    (sum? amounts).isNone = true ↔ UInt64.size ≤ total amounts := by
  rw [sum?_eq, ← Nat.not_lt]
  split
  · rename_i hsmall
    simp only [Option.isNone_some, Bool.false_eq_true, hsmall, not_true_eq_false]
  · rename_i hlarge
    simp only [Option.isNone_none, hlarge, not_false_eq_true]

theorem total_append (left right : List Amount) :
    total (left ++ right) = total left + total right := by
  induction left with
  | nil => simp [total]
  | cons amount rest ih => simp [total, ih, Nat.add_assoc]

theorem total_perm {left right : List Amount} (hperm : left.Perm right) :
    total left = total right := by
  induction hperm with
  | nil => rfl
  | cons amount _ ih => simp [total, ih]
  | swap first second rest => simp [total, Nat.add_left_comm]
  | trans _ _ ihleft ihright => rw [ihleft, ihright]

/-- Amounts of at least one unit each are no more than what they add up to. -/
theorem length_le_total {amounts : List Amount} (hpositive : ∀ amount ∈ amounts, 0 < amount) :
    amounts.length ≤ total amounts := by
  induction amounts with
  | nil => exact Nat.zero_le _
  | cons amount rest ih =>
      rw [List.forall_mem_cons] at hpositive
      have hfirst := UInt64.lt_iff_toNat_lt.1 hpositive.1
      have hrest := ih hpositive.2
      rw [UInt64.toNat_zero] at hfirst
      rw [List.length_cons, total]
      omega

end Purse.Amount
