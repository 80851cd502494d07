/-!
# Amounts

Amounts are 64-bit words of minor units. A coin is 10^8 of them.
-/

namespace Purse

abbrev Amount := UInt64

namespace Amount

def coin : Nat := 100000000

/-- The upper bound of any single amount or fee. -/
def maxMoney : Nat := 21000000 * coin

def maximum : Amount := 0xFFFFFFFFFFFFFFFF

/-- The sum, unless it passes 64 bits. -/
def add? (a b : Amount) : Option Amount :=
  if a.toNat + b.toNat < UInt64.size then some (a + b) else none

/-- The sum, or the greatest word if the sum passes 64 bits. -/
def addSaturating (a b : Amount) : Amount :=
  (add? a b).getD maximum

def mulSaturating (a b : Amount) : Amount :=
  if a.toNat * b.toNat < UInt64.size then a * b else maximum

/-- The greatest amount not above `value` and `maxMoney`. -/
def ofNatCapped (value : Nat) : Amount :=
  UInt64.ofNat (min value maxMoney)

/-- The sum of a list from `start` on, unless it passes 64 bits on the way. -/
def sumFrom? (start : Amount) : List Amount → Option Amount
  | [] => some start
  | amount :: rest =>
      match add? start amount with
      | none => none
      | some next => sumFrom? next rest

def sum? (amounts : List Amount) : Option Amount :=
  sumFrom? 0 amounts

/-- The sum of a list as a natural number. -/
def total : List Amount → Nat
  | [] => 0
  | amount :: rest => amount.toNat + total rest

theorem add?_eq_some_iff {a b c : Amount} :
    add? a b = some c ↔ a.toNat + b.toNat < UInt64.size ∧ c = a + b := by
  unfold add?
  split
  · rename_i hsum
    simp only [hsum, true_and, Option.some.injEq, eq_comm]
  · rename_i hsum
    simp only [hsum, false_and, reduceCtorEq]

theorem toNat_add_of_lt {a b : Amount} (hsum : a.toNat + b.toNat < UInt64.size) :
    (a + b).toNat = a.toNat + b.toNat := by
  rw [UInt64.toNat_add]
  exact Nat.mod_eq_of_lt hsum

theorem toNat_addSaturating (a b : Amount) :
    (addSaturating a b).toNat = min (a.toNat + b.toNat) (UInt64.size - 1) := by
  unfold addSaturating add?
  split
  · rename_i hsum
    rw [Option.getD_some, toNat_add_of_lt hsum, Nat.min_eq_left (Nat.le_sub_one_of_lt hsum)]
  · rename_i hsum
    rw [Nat.min_eq_right (Nat.le_trans (Nat.sub_le _ 1) (Nat.le_of_not_lt hsum))]
    rfl

theorem sumFrom?_eq_some_iff {start result : Amount} {amounts : List Amount} :
    sumFrom? start amounts = some result ↔
      result.toNat = start.toNat + total amounts := by
  induction amounts generalizing start with
  | nil => simp [sumFrom?, total, ← UInt64.toNat_inj, eq_comm]
  | cons amount rest ih =>
      simp only [sumFrom?, total]
      cases hadd : add? start amount with
      | none =>
          have hlarge : ¬ start.toNat + amount.toNat < UInt64.size := by
            intro hsum
            rw [add?, if_pos hsum] at hadd
            cases hadd
          have hresult : result.toNat < UInt64.size := result.toNat_lt
          simp only [reduceCtorEq, false_iff]
          omega
      | some next =>
          obtain ⟨hsum, rfl⟩ := add?_eq_some_iff.1 hadd
          rw [ih, toNat_add_of_lt hsum, Nat.add_assoc]

theorem sum?_eq_some_iff {amounts : List Amount} {result : Amount} :
    sum? amounts = some result ↔ result.toNat = total amounts := by
  simp [sum?, sumFrom?_eq_some_iff]

end Amount

end Purse
