import Purse.Proofs.Allocation
import Purse.Proofs.Fee

/-!
# Change that is worth spending

Dust is told from change by an exact comparison.  No input is as large as the one by which dust is
judged, and three times the cost is asked for.  Change that is no dust therefore pays for its own
input at every rate up to three times the relay fee.
-/

namespace Purse

variable {σ : Type}

/-- Rounding plays no part in the dust rule. -/
theorem isDust_iff {amount : Amount} {kind : ScriptKind} {relayFee : FeeRate} :
    isDust amount kind relayFee = true ↔
      1000 * amount.toNat < 3 * (kind.outputSize + 148) * relayFee.perKvb.toNat := by
  have hdivisor : 0 < 3 * (kind.outputSize + dustInputSize) := by
    rw [dustInputSize]
    omega
  rw [isDust, decide_eq_true_iff, Nat.div_lt_iff_lt_mul hdivisor, Nat.mul_comm amount.toNat,
    Nat.mul_comm relayFee.perKvb.toNat, dustInputSize]

theorem isDust_eq_false_iff {amount : Amount} {kind : ScriptKind} {relayFee : FeeRate} :
    isDust amount kind relayFee = false ↔
      3 * (kind.outputSize + 148) * relayFee.perKvb.toNat ≤ 1000 * amount.toNat := by
  rw [← Bool.not_eq_true, isDust_iff, Nat.not_lt]

/-- No input is as large as an output of its kind and the input by which dust is judged. -/
theorem ScriptKind.minInputVsize_lt (kind : ScriptKind) :
    kind.minInputVsize < kind.outputSize + 148 := by
  cases kind <;> decide

namespace Credit

variable {credit : Credit} {rate relayFee : FeeRate}

/-- A credit yields positively when the exact cost of its input is below its amount. -/
theorem yieldsPositively_of_lt (hcost : rate.perKvb.toNat * credit.script.kind.minInputVsize <
    1000 * credit.amount.toNat) : credit.yieldsPositively rate = true := by
  rw [yieldsPositively, decide_eq_true_iff, UInt64.lt_iff_toNat_lt, FeeRate.toNat_floorFee]
  omega

theorem yieldsPositively_of_not_dust (hpositive : 0 < credit.amount)
    (hdust : isDust credit.amount credit.script.kind relayFee = false)
    (hrate : rate.perKvb.toNat ≤ 3 * relayFee.perKvb.toNat) :
    credit.yieldsPositively rate = true := by
  apply yieldsPositively_of_lt
  rw [isDust_eq_false_iff] at hdust
  rw [UInt64.lt_iff_toNat_lt, UInt64.toNat_zero] at hpositive
  let size := credit.script.kind.outputSize + 148
  rcases Nat.eq_zero_or_pos rate.perKvb.toNat with hzero | hcharged
  · rw [hzero, Nat.zero_mul]
    omega
  · calc
      rate.perKvb.toNat * credit.script.kind.minInputVsize < rate.perKvb.toNat * size :=
        Nat.mul_lt_mul_of_pos_left credit.script.kind.minInputVsize_lt hcharged
      _ ≤ 3 * relayFee.perKvb.toNat * size := Nat.mul_le_mul_right size hrate
      _ = 3 * size * relayFee.perKvb.toNat := Nat.mul_right_comm 3 _ size
      _ ≤ 1000 * credit.amount.toNat := hdust

end Credit

namespace AuthoringRequest

/-- An amount is dust exactly when a thousand of it are less than three times the size of the output
and its input at the relay fee. Change that authoring keeps is no dust: as a credit of the kind that
it was authored for, it is set aside by no selection at a rate of up to three times the relay
fee. -/
theorem build_change_worth_spending (request : AuthoringRequest) (account : AccountId)
    (ledger : LedgerReader σ) (addresses : ChangeSource σ) (draws : Nat → Draws) (state : σ) :
    (∀ amount kind relayFee, isDust amount kind relayFee = true ↔
      1000 * amount.toNat < 3 * (kind.outputSize + 148) * relayFee.perKvb.toNat) ∧
    ∀ authored after,
      request.build account ledger addresses draws state = (.ok authored, after) →
      ∃ (eligible : List Credit) (read asked : σ) (changeKind : ScriptKind),
        (request.eligibility account).read ledger state = (.ok eligible, read) ∧
        addresses.kind account read = (.ok changeKind, asked) ∧
        ∀ change ∈ authored.changeOutput?, ∀ (credit : Credit) (rate : FeeRate),
          credit.amount = change.value → credit.script.kind = changeKind →
          rate.perKvb.toNat ≤ 3 * request.relayFee.perKvb.toNat →
            credit.yieldsPositively rate = true ∧
              ∀ listed, credit ∈ listed → credit ∈ Selection.candidates listed rate := by
  refine ⟨fun _ _ _ => isDust_iff, fun authored after hbuild => ?_⟩
  obtain ⟨prepared, asked, hprepare, hsound, hend⟩ := build_eq_ok hbuild
  obtain ⟨_, _, read, hread, hkind⟩ := prepare_eq_ok_iff.1 hprepare
  refine ⟨prepared.eligible, read, asked, prepared.changeKind, hread, hkind, ?_⟩
  intro change hchange credit rate hamount hsame hrate
  have hkept : change.value = prepared.change ∧
      request.dropsChange prepared.change prepared.changeKind = false := by
    rcases hend with ⟨_, _, rfl⟩ | ⟨hkeeps, script, _, rfl⟩
    · cases hchange
    · rw [hsound.changeOutput?_spending] at hchange
      cases hchange
      exact ⟨rfl, hkeeps⟩
  obtain ⟨hvalue, hkeeps⟩ := hkept
  obtain ⟨hpositive, hdust⟩ := dropsChange_eq_false_iff.1 hkeeps
  rw [← hvalue, ← hamount] at hpositive hdust
  rw [← hsame] at hdust
  have hyields := Credit.yieldsPositively_of_not_dust hpositive hdust hrate
  exact ⟨hyields, fun listed hlisted => List.mem_filter.2 ⟨hlisted, hyields⟩⟩

/-- The change of a payment, seen in a later block, is spent at three times the relay fee. -/
theorem build_changedPayment_worth_spending :
    ∃ authored change, changedPayment.build .default (.constant 100 [largeCredit])
        (.constant ⟨.p2wpkh, Digest.zero⟩) (fun _ => []) () = (.ok authored, ()) ∧
      authored.changeOutput? = some change ∧ changedPayment.relayFee = ⟨1000⟩ ∧
      Credit.yieldsPositively ⟨⟨Digest.zero, 1⟩, change, .default, some 101, false⟩ ⟨3000⟩ =
        true := by
  refine ⟨_, _, rfl, rfl, rfl, ?_⟩
  obtain ⟨_, _, _, _, _, hkind, hworth⟩ :=
    (@build_change_worth_spending Unit changedPayment .default (.constant 100 [largeCredit])
      (.constant ⟨.p2wpkh, Digest.zero⟩) (fun _ => []) ()).2 _ _ rfl
  cases hkind
  exact (hworth _ rfl ⟨⟨Digest.zero, 1⟩, _, .default, some 101, false⟩ ⟨3000⟩ rfl rfl
    (by decide)).1

end AuthoringRequest

end Purse
