import Purse.Proofs.Amount
import Purse.Transaction.Validity

/-!
# What the checks of a spend accept

Each pass over a list accepts exactly the lists whose every entry is in order.  A transaction that
all passes accept is refused only where its encoding is too long.
-/

namespace Purse.Transaction

theorem checkOutputs_eq_ok_iff (index : Nat) (outputs : List Output) :
    checkOutputs index outputs = .ok () ↔ ∀ output ∈ outputs, output.value ≠ 0 := by
  induction outputs generalizing index with
  | nil => simp [checkOutputs]
  | cons output rest ih =>
      rw [checkOutputs, List.forall_mem_cons]
      by_cases hzero : output.value = 0
      · simp [hzero]
      · rw [if_neg hzero, ih]
        simp [hzero]

/-- The input can stand in a signed transaction: it spends an outpoint, and its signature and key
have the right lengths. -/
structure SpendingInput (input : Input) : Prop where
  not_null : input.previousOutput.isNull = false
  signature_length : input.signature.length = 64
  publicKey_length : input.publicKey.length = 32

theorem checkInputs_eq_ok_iff (seen : List OutPoint) (index : Nat) (inputs : List Input) :
    checkInputs seen index inputs = .ok () ↔
      (∀ input ∈ inputs, SpendingInput input ∧ input.previousOutput ∉ seen) ∧
        (inputs.map Input.previousOutput).Nodup := by
  induction inputs generalizing seen index with
  | nil => simp [checkInputs]
  | cons input rest ih =>
      rw [checkInputs, List.forall_mem_cons, List.map_cons, List.nodup_cons]
      cases hnull : input.previousOutput.isNull with
      | true =>
          have hrefused : ¬ SpendingInput input := fun hspending => by
            cases hnull.symm.trans hspending.not_null
          simp [hrefused]
      | false =>
          by_cases hseen : input.previousOutput ∈ seen
          · simp [hseen]
          by_cases hlengths : input.signature.length ≠ 64 ∨ input.publicKey.length ≠ 32
          · have hrefused : ¬ SpendingInput input := fun hspending => by
              rcases hlengths with hsignature | hkey
              · exact hsignature hspending.signature_length
              · exact hkey hspending.publicKey_length
            simp [hseen, hlengths, hrefused]
          · have hspending : SpendingInput input := by
              rw [not_or, not_not, not_not] at hlengths
              exact ⟨hnull, hlengths.1, hlengths.2⟩
            rw [if_neg Bool.false_ne_true, if_neg hseen, if_neg hlengths, ih]
            constructor
            · rintro ⟨hrest, hnodup⟩
              refine ⟨⟨⟨hspending, hseen⟩, fun other hother => ?_⟩, fun hrepeated => ?_, hnodup⟩
              · obtain ⟨hother, hnew⟩ := hrest other hother
                exact ⟨hother, fun hold => hnew (List.mem_cons_of_mem _ hold)⟩
              · obtain ⟨other, hother, heq⟩ := List.mem_map.1 hrepeated
                exact (hrest other hother).2 (heq ▸ List.mem_cons_self)
            · rintro ⟨⟨_, hrest⟩, hfirst, hnodup⟩
              refine ⟨fun other hother => ⟨(hrest other hother).1, fun hmem => ?_⟩, hnodup⟩
              rcases List.mem_cons.1 hmem with heq | hold
              · exact hfirst (heq ▸ List.mem_map_of_mem hother)
              · exact (hrest other hother).2 hold

/-- No transaction whose inputs are in order is a coinbase transaction. -/
theorem isCoinbase_of_checkInputs {tx : Transaction} {seen : List OutPoint} {index : Nat}
    (hinputs : checkInputs seen index tx.inputs = .ok ()) : tx.isCoinbase = false := by
  have hspending := ((checkInputs_eq_ok_iff seen index tx.inputs).1 hinputs).1
  rw [isCoinbase]
  split
  · rename_i input hinput
    exact (hspending input (hinput ▸ List.mem_cons_self)).1.not_null
  · rfl

theorem checkInputs_of_checkStructure {tx : Transaction} (hstructure : tx.checkStructure = .ok ()) :
    checkInputs [] 0 tx.inputs = .ok () := by
  rw [checkStructure] at hstructure
  split at hstructure
  · cases hstructure
  · split at hstructure
    · cases hstructure
    · split at hstructure
      · cases hstructure
      · dsimp only at hstructure
        split at hstructure
        · cases hstructure
        · exact hstructure

theorem checkStructure_of_validateSpend {tx : Transaction} {scripts : List Script}
    {values : List Amount} {totals : SpendTotals}
    (hvalid : tx.validateSpend scripts values = .ok totals) : tx.checkStructure = .ok () := by
  rw [validateSpend] at hvalid
  split at hvalid
  · cases hvalid
  · cases hstructure : tx.checkStructure with
    | error fault =>
        rw [hstructure] at hvalid
        cases hvalid
    | ok _ => rfl

theorem verifyInputs_eq_ok_iff (tx : Transaction) (index : Nat) (spent : List (Script × Amount)) :
    tx.verifyInputs index spent = .ok () ↔
      ∀ position script value, spent[position]? = some (script, value) →
        tx.verifyInput (index + position) script value = .ok () := by
  induction spent generalizing index with
  | nil => simp [verifyInputs]
  | cons first rest ih =>
      obtain ⟨script, value⟩ := first
      cases hfirst : tx.verifyInput index script value with
      | error fault =>
          simp only [verifyInputs, hfirst, reduceCtorEq, false_iff]
          intro hall
          cases hfirst.symm.trans (hall 0 script value rfl)
      | ok _ =>
          simp only [verifyInputs, hfirst, ih]
          constructor
          · intro hrest position other amount hspent
            cases position with
            | zero =>
                cases hspent
                exact hfirst
            | succ position =>
                rw [Nat.add_succ, ← Nat.succ_add]
                exact hrest position other amount hspent
          · intro hall position other amount hspent
            rw [Nat.succ_add, ← Nat.add_succ]
            exact hall (position + 1) other amount hspent

/-! ## Consistent spends -/

/-- All that is asked of a spend of the given scripts and values, apart from the length of its
encoding. -/
structure Consistent (tx : Transaction) (scripts : List Script) (values : List Amount)
    (totals : SpendTotals) : Prop where
  scripts_length : scripts.length = tx.inputs.length
  values_length : values.length = tx.inputs.length
  inputs_ne_nil : tx.inputs ≠ []
  outputs_ne_nil : tx.outputs ≠ []
  outputs_positive : ∀ output ∈ tx.outputs, output.value ≠ 0
  inputs_spending : ∀ input ∈ tx.inputs, SpendingInput input
  outpoints_nodup : (tx.inputs.map Input.previousOutput).Nodup
  verified : ∀ position script value, (scripts.zip values)[position]? = some (script, value) →
    tx.verifyInput position script value = .ok ()
  totalInput_eq : totals.totalInput.toNat = Amount.total values
  totalOutput_eq : totals.totalOutput.toNat = Amount.total (tx.outputs.map Output.value)
  balance : totals.totalInput.toNat = totals.totalOutput.toNat + totals.fee.toNat

namespace Consistent

variable {tx : Transaction} {scripts : List Script} {values : List Amount} {totals : SpendTotals}
  (hconsistent : tx.Consistent scripts values totals)
include hconsistent

theorem totalOutput?_eq : tx.totalOutput? = some totals.totalOutput :=
  Amount.sum?_eq_some_iff.2 hconsistent.totalOutput_eq

/-- The structure is in order, if the encoding is not too long. -/
theorem checkStructure_eq :
    tx.checkStructure =
      if tx.encode.length > maxSize then .error (.oversized tx.encode.length maxSize)
      else .ok () := by
  have houtputs := (checkOutputs_eq_ok_iff 0 tx.outputs).2 hconsistent.outputs_positive
  have hinputs := (checkInputs_eq_ok_iff [] 0 tx.inputs).2
    ⟨fun input hinput => ⟨hconsistent.inputs_spending input hinput, List.not_mem_nil⟩,
      hconsistent.outpoints_nodup⟩
  simp only [checkStructure, List.isEmpty_eq_false_iff.2 hconsistent.inputs_ne_nil,
    List.isEmpty_eq_false_iff.2 hconsistent.outputs_ne_nil, Bool.or_self, Bool.false_eq_true,
    if_false, houtputs, hconsistent.totalOutput?_eq, Option.isNone_some, hinputs]

/-- A consistent spend is accepted, unless its encoding is too long. -/
theorem validateSpend_eq :
    tx.validateSpend scripts values =
      if tx.encode.length > maxSize then .error (.oversized tx.encode.length maxSize)
      else .ok totals := by
  have hlengths : ¬ (scripts.length ≠ tx.inputs.length ∨ values.length ≠ tx.inputs.length) := by
    rw [not_or, not_not, not_not]
    exact ⟨hconsistent.scripts_length, hconsistent.values_length⟩
  have hverified : tx.verifyInputs 0 (scripts.zip values) = .ok () := by
    rw [verifyInputs_eq_ok_iff]
    intro position script value hspent
    rw [Nat.zero_add]
    exact hconsistent.verified position script value hspent
  have hinput : Amount.sum? values = some totals.totalInput :=
    Amount.sum?_eq_some_iff.2 hconsistent.totalInput_eq
  have hcovered : ¬ totals.totalInput < totals.totalOutput := by
    rw [UInt64.lt_iff_toNat_lt, hconsistent.balance]
    omega
  have hfee : totals.totalInput - totals.totalOutput = totals.fee := by
    rw [← UInt64.toNat_inj, Amount.toNat_sub_of_le (by rw [hconsistent.balance]; omega),
      hconsistent.balance, Nat.add_sub_cancel_left]
  rw [validateSpend, if_neg hlengths, hconsistent.checkStructure_eq]
  by_cases hsize : tx.encode.length > maxSize
  · simp only [if_pos hsize]
  · simp only [if_neg hsize, hverified, hinput, hconsistent.totalOutput?_eq, hcovered, if_false,
      hfee]

end Consistent

end Purse.Transaction
