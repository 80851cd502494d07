import Purse.Proofs.Passes
import Purse.Proofs.SpendCycle

/-!
# The first fault of a spend

The conditions on a spend are checked in phases.  A spend that meets them all is accepted with its
exact totals.  Any other is refused in the first phase whose condition it breaks, and the fault that
is reported belongs to the first entry that is not in order.
-/

namespace Purse

/-! ## Phases -/

/-- The conditions on a spend. -/
inductive Phase where
  | lengths
  | nonEmpty
  | outputValues
  | outputTotal
  | size
  | inputs
  | signatures
  | inputTotal
  | coverage
  deriving DecidableEq

/-- The phases in the order in which they are checked. -/
def Phase.all : List Phase :=
  [.lengths, .nonEmpty, .outputValues, .outputTotal, .size, .inputs, .signatures, .inputTotal,
    .coverage]

theorem Phase.mem_all (phase : Phase) : phase ∈ Phase.all := by
  cases phase <;> decide

namespace Transaction

variable (tx : Transaction) (scripts : List Script) (values : List Amount)

/-- What a spend of the given scripts and values meets in a phase. -/
def Meets : Phase → Prop
  | .lengths => scripts.length = tx.inputs.length ∧ values.length = tx.inputs.length
  | .nonEmpty => tx.inputs ≠ [] ∧ tx.outputs ≠ []
  | .outputValues => ∀ output ∈ tx.outputs, output.value ≠ 0
  | .outputTotal => Amount.total (tx.outputs.map Output.value) < UInt64.size
  | .size => tx.encode.length ≤ maxSize
  | .inputs => InputsInOrder tx.inputs
  | .signatures => tx.AllVerify (scripts.zip values)
  | .inputTotal => Amount.total values < UInt64.size
  | .coverage => Amount.total (tx.outputs.map Output.value) ≤ Amount.total values

/-- The fault that a phase reports: the first entry of a list that is not in order, with all that
stand before it in order. -/
inductive Blames : Phase → ValidityError → Prop where
  | lengths
      (hlengths : ¬ (scripts.length = tx.inputs.length ∧ values.length = tx.inputs.length)) :
      Blames .lengths (.prevoutMismatch tx.inputs.length scripts.length values.length)
  | nonEmpty (hempty : tx.inputs = [] ∨ tx.outputs = []) : Blames .nonEmpty .emptyInputsOrOutputs
  | zeroValue {earlier : List Output} {output : Output} {later : List Output}
      (houtputs : tx.outputs = earlier ++ output :: later)
      (hearlier : ∀ other ∈ earlier, other.value ≠ 0) (hzero : output.value = 0) :
      Blames .outputValues (.zeroValueOutput earlier.length)
  | outputTotal (hlarge : UInt64.size ≤ Amount.total (tx.outputs.map Output.value)) :
      Blames .outputTotal .valueOverflow
  | size (hlong : maxSize < tx.encode.length) :
      Blames .size (.oversized tx.encode.length maxSize)
  | input {earlier : List Input} {input : Input} {later : List Input} {fault : ValidityError}
      (hinputs : tx.inputs = earlier ++ input :: later) (hearlier : InputsInOrder earlier)
      (hfault : InputFault earlier input fault) : Blames .inputs fault
  | unverified {earlier : List (Script × Amount)} {script : Script} {value : Amount}
      {later : List (Script × Amount)}
      (hspent : scripts.zip values = earlier ++ (script, value) :: later)
      (hearlier : tx.AllVerify earlier) (hrefused : ¬ tx.Verifies earlier.length script value) :
      Blames .signatures (.invalidSignature earlier.length)
  | inputTotal (hlarge : UInt64.size ≤ Amount.total values) : Blames .inputTotal .valueOverflow
  | coverage {available needed : Amount} (havailable : available.toNat = Amount.total values)
      (hneeded : needed.toNat = Amount.total (tx.outputs.map Output.value))
      (hshort : available < needed) : Blames .coverage (.insufficientFunds available needed)

/-- One phase as it is checked. -/
def check : Phase → Except ValidityError Unit
  | .lengths =>
      refuseIf (scripts.length ≠ tx.inputs.length ∨ values.length ≠ tx.inputs.length)
        (.prevoutMismatch tx.inputs.length scripts.length values.length)
  | .nonEmpty => refuseIf (tx.inputs.isEmpty || tx.outputs.isEmpty) .emptyInputsOrOutputs
  | .outputValues => checkOutputs 0 tx.outputs
  | .outputTotal => refuseIf tx.totalOutput?.isNone .valueOverflow
  | .size => refuseIf (tx.encode.length > maxSize) (.oversized tx.encode.length maxSize)
  | .inputs => checkInputs [] 0 tx.inputs
  | .signatures => tx.verifyInputs 0 (scripts.zip values)
  | .inputTotal => refuseIf (Amount.sum? values).isNone .valueOverflow
  | .coverage =>
      let available := Amount.total values
      let needed := Amount.total (tx.outputs.map Output.value)
      refuseIf (available < needed)
        (.insufficientFunds (UInt64.ofNat available) (UInt64.ofNat needed))

/-- The totals of a spend whose sums are words. -/
def spendTotals : SpendTotals :=
  let totalInput := UInt64.ofNat (Amount.total values)
  let totalOutput := UInt64.ofNat (Amount.total (tx.outputs.map Output.value))
  ⟨totalInput, totalOutput, totalInput - totalOutput⟩

/-- The phases one after another, up to the first that reports a fault. -/
def checkEach : List Phase → Except ValidityError Unit
  | [] => .ok ()
  | phase :: rest =>
      match tx.check scripts values phase with
      | .error fault => .error fault
      | .ok () => checkEach rest

theorem checkEach_append (earlier later : List Phase) :
    tx.checkEach scripts values (earlier ++ later) =
      (tx.checkEach scripts values earlier).bind fun _ => tx.checkEach scripts values later := by
  induction earlier with
  | nil => rfl
  | cons phase rest ih =>
      rw [List.cons_append, checkEach, checkEach, ih]
      split <;> rfl

theorem checkEach_eq_ok_iff {phases : List Phase} :
    tx.checkEach scripts values phases = .ok () ↔
      ∀ phase ∈ phases, tx.check scripts values phase = .ok () := by
  induction phases with
  | nil => simp [checkEach]
  | cons phase rest ih =>
      rw [checkEach, List.forall_mem_cons]
      cases hphase : tx.check scripts values phase with
      | error fault => simp
      | ok _ => rw [ih, eq_self_iff_true, true_and]

theorem check_eq_ok_iff (phase : Phase) :
    tx.check scripts values phase = .ok () ↔ tx.Meets scripts values phase := by
  cases phase with
  | lengths => rw [check, refuseIf_eq_ok_iff, not_or, not_not, not_not, Meets]
  | nonEmpty =>
      rw [check, refuseIf_eq_ok_iff, Bool.or_eq_true, List.isEmpty_iff, List.isEmpty_iff, not_or,
        Meets]
  | outputValues => exact checkOutputs_eq_ok_iff 0 tx.outputs
  | outputTotal =>
      rw [check, refuseIf_eq_ok_iff, totalOutput?, Amount.isNone_sum?_iff, not_le, Meets]
  | size => rw [check, refuseIf_eq_ok_iff, not_lt, Meets]
  | inputs => exact checkInputs_eq_ok_iff_inOrder
  | signatures => exact verifyInputs_eq_ok_iff_allVerify
  | inputTotal => rw [check, refuseIf_eq_ok_iff, Amount.isNone_sum?_iff, not_le, Meets]
  | coverage => rw [check, refuseIf_eq_ok_iff, not_lt, Meets]

theorem checkStructure_eq_checkEach :
    tx.checkStructure = tx.checkEach scripts values
      [.nonEmpty, .outputValues, .outputTotal, .size, .inputs] := by
  simp only [checkEach, check, checkStructure, refuseIf]
  split
  · rfl
  · cases checkOutputs 0 tx.outputs with
    | error fault => rfl
    | ok _ =>
        dsimp only
        split
        · rfl
        · split
          · rfl
          · cases checkInputs [] 0 tx.inputs <;> rfl

theorem validateSpend_eq_checkEach :
    tx.validateSpend scripts values =
      (tx.checkEach scripts values Phase.all).map fun _ => tx.spendTotals values := by
  have hall : Phase.all = [Phase.lengths] ++
    ([Phase.nonEmpty, .outputValues, .outputTotal, .size, .inputs] ++
      [Phase.signatures, .inputTotal, .coverage]) := rfl
  rw [hall, checkEach_append, checkEach_append, ← checkStructure_eq_checkEach, validateSpend]
  by_cases hlengths : scripts.length ≠ tx.inputs.length ∨ values.length ≠ tx.inputs.length
  · simp only [checkEach, check, refuseIf, if_pos hlengths]
    rfl
  simp only [checkEach, check, refuseIf, if_neg hlengths]
  cases hstructure : tx.checkStructure with
  | error fault => rfl
  | ok _ =>
      have houtputs : Amount.total (tx.outputs.map Output.value) < UInt64.size := by
        rw [checkStructure_eq_checkEach tx scripts values, checkEach_eq_ok_iff] at hstructure
        exact (check_eq_ok_iff tx scripts values _).1 (hstructure .outputTotal (by decide))
      cases tx.verifyInputs 0 (scripts.zip values) with
      | error fault => rfl
      | ok _ =>
          have houtput : tx.totalOutput? =
              some (UInt64.ofNat (Amount.total (tx.outputs.map Output.value))) := by
            rw [totalOutput?, Amount.sum?_eq, if_pos houtputs]
          by_cases hinputs : Amount.total values < UInt64.size
          · have hinput : Amount.sum? values = some (UInt64.ofNat (Amount.total values)) := by
              rw [Amount.sum?_eq, if_pos hinputs]
            have hshort : UInt64.ofNat (Amount.total values) <
                UInt64.ofNat (Amount.total (tx.outputs.map Output.value)) ↔
                  Amount.total values < Amount.total (tx.outputs.map Output.value) := by
              rw [UInt64.lt_iff_toNat_lt, UInt64.toNat_ofNat_of_lt' hinputs,
                UInt64.toNat_ofNat_of_lt' houtputs]
            simp only [hinput, houtput, hshort, Option.isNone_some, Bool.false_eq_true, if_false]
            split <;> rfl
          · have hinput : Amount.sum? values = none := by
              rw [Amount.sum?_eq, if_neg hinputs]
            simp only [hinput, Option.isNone_none, if_true]
            rfl

/-! ## The fault of a phase -/

variable {tx} {scripts} {values}

theorem check_of_blames {phase : Phase} {fault : ValidityError}
    (hblames : tx.Blames scripts values phase fault) :
    tx.check scripts values phase = .error fault := by
  cases hblames with
  | lengths hlengths =>
      exact refuseIf_eq_error_iff.2 ⟨not_and_or.1 hlengths, rfl⟩
  | nonEmpty hempty =>
      rw [check, refuseIf_eq_error_iff, Bool.or_eq_true, List.isEmpty_iff, List.isEmpty_iff]
      exact ⟨hempty, rfl⟩
  | zeroValue houtputs hearlier hzero =>
      exact checkOutputs_eq_error_iff.2 ⟨_, _, _, houtputs, hearlier, hzero, rfl⟩
  | outputTotal hlarge =>
      exact refuseIf_eq_error_iff.2 ⟨Amount.isNone_sum?_iff.2 hlarge, rfl⟩
  | size hlong => exact refuseIf_eq_error_iff.2 ⟨hlong, rfl⟩
  | input hinputs hearlier hfault =>
      exact checkInputs_eq_error_iff.2 ⟨_, _, _, hinputs, hearlier, hfault⟩
  | unverified hspent hearlier hrefused =>
      exact verifyInputs_eq_error_iff.2 ⟨_, _, _, _, hspent, hearlier, hrefused, rfl⟩
  | inputTotal hlarge =>
      exact refuseIf_eq_error_iff.2 ⟨Amount.isNone_sum?_iff.2 hlarge, rfl⟩
  | coverage havailable hneeded hshort =>
      rw [UInt64.lt_iff_toNat_lt] at hshort
      rw [check, refuseIf_eq_error_iff, ← havailable, ← hneeded, UInt64.ofNat_toNat,
        UInt64.ofNat_toNat]
      exact ⟨hshort, rfl⟩

/-- Whatever a phase reports is a fault: the spend does not meet the phase. -/
theorem Blames.not_meets {phase : Phase} {fault : ValidityError}
    (hblames : tx.Blames scripts values phase fault) : ¬ tx.Meets scripts values phase := by
  rw [← check_eq_ok_iff, check_of_blames hblames]
  exact nofun

/-- What a phase reports is its first fault.  The totals are compared where they are words. -/
theorem blames_of_check {phase : Phase} {fault : ValidityError}
    (hsums : phase = .coverage →
      tx.Meets scripts values .outputTotal ∧ tx.Meets scripts values .inputTotal)
    (hcheck : tx.check scripts values phase = .error fault) :
    tx.Blames scripts values phase fault := by
  cases phase with
  | lengths =>
      obtain ⟨hlengths, rfl⟩ := refuseIf_eq_error_iff.1 hcheck
      exact .lengths (not_and_or.2 hlengths)
  | nonEmpty =>
      obtain ⟨hempty, rfl⟩ := refuseIf_eq_error_iff.1 hcheck
      rw [Bool.or_eq_true, List.isEmpty_iff, List.isEmpty_iff] at hempty
      exact .nonEmpty hempty
  | outputValues =>
      obtain ⟨_, _, _, houtputs, hearlier, hzero, rfl⟩ := checkOutputs_eq_error_iff.1 hcheck
      exact .zeroValue houtputs hearlier hzero
  | outputTotal =>
      obtain ⟨hlarge, rfl⟩ := refuseIf_eq_error_iff.1 hcheck
      exact .outputTotal (Amount.isNone_sum?_iff.1 hlarge)
  | size =>
      obtain ⟨hlong, rfl⟩ := refuseIf_eq_error_iff.1 hcheck
      exact .size hlong
  | inputs =>
      obtain ⟨_, _, _, hinputs, hearlier, hfault⟩ := checkInputs_eq_error_iff.1 hcheck
      exact .input hinputs hearlier hfault
  | signatures =>
      obtain ⟨_, _, _, _, hspent, hearlier, hrefused, rfl⟩ := verifyInputs_eq_error_iff.1 hcheck
      exact .unverified hspent hearlier hrefused
  | inputTotal =>
      obtain ⟨hlarge, rfl⟩ := refuseIf_eq_error_iff.1 hcheck
      exact .inputTotal (Amount.isNone_sum?_iff.1 hlarge)
  | coverage =>
      have houtputs : Amount.total (tx.outputs.map Output.value) < UInt64.size := (hsums rfl).1
      have hinputs : Amount.total values < UInt64.size := (hsums rfl).2
      rw [check, refuseIf_eq_error_iff] at hcheck
      obtain ⟨hshort, rfl⟩ := hcheck
      have havailable := UInt64.toNat_ofNat_of_lt' hinputs
      have hneeded := UInt64.toNat_ofNat_of_lt' houtputs
      apply Blames.coverage havailable hneeded
      rw [UInt64.lt_iff_toNat_lt, havailable, hneeded]
      exact hshort

theorem checkEach_eq_error_iff {phases : List Phase} {fault : ValidityError} :
    tx.checkEach scripts values phases = .error fault ↔
      ∃ before phase after, phases = before ++ phase :: after ∧
        (∀ earlier ∈ before, tx.Meets scripts values earlier) ∧
        tx.check scripts values phase = .error fault := by
  have hone (phase : Phase) :
      tx.checkEach scripts values [phase] = .error fault ↔
        tx.check scripts values phase = .error fault := by
    rw [checkEach]
    cases tx.check scripts values phase with
    | error first => rfl
    | ok _ => simp only [checkEach, reduceCtorEq]
  rw [pass_eq_error_iff rfl (checkEach_append tx scripts values)]
  simp only [checkEach_eq_ok_iff, check_eq_ok_iff, hone]

/-- The totals are compared last. -/
theorem Phase.mem_before_coverage {before after : List Phase}
    (hall : Phase.all = before ++ .coverage :: after) {phase : Phase} (hphase : phase ≠ .coverage) :
    phase ∈ before := by
  have hlast : Phase.all = [Phase.lengths, .nonEmpty, .outputValues, .outputTotal, .size, .inputs,
    .signatures, .inputTotal] ++ Phase.coverage :: [] := rfl
  obtain ⟨rfl, _, _⟩ :=
    (List.append_cons_inj_of_notMem (by decide) (by decide)).1 (hlast.symm.trans hall)
  cases phase with
  | coverage => exact absurd rfl hphase
  | _ => decide

/-- Where a spend meets every phase its totals are exact. -/
theorem toNat_spendTotals (hmeets : ∀ phase, tx.Meets scripts values phase) :
    (tx.spendTotals values).totalInput.toNat = Amount.total values ∧
      (tx.spendTotals values).totalOutput.toNat = Amount.total (tx.outputs.map Output.value) ∧
      (tx.spendTotals values).totalInput.toNat =
        (tx.spendTotals values).totalOutput.toNat + (tx.spendTotals values).fee.toNat := by
  have hinputs : Amount.total values < UInt64.size := hmeets .inputTotal
  have houtputs : Amount.total (tx.outputs.map Output.value) < UInt64.size := hmeets .outputTotal
  have hinput : (tx.spendTotals values).totalInput.toNat = Amount.total values :=
    UInt64.toNat_ofNat_of_lt' hinputs
  have houtput : (tx.spendTotals values).totalOutput.toNat =
      Amount.total (tx.outputs.map Output.value) :=
    UInt64.toNat_ofNat_of_lt' houtputs
  have hcovered : (tx.spendTotals values).totalOutput.toNat ≤
      (tx.spendTotals values).totalInput.toNat := by
    rw [hinput, houtput]
    exact hmeets .coverage
  have hfee : (tx.spendTotals values).fee.toNat =
      (tx.spendTotals values).totalInput.toNat - (tx.spendTotals values).totalOutput.toNat :=
    Amount.toNat_sub_of_le hcovered
  refine ⟨hinput, houtput, ?_⟩
  rw [hfee, Nat.add_sub_cancel' hcovered]

theorem validateSpend_eq_ok_iff {totals : SpendTotals} :
    tx.validateSpend scripts values = .ok totals ↔
      (∀ phase, tx.Meets scripts values phase) ∧
        totals.totalInput.toNat = Amount.total values ∧
        totals.totalOutput.toNat = Amount.total (tx.outputs.map Output.value) ∧
        totals.totalInput.toNat = totals.totalOutput.toNat + totals.fee.toNat := by
  have haccepted : tx.validateSpend scripts values = .ok totals ↔
      (∀ phase, tx.Meets scripts values phase) ∧ totals = tx.spendTotals values := by
    have heach : tx.checkEach scripts values Phase.all = .ok () ↔
        ∀ phase, tx.Meets scripts values phase := by
      simp only [checkEach_eq_ok_iff, check_eq_ok_iff, Phase.mem_all, forall_const]
    rw [validateSpend_eq_checkEach, ← heach]
    cases tx.checkEach scripts values Phase.all with
    | error fault => simp only [Except.map, reduceCtorEq, false_and]
    | ok _ => simp only [Except.map, Except.ok.injEq, true_and, eq_comm]
  rw [haccepted]
  apply and_congr_right
  intro hmeets
  obtain ⟨hinput, houtput, hfee⟩ := toNat_spendTotals hmeets
  constructor
  · rintro rfl
    exact ⟨hinput, houtput, hfee⟩
  · rintro ⟨htotalInput, htotalOutput, hbalance⟩
    have hinputs := UInt64.toNat_inj.1 (htotalInput.trans hinput.symm)
    have houtputs := UInt64.toNat_inj.1 (htotalOutput.trans houtput.symm)
    rw [hinputs, houtputs, hfee, Nat.add_left_cancel_iff, UInt64.toNat_inj] at hbalance
    cases totals with
    | mk totalInput totalOutput fee =>
        cases hinputs
        cases houtputs
        cases hbalance
        rfl

theorem validateSpend_eq_error_iff {fault : ValidityError} :
    tx.validateSpend scripts values = .error fault ↔
      ∃ before phase after, Phase.all = before ++ phase :: after ∧
        (∀ earlier ∈ before, tx.Meets scripts values earlier) ∧
        tx.Blames scripts values phase fault := by
  have heach : tx.validateSpend scripts values = .error fault ↔
      tx.checkEach scripts values Phase.all = .error fault := by
    rw [validateSpend_eq_checkEach]
    cases tx.checkEach scripts values Phase.all with
    | error first => simp only [Except.map, Except.error.injEq]
    | ok _ => simp only [Except.map, reduceCtorEq]
  rw [heach, checkEach_eq_error_iff]
  constructor
  · rintro ⟨before, phase, after, hall, hmeets, hcheck⟩
    refine ⟨before, phase, after, hall, hmeets, blames_of_check ?_ hcheck⟩
    rintro rfl
    exact ⟨hmeets _ (Phase.mem_before_coverage hall (by decide)),
      hmeets _ (Phase.mem_before_coverage hall (by decide))⟩
  · rintro ⟨before, phase, after, hall, hmeets, hblames⟩
    exact ⟨before, phase, after, hall, hmeets, check_of_blames hblames⟩

/-- A spend is accepted, with its exact totals, if and only if it meets every phase.  It is refused
with a fault if and only if that is the first fault of the first phase that it does not meet. -/
theorem validateSpend_firstFault (tx : Transaction) (scripts : List Script) (values : List Amount) :
    (∀ totals, tx.validateSpend scripts values = .ok totals ↔
      (∀ phase, tx.Meets scripts values phase) ∧
        totals.totalInput.toNat = Amount.total values ∧
        totals.totalOutput.toNat = Amount.total (tx.outputs.map Output.value) ∧
        totals.totalInput.toNat = totals.totalOutput.toNat + totals.fee.toNat) ∧
    (∀ fault, tx.validateSpend scripts values = .error fault ↔
      ∃ before phase after, Phase.all = before ++ phase :: after ∧
        (∀ earlier ∈ before, tx.Meets scripts values earlier) ∧
        tx.Blames scripts values phase fault) ∧
    ∀ phase fault, tx.Blames scripts values phase fault → ¬ tx.Meets scripts values phase :=
  ⟨fun _ => validateSpend_eq_ok_iff, fun _ => validateSpend_eq_error_iff,
    fun _ _ => Blames.not_meets⟩

/-! ## Two faults at once -/

open Wallet

/-- A transaction that spends one outpoint twice, unsigned, and has an output of nothing. -/
def doublyFaulty : Transaction :=
  ⟨currentVersion, [.unsigned ⟨Digest.zero, 0⟩, .unsigned ⟨Digest.zero, 0⟩],
    [⟨30000, ownScript⟩, ⟨0, ownScript⟩], 0⟩

/-- A signed payment meets every phase.  Of two faults the one of the earlier phase is reported. -/
theorem validateSpend_mixedSigned :
    mixedSigned.validateSpend [ownScript] [100000] = .ok ⟨100000, 99828, 172⟩ ∧
      (∀ phase, mixedSigned.Meets [ownScript] [100000] phase) ∧
      doublyFaulty.validateSpend [ownScript, ownScript] [100000, 100000] =
        .error (.zeroValueOutput 1) ∧
      ¬ doublyFaulty.Meets [ownScript, ownScript] [100000, 100000] .outputValues ∧
      ¬ doublyFaulty.Meets [ownScript, ownScript] [100000, 100000] .inputs := by
  obtain ⟨haccepts, _, _⟩ := validateSpend_firstFault mixedSigned [ownScript] [100000]
  obtain ⟨_, hrefuses, hfaults⟩ :=
    validateSpend_firstFault doublyFaulty [ownScript, ownScript] [100000, 100000]
  have hmeets : ∀ phase, mixedSigned.Meets [ownScript] [100000] phase := by
    obtain ⟨totals, hvalid⟩ := (signChecked_eq_ok_iff.1 signChecked_mixed.1).2
    exact ((haccepts totals).1 hvalid).1
  have houtputs : doublyFaulty.outputs = [⟨30000, ownScript⟩] ++ ⟨0, ownScript⟩ :: [] := rfl
  have hinputs : doublyFaulty.inputs =
      [] ++ .unsigned ⟨Digest.zero, 0⟩ :: [.unsigned ⟨Digest.zero, 0⟩] := rfl
  have hzero : doublyFaulty.Blames [ownScript, ownScript] [100000, 100000] .outputValues
      (.zeroValueOutput 1) :=
    .zeroValue houtputs (by decide) rfl
  have hunsigned : doublyFaulty.Blames [ownScript, ownScript] [100000, 100000] .inputs
      (.invalidSignature 0) :=
    .input hinputs ⟨nofun, List.nodup_nil⟩
      (.unsigned (by decide) List.not_mem_nil (Or.inl (by decide)))
  have hvalues : mixedSigned.outputs.map Output.value = [30000, 20000, 49828] := rfl
  have haccepted : mixedSigned.validateSpend [ownScript] [100000] = .ok ⟨100000, 99828, 172⟩ := by
    apply (haccepts _).2
    rw [hvalues]
    exact ⟨hmeets, by decide⟩
  refine ⟨haccepted, hmeets, (hrefuses _).2 ?_, hfaults _ _ hzero, hfaults _ _ hunsigned⟩
  refine ⟨[.lengths, .nonEmpty], .outputValues, _, rfl, ?_, hzero⟩
  intro earlier hearlier
  rcases List.mem_cons.1 hearlier with rfl | hsecond
  · exact ⟨rfl, rfl⟩
  · cases List.mem_singleton.1 hsecond
    exact ⟨List.cons_ne_nil _ _, List.cons_ne_nil _ _⟩

end Transaction

end Purse
