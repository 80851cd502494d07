import Purse.Proofs.Signing

/-!
# The first entry that is not in order

Outputs and inputs are checked in passes.  A pass goes on only behind what it accepts, so what it
reports belongs to the first entry that is not in order.
-/

namespace Purse

/-- Refuses with the fault if the condition holds. -/
def refuseIf {ε : Type} (condition : Prop) [Decidable condition] (fault : ε) : Except ε Unit :=
  if condition then .error fault else .ok ()

section RefuseIf

variable {ε : Type} {condition : Prop} [Decidable condition] {fault other : ε}

theorem refuseIf_eq_ok_iff : refuseIf condition fault = .ok () ↔ ¬ condition := by
  rw [refuseIf]
  split
  · rename_i hcondition
    simp only [reduceCtorEq, hcondition, not_true_eq_false]
  · rename_i hcondition
    simp only [hcondition, not_false_eq_true]

theorem refuseIf_eq_error_iff :
    refuseIf condition fault = .error other ↔ condition ∧ other = fault := by
  rw [refuseIf]
  split
  · rename_i hcondition
    simp only [Except.error.injEq, hcondition, true_and, eq_comm]
  · rename_i hcondition
    simp only [reduceCtorEq, hcondition, false_and]

end RefuseIf

/-! ## Passes over a list -/

/-- A pass that goes on only behind what it accepts refuses a list for its first bad entry. -/
theorem pass_eq_error_iff {α ε : Type} {pass : List α → Except ε Unit}
    {next : List α → List α → Except ε Unit} (hnil : pass [] = .ok ())
    (happend : ∀ earlier later,
      pass (earlier ++ later) = (pass earlier).bind fun _ => next earlier later)
    {entries : List α} {fault : ε} :
    pass entries = .error fault ↔
      ∃ earlier entry later, entries = earlier ++ entry :: later ∧ pass earlier = .ok () ∧
        next earlier [entry] = .error fault := by
  constructor
  · intro hrefused
    induction entries using List.reverseRecOn with
    | nil => cases hnil.symm.trans hrefused
    | append_singleton entries last ih =>
        rw [happend] at hrefused
        cases hpass : pass entries with
        | error first =>
            rw [hpass] at hrefused
            obtain ⟨earlier, entry, later, rfl, haccepted, hfault⟩ := ih (hpass.trans hrefused)
            exact ⟨earlier, entry, later ++ [last], by simp, haccepted, hfault⟩
        | ok _ =>
            rw [hpass] at hrefused
            exact ⟨entries, last, [], rfl, hpass, hrefused⟩
  · rintro ⟨earlier, entry, later, rfl, haccepted, hfault⟩
    have hone : pass (earlier ++ [entry]) = .error fault := by
      rw [happend, haccepted]
      exact hfault
    rw [List.append_cons, happend, hone]
    rfl

namespace Transaction

theorem checkOutputs_append (index : Nat) (earlier later : List Output) :
    checkOutputs index (earlier ++ later) =
      (checkOutputs index earlier).bind fun _ => checkOutputs (index + earlier.length) later := by
  induction earlier generalizing index with
  | nil => rfl
  | cons output rest ih =>
      rw [List.cons_append, checkOutputs, checkOutputs, ih, List.length_cons, Nat.add_right_comm,
        Nat.add_assoc]
      split <;> rfl

theorem checkInputs_append (seen : List OutPoint) (index : Nat) (earlier later : List Input) :
    checkInputs seen index (earlier ++ later) =
      (checkInputs seen index earlier).bind fun _ =>
        checkInputs ((earlier.map Input.previousOutput).reverse ++ seen) (index + earlier.length)
          later := by
  induction earlier generalizing seen index with
  | nil => rfl
  | cons input rest ih =>
      rw [List.cons_append, checkInputs, checkInputs, ih, List.length_cons, List.map_cons,
        List.reverse_cons, List.append_assoc, List.singleton_append, Nat.add_right_comm,
        Nat.add_assoc]
      split
      · rfl
      · split
        · rfl
        · split <;> rfl

theorem verifyInputs_append (tx : Transaction) (index : Nat)
    (earlier later : List (Script × Amount)) :
    tx.verifyInputs index (earlier ++ later) =
      (tx.verifyInputs index earlier).bind fun _ =>
        tx.verifyInputs (index + earlier.length) later := by
  induction earlier generalizing index with
  | nil => rfl
  | cons spent rest ih =>
      obtain ⟨script, value⟩ := spent
      rw [List.cons_append, verifyInputs, verifyInputs, ih, List.length_cons, Nat.add_right_comm,
        Nat.add_assoc]
      split <;> rfl

/-! ## The first entry that is not in order -/

theorem checkOutputs_eq_error_iff {outputs : List Output} {fault : ValidityError} :
    checkOutputs 0 outputs = .error fault ↔
      ∃ earlier output later, outputs = earlier ++ output :: later ∧
        (∀ other ∈ earlier, other.value ≠ 0) ∧ output.value = 0 ∧
        fault = .zeroValueOutput earlier.length := by
  have hone (index : Nat) (output : Output) :
      checkOutputs index [output] = refuseIf (output.value = 0) (.zeroValueOutput index) := rfl
  rw [pass_eq_error_iff rfl (checkOutputs_append 0)]
  simp only [checkOutputs_eq_ok_iff, hone, refuseIf_eq_error_iff, Nat.zero_add]

/-- The inputs stand in order: each can be in a signed transaction, and none repeats an outpoint. -/
def InputsInOrder (inputs : List Input) : Prop :=
  (∀ input ∈ inputs, SpendingInput input) ∧ (inputs.map Input.previousOutput).Nodup

theorem checkInputs_eq_ok_iff_inOrder {inputs : List Input} :
    checkInputs [] 0 inputs = .ok () ↔ InputsInOrder inputs := by
  rw [checkInputs_eq_ok_iff, InputsInOrder]
  simp only [List.not_mem_nil, not_false_eq_true, and_true]

/-- What is wrong with an input that stands behind the earlier ones. -/
inductive InputFault (earlier : List Input) (input : Input) : ValidityError → Prop where
  | nullOutpoint (hnull : input.previousOutput.isNull = true) :
      InputFault earlier input (.nullOutpoint earlier.length)
  | repeated (hnull : input.previousOutput.isNull = false)
      (hrepeated : input.previousOutput ∈ earlier.map Input.previousOutput) :
      InputFault earlier input (.duplicateInput (.found input.previousOutput))
  | unsigned (hnull : input.previousOutput.isNull = false)
      (hnew : input.previousOutput ∉ earlier.map Input.previousOutput)
      (hlengths : input.signature.length ≠ 64 ∨ input.publicKey.length ≠ 32) :
      InputFault earlier input (.invalidSignature earlier.length)

theorem checkInputs_singleton_eq_error_iff {seen : List OutPoint} {earlier : List Input}
    {input : Input} {fault : ValidityError}
    (hseen : input.previousOutput ∈ seen ↔
      input.previousOutput ∈ earlier.map Input.previousOutput) :
    checkInputs seen earlier.length [input] = .error fault ↔ InputFault earlier input fault := by
  constructor
  · intro hrefused
    rw [checkInputs] at hrefused
    split at hrefused
    · rename_i hnull
      cases hrefused
      exact .nullOutpoint hnull
    · rename_i hnull
      have hnull := Bool.eq_false_iff.2 hnull
      split at hrefused
      · rename_i hrepeated
        cases hrefused
        exact .repeated hnull (hseen.1 hrepeated)
      · rename_i hnew
        split at hrefused
        · rename_i hlengths
          cases hrefused
          exact .unsigned hnull (hseen.not.1 hnew) hlengths
        · cases hrefused
  · intro hfault
    cases hfault with
    | nullOutpoint hnull => rw [checkInputs, if_pos hnull]
    | repeated hnull hrepeated =>
        rw [checkInputs, hnull, if_neg Bool.false_ne_true, if_pos (hseen.2 hrepeated)]
    | unsigned hnull hnew hlengths =>
        rw [checkInputs, hnull, if_neg Bool.false_ne_true, if_neg (hseen.not.2 hnew),
          if_pos hlengths]

theorem checkInputs_eq_error_iff {inputs : List Input} {fault : ValidityError} :
    checkInputs [] 0 inputs = .error fault ↔
      ∃ earlier input later, inputs = earlier ++ input :: later ∧ InputsInOrder earlier ∧
        InputFault earlier input fault := by
  have hone (earlier : List Input) (input : Input) :
      checkInputs ((earlier.map Input.previousOutput).reverse ++ []) (0 + earlier.length) [input] =
        .error fault ↔ InputFault earlier input fault := by
    rw [Nat.zero_add]
    apply checkInputs_singleton_eq_error_iff
    rw [List.append_nil, List.mem_reverse]
  rw [pass_eq_error_iff rfl (checkInputs_append [] 0)]
  simp only [checkInputs_eq_ok_iff_inOrder, hone]

/-- The inputs verify against the scripts and values at their positions. -/
def AllVerify (tx : Transaction) (spent : List (Script × Amount)) : Prop :=
  ∀ position script value, spent[position]? = some (script, value) →
    tx.Verifies position script value

theorem verifyInputs_eq_ok_iff_allVerify {tx : Transaction} {spent : List (Script × Amount)} :
    tx.verifyInputs 0 spent = .ok () ↔ tx.AllVerify spent := by
  simp only [verifyInputs_eq_ok_iff, verifyInput_eq_ok_iff, Nat.zero_add, AllVerify]

theorem verifyInputs_eq_error_iff {tx : Transaction} {spent : List (Script × Amount)}
    {fault : ValidityError} :
    tx.verifyInputs 0 spent = .error fault ↔
      ∃ earlier script value later, spent = earlier ++ (script, value) :: later ∧
        tx.AllVerify earlier ∧ ¬ tx.Verifies earlier.length script value ∧
        fault = .invalidSignature earlier.length := by
  have hone (index : Nat) (script : Script) (value : Amount) :
      tx.verifyInputs index [(script, value)] = .error fault ↔
        ¬ tx.Verifies index script value ∧ fault = .invalidSignature index := by
    rw [← verifyInput_eq_ok_iff, verifyInputs]
    cases tx.verifyInput index script value with
    | error refusal =>
        simp only [Except.error.injEq, reduceCtorEq, not_false_eq_true, true_and, eq_comm]
    | ok _ => simp only [verifyInputs, reduceCtorEq, not_true_eq_false, false_and]
  rw [pass_eq_error_iff rfl (tx.verifyInputs_append 0)]
  simp only [Prod.exists, verifyInputs_eq_ok_iff_allVerify, hone, Nat.zero_add]

end Transaction

end Purse
