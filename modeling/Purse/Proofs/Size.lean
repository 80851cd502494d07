import Mathlib
import Purse.Transaction.Size

/-!
# Comparing virtual sizes

How the estimated size moves when an input or a change output is added.  Only the length of the
input count and the rounding of the witness keep it from being a plain sum, and the rounding by at
most one byte for each input.
-/

namespace Purse

namespace Size

/-! ## Rounded quotients -/

theorem divideUp_scale (value : Nat) : divideUp value witnessScale = (value + 3) / 4 := rfl

theorem divideUp_mono {small large : Nat} (hle : small ≤ large) :
    divideUp small witnessScale ≤ divideUp large witnessScale := by
  simp only [divideUp_scale]
  omega

theorem divideUp_add_le (left right : Nat) :
    divideUp (left + right) witnessScale ≤
      divideUp left witnessScale + divideUp right witnessScale := by
  simp only [divideUp_scale]
  omega

/-- Rounding up once in place of twice saves at most one. -/
theorem divideUp_add_divideUp_le (left right : Nat) :
    divideUp left witnessScale + divideUp right witnessScale ≤
      divideUp (left + right) witnessScale + 1 := by
  simp only [divideUp_scale]
  omega

/-! ## Sums over kinds -/

theorem total_append (measure : ScriptKind → Nat) (left right : List ScriptKind) :
    total measure (left ++ right) = total measure left + total measure right := by
  induction left with
  | nil => simp [total]
  | cons kind rest ih => simp [total, ih, Nat.add_assoc]

theorem total_perm (measure : ScriptKind → Nat) {left right : List ScriptKind}
    (hperm : left.Perm right) : total measure left = total measure right := by
  induction hperm with
  | nil => rfl
  | cons kind _ ih => simp [total, ih]
  | swap first second rest => simp [total, Nat.add_left_comm]
  | trans _ _ ihleft ihright => rw [ihleft, ihright]

/-! ## Counts -/

theorem compactSizeLength_mono {small large : Nat} (hle : small ≤ large) :
    compactSizeLength small ≤ compactSizeLength large := by
  simp only [compactSizeLength]
  split_ifs <;> omega

theorem compactSizeLength_of_le {count : Nat} (hcount : count ≤ 252) :
    compactSizeLength count = 1 := by
  rw [compactSizeLength, if_pos hcount]

/-- One item more makes the count at most four bytes longer. -/
theorem compactSizeLength_succ_le (count : Nat) :
    compactSizeLength (count + 1) ≤ compactSizeLength count + 4 := by
  simp only [compactSizeLength]
  split_ifs <;> omega

/-! ## Witnesses -/

theorem inputWitnessWeight_eq_zero {kind : ScriptKind} (hkind : kind.isWitness = false) :
    kind.inputWitnessWeight = 0 := by
  cases kind <;> simp_all [ScriptKind.isWitness, ScriptKind.inputWitnessWeight]

theorem total_inputWitnessWeight_of_none {inputs : List ScriptKind}
    (hnone : inputs.any ScriptKind.isWitness = false) :
    total ScriptKind.inputWitnessWeight inputs = 0 := by
  induction inputs with
  | nil => rfl
  | cons kind rest ih =>
      simp only [List.any_cons, Bool.or_eq_false_iff] at hnone
      rw [total, inputWitnessWeight_eq_zero hnone.1, ih hnone.2]

theorem witness_eq_zero {inputs : List ScriptKind}
    (hnone : inputs.any ScriptKind.isWitness = false) : witness inputs = 0 := by
  rw [witness, total_inputWitnessWeight_of_none hnone, if_neg (by simp [hnone])]

theorem witness_perm {left right : List ScriptKind} (hperm : left.Perm right) :
    witness left = witness right := by
  rw [witness, witness, total_perm _ hperm, hperm.any_eq]

theorem witness_le_append (left right : List ScriptKind) :
    witness left ≤ witness (left ++ right) := by
  simp only [witness, total_append, List.any_append]
  by_cases hleft : left.any ScriptKind.isWitness
  · simp only [hleft, Bool.true_or, if_true]
    omega
  · rw [if_neg hleft]
    omega

/-- The marker bytes of the first witness fit into the rounding of the input's own witness. -/
theorem divideUp_witness_singleton (kind : ScriptKind) :
    divideUp (witness [kind]) witnessScale = divideUp kind.inputWitnessWeight witnessScale := by
  cases kind <;> rfl

/-- An input without witness data leaves the witness as it is. -/
theorem witness_append_of_plain (inputs : List ScriptKind) {kind : ScriptKind}
    (hkind : kind.isWitness = false) : witness (inputs ++ [kind]) = witness inputs := by
  simp only [witness, total_append, total, inputWitnessWeight_eq_zero hkind, List.any_append,
    List.any_cons, List.any_nil, hkind, Bool.or_false, Nat.add_zero]

/-- Once there is a witness, the marker bytes have been counted. -/
theorem witness_append_of_any {inputs : List ScriptKind}
    (hany : inputs.any ScriptKind.isWitness) (kind : ScriptKind) :
    witness (inputs ++ [kind]) = witness inputs + kind.inputWitnessWeight := by
  simp only [witness, total_append, total, List.any_append, hany, Bool.true_or, if_true]
  omega

/-- The first witness is rounded by itself. -/
theorem divideUp_witness_append_of_none {inputs : List ScriptKind}
    (hnone : inputs.any ScriptKind.isWitness = false) (kind : ScriptKind) :
    divideUp (witness (inputs ++ [kind])) witnessScale =
      divideUp kind.inputWitnessWeight witnessScale := by
  have hweight := total_inputWitnessWeight_of_none hnone
  have happend : witness (inputs ++ [kind]) = witness [kind] := by
    simp only [witness, total_append, hweight, List.any_append, hnone, Bool.false_or,
      Nat.zero_add]
  rw [happend, divideUp_witness_singleton]

/-- Nothing is lost to rounding by an input without witness data or by the first witness. -/
theorem divideUp_witness_append {inputs : List ScriptKind} {kind : ScriptKind}
    (hwhole : kind.isWitness = false ∨ inputs.any ScriptKind.isWitness = false) :
    divideUp (witness (inputs ++ [kind])) witnessScale =
      divideUp (witness inputs) witnessScale +
        divideUp kind.inputWitnessWeight witnessScale := by
  rcases hwhole with hplain | hnone
  · rw [witness_append_of_plain inputs hplain, inputWitnessWeight_eq_zero hplain]
    rfl
  · rw [divideUp_witness_append_of_none hnone, witness_eq_zero hnone]
    exact (Nat.zero_add _).symm

theorem divideUp_witness_append_le (inputs : List ScriptKind) (kind : ScriptKind) :
    divideUp (witness (inputs ++ [kind])) witnessScale ≤
      divideUp (witness inputs) witnessScale +
        divideUp kind.inputWitnessWeight witnessScale := by
  -- The marker bytes come in with the first witness only, and then the bound is an equation.
  by_cases hany : inputs.any ScriptKind.isWitness
  · rw [witness_append_of_any hany]
    exact divideUp_add_le _ _
  · apply le_of_eq
    exact divideUp_witness_append (.inr (by simpa using hany))

theorem le_divideUp_witness_append (inputs : List ScriptKind) (kind : ScriptKind) :
    divideUp (witness inputs) witnessScale + divideUp kind.inputWitnessWeight witnessScale ≤
      divideUp (witness (inputs ++ [kind])) witnessScale + 1 := by
  by_cases hany : inputs.any ScriptKind.isWitness
  · rw [witness_append_of_any hany]
    exact divideUp_add_divideUp_le _ _
  · apply Nat.le_succ_of_le
    exact (divideUp_witness_append (.inr (by simpa using hany))).ge

/-! ## One more input -/

/-- What a further input adds to `inputs`, apart from the growth of the input count. -/
def marginal (inputs : List ScriptKind) (kind : ScriptKind) : Nat :=
  kind.inputBaseSize +
    (divideUp (witness (inputs ++ [kind])) witnessScale - divideUp (witness inputs) witnessScale)

theorem marginal_le (inputs : List ScriptKind) (kind : ScriptKind) :
    marginal inputs kind ≤ kind.minInputVsize := by
  have hwitness := divideUp_witness_append_le inputs kind
  rw [marginal, ScriptKind.minInputVsize]
  omega

theorem minInputVsize_le_marginal (inputs : List ScriptKind) (kind : ScriptKind) :
    kind.minInputVsize ≤ marginal inputs kind + 1 := by
  have hwitness := le_divideUp_witness_append inputs kind
  rw [marginal, ScriptKind.minInputVsize]
  omega

theorem marginal_eq {inputs : List ScriptKind} {kind : ScriptKind}
    (hwhole : kind.isWitness = false ∨ inputs.any ScriptKind.isWitness = false) :
    marginal inputs kind = kind.minInputVsize := by
  rw [marginal, divideUp_witness_append hwhole, Nat.add_sub_cancel_left, ScriptKind.minInputVsize]

end Size

/-! ## Whole transactions -/

section Estimate

open Size

variable (outputs : List Output) (change : Option ScriptKind)

/-- The order of the inputs does not matter. -/
theorem estimateVirtualSize_perm {left right : List ScriptKind} (hperm : left.Perm right) :
    estimateVirtualSize left outputs change = estimateVirtualSize right outputs change := by
  rw [estimateVirtualSize, estimateVirtualSize, base, base, hperm.length_eq,
    total_perm _ hperm, witness_perm hperm]

/-- The order of the outputs does not matter. -/
theorem estimateVirtualSize_perm_outputs (inputs : List ScriptKind) {left right : List Output}
    (hperm : left.Perm right) :
    estimateVirtualSize inputs left change = estimateVirtualSize inputs right change := by
  have hkinds : (left.map (fun output => output.script.kind) ++ change.toList).Perm
      (right.map (fun output => output.script.kind) ++ change.toList) :=
    (hperm.map _).append_right _
  rw [estimateVirtualSize, estimateVirtualSize, base, base, hkinds.length_eq,
    total_perm _ hkinds]

/-- More inputs never make a transaction smaller. -/
theorem estimateVirtualSize_le_append (left right : List ScriptKind) :
    estimateVirtualSize left outputs change ≤
      estimateVirtualSize (left ++ right) outputs change := by
  have hcount : compactSizeLength left.length ≤ compactSizeLength (left ++ right).length :=
    compactSizeLength_mono (by simp)
  have hwitness := divideUp_mono (witness_le_append left right)
  simp only [estimateVirtualSize, base, total_append]
  omega

/-- Beside its marginal size, an input adds what the input count grows by. -/
theorem estimateVirtualSize_append_input (inputs : List ScriptKind) (kind : ScriptKind) :
    estimateVirtualSize (inputs ++ [kind]) outputs change + compactSizeLength inputs.length =
      estimateVirtualSize inputs outputs change + compactSizeLength (inputs.length + 1) +
        marginal inputs kind := by
  have hgrows := divideUp_mono (witness_le_append inputs [kind])
  simp only [estimateVirtualSize, base, marginal, total_append, total, List.length_append,
    List.length_singleton]
  omega

/-- An input adds as much in the middle as at the end. -/
theorem estimateVirtualSize_insert (before after : List ScriptKind) (kind : ScriptKind) :
    estimateVirtualSize (before ++ kind :: after) outputs change +
        compactSizeLength (before ++ after).length =
      estimateVirtualSize (before ++ after) outputs change +
        compactSizeLength (before ++ kind :: after).length + marginal (before ++ after) kind := by
  have hperm : (before ++ kind :: after).Perm (before ++ after ++ [kind]) :=
    List.perm_middle.trans (List.perm_append_singleton kind (before ++ after)).symm
  have hcount : (before ++ kind :: after).length = (before ++ after).length + 1 := by
    rw [hperm.length_eq, List.length_append, List.length_singleton]
  rw [estimateVirtualSize_perm outputs change hperm, hcount]
  exact estimateVirtualSize_append_input outputs change (before ++ after) kind

/-- While the input count keeps its length, an input adds at most its own virtual size. -/
theorem estimateVirtualSize_append_input_le (inputs : List ScriptKind) (kind : ScriptKind)
    (hcount : compactSizeLength (inputs.length + 1) = compactSizeLength inputs.length) :
    estimateVirtualSize (inputs ++ [kind]) outputs change ≤
      estimateVirtualSize inputs outputs change + kind.minInputVsize := by
  have happend := estimateVirtualSize_append_input outputs change inputs kind
  have hmarginal := marginal_le inputs kind
  omega

/-- A change output counts as much as a further output of its kind. -/
theorem estimateVirtualSize_append_output (inputs : List ScriptKind) (output : Output) :
    estimateVirtualSize inputs (outputs ++ [output]) none =
      estimateVirtualSize inputs outputs (some output.script.kind) := by
  simp [estimateVirtualSize]

/-- Dropping the change output never makes a transaction larger. -/
theorem estimateVirtualSize_none_le (inputs : List ScriptKind) (kind : ScriptKind) :
    estimateVirtualSize inputs outputs none ≤
      estimateVirtualSize inputs outputs (some kind) := by
  simp only [estimateVirtualSize, base, Option.toList_none, Option.toList_some, List.append_nil,
    total_append, List.length_append, List.length_singleton]
  have hcount := compactSizeLength_mono
    (Nat.le_add_right (outputs.map fun output => output.script.kind).length 1)
  omega

/-- Any input outweighs a change output together with the growth of the output count. -/
theorem estimateVirtualSize_nil_le {inputs : List ScriptKind} (hinputs : inputs ≠ [])
    (kind : ScriptKind) :
    estimateVirtualSize [] outputs (some kind) ≤ estimateVirtualSize inputs outputs none := by
  obtain ⟨first, rest, rfl⟩ := List.exists_cons_of_ne_nil hinputs
  have hinput : kind.outputSize + 4 ≤ first.minInputVsize := by
    cases kind <;> cases first <;> decide
  have hwitness : divideUp first.inputWitnessWeight witnessScale ≤
      divideUp (witness (first :: rest)) witnessScale := by
    apply divideUp_mono
    simp only [witness, total]
    omega
  have hinputs : compactSizeLength 0 ≤ compactSizeLength (first :: rest).length :=
    compactSizeLength_mono (Nat.zero_le _)
  have houtputs := compactSizeLength_succ_le
    (outputs.map fun output => output.script.kind).length
  have hempty : divideUp (witness []) witnessScale = 0 := rfl
  simp only [estimateVirtualSize, base, Option.toList_none, Option.toList_some, List.append_nil,
    total_append, total, List.length_append, List.length_singleton, List.length_nil, hempty]
  simp only [ScriptKind.minInputVsize] at hinput
  omega

/-- Beside what the input count grows by, an input adds its own virtual size or one byte less,
wherever it is inserted, and exactly its own if it has no witness data or the others have none.
Inputs and outputs may stand in any order, and change counts as one more output of its kind. -/
theorem estimateVirtualSize_marginal :
    (∀ (before after : List ScriptKind) (kind : ScriptKind), ∃ growth : Nat,
      estimateVirtualSize (before ++ kind :: after) outputs change +
          compactSizeLength (before ++ after).length =
        estimateVirtualSize (before ++ after) outputs change +
          compactSizeLength (before ++ kind :: after).length + growth ∧
      kind.minInputVsize - 1 ≤ growth ∧ growth ≤ kind.minInputVsize ∧
      (kind = .p2pkh ∨ (∀ other ∈ before ++ after, other.isWitness = false) →
        growth = kind.minInputVsize)) ∧
    (∀ {inputs inputs' : List ScriptKind} {outputs' : List Output},
      inputs.Perm inputs' → outputs.Perm outputs' →
        estimateVirtualSize inputs outputs change = estimateVirtualSize inputs' outputs' change) ∧
    ∀ (inputs : List ScriptKind) (output : Output),
      estimateVirtualSize inputs outputs (some output.script.kind) =
        estimateVirtualSize inputs (outputs ++ [output]) none := by
  refine ⟨fun before after kind => ?_, fun hinputs houtputs => ?_, fun inputs output => ?_⟩
  · refine ⟨marginal (before ++ after) kind, ?_, ?_, ?_, fun hwhole => ?_⟩
    · exact estimateVirtualSize_insert outputs change before after kind
    · exact Nat.sub_le_of_le_add (minInputVsize_le_marginal (before ++ after) kind)
    · exact marginal_le (before ++ after) kind
    · apply marginal_eq
      rcases hwhole with rfl | hnone
      · exact .inl rfl
      · exact .inr (by simpa only [List.any_eq_false, Bool.not_eq_true] using hnone)
  · rw [estimateVirtualSize_perm outputs change hinputs]
    exact estimateVirtualSize_perm_outputs change _ houtputs
  · exact (estimateVirtualSize_append_output outputs inputs output).symm

/-- As many inputs without witness data as a count of one byte allows. -/
def plainInputs : List ScriptKind :=
  List.replicate 252 .p2pkh

theorem length_plainInputs : plainInputs.length = 252 := List.length_replicate

def twoPayments : List Output :=
  [⟨5000, ⟨.p2wpkh, Digest.zero⟩⟩, ⟨7000, ⟨.p2tr, Digest.zero⟩⟩]

/-- The first witness, where the count of inputs takes two bytes more. -/
theorem estimateVirtualSize_marginal_plainInputs :
    (∀ other ∈ plainInputs, other.isWitness = false) ∧
    (ScriptKind.p2tr :: plainInputs).Perm (plainInputs ++ [.p2tr]) ∧
    twoPayments.Perm twoPayments.reverse ∧
    estimateVirtualSize (.p2tr :: plainInputs) twoPayments (some .np2wpkh) =
      estimateVirtualSize plainInputs twoPayments (some .np2wpkh) + 2 + 58 ∧
    estimateVirtualSize (.p2tr :: plainInputs) twoPayments (some .np2wpkh) =
      estimateVirtualSize (plainInputs ++ [.p2tr]) twoPayments.reverse (some .np2wpkh) := by
  have hnone : ∀ other ∈ plainInputs, other.isWitness = false := by
    intro other hother
    rw [List.eq_of_mem_replicate hother]
    rfl
  have hinputs : (ScriptKind.p2tr :: plainInputs).Perm (plainInputs ++ [.p2tr]) :=
    (List.perm_append_singleton _ _).symm
  have houtputs : twoPayments.Perm twoPayments.reverse := (List.reverse_perm _).symm
  obtain ⟨hinsert, horder, _⟩ := estimateVirtualSize_marginal twoPayments (some .np2wpkh)
  obtain ⟨growth, hgrowth, _, _, hexact⟩ := hinsert [] plainInputs .p2tr
  have hwhole : growth = 58 := hexact (.inr hnone)
  simp only [List.nil_append, List.length_cons, length_plainInputs] at hgrowth
  have hcount : compactSizeLength 252 = 1 := rfl
  have hlonger : compactSizeLength (252 + 1) = 3 := rfl
  refine ⟨hnone, hinputs, houtputs, ?_, horder hinputs houtputs⟩
  omega

/-- A second witness may add one byte less than its own virtual size. -/
example : estimateVirtualSize [.p2wpkh, .p2wpkh] [] none =
    estimateVirtualSize [.p2wpkh] [] none + (ScriptKind.p2wpkh.minInputVsize - 1) := by
  decide

end Estimate

end Purse
