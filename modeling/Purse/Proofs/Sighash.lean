import Purse.Proofs.Framing
import Purse.Proofs.Signing

/-!
# What a sighash commits to

The bytes under a signature are frames without separators.  The lists have their lengths in front,
and the tags of scripts, though not of one length, never begin one another.  So the bytes determine
all that they are made of.
-/

namespace Purse

open Bytes

namespace Sighash

theorem selfDelimiting_word :
    SelfDelimiting {value | value < UInt64.size} word :=
  selfDelimiting_ofNat 8

theorem selfDelimiting_toNat_word :
    SelfDelimiting Set.univ fun value : UInt64 => word value.toNat :=
  selfDelimiting_word.comp (fun value _ => value.toNat_lt) fun _ _ _ _ => UInt64.toNat_inj.1

/-- No tag begins another one. -/
theorem tag_prefixFree {left right : ScriptKind}
    (hbegins : ofText left.tag <+: ofText right.tag) : left = right := by
  revert hbegins
  cases left <;> cases right <;> decide

theorem selfDelimiting_tag :
    SelfDelimiting Set.univ fun kind : ScriptKind => ofText kind.tag :=
  selfDelimiting_of_prefixFree fun _ _ _ _ => tag_prefixFree

theorem selfDelimiting_digest :
    SelfDelimiting Set.univ fun digest : Digest => digest.bytes.toBytes :=
  (selfDelimiting_toBytes 32).comp (fun _ _ => trivial) fun left _ right _ heq => by
    cases left
    cases right
    exact congrArg Digest.mk heq

theorem selfDelimiting_script : SelfDelimiting Set.univ script := by
  rintro ⟨kind, digest⟩ _ ⟨otherKind, otherDigest⟩ _ rest other heq
  simp only [script, List.append_assoc] at heq
  obtain ⟨rfl, hdigests⟩ := selfDelimiting_tag trivial trivial heq
  obtain ⟨rfl, hrest⟩ := selfDelimiting_digest trivial trivial hdigests
  exact ⟨rfl, hrest⟩

theorem selfDelimiting_outPoint : SelfDelimiting Set.univ outPoint := by
  rintro ⟨txid, index⟩ _ ⟨otherTxid, otherIndex⟩ _ rest other heq
  simp only [outPoint, List.append_assoc] at heq
  obtain ⟨rfl, hindices⟩ := selfDelimiting_digest trivial trivial heq
  obtain ⟨rfl, hrest⟩ := selfDelimiting_toNat_word trivial trivial hindices
  exact ⟨rfl, hrest⟩

theorem selfDelimiting_output : SelfDelimiting Set.univ output := by
  rintro ⟨value, lock⟩ _ ⟨otherValue, otherLock⟩ _ rest other heq
  simp only [output, List.append_assoc] at heq
  obtain ⟨rfl, hscripts⟩ := selfDelimiting_toNat_word trivial trivial heq
  obtain ⟨rfl, hrest⟩ := selfDelimiting_script trivial trivial hscripts
  exact ⟨rfl, hrest⟩

end Sighash

namespace Transaction

open Sighash

variable {tx other : Transaction} {index place : Nat} {script lock : Script}
  {value amount : Amount}

/-- The bytes with the outpoints alone, where they hang on nothing else of the inputs. -/
theorem signingPreimage_eq_outpoints (tx : Transaction) (index : Nat) (script : Script)
    (value : Amount) :
    tx.signingPreimage index script value =
      ofText context ++ word tx.version.toNat ++
        word (tx.inputs.map Input.previousOutput).length ++
        (tx.inputs.map Input.previousOutput).flatMap outPoint ++ word tx.outputs.length ++
        tx.outputs.flatMap output ++ word tx.lockTime.toNat ++ word index ++
        Sighash.script script ++ word value.toNat := by
  rw [signingPreimage, List.length_map, List.flatMap_map]

/-- Equal bytes come from equal data.  The frames are taken off from the front, one by one. -/
theorem sameSpend_of_signingPreimage_eq (hindex : index < UInt64.size)
    (hplace : place < UInt64.size) (hinputs : tx.inputs.length < UInt64.size)
    (hothers : other.inputs.length < UInt64.size)
    (houtputs : tx.outputs.length < UInt64.size) (hpaid : other.outputs.length < UInt64.size)
    (heq : tx.signingPreimage index script value = other.signingPreimage place lock amount) :
    tx.SameSpend other ∧ index = place ∧ script = lock ∧ value = amount := by
  rw [signingPreimage_eq_outpoints, signingPreimage_eq_outpoints] at heq
  simp only [List.append_assoc, List.append_cancel_left_eq] at heq
  obtain ⟨hversion, heq⟩ := selfDelimiting_toNat_word trivial trivial heq
  obtain ⟨hcount, heq⟩ := selfDelimiting_word (by simpa using hinputs) (by simpa using hothers) heq
  obtain ⟨hpoints, heq⟩ := selfDelimiting_outPoint.flatMap (fun _ _ => trivial)
    (fun _ _ => trivial) hcount heq
  obtain ⟨hcount, heq⟩ := selfDelimiting_word houtputs hpaid heq
  obtain ⟨hpayments, heq⟩ := selfDelimiting_output.flatMap (fun _ _ => trivial)
    (fun _ _ => trivial) hcount heq
  obtain ⟨hlockTime, heq⟩ := selfDelimiting_toNat_word trivial trivial heq
  obtain ⟨hposition, heq⟩ := selfDelimiting_word hindex hplace heq
  obtain ⟨hscript, heq⟩ := selfDelimiting_script trivial trivial heq
  have hvalue : value = amount := by
    rw [← List.append_nil (word value.toNat), ← List.append_nil (word amount.toNat)] at heq
    exact (selfDelimiting_toNat_word trivial trivial heq).1
  exact ⟨⟨hversion.symm, hpoints.symm, hpayments.symm, hlockTime.symm⟩, hposition, hscript, hvalue⟩

/-- The bytes under two signatures are equal exactly if the transactions have the same version, lock
time, outpoints and outputs, and the inputs the same position, and spend the same value locked by
the same script. No signature and no key makes a difference. -/
theorem signingPreimage_eq_iff (hindex : index < tx.inputs.length)
    (hplace : place < other.inputs.length) (hinputs : tx.inputs.length < UInt64.size)
    (hothers : other.inputs.length < UInt64.size) (houtputs : tx.outputs.length < UInt64.size)
    (hpaid : other.outputs.length < UInt64.size) :
    tx.signingHash index script value =
        .ok (Digest.ofBytes (tx.signingPreimage index script value)) ∧
      other.signingHash place lock amount =
        .ok (Digest.ofBytes (other.signingPreimage place lock amount)) ∧
      (tx.signingPreimage index script value = other.signingPreimage place lock amount ↔
        tx.version = other.version ∧ tx.lockTime = other.lockTime ∧
          tx.inputs.map Input.previousOutput = other.inputs.map Input.previousOutput ∧
          tx.outputs = other.outputs ∧ index = place ∧ script = lock ∧ value = amount) := by
  refine ⟨by rw [signingHash, if_pos hindex], by rw [signingHash, if_pos hplace], ?_, ?_⟩
  · intro heq
    obtain ⟨hsame, hposition, hscript, hvalue⟩ := sameSpend_of_signingPreimage_eq
      (hindex.trans hinputs) (hplace.trans hothers) hinputs hothers houtputs hpaid heq
    exact ⟨hsame.version_eq.symm, hsame.lockTime_eq.symm, hsame.outpoints_eq.symm,
      hsame.outputs_eq.symm, hposition, hscript, hvalue⟩
  · rintro ⟨hversion, hlockTime, hpoints, hpayments, rfl, rfl, rfl⟩
    have hsame : tx.SameSpend other :=
      ⟨hversion.symm, hpoints.symm, hpayments.symm, hlockTime.symm⟩
    exact (hsame.signingPreimage_eq index script value).symm

/-- Two inputs, of which the second is signed. -/
def halfSigned : Transaction where
  version := currentVersion
  inputs := [.unsigned ⟨Digest.zero, 0⟩, ⟨⟨Digest.zero, 1⟩, [1], [2]⟩]
  outputs := [⟨5000, ⟨.p2tr, Digest.zero⟩⟩, ⟨6000, ⟨.p2pkh, Digest.zero⟩⟩]
  lockTime := 0

/-- The inputs sign different bytes, and the same ones with the second input unsigned. -/
theorem signingPreimage_halfSigned :
    halfSigned.signingPreimage 0 ⟨.p2pkh, Digest.zero⟩ 700 ≠
        halfSigned.signingPreimage 1 ⟨.p2pkh, Digest.zero⟩ 700 ∧
      halfSigned.signingPreimage 0 ⟨.p2pkh, Digest.zero⟩ 700 =
        Transaction.signingPreimage { halfSigned with
          inputs := [.unsigned ⟨Digest.zero, 0⟩, .unsigned ⟨Digest.zero, 1⟩] } 0
          ⟨.p2pkh, Digest.zero⟩ 700 := by
  constructor
  · intro heq
    have hsame := (signingPreimage_eq_iff (by decide) (by decide) (by decide) (by decide)
      (by decide) (by decide)).2.2.1 heq
    exact absurd hsame.2.2.2.2.1 (by decide)
  · exact (signingPreimage_eq_iff (by decide) (by decide) (by decide) (by decide) (by decide)
      (by decide)).2.2.2 ⟨rfl, rfl, rfl, rfl, rfl, rfl, rfl⟩

end Transaction

end Purse
