import Purse.Proofs.Validity
import Purse.Wallet.Basic

/-!
# Signing every input

No signature and no key is among what an input's signature commits to.  So a transaction whose
inputs are signed one after another verifies at each of them as if it alone had been signed.
-/

namespace Purse

variable {σ : Type}

theorem PublicKey.bytes_of_ofBytes? {bytes : FixedBytes 32} {key : PublicKey}
    (hkey : ofBytes? bytes = some key) : key.bytes = bytes := by
  rw [ofBytes?] at hkey
  obtain ⟨point, _, rfl⟩ := Option.map_eq_some_iff.1 hkey
  rfl

/-- The pair's public key decodes, and accepts the pair's signature of the message. -/
def KeyPair.acceptsOwn (pair : KeyPair) (message : Bytes) : Bool :=
  (PublicKey.ofBytes? pair.publicKey.bytes).any fun key => key.verify message (pair.sign message)

/-- The input with the pair's key and its signature of the message. -/
def Input.signedBy (input : Input) (pair : KeyPair) (message : Bytes) : Input :=
  { input with
    signature := (pair.sign message).toBytes
    publicKey := pair.publicKey.bytes.toBytes }

theorem Input.signedBy_publicKey (input : Input) (pair : KeyPair) (message : Bytes) :
    (input.signedBy pair message).publicKey = pair.publicKey.bytes.toBytes := rfl

theorem Input.signedBy_signature (input : Input) (pair : KeyPair) (message : Bytes) :
    (input.signedBy pair message).signature = (pair.sign message).toBytes := rfl

theorem Input.spending_signedBy {input : Input} (hnull : input.previousOutput.isNull = false)
    (pair : KeyPair) (message : Bytes) :
    Transaction.SpendingInput (input.signedBy pair message) where
  not_null := hnull
  signature_length := (pair.sign message).length_toBytes
  publicKey_length := pair.publicKey.bytes.length_toBytes

namespace Transaction

/-- What the signature of input `index` signs. -/
def signingMessage (tx : Transaction) (index : Nat) (script : Script) (value : Amount) : Bytes :=
  (Digest.ofBytes (tx.signingPreimage index script value)).bytes.toBytes

/-- The two transactions differ in no more than signatures and keys. -/
structure SameSpend (tx other : Transaction) : Prop where
  version_eq : other.version = tx.version
  outpoints_eq : other.inputs.map Input.previousOutput = tx.inputs.map Input.previousOutput
  outputs_eq : other.outputs = tx.outputs
  lockTime_eq : other.lockTime = tx.lockTime

namespace SameSpend

variable {tx middle other : Transaction}

theorem refl (tx : Transaction) : tx.SameSpend tx :=
  ⟨rfl, rfl, rfl, rfl⟩

theorem trans (hfirst : tx.SameSpend middle) (hsecond : middle.SameSpend other) :
    tx.SameSpend other where
  version_eq := hsecond.version_eq.trans hfirst.version_eq
  outpoints_eq := hsecond.outpoints_eq.trans hfirst.outpoints_eq
  outputs_eq := hsecond.outputs_eq.trans hfirst.outputs_eq
  lockTime_eq := hsecond.lockTime_eq.trans hfirst.lockTime_eq

variable (hsame : tx.SameSpend other)
include hsame

theorem length_eq : other.inputs.length = tx.inputs.length := by
  simpa only [List.length_map] using congrArg List.length hsame.outpoints_eq

theorem signingPreimage_eq (index : Nat) (script : Script) (value : Amount) :
    other.signingPreimage index script value = tx.signingPreimage index script value := by
  have hmap (inputs : List Input) :
      inputs.flatMap (fun input => Sighash.outPoint input.previousOutput) =
        (inputs.map Input.previousOutput).flatMap Sighash.outPoint := by
    rw [List.flatMap_map]
  have houtpoints : other.inputs.flatMap (fun input => Sighash.outPoint input.previousOutput) =
      tx.inputs.flatMap fun input => Sighash.outPoint input.previousOutput := by
    rw [hmap, hmap, hsame.outpoints_eq]
  rw [signingPreimage, signingPreimage, houtpoints, hsame.length_eq, hsame.version_eq,
    hsame.outputs_eq, hsame.lockTime_eq]

theorem signingMessage_eq (index : Nat) (script : Script) (value : Amount) :
    other.signingMessage index script value = tx.signingMessage index script value := by
  rw [signingMessage, signingMessage, hsame.signingPreimage_eq]

end SameSpend

/-! ## One input -/

variable {tx : Transaction} {index : Nat} {script : Script} {value : Amount} {pair : KeyPair}

/-- The transaction with one input signed. -/
def signedAt (tx : Transaction) (index : Nat) (script : Script) (value : Amount)
    (pair : KeyPair) : Transaction :=
  { tx with inputs := tx.inputs.modify index fun input =>
      input.signedBy pair (tx.signingMessage index script value) }

theorem signInput_eq (hindex : index < tx.inputs.length) (script : Script) (value : Amount)
    (pair : KeyPair) :
    tx.signInput index script value pair = .ok (tx.signedAt index script value pair) := by
  simp only [signInput, signingHash, if_pos hindex, signedAt, signingMessage, Input.signedBy]

theorem signInput_eq_ok {signed : Transaction}
    (hsigned : tx.signInput index script value pair = .ok signed) :
    signed = tx.signedAt index script value pair := by
  by_cases hindex : index < tx.inputs.length
  · rw [signInput_eq hindex] at hsigned
    exact (Except.ok.inj hsigned).symm
  · simp only [signInput, signingHash, if_neg hindex] at hsigned
    cases hsigned

theorem sameSpend_signedAt (tx : Transaction) (index : Nat) (script : Script) (value : Amount)
    (pair : KeyPair) : tx.SameSpend (tx.signedAt index script value pair) where
  version_eq := rfl
  outpoints_eq := by
    apply List.ext_getElem?
    intro position
    rw [signedAt, List.getElem?_map, List.getElem?_map, List.getElem?_modify]
    cases tx.inputs[position]? with
    | none => rfl
    | some input => split <;> rfl
  outputs_eq := rfl
  lockTime_eq := rfl

theorem getElem?_signedAt_of_ne {position : Nat} (hposition : index ≠ position) :
    (tx.signedAt index script value pair).inputs[position]? = tx.inputs[position]? := by
  rw [signedAt, List.getElem?_modify]
  cases tx.inputs[position]? with
  | none => rfl
  | some input => simp only [hposition, if_false, Option.map_eq_map, Option.map_some]

theorem getElem?_signedAt_self {input : Input} (hinput : tx.inputs[index]? = some input) :
    (tx.signedAt index script value pair).inputs[index]? =
      some (input.signedBy pair (tx.signingMessage index script value)) := by
  rw [signedAt, List.getElem?_modify, hinput]
  simp only [if_true, Option.map_eq_map, Option.map_some]

/-- The input carries a key whose digest is the script's, and a signature that the key accepts. -/
def Verifies (tx : Transaction) (index : Nat) (script : Script) (value : Amount) : Prop :=
  ∃ input key signature, tx.inputs[index]? = some input ∧
    (FixedBytes.ofBytes? 32 input.publicKey).bind PublicKey.ofBytes? = some key ∧
    key.hash = script.pubkeyHash ∧ FixedBytes.ofBytes? 64 input.signature = some signature ∧
    key.verify (tx.signingMessage index script value) signature = true

theorem verifyInput_eq_ok_iff :
    tx.verifyInput index script value = .ok () ↔ tx.Verifies index script value := by
  constructor
  · intro hverified
    by_cases hindex : index < tx.inputs.length
    · rw [verifyInput, signingHash, if_pos hindex] at hverified
      dsimp only at hverified
      split at hverified
      · cases hverified
      · rename_i input hinput
        split at hverified
        · cases hverified
        · rename_i key hkey
          split at hverified
          · cases hverified
          · rename_i howner
            split at hverified
            · cases hverified
            · rename_i signature hsignature
              split at hverified
              · rename_i haccepts
                exact ⟨input, key, signature, hinput, hkey, not_not.1 howner, hsignature, haccepts⟩
              · cases hverified
    · rw [verifyInput, signingHash, if_neg hindex] at hverified
      cases hverified
  · rintro ⟨input, key, signature, hinput, hkey, howner, hsignature, haccepts⟩
    have hindex := (List.getElem?_eq_some_iff.1 hinput).1
    rw [signingMessage] at haccepts
    simp only [verifyInput, signingHash, if_pos hindex, hinput, hkey, howner, ne_eq,
      not_true_eq_false, if_false, hsignature, haccepts, if_true]

/-- An input verifies if it was signed by a pair that accepts its own signature, whatever became of
the other inputs. -/
theorem verifyInput_of_signedBy {signed : Transaction} {input : Input}
    (hsame : tx.SameSpend signed)
    (hinput : signed.inputs[index]? =
      some (input.signedBy pair (tx.signingMessage index script value)))
    (hdigest : pair.publicKey.hash = script.pubkeyHash)
    (haccepts : pair.acceptsOwn (tx.signingMessage index script value) = true) :
    signed.verifyInput index script value = .ok () := by
  rw [KeyPair.acceptsOwn, Option.any_eq_true] at haccepts
  obtain ⟨key, hkey, hverified⟩ := haccepts
  have howner : key.hash = script.pubkeyHash := by
    rw [PublicKey.hash] at hdigest ⊢
    rw [PublicKey.bytes_of_ofBytes? hkey, hdigest]
  have hdecoded : (FixedBytes.ofBytes? 32
      (input.signedBy pair (tx.signingMessage index script value)).publicKey).bind
        PublicKey.ofBytes? = some key := by
    rw [Input.signedBy_publicKey, FixedBytes.ofBytes?_toBytes, Option.bind_some, hkey]
  have hsignature : FixedBytes.ofBytes? 64
      (input.signedBy pair (tx.signingMessage index script value)).signature =
        some (pair.sign (tx.signingMessage index script value)) := by
    rw [Input.signedBy_signature, FixedBytes.ofBytes?_toBytes]
  refine verifyInput_eq_ok_iff.2 ⟨_, key, _, hinput, hdecoded, howner, hsignature, ?_⟩
  rw [hsame.signingMessage_eq, hverified]

end Transaction

/-! ## All inputs -/

namespace Wallet

open Transaction

/-- However far signing gets, what comes out spends and pays the same. -/
theorem sameSpend_of_signInputs {book : AddressBook σ} {spent : List (Script × Amount)}
    {tx signed : Transaction} {index : Nat}
    (hsigned : signInputs book tx index spent = .ok signed) : tx.SameSpend signed := by
  induction spent generalizing tx index with
  | nil =>
      cases hsigned
      exact .refl _
  | cons first rest ih =>
      obtain ⟨script, value⟩ := first
      rw [signInputs] at hsigned
      cases hpair : book.keyPairFor? script with
      | none =>
          simp only [hpair] at hsigned
          cases hsigned
      | some pair =>
          cases hstep : tx.signInput index script value pair with
          | error fault =>
              simp only [hpair, hstep] at hsigned
              cases hsigned
          | ok next =>
              simp only [hpair, hstep] at hsigned
              cases signInput_eq_ok hstep
              exact (sameSpend_signedAt tx index script value pair).trans (ih hsigned)

/-- Signing goes through if the book has a key for each script. It signs each input from `index` on,
for what was to be signed in the first place, and leaves the earlier ones as they are. -/
theorem exists_signInputs_eq_ok (book : AddressBook σ) {spent : List (Script × Amount)}
    (hkeys : ∀ script value, (script, value) ∈ spent → ∃ pair, book.keyPairFor? script = some pair)
    {tx : Transaction} {index : Nat} (hroom : index + spent.length ≤ tx.inputs.length) :
    ∃ signed, signInputs book tx index spent = .ok signed ∧ tx.SameSpend signed ∧
      (∀ position < index, signed.inputs[position]? = tx.inputs[position]?) ∧
      ∀ offset script value, spent[offset]? = some (script, value) →
        ∃ pair input, book.keyPairFor? script = some pair ∧
          tx.inputs[index + offset]? = some input ∧
          signed.inputs[index + offset]? =
            some (input.signedBy pair (tx.signingMessage (index + offset) script value)) := by
  induction spent generalizing tx index with
  | nil => exact ⟨tx, rfl, .refl tx, fun _ _ => rfl, fun _ _ _ hspent => by cases hspent⟩
  | cons first rest ih =>
      obtain ⟨script, value⟩ := first
      obtain ⟨pair, hpair⟩ := hkeys script value List.mem_cons_self
      rw [List.length_cons] at hroom
      have hindex : index < tx.inputs.length := by omega
      have hstep := sameSpend_signedAt tx index script value pair
      have hrest : index + 1 + rest.length ≤
          (tx.signedAt index script value pair).inputs.length := by
        rw [hstep.length_eq]
        omega
      obtain ⟨signed, hsigned, hsame, hearlier, hlater⟩ :=
        ih (fun other amount hmem => hkeys other amount (List.mem_cons_of_mem _ hmem)) hrest
      refine ⟨signed, ?_, hstep.trans hsame, fun position hposition => ?_,
        fun offset other amount hspent => ?_⟩
      · simp only [signInputs, hpair, signInput_eq hindex, hsigned]
      · rw [hearlier position (by omega), getElem?_signedAt_of_ne (by omega)]
      · cases offset with
        | zero =>
            cases hspent
            have hinput := List.getElem?_eq_getElem hindex
            exact ⟨pair, _, hpair, hinput,
              (hearlier index (Nat.lt_succ_self index)).trans (getElem?_signedAt_self hinput)⟩
        | succ offset =>
            obtain ⟨found, input, hfound, hinput, hsigned⟩ := hlater offset other amount hspent
            rw [getElem?_signedAt_of_ne (by omega)] at hinput
            rw [hstep.signingMessage_eq] at hsigned
            rw [Nat.add_right_comm] at hinput hsigned
            exact ⟨found, input, hfound, hinput, hsigned⟩

end Wallet

end Purse
