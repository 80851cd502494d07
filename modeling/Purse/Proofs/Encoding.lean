import Purse.Proofs.Sighash

/-!
# Encodings without ambiguity

Numbers come in four widths, and the first byte tells which.  So a number can be told from whatever
follows it, and with it the lists, which have their lengths in front, and the whole transaction.
Transactions with one name are the same, or two byte strings are known that have one digest.
-/

namespace Purse

open Bytes

/-- Different byte strings with the same digest. -/
def Blake3.Collision (left right : Bytes) : Prop :=
  left ≠ right ∧ hash left = hash right

namespace Encoding

variable {α : Type}

/-! ## Numbers -/

/-- The byte in front of a number that takes more than one, and how many bytes come after it. -/
def widths : List (UInt8 × Nat) := [(251, 2), (252, 4), (253, 8)]

theorem number_of_lt {value : Nat} (hsmall : value < 251) :
    number value = [UInt8.ofNat value] := by
  rw [number, if_pos hsmall, ofNat, ofNat]

theorem exists_number_eq {value : Nat} (hlarge : ¬ value < 251) (hvalue : value < UInt64.size) :
    ∃ mark width, (mark, width) ∈ widths ∧ value < 1 <<< (8 * width) ∧
      number value = mark :: ofNat width value := by
  rw [number, if_neg hlarge]
  by_cases hshort : value < UInt16.size
  · exact ⟨251, 2, by decide, hshort, if_pos hshort⟩
  · rw [if_neg hshort]
    by_cases hword : value < UInt32.size
    · exact ⟨252, 4, by decide, hword, if_pos hword⟩
    · exact ⟨253, 8, by decide, hvalue, if_neg hword⟩

theorem le_of_mem_widths {mark : UInt8} {width : Nat} (hwidth : (mark, width) ∈ widths) :
    251 ≤ mark.toNat := by
  simp only [widths, List.mem_cons, Prod.mk.injEq, List.not_mem_nil, or_false] at hwidth
  rcases hwidth with ⟨rfl, _⟩ | ⟨rfl, _⟩ | ⟨rfl, _⟩ <;> decide

theorem eq_of_mem_widths {mark : UInt8} {width other : Nat} (hwidth : (mark, width) ∈ widths)
    (hother : (mark, other) ∈ widths) : width = other := by
  simp only [widths, List.mem_cons, Prod.mk.injEq, List.not_mem_nil, or_false] at hwidth hother
  rcases hwidth with ⟨rfl, rfl⟩ | ⟨rfl, rfl⟩ | ⟨rfl, rfl⟩ <;> simpa [eq_comm] using hother

/-- A number that takes one byte does not look like the mark of a longer one. -/
theorem ofNat_ne_of_mem_widths {value width : Nat} {mark : UInt8} (hsmall : value < 251)
    (hwidth : (mark, width) ∈ widths) : UInt8.ofNat value ≠ mark := by
  rintro rfl
  have hmark := le_of_mem_widths hwidth
  rw [UInt8.toNat_ofNat_of_lt' (lt_trans hsmall (by decide))] at hmark
  omega

theorem selfDelimiting_number : SelfDelimiting {value | value < UInt64.size} number := by
  intro left hleft right hright rest other heq
  by_cases hsmall : left < 251 <;> by_cases hlow : right < 251
  · rw [number_of_lt hsmall, number_of_lt hlow, List.singleton_append, List.singleton_append] at heq
    obtain ⟨hbyte, hrest⟩ := List.cons.inj heq
    refine ⟨?_, hrest⟩
    have hnumber := congrArg UInt8.toNat hbyte
    rwa [UInt8.toNat_ofNat_of_lt' (lt_trans hsmall (by decide)),
      UInt8.toNat_ofNat_of_lt' (lt_trans hlow (by decide))] at hnumber
  · obtain ⟨mark, width, hwidth, _, hnumber⟩ := exists_number_eq hlow hright
    rw [number_of_lt hsmall, hnumber] at heq
    exact absurd (List.cons.inj heq).1 (ofNat_ne_of_mem_widths hsmall hwidth)
  · obtain ⟨mark, width, hwidth, _, hnumber⟩ := exists_number_eq hsmall hleft
    rw [number_of_lt hlow, hnumber] at heq
    exact absurd (List.cons.inj heq).1.symm (ofNat_ne_of_mem_widths hlow hwidth)
  · obtain ⟨mark, width, hwidth, hfits, hnumber⟩ := exists_number_eq hsmall hleft
    obtain ⟨second, span, hspan, hbound, hlater⟩ := exists_number_eq hlow hright
    rw [hnumber, hlater, List.cons_append, List.cons_append] at heq
    obtain ⟨rfl, hdigits⟩ := List.cons.inj heq
    cases eq_of_mem_widths hwidth hspan
    exact selfDelimiting_ofNat width hfits hbound hdigits

theorem selfDelimiting_toNat_number :
    SelfDelimiting Set.univ fun value : UInt64 => number value.toNat :=
  selfDelimiting_number.comp (fun value _ => value.toNat_lt) fun _ _ _ _ => UInt64.toNat_inj.1

/-! ## Lists -/

theorem selfDelimiting_byteList : SelfDelimiting {bytes | bytes.length < UInt64.size} byteList := by
  intro left hleft right hright rest other heq
  rw [byteList, byteList, List.append_assoc, List.append_assoc] at heq
  obtain ⟨hlength, hbytes⟩ := selfDelimiting_number hleft hright heq
  exact List.append_inj hbytes hlength

theorem selfDelimiting_list {valid : Set α} {item : α → Bytes} (hitem : SelfDelimiting valid item) :
    SelfDelimiting {values | values.length < UInt64.size ∧ ∀ value ∈ values, value ∈ valid}
      (list item) := by
  rintro left ⟨hleft, hlefts⟩ right ⟨hright, hrights⟩ rest other heq
  rw [list, list, List.append_assoc, List.append_assoc] at heq
  obtain ⟨hlength, hitems⟩ := selfDelimiting_number hleft hright heq
  exact hitem.flatMap hlefts hrights hlength hitems

/-! ## Records -/

theorem selfDelimiting_outPoint : SelfDelimiting Set.univ outPoint := by
  rintro ⟨txid, index⟩ _ ⟨otherTxid, otherIndex⟩ _ rest other heq
  simp only [outPoint, digest, List.append_assoc] at heq
  obtain ⟨rfl, hindices⟩ := Sighash.selfDelimiting_digest trivial trivial heq
  obtain ⟨rfl, hrest⟩ := selfDelimiting_toNat_number trivial trivial hindices
  exact ⟨rfl, hrest⟩

theorem code_injective : Function.Injective ScriptKind.code := by
  intro left right heq
  revert heq
  cases left <;> cases right <;> decide

theorem selfDelimiting_code :
    SelfDelimiting Set.univ fun kind : ScriptKind => number kind.code :=
  selfDelimiting_number.comp (fun kind _ => by cases kind <;> decide) code_injective.injOn

theorem selfDelimiting_script : SelfDelimiting Set.univ script := by
  rintro ⟨kind, hash⟩ _ ⟨otherKind, otherHash⟩ _ rest other heq
  simp only [script, digest, List.append_assoc] at heq
  obtain ⟨rfl, hdigests⟩ := selfDelimiting_code trivial trivial heq
  obtain ⟨rfl, hrest⟩ := Sighash.selfDelimiting_digest trivial trivial hdigests
  exact ⟨rfl, hrest⟩

theorem selfDelimiting_output : SelfDelimiting Set.univ output := by
  rintro ⟨value, lock⟩ _ ⟨otherValue, otherLock⟩ _ rest other heq
  simp only [output, List.append_assoc] at heq
  obtain ⟨rfl, hscripts⟩ := selfDelimiting_toNat_number trivial trivial heq
  obtain ⟨rfl, hrest⟩ := selfDelimiting_script trivial trivial hscripts
  exact ⟨rfl, hrest⟩

end Encoding

/-- Both byte strings of the input have lengths of 64 bits. -/
structure Input.LengthsFit (input : Input) : Prop where
  signature_lt : input.signature.length < UInt64.size
  publicKey_lt : input.publicKey.length < UInt64.size

theorem Encoding.selfDelimiting_input : SelfDelimiting {value | value.LengthsFit} input := by
  rintro ⟨point, signature, key⟩ hfits ⟨otherPoint, otherSignature, otherKey⟩ hothers rest other heq
  simp only [input, List.append_assoc] at heq
  obtain ⟨rfl, hsignatures⟩ := selfDelimiting_outPoint trivial trivial heq
  obtain ⟨rfl, hkeys⟩ :=
    selfDelimiting_byteList hfits.signature_lt hothers.signature_lt hsignatures
  obtain ⟨rfl, hrest⟩ := selfDelimiting_byteList hfits.publicKey_lt hothers.publicKey_lt hkeys
  exact ⟨rfl, hrest⟩

namespace Transaction

/-- All lists in the transaction have lengths of 64 bits. -/
structure LengthsFit (tx : Transaction) : Prop where
  inputs_lt : tx.inputs.length < UInt64.size
  outputs_lt : tx.outputs.length < UInt64.size
  inputs_fit : ∀ input ∈ tx.inputs, input.LengthsFit

theorem selfDelimiting_encode : SelfDelimiting {tx | tx.LengthsFit} encode := by
  rintro ⟨version, inputs, outputs, lockTime⟩ hfits ⟨otherVersion, otherInputs, otherOutputs,
    otherLockTime⟩ hothers rest other heq
  simp only [encode, List.append_assoc] at heq
  obtain ⟨rfl, hinputs⟩ := Encoding.selfDelimiting_toNat_number trivial trivial heq
  obtain ⟨rfl, houtputs⟩ := Encoding.selfDelimiting_list Encoding.selfDelimiting_input
    ⟨hfits.inputs_lt, hfits.inputs_fit⟩ ⟨hothers.inputs_lt, hothers.inputs_fit⟩ hinputs
  obtain ⟨rfl, hlockTime⟩ := Encoding.selfDelimiting_list Encoding.selfDelimiting_output
    ⟨hfits.outputs_lt, fun _ _ => trivial⟩ ⟨hothers.outputs_lt, fun _ _ => trivial⟩ houtputs
  obtain ⟨rfl, hrest⟩ := Encoding.selfDelimiting_toNat_number trivial trivial hlockTime
  exact ⟨rfl, hrest⟩

variable {tx other : Transaction}

/-- An encoding tells which transaction it is and where it ends, whatever follows. So two different
transactions have one name only where their encodings collide. -/
theorem encode_append_eq_iff (hfits : tx.LengthsFit) (hothers : other.LengthsFit) :
    (∀ rest tail : Bytes,
      tx.encode ++ rest = other.encode ++ tail ↔ tx = other ∧ rest = tail) ∧
    (tx ≠ other → tx.txid = other.txid → Blake3.Collision tx.encode other.encode) := by
  refine ⟨fun rest tail => ⟨?_, ?_⟩, fun hne hname => ⟨?_, ?_⟩⟩
  · exact fun heq => selfDelimiting_encode hfits hothers heq
  · rintro ⟨rfl, rfl⟩
    rfl
  · intro hencode
    exact hne (selfDelimiting_encode hfits hothers (congrArg (· ++ []) hencode)).1
  · exact congrArg Digest.bytes hname

/-- One input with 255 bytes of signature and key, of which the first `count` are the signature. -/
def splitAt (count : Nat) : Transaction where
  version := currentVersion
  inputs := [⟨⟨Digest.zero, 251⟩, List.replicate count 7, List.replicate (255 - count) 7⟩]
  outputs := [⟨65536, ⟨.p2wpkh, Digest.zero⟩⟩]
  lockTime := 4294967296

theorem lengthsFit_splitAt {count : Nat} (hcount : count ≤ 255) : (splitAt count).LengthsFit := by
  have hone : 1 < UInt64.size := by decide
  have hsize : 255 < UInt64.size := by decide
  refine ⟨hone, hone, fun input hinput => ?_⟩
  cases List.mem_singleton.1 hinput
  refine ⟨?_, ?_⟩
  · rw [List.length_replicate]
    exact lt_of_le_of_lt hcount hsize
  · rw [List.length_replicate]
    exact lt_of_le_of_lt (Nat.sub_le 255 count) hsize

/-- The same bytes split in another way make another transaction, and its encoding shows it. -/
theorem encode_splitAt_append :
    (splitAt 251).LengthsFit ∧ (splitAt 250).LengthsFit ∧
      (∀ rest tail : Bytes, (splitAt 251).encode ++ rest ≠ (splitAt 250).encode ++ tail) ∧
      ((splitAt 251).txid = (splitAt 250).txid →
        Blake3.Collision (splitAt 251).encode (splitAt 250).encode) := by
  have hfits := lengthsFit_splitAt (by decide : 251 ≤ 255)
  have hothers := lengthsFit_splitAt (by decide : 250 ≤ 255)
  have hne : splitAt 251 ≠ splitAt 250 := by decide +kernel
  refine ⟨hfits, hothers, fun rest tail heq => ?_, ?_⟩
  · exact hne (((encode_append_eq_iff hfits hothers).1 rest tail).1 heq).1
  · exact (encode_append_eq_iff hfits hothers).2 hne

end Transaction

end Purse
