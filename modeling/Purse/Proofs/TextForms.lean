import Purse.Authoring.Request
import Purse.Proofs.HexText

/-!
# Texts of digests, scripts and payments

Each of the three is read from the texts of its grammar and from no others, and what is written of
it reads back.  Of a text that is no digest, the fault says what is wrong with it first.
-/

namespace Purse

/-! ## Splitting -/

namespace Text

theorem splitFirst?_append {separator : Char} {before : List Char} (hbefore : separator ∉ before)
    (after : List Char) :
    splitFirst? separator (before ++ separator :: after) = some (before, after) := by
  induction before with
  | nil => simp [splitFirst?]
  | cons c before ih =>
      rw [List.mem_cons, not_or] at hbefore
      rw [List.cons_append, splitFirst?, if_neg (Ne.symm hbefore.1), ih hbefore.2, Option.map_some]

theorem splitLast?_eq_none {separator : Char} {text : List Char} (htext : separator ∉ text) :
    splitLast? separator text = none := by
  induction text with
  | nil => rfl
  | cons c rest ih =>
      rw [List.mem_cons, not_or] at htext
      simp only [splitLast?, ih htext.2, if_neg (Ne.symm htext.1)]

theorem splitLast?_append {separator : Char} {after : List Char} (hafter : separator ∉ after)
    (before : List Char) :
    splitLast? separator (before ++ separator :: after) = some (before, after) := by
  induction before with
  | nil => simp [splitLast?, splitLast?_eq_none hafter]
  | cons c before ih => simp only [List.cons_append, splitLast?, ih]

end Text

/-! ## Digests -/

namespace Digest

/-- The text has the bytes of 64 hexadecimal digits. -/
def Spelled (text : String) : Prop :=
  (Bytes.ofText text).length = 64 ∧ ∀ byte ∈ Bytes.ofText text, Hex.IsDigit byte

/-- What is wrong with a text first: an odd length, another length than 64, or a byte that is no
digit while all before it are. -/
inductive Refused (text : String) : Hex.Fault → Prop where
  | oddLength (hodd : (Bytes.ofText text).length % 2 = 1) : Refused text .oddLength
  | wrongLength (heven : (Bytes.ofText text).length % 2 = 0)
      (hlength : (Bytes.ofText text).length ≠ 64) : Refused text .wrongLength
  | badDigit {before after : Bytes} {byte : UInt8} (hlength : (Bytes.ofText text).length = 64)
      (htext : Bytes.ofText text = before ++ byte :: after)
      (hbefore : ∀ byte ∈ before, Hex.IsDigit byte) (hbad : ¬ Hex.IsDigit byte) :
      Refused text (.badDigit byte before.length)

variable {text : String} {fault : Hex.Fault}

theorem Refused.parse_eq (hrefused : Refused text fault) : parse text = .error fault := by
  cases hrefused with
  | oddLength hodd => simp [parse, Hex.decodeFixed, hodd]
  | wrongLength heven hlength => simp [parse, Hex.decodeFixed, heven, hlength]
  | @badDigit before after byte hlength htext hbefore hbad =>
      have heven : (before ++ byte :: after).length % 2 = 0 := by rw [← htext, hlength]
      have hdecode := Hex.decodePairs_of_first_bad 0 heven hbefore hbad
      rw [← htext, Nat.zero_add] at hdecode
      simp [parse, Hex.decodeFixed, hlength, hdecode]

theorem Spelled.exists_parse_eq (hspelled : Spelled text) :
    ∃ digest, parse text = .ok digest ∧ digest.toText = text.toLower := by
  obtain ⟨hlength, hdigits⟩ := hspelled
  have heven : (Bytes.ofText text).length % 2 = 0 := by omega
  obtain ⟨bytes, hdecode, hbytes, hlowered⟩ := Hex.decodePairs_of_digits 0 heven hdigits
  have hsize : bytes.length = 32 := by omega
  refine ⟨⟨⟨bytes, hsize⟩⟩, ?_, ?_⟩
  · simp [parse, Hex.decodeFixed, hlength, hdecode, FixedBytes.ofBytes?, hsize]
  · have hchars := Bytes.toList_eq_map_of_lt fun byte hbyte => (hdigits byte hbyte).lt
    rw [toText, Hex.encode, hlowered, String.toLower, ← String.toList_inj, String.toList_ofList,
      String.toList_map, hchars, List.map_map]
    rfl

theorem spelled_or_refused (text : String) : Spelled text ∨ ∃ fault, Refused text fault := by
  by_cases hodd : (Bytes.ofText text).length % 2 = 1
  · exact Or.inr ⟨_, .oddLength hodd⟩
  by_cases hlength : (Bytes.ofText text).length = 64
  · rcases Hex.digits_or_first_bad (Bytes.ofText text) with
      hdigits | ⟨before, byte, after, htext, hbefore, hbad⟩
    · exact Or.inl ⟨hlength, hdigits⟩
    · exact Or.inr ⟨_, .badDigit hlength htext hbefore hbad⟩
  · exact Or.inr ⟨_, .wrongLength (by omega) hlength⟩

/-- How a text is read as a digest. -/
structure ReadsExactly (text : String) : Prop where
  accepts : (∃ digest, parse text = .ok digest) ↔ Spelled text
  refuses (fault : Hex.Fault) : parse text = .error fault ↔ Refused text fault
  displays (digest : Digest) : parse text = .ok digest → digest.toText = text.toLower

theorem readsExactly (text : String) : ReadsExactly text := by
  rcases spelled_or_refused text with hspelled | ⟨fault, hrefused⟩
  · obtain ⟨digest, hparse, hlowers⟩ := hspelled.exists_parse_eq
    refine ⟨⟨fun _ => hspelled, fun _ => ⟨digest, hparse⟩⟩, fun fault => ⟨?_, ?_⟩, ?_⟩
    · intro hfault
      cases hparse.symm.trans hfault
    · exact Refused.parse_eq
    · intro other hother
      cases hparse.symm.trans hother
      exact hlowers
  · have hparse := hrefused.parse_eq
    refine ⟨⟨?_, ?_⟩, fun other => ⟨?_, ?_⟩, ?_⟩
    · rintro ⟨digest, hdigest⟩
      cases hparse.symm.trans hdigest
    · intro hspelled
      obtain ⟨digest, hdigest, _⟩ := hspelled.exists_parse_eq
      exact ⟨digest, hdigest⟩
    · intro hother
      cases hparse.symm.trans hother
      exact hrefused
    · exact Refused.parse_eq
    · intro digest hdigest
      cases hparse.symm.trans hdigest

end Digest

/-! ## Scripts -/

namespace Script

/-- The text is the tag of a kind, a colon and the text of a digest. -/
def Spelled (text : String) : Prop :=
  ∃ tag ∈ ["p2pkh", "p2wpkh", "np2wpkh", "p2tr"], ∃ hash, Digest.Spelled hash ∧
    text = tag ++ ":" ++ hash

theorem colon_notMem_tag (kind : ScriptKind) : ':' ∉ kind.tag.toList := by
  cases kind <;> decide

theorem mem_tags_iff {tag : String} :
    tag ∈ ["p2pkh", "p2wpkh", "np2wpkh", "p2tr"] ↔ ∃ kind : ScriptKind, kind.tag = tag := by
  constructor
  · simp only [List.mem_cons, List.not_mem_nil, or_false]
    rintro (rfl | rfl | rfl | rfl)
    exacts [⟨.p2pkh, rfl⟩, ⟨.p2wpkh, rfl⟩, ⟨.np2wpkh, rfl⟩, ⟨.p2tr, rfl⟩]
  · rintro ⟨kind, rfl⟩
    cases kind <;> decide

theorem parseKind_eq_ok_iff {tag : String} {kind : ScriptKind} :
    parseKind tag = .ok kind ↔ kind.tag = tag := by
  constructor
  · intro hkind
    rw [parseKind] at hkind
    split at hkind
    · cases hkind
    · rename_i found hfound
      cases hkind
      exact ScriptKind.tag_of_ofTag? hfound
  · rintro rfl
    rw [parseKind, ScriptKind.ofTag?_tag]

theorem parse_eq_ok_iff {text : String} {script : Script} :
    parse text = .ok script ↔
      ∃ hash, text = script.kind.tag ++ ":" ++ hash ∧
        Digest.parse hash = .ok script.pubkeyHash := by
  constructor
  · intro hparse
    rw [parse] at hparse
    split at hparse
    · cases hparse
    · rename_i tag hash hsplit
      obtain ⟨htext, _⟩ := Text.splitFirst?_eq_some hsplit
      split at hparse
      · cases hparse
      · rename_i pubkeyHash hhash
        split at hparse
        · cases hparse
        · rename_i kind hkind
          cases hparse
          refine ⟨String.ofList hash, ?_, hhash⟩
          rw [← String.toList_inj, htext, parseKind_eq_ok_iff.1 hkind]
          simp
  · rintro ⟨hash, rfl, hhash⟩
    have hsplit : Text.splitFirst? ':' (script.kind.tag ++ ":" ++ hash).toList =
        some (script.kind.tag.toList, hash.toList) := by
      simpa using Text.splitFirst?_append (colon_notMem_tag script.kind) hash.toList
    have hkind := parseKind_eq_ok_iff.2 (rfl : script.kind.tag = script.kind.tag)
    simp only [parse, hsplit, String.ofList_toList, hhash, hkind]

/-- How a text is read as a script. -/
structure ReadsExactly (text : String) : Prop where
  accepts : (∃ script, parse text = .ok script) ↔ Spelled text
  reads (script : Script) : parse text = .ok script ↔
    ∃ hash, text = script.kind.tag ++ ":" ++ hash ∧ Digest.parse hash = .ok script.pubkeyHash
  displays (script : Script) : parse text = .ok script →
    ∃ hash, text = script.kind.tag ++ ":" ++ hash ∧
      script.toText = script.kind.tag ++ ":" ++ hash.toLower

theorem readsExactly (text : String) : ReadsExactly text where
  accepts := by
    constructor
    · rintro ⟨script, hparse⟩
      obtain ⟨hash, htext, hhash⟩ := parse_eq_ok_iff.1 hparse
      exact ⟨script.kind.tag, mem_tags_iff.2 ⟨script.kind, rfl⟩, hash,
        (Digest.readsExactly hash).accepts.1 ⟨_, hhash⟩, htext⟩
    · rintro ⟨tag, htag, hash, hhash, htext⟩
      obtain ⟨kind, rfl⟩ := mem_tags_iff.1 htag
      obtain ⟨digest, hdigest⟩ := (Digest.readsExactly hash).accepts.2 hhash
      exact ⟨⟨kind, digest⟩, parse_eq_ok_iff.2 ⟨hash, htext, hdigest⟩⟩
  reads _ := parse_eq_ok_iff
  displays script hparse := by
    obtain ⟨hash, htext, hhash⟩ := parse_eq_ok_iff.1 hparse
    refine ⟨hash, htext, ?_⟩
    rw [toText, (Digest.readsExactly hash).displays _ hhash]

@[simp]
theorem parse_toText (script : Script) : parse script.toText = .ok script :=
  parse_eq_ok_iff.2 ⟨_, rfl, Digest.parse_toText _⟩

end Script

/-! ## Amounts -/

namespace Decimal

/-- One digit or more, leading zeros among them, that write the value. -/
structure Writes (digits : List Char) (value : Nat) : Prop where
  ne_nil : digits ≠ []
  isDigit : ∀ c ∈ digits, c.isDigit = true
  value_eq : Nat.ofDigitChars 10 digits 0 = value

/-- The digits of the value, after a plus sign or without one. -/
inductive Spells (value : Nat) : List Char → Prop where
  | plain {digits : List Char} (hdigits : Writes digits value) : Spells value digits
  | signed {digits : List Char} (hdigits : Writes digits value) : Spells value ('+' :: digits)

theorem digitValue?_of_isDigit {c : Char} (hdigit : c.isDigit = true) :
    digitValue? c = some (c.toNat - '0'.toNat) := by
  rw [digitValue?, if_pos]
  · rfl
  · simpa [Char.isDigit, Char.le_def] using hdigit

theorem digitValue?_eq_none {c : Char} (hdigit : c.isDigit = false) : digitValue? c = none := by
  rw [digitValue?, if_neg]
  simpa [Char.isDigit, Char.le_def] using hdigit

theorem readDigits_eq_ok_iff {bound value result : Nat} {digits : List Char}
    (hvalue : value ≤ bound) :
    readDigits bound value digits = .ok result ↔
      (∀ c ∈ digits, c.isDigit = true) ∧ Nat.ofDigitChars 10 digits value = result ∧
        result ≤ bound := by
  induction digits generalizing value with
  | nil =>
      simp only [readDigits, Except.ok.injEq, List.not_mem_nil, false_implies, implies_true,
        true_and, Nat.ofDigitChars_nil]
      omega
  | cons c rest ih =>
      rw [List.forall_mem_cons, Nat.ofDigitChars_cons]
      cases hdigit : c.isDigit with
      | false => simp [readDigits, digitValue?_eq_none hdigit]
      | true =>
          simp only [readDigits, digitValue?_of_isDigit hdigit, true_and]
          split
          · rename_i hbound
            exact ih hbound
          · -- the value has passed the bound, and the digits that follow only make it larger
            rename_i hbound
            simp only [reduceCtorEq, false_iff, not_and]
            intro _ hresult
            have hgrows := Nat.le_mul_of_pos_left (10 * value + (c.toNat - '0'.toNat))
              (Nat.pow_pos (n := rest.length) (by decide : 0 < 10))
            rw [Nat.ofDigitChars_eq_ofDigitChars_zero] at hresult
            omega

theorem spells_cons_plus_iff {value : Nat} {digits : List Char} :
    Spells value ('+' :: digits) ↔ Writes digits value := by
  constructor
  · intro hspells
    cases hspells with
    | plain hdigits => exact absurd (hdigits.isDigit _ List.mem_cons_self) (by decide)
    | signed hdigits => exact hdigits
  · exact .signed

theorem spells_iff_writes {value : Nat} {digits : List Char} (hplus : digits.head? ≠ some '+') :
    Spells value digits ↔ Writes digits value := by
  constructor
  · intro hspells
    cases hspells with
    | plain hdigits => exact hdigits
    | signed => exact absurd rfl hplus
  · exact .plain

theorem parse_eq_ok_iff {bound value : Nat} {text : String} :
    parse bound text = .ok value ↔ Spells value text.toList ∧ value ≤ bound := by
  have hread {digits : List Char} (hne : digits ≠ []) :
      readDigits bound 0 digits = .ok value ↔ Writes digits value ∧ value ≤ bound := by
    rw [readDigits_eq_ok_iff (Nat.zero_le bound)]
    exact ⟨fun ⟨hdigits, hvalue, hbound⟩ => ⟨⟨hne, hdigits, hvalue⟩, hbound⟩,
      fun ⟨⟨_, hdigits, hvalue⟩, hbound⟩ => ⟨hdigits, hvalue, hbound⟩⟩
  rw [parse]
  split
  · rename_i hnil
    rw [hnil, spells_iff_writes (by decide)]
    exact ⟨nofun, fun ⟨hdigits, _⟩ => absurd rfl hdigits.ne_nil⟩
  · rename_i hsign
    rw [hsign, spells_cons_plus_iff]
    exact ⟨nofun, fun ⟨hdigits, _⟩ => absurd rfl hdigits.ne_nil⟩
  · rename_i digits hne hsigned
    rw [hsigned, spells_cons_plus_iff]
    exact hread hne
  · rename_i hne _ hplus
    rw [spells_iff_writes]
    · exact hread hne
    · intro hhead
      obtain ⟨rest, hrest⟩ := List.head?_eq_some_iff.1 hhead
      exact hplus rest hrest

theorem parseUInt64_eq_ok_iff {text : String} {amount : UInt64} :
    parseUInt64 text = .ok amount ↔ Spells amount.toNat text.toList := by
  have hbound : amount.toNat ≤ UInt64.size - 1 := Nat.le_sub_one_of_lt amount.toNat_lt
  have hparse : parse (UInt64.size - 1) text = .ok amount.toNat ↔
      Spells amount.toNat text.toList := by
    rw [parse_eq_ok_iff, and_iff_left hbound]
  rw [← hparse, parseUInt64]
  split
  · rename_i hfault
    rw [hfault]
    exact ⟨nofun, nofun⟩
  · rename_i value hvalue
    have hsmall : value < UInt64.size := Nat.lt_of_le_pred (by decide) (parse_eq_ok_iff.1 hvalue).2
    rw [hvalue, Except.ok.injEq, Except.ok.injEq, ← UInt64.toNat_inj,
      UInt64.toNat_ofNat_of_lt' hsmall]

theorem spells_print (value : Nat) : Spells value (print value).toList := by
  rw [print, String.toList_ofList]
  exact .plain ⟨Nat.toDigits_ne_nil, fun _ => Nat.isDigit_of_mem_toDigits (by decide) (by decide),
    Nat.ofDigitChars_toDigits (by decide) (by decide)⟩

theorem Spells.colon_notMem {value : Nat} {digits : List Char} (hspells : Spells value digits) :
    ':' ∉ digits := by
  cases hspells with
  | plain hdigits => exact fun hcolon => absurd (hdigits.isDigit _ hcolon) (by decide)
  | signed hdigits =>
      rw [List.mem_cons, not_or]
      exact ⟨by decide, fun hcolon => absurd (hdigits.isDigit _ hcolon) (by decide)⟩

end Decimal

/-! ## Payments -/

namespace Payment

theorem parse_eq_ok_iff {text : String} {payment : Payment} :
    parse text = .ok payment ↔
      ∃ script amount, text = script ++ ":" ++ amount ∧
        Script.parse script = .ok payment.script ∧
        Decimal.Spells payment.amount.toNat amount.toList := by
  constructor
  · intro hparse
    rw [parse] at hparse
    split at hparse
    · cases hparse
    · rename_i script amount hsplit
      split at hparse
      · cases hparse
      · rename_i found hscript
        simp only at hparse
        split at hparse
        · cases hparse
        · rename_i value hamount
          cases hparse
          refine ⟨String.ofList script, String.ofList amount, ?_, hscript,
            Decimal.parseUInt64_eq_ok_iff.1 hamount⟩
          rw [← String.toList_inj, Text.splitLast?_eq_some hsplit]
          simp
  · rintro ⟨script, amount, rfl, hscript, hamount⟩
    have hsplit : Text.splitLast? ':' (script ++ ":" ++ amount).toList =
        some (script.toList, amount.toList) := by
      simpa using Text.splitLast?_append hamount.colon_notMem script.toList
    simp only [parse, hsplit, String.ofList_toList, hscript,
      Decimal.parseUInt64_eq_ok_iff.2 hamount]

/-- How a text is read as a payment. -/
structure ReadsExactly (text : String) : Prop where
  accepts : (∃ payment, parse text = .ok payment) ↔
    ∃ script amount value, text = script ++ ":" ++ amount ∧ Script.Spelled script ∧
      Decimal.Spells value amount.toList ∧ value < UInt64.size
  reads (payment : Payment) : parse text = .ok payment ↔
    ∃ script amount, text = script ++ ":" ++ amount ∧
      Script.parse script = .ok payment.script ∧
      Decimal.Spells payment.amount.toNat amount.toList

theorem readsExactly (text : String) : ReadsExactly text where
  accepts := by
    constructor
    · rintro ⟨payment, hparse⟩
      obtain ⟨script, amount, htext, hscript, hamount⟩ := parse_eq_ok_iff.1 hparse
      exact ⟨script, amount, payment.amount.toNat, htext,
        (Script.readsExactly script).accepts.1 ⟨_, hscript⟩, hamount, payment.amount.toNat_lt⟩
    · rintro ⟨script, amount, value, htext, hscript, hamount, hvalue⟩
      obtain ⟨found, hfound⟩ := (Script.readsExactly script).accepts.2 hscript
      refine ⟨⟨found, UInt64.ofNat value⟩,
        parse_eq_ok_iff.2 ⟨script, amount, htext, hfound, ?_⟩⟩
      rwa [UInt64.toNat_ofNat_of_lt' hvalue]
  reads _ := parse_eq_ok_iff

@[simp]
theorem parse_toText (payment : Payment) : parse payment.toText = .ok payment :=
  parse_eq_ok_iff.2 ⟨_, _, rfl, Script.parse_toText _, Decimal.spells_print _⟩

end Payment

/-- Digests, scripts and payments are read from the texts of their grammar and from no others, and
what is written of them reads back. -/
theorem texts_read_exactly :
    (∀ text, Digest.ReadsExactly text ∧ Script.ReadsExactly text ∧ Payment.ReadsExactly text) ∧
      (∀ digest : Digest, Digest.parse digest.toText = .ok digest) ∧
      (∀ script : Script, Script.parse script.toText = .ok script) ∧
      ∀ payment : Payment, Payment.parse payment.toText = .ok payment :=
  ⟨fun text => ⟨Digest.readsExactly text, Script.readsExactly text, Payment.readsExactly text⟩,
    Digest.parse_toText, Script.parse_toText, Payment.parse_toText⟩

end Purse
