import Mathlib
import Purse.Digest

/-!
# Hexadecimal text

Digits are ASCII characters, so their text has one byte for each of them.  What is written in
digits is read back from those bytes, and digits in either case are read up to the first byte that
is none.
-/

namespace Purse

namespace Bytes

theorem ofText_eq_flatMap (text : String) :
    ofText text = text.toList.flatMap String.utf8EncodeChar := by
  conv_lhs => rw [← String.ofList_toList (s := text)]
  rw [ofText, String.toUTF8_eq_toByteArray, String.toByteArray_ofList, List.utf8Encode,
    List.data_toByteArray]

/-- ASCII characters are their own UTF-8 bytes. -/
theorem ofText_of_ascii {chars : List Char} (hascii : ∀ c ∈ chars, c.toNat < 128) :
    ofText (String.ofList chars) = chars.map fun c => UInt8.ofNat c.toNat := by
  have hsingle (c : Char) (hc : c ∈ chars) :
      String.utf8EncodeChar c = [UInt8.ofNat c.toNat] := by
    apply String.utf8EncodeChar_eq_singleton
    rw [Char.utf8Size_eq_one_iff, UInt32.le_iff_toNat_le]
    exact Nat.le_of_lt_succ (hascii c hc)
  rw [ofText_eq_flatMap, String.toList_ofList, List.flatMap_congr hsingle, List.map_eq_flatMap]

/-- A character above ASCII begins with a byte above ASCII. -/
theorem toNat_lt_of_utf8EncodeChar {c : Char}
    (hbytes : ∀ byte ∈ String.utf8EncodeChar c, byte.toNat < 128) : c.toNat < 128 := by
  have hvalue : c.val.toNat = c.toNat := rfl
  simp only [String.utf8EncodeChar, hvalue] at hbytes
  split_ifs at hbytes
  · omega
  all_goals
    have hfirst := hbytes _ List.mem_cons_self
    rw [UInt8.toNat_ofNat'] at hfirst
    omega

/-- A text whose bytes are all below 128 has their characters. -/
theorem toList_eq_map_of_lt {text : String} (hbytes : ∀ byte ∈ ofText text, byte.toNat < 128) :
    text.toList = (ofText text).map fun byte => Char.ofNat byte.toNat := by
  have hascii : ∀ c ∈ text.toList, c.toNat < 128 := by
    intro c hc
    apply toNat_lt_of_utf8EncodeChar
    intro byte hbyte
    rw [ofText_eq_flatMap] at hbytes
    exact hbytes byte (List.mem_flatMap.2 ⟨c, hc, hbyte⟩)
  have hmap := ofText_of_ascii hascii
  rw [String.ofList_toList] at hmap
  rw [hmap, List.map_map]
  conv_lhs => rw [← List.map_id text.toList]
  apply List.map_congr_left
  intro c hc
  have hc := hascii c hc
  simp only [id_eq, Function.comp_apply, UInt8.toNat_ofNat']
  rw [Nat.mod_eq_of_lt (by omega), Char.ofNat_toNat]

end Bytes

namespace Hex

theorem toNat_digit_lt {value : Nat} (hvalue : value < 16) : (digit value).toNat < 128 := by
  revert value
  decide

theorem value?_digit {value : Nat} (hvalue : value < 16) :
    value? (UInt8.ofNat (digit value).toNat) = some value := by
  revert value
  decide

theorem toNat_lt_of_mem_encodeByte {byte : UInt8} {c : Char} (hc : c ∈ encodeByte byte) :
    c.toNat < 128 := by
  have hhigh : byte.toNat / 16 < 16 := by have := byte.toNat_lt; omega
  have hlow : byte.toNat % 16 < 16 := Nat.mod_lt _ (by decide)
  rw [encodeByte, List.mem_pair] at hc
  rcases hc with rfl | rfl
  · exact toNat_digit_lt hhigh
  · exact toNat_digit_lt hlow

/-- The bytes of the text that `encode` makes. -/
theorem ofText_encode (bytes : Bytes) :
    Bytes.ofText (encode bytes) =
      bytes.flatMap fun byte => (encodeByte byte).map fun c => UInt8.ofNat c.toNat := by
  rw [encode, Bytes.ofText_of_ascii, List.map_flatMap]
  intro c hc
  obtain ⟨byte, _, hdigit⟩ := List.mem_flatMap.1 hc
  exact toNat_lt_of_mem_encodeByte hdigit

theorem length_ofText_encode (bytes : Bytes) :
    (Bytes.ofText (encode bytes)).length = 2 * bytes.length := by
  rw [ofText_encode, List.length_flatMap]
  induction bytes with
  | nil => rfl
  | cons byte bytes ih =>
      rw [List.map_cons, List.sum_cons, ih, List.length_map, List.length_cons, encodeByte]
      simp only [List.length_cons, List.length_nil]
      omega

theorem decodePairs_encode (position : Nat) (bytes : Bytes) :
    decodePairs position (Bytes.ofText (encode bytes)) = .ok bytes := by
  rw [ofText_encode]
  induction bytes generalizing position with
  | nil => rfl
  | cons byte bytes ih =>
      have hhigh : byte.toNat / 16 < 16 := by have := byte.toNat_lt; omega
      have hlow : byte.toNat % 16 < 16 := Nat.mod_lt _ (by decide)
      rw [List.flatMap_cons, encodeByte]
      simp only [List.map_cons, List.map_nil, List.cons_append, List.nil_append, decodePairs,
        value?_digit hhigh, value?_digit hlow, ih]
      rw [Nat.div_add_mod, UInt8.ofNat_toNat]

@[simp]
theorem decodeFixed_encode {size : Nat} (value : FixedBytes size) :
    decodeFixed size (encode value.toBytes) = .ok value := by
  have hlength := length_ofText_encode value.toBytes
  rw [value.length_toBytes] at hlength
  simp [decodeFixed, hlength, decodePairs_encode]

/-! ## Digits in either case -/

/-- The byte of a hexadecimal digit, in either case. -/
def IsDigit (byte : UInt8) : Prop :=
  byte.toNat ∈ "0123456789abcdefABCDEF".toList.map Char.toNat

instance : DecidablePred IsDigit := fun _ => inferInstanceAs (Decidable (_ ∈ _))

theorem isDigit_iff (byte : UInt8) : IsDigit byte ↔ ∃ value, value? byte = some value := by
  have hall : ∀ byte : UInt8, IsDigit byte ↔ (value? byte).isSome = true := by decide +kernel
  rw [hall, Option.isSome_iff_exists]

theorem value?_eq_none {byte : UInt8} (hbyte : ¬ IsDigit byte) : value? byte = none := by
  rwa [isDigit_iff, not_exists, ← Option.eq_none_iff_forall_ne_some] at hbyte

theorem IsDigit.lt {byte : UInt8} (hbyte : IsDigit byte) : byte.toNat < 128 := by
  revert byte
  decide +kernel

/-- The digit as a character in lower case. -/
def lowered (byte : UInt8) : Char :=
  (Char.ofNat byte.toNat).toLower

theorem digit_of_value? {byte : UInt8} {value : Nat} (hvalue : value? byte = some value) :
    value < 16 ∧ digit value = lowered byte := by
  have hall : ∀ byte : UInt8, ∀ value ∈ value? byte, value < 16 ∧ digit value = lowered byte := by
    decide +kernel
  exact hall byte value hvalue

theorem encodeByte_of_value? {high low : UInt8} {upper lower : Nat}
    (hhigh : value? high = some upper) (hlow : value? low = some lower) :
    encodeByte (UInt8.ofNat (16 * upper + lower)) = [lowered high, lowered low] := by
  obtain ⟨hupper, hhigh⟩ := digit_of_value? hhigh
  obtain ⟨hlower, hlow⟩ := digit_of_value? hlow
  have hbyte : (UInt8.ofNat (16 * upper + lower)).toNat = 16 * upper + lower := by
    rw [UInt8.toNat_ofNat', Nat.mod_eq_of_lt (by omega)]
  have hquotient : (16 * upper + lower) / 16 = upper := by omega
  have hrest : (16 * upper + lower) % 16 = lower := by omega
  rw [encodeByte, hbyte, hquotient, hrest, hhigh, hlow]

/-- Digits in pairs are read, and written back in lower case. -/
theorem decodePairs_of_digits (position : Nat) {digits : Bytes} (heven : digits.length % 2 = 0)
    (hdigits : ∀ byte ∈ digits, IsDigit byte) :
    ∃ bytes, decodePairs position digits = .ok bytes ∧ 2 * bytes.length = digits.length ∧
      bytes.flatMap encodeByte = digits.map lowered := by
  induction digits using List.twoStepInduction generalizing position with
  | nil => exact ⟨[], rfl, rfl, rfl⟩
  | singleton => simp at heven
  | cons_cons high low rest ih =>
      simp only [List.forall_mem_cons] at hdigits
      obtain ⟨upper, hupper⟩ := (isDigit_iff high).1 hdigits.1
      obtain ⟨lower, hlower⟩ := (isDigit_iff low).1 hdigits.2.1
      rw [List.length_cons, List.length_cons] at heven
      obtain ⟨bytes, hrest, hlength, hlowered⟩ := ih (position + 2) (by omega) hdigits.2.2
      refine ⟨UInt8.ofNat (16 * upper + lower) :: bytes, ?_, ?_, ?_⟩
      · simp only [decodePairs, hupper, hlower, hrest]
      · simp only [List.length_cons]
        omega
      · rw [List.flatMap_cons, encodeByte_of_value? hupper hlower, hlowered]
        rfl

/-- The first byte that is no digit, and its position, are what reading stops at. -/
theorem decodePairs_of_first_bad (position : Nat) {before after : Bytes} {byte : UInt8}
    (heven : (before ++ byte :: after).length % 2 = 0) (hbefore : ∀ byte ∈ before, IsDigit byte)
    (hbad : ¬ IsDigit byte) :
    decodePairs position (before ++ byte :: after) =
      .error (.badDigit byte (position + before.length)) := by
  have hnone := value?_eq_none hbad
  -- on the digits before, in the pairs that are read: the bad byte is either half of the last one
  induction before using List.twoStepInduction generalizing position with
  | nil =>
      cases after with
      | nil => simp at heven
      | cons low rest =>
          simp only [List.nil_append, decodePairs, hnone, List.length_nil, Nat.add_zero]
  | singleton high =>
      obtain ⟨upper, hupper⟩ := (isDigit_iff high).1 (hbefore high List.mem_cons_self)
      simp only [List.singleton_append, decodePairs, hupper, hnone, List.length_singleton]
  | cons_cons high low rest ih =>
      simp only [List.forall_mem_cons] at hbefore
      obtain ⟨upper, hupper⟩ := (isDigit_iff high).1 hbefore.1
      obtain ⟨lower, hlower⟩ := (isDigit_iff low).1 hbefore.2.1
      rw [List.cons_append, List.cons_append, List.length_cons, List.length_cons] at heven
      have hrest := ih (position + 2) (by omega) hbefore.2.2
      simp only [List.cons_append, decodePairs, hupper, hlower, hrest, List.length_cons,
        Except.error.injEq, Fault.badDigit.injEq, true_and]
      omega

theorem digits_or_first_bad (bytes : Bytes) :
    (∀ byte ∈ bytes, IsDigit byte) ∨ ∃ before byte after, bytes = before ++ byte :: after ∧
      (∀ byte ∈ before, IsDigit byte) ∧ ¬ IsDigit byte := by
  induction bytes with
  | nil => exact Or.inl nofun
  | cons first rest ih =>
      by_cases hfirst : IsDigit first
      · rcases ih with hall | ⟨before, byte, after, rfl, hbefore, hbad⟩
        · exact Or.inl (List.forall_mem_cons.2 ⟨hfirst, hall⟩)
        · exact Or.inr ⟨first :: before, byte, after, rfl,
            List.forall_mem_cons.2 ⟨hfirst, hbefore⟩, hbad⟩
      · exact Or.inr ⟨[], first, rest, rfl, nofun, hfirst⟩

end Hex

@[simp]
theorem Digest.parse_toText (digest : Digest) : parse digest.toText = .ok digest := by
  rw [parse, toText, Hex.decodeFixed_encode]

end Purse
