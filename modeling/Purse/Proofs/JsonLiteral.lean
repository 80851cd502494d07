import Mathlib
import Purse.Json.Form
import Purse.Json.Parser

/-!
# Literals that read back

A text is spelled character by character, and every spelling that a printer chooses stands for its
character alone.  A number is spelled in digits without a leading zero, and is read up to the first
character that cannot go on with it.
-/

namespace Purse.Json

/-! ## Text -/

theorem hexValue?_hexDigit {value : Nat} (hvalue : value < 16) :
    hexValue? (hexDigit value) = some value := by
  revert value
  decide

/-- How a printer may spell a character. -/
inductive Spelling (c : Char) : List Char → Prop where
  | short {letter : Char} (hletter : letter ≠ 'u') (hmeant : shortEscape? letter = some c) :
      Spelling c ['\\', letter]
  | unit {high low : Char} (hunit : unit? '0' '0' high low = some c.toNat)
      (hcontrol : c.toNat < 32) : Spelling c ['\\', 'u', '0', '0', high, low]
  | plain (hquote : c ≠ '"') (hescape : c ≠ '\\') (hcontrol : ¬ c.toNat < 32) : Spelling c [c]

theorem spelling_escape (c : Char) : Spelling c (escape c) := by
  rw [escape]
  split_ifs with hquote hescape hback hfeed hline hreturn htab hcontrol
  · subst hquote
    exact .short (by decide) rfl
  · subst hescape
    exact .short (by decide) rfl
  · subst hback
    exact .short (by decide) rfl
  · subst hfeed
    exact .short (by decide) rfl
  · subst hline
    exact .short (by decide) rfl
  · subst hreturn
    exact .short (by decide) rfl
  · subst htab
    exact .short (by decide) rfl
  · refine .unit ?_ hcontrol
    have hzero : hexValue? '0' = some 0 := rfl
    have hhigh : c.toNat / 16 < 16 := by omega
    have hlow : c.toNat % 16 < 16 := Nat.mod_lt _ (by decide)
    have hsum : 4096 * 0 + 256 * 0 + 16 * (c.toNat / 16) + c.toNat % 16 = c.toNat := by omega
    rw [unit?, hzero, hexValue?_hexDigit hhigh, hexValue?_hexDigit hlow]
    exact congrArg some hsum
  · exact .plain hquote hescape hcontrol

namespace Spelling

variable {c : Char} {chars : List Char}

theorem readLiteral_append (hspelling : Spelling c chars) (rest : List Char) :
    readLiteral (chars ++ rest) =
      (readLiteral rest).map fun (body, rest) => (chars ++ body, rest) := by
  cases hspelling with
  | short hletter hmeant =>
      simp [readLiteral, hletter, hmeant]
  | unit hunit hcontrol =>
      simp [readLiteral, hunit]
  | plain hquote hescape hcontrol =>
      simp [readLiteral, hescape, hcontrol]

theorem unescape?_append (hspelling : Spelling c chars) (rest : List Char) :
    Quoted.unescape? (chars ++ rest) = (Quoted.unescape? rest).map (c :: ·) := by
  cases hspelling with
  | short hletter hmeant =>
      simp [Quoted.unescape?, hletter, hmeant]
  | unit hunit hcontrol =>
      have hbelow : c.toNat < 55296 := lt_trans hcontrol (by decide)
      simp [Quoted.unescape?, hunit, hbelow, Char.ofNat_toNat]
  | plain hquote hescape hcontrol =>
      simp [Quoted.unescape?, hescape]

end Spelling

namespace Quoted

/-- A quote after the literal ends it, and none within it does. -/
def Closed (literal : Quoted) : Prop :=
  ∀ rest, readLiteral (literal.body ++ '"' :: rest) = some (literal.body, rest)

theorem closed_ofText (text : String) : (ofText text).Closed := by
  intro rest
  rw [ofText]
  induction text.toList with
  | nil => rfl
  | cons c chars ih =>
      rw [List.flatMap_cons, List.append_assoc, (spelling_escape c).readLiteral_append]
      rw [show readLiteral (chars.flatMap escape ++ '"' :: rest) = _ from ih]
      rfl

@[simp]
theorem text?_ofText (text : String) : (ofText text).text? = some text := by
  have hchars (chars : List Char) : unescape? (chars.flatMap escape) = some chars := by
    induction chars with
    | nil => rfl
    | cons c chars ih =>
        rw [List.flatMap_cons, (spelling_escape c).unescape?_append, ih, Option.map_some]
  rw [text?, ofText, hchars, Option.map_some, String.ofList_toList]

end Quoted

/-! ## Numbers -/

/-- The character does not go on with a number that stands before it. -/
def EndsNumber (c : Char) : Prop :=
  isDigit c = false ∧ c ≠ '.' ∧ c ≠ 'e' ∧ c ≠ 'E'

instance : DecidablePred EndsNumber := fun _ => inferInstanceAs (Decidable (_ ∧ _))

/-- A number may stand before the characters. -/
def Stops (rest : List Char) : Prop :=
  ∀ c ∈ rest.head?, EndsNumber c

theorem stops_nil : Stops [] := nofun

theorem isDigit_of_mem_toDigits {value : Nat} {c : Char} (hc : c ∈ Nat.toDigits 10 value) :
    isDigit c = true := by
  have hdigit := Nat.isDigit_of_mem_toDigits (by decide) (by decide) hc
  simpa [isDigit, Char.isDigit, Char.le_def] using hdigit

theorem escape_of_isDigit {c : Char} (hdigit : isDigit c = true) : escape c = [c] := by
  have hzero : '0'.toNat ≤ c.toNat := (Bool.and_eq_true_iff.1 hdigit).1 |> of_decide_eq_true
  have hcontrol : ¬ c.toNat < 32 := fun hlt => absurd (hzero.trans_lt hlt) (by decide)
  have hne (d : Char) (hother : isDigit d = false) : c ≠ d := by
    rintro rfl
    exact Bool.false_ne_true (hother.symm.trans hdigit)
  simp (disch := decide) only [escape, hne, hcontrol, if_false]

/-- Digits are spelled as they are. -/
theorem flatMap_escape_toDigits (value : Nat) :
    (Nat.toDigits 10 value).flatMap escape = Nat.toDigits 10 value := by
  rw [List.flatMap_congr fun c hc => escape_of_isDigit (isDigit_of_mem_toDigits hc)]
  exact List.flatMap_singleton' _

theorem valueOfDigits_toDigits (value : Nat) : valueOfDigits (Nat.toDigits 10 value) = value :=
  Nat.ofDigitChars_toDigits (by decide) (by decide)

/-- Only the number zero begins with the digit zero. -/
theorem head?_toDigits_ne_zero {value : Nat} (hvalue : value ≠ 0) :
    (Nat.toDigits 10 value).head? ≠ some '0' := by
  induction value using Nat.base_induction 10 (by decide) with
  | single digit hdigit =>
      rw [Nat.toDigits_of_lt_base hdigit]
      simpa using hvalue
  | digit front digit hdigit hfront ih =>
      rw [← Nat.toDigits_append_toDigits (by decide) hfront hdigit, List.head?_append_of_ne_nil]
      · exact ih hfront.ne'
      · exact Nat.toDigits_ne_nil

section Stops

variable {rest : List Char} (hstops : Stops rest)
include hstops

theorem readDigits_append {digits : List Char} (hdigits : ∀ c ∈ digits, isDigit c = true)
    (hne : digits ≠ []) : readDigits (digits ++ rest) = some (digits, rest) := by
  have htake : rest.takeWhile isDigit = [] := by
    cases rest with
    | nil => rfl
    | cons c rest => rw [List.takeWhile_cons, (hstops c rfl).1]; rfl
  have hdrop : rest.dropWhile isDigit = rest := by
    cases rest with
    | nil => rfl
    | cons c rest => rw [List.dropWhile_cons, (hstops c rfl).1]; rfl
  rw [readDigits, List.takeWhile_append_of_pos hdigits, List.dropWhile_append_of_pos hdigits,
    htake, hdrop, List.append_nil]
  cases digits with
  | nil => exact absurd rfl hne
  | cons c digits => rfl

theorem readWhole_toDigits (value : Nat) :
    readWhole (Nat.toDigits 10 value ++ rest) = some (Nat.toDigits 10 value, rest) := by
  by_cases hzero : value = 0
  · subst hzero
    rfl
  · have hread := readDigits_append hstops (fun c hc => isDigit_of_mem_toDigits hc)
      (Nat.toDigits_ne_nil : Nat.toDigits 10 value ≠ [])
    have hfirst := head?_toDigits_ne_zero hzero
    cases hdigits : Nat.toDigits 10 value with
    | nil => exact absurd hdigits Nat.toDigits_ne_nil
    | cons c digits =>
        rw [hdigits] at hread hfirst
        have hc : c ≠ '0' := fun heq => hfirst (congrArg some heq)
        rw [List.cons_append] at hread ⊢
        simpa [readWhole, hc] using hread

theorem readFraction_of_stops : readFraction rest = some ([], rest) := by
  cases rest with
  | nil => rfl
  | cons c rest => simp [readFraction, (hstops c rfl).2.1]

theorem readExponent_of_stops : readExponent rest = some ([], rest) := by
  cases rest with
  | nil => rfl
  | cons c rest => simp [readExponent, (hstops c rfl).2.2]

theorem readUnsigned_toDigits (value : Nat) :
    readUnsigned (Nat.toDigits 10 value ++ rest) = some (.natural value, rest) := by
  simp [readUnsigned, readWhole_toDigits hstops, readFraction_of_stops hstops,
    readExponent_of_stops hstops, valueOfDigits_toDigits]

end Stops

end Purse.Json
