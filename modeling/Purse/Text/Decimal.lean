/-!
# Decimal text

Natural numbers are written without leading zeros. Reading accepts any number of leading zeros and
one plus sign, and stops at the first character that is no digit or carries the value past the
bound, whichever comes first.
-/

namespace Purse.Decimal

inductive Fault where
  | empty
  | badDigit
  | tooLarge
  deriving DecidableEq

def Fault.message : Fault → String
  | .empty => "cannot parse integer from empty string"
  | .badDigit => "invalid digit found in string"
  | .tooLarge => "number too large to fit in target type"

def print (value : Nat) : String :=
  String.ofList (Nat.toDigits 10 value)

/-- The value of an ASCII digit. -/
def digitValue? (c : Char) : Option Nat :=
  if '0' ≤ c ∧ c ≤ '9' then some (c.toNat - 48) else none

/-- Continues a number read so far as `value` with the given digits. -/
def readDigits (bound value : Nat) : List Char → Except Fault Nat
  | [] => .ok value
  | c :: rest =>
      match digitValue? c with
      | none => .error .badDigit
      | some digit =>
          if 10 * value + digit ≤ bound then readDigits bound (10 * value + digit) rest
          else .error .tooLarge

/-- Reads a number of at most `bound`. -/
def parse (bound : Nat) (text : String) : Except Fault Nat :=
  match text.toList with
  | [] => .error .empty
  | '+' :: [] => .error .badDigit
  | '+' :: digits => readDigits bound 0 digits
  | digits => readDigits bound 0 digits

/-- Reads a 64-bit word. -/
def parseUInt64 (text : String) : Except Fault UInt64 :=
  match parse (UInt64.size - 1) text with
  | .error fault => .error fault
  | .ok value => .ok (UInt64.ofNat value)

end Purse.Decimal
