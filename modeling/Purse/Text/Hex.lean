import Purse.Bytes
import Purse.Text.Decimal

/-!
# Hexadecimal text

Bytes are written as two lowercase digits each and read in either case. Reading looks at the UTF-8
bytes of the text, so a fault names a byte position and the byte found there.
-/

namespace Purse.Hex

/-- Why a text is not the hexadecimal form of the bytes asked for. -/
inductive Fault where
  | oddLength
  | wrongLength
  | badDigit (byte : UInt8) (position : Nat)
  deriving DecidableEq

/-- The lowercase digit of a value below sixteen. -/
def digit (value : Nat) : Char :=
  if value < 10 then Char.ofNat (48 + value) else Char.ofNat (87 + value)

/-- The value of a digit of either case, given as the byte that spells it. -/
def value? (byte : UInt8) : Option Nat :=
  let code := byte.toNat
  if 48 ≤ code ∧ code ≤ 57 then some (code - 48)
  else if 97 ≤ code ∧ code ≤ 102 then some (code - 87)
  else if 65 ≤ code ∧ code ≤ 70 then some (code - 55)
  else none

def encodeByte (byte : UInt8) : List Char :=
  [digit (byte.toNat / 16), digit (byte.toNat % 16)]

def encode (bytes : Bytes) : String :=
  String.ofList (bytes.flatMap encodeByte)

/-- Reads an even number of digits, the first of them at byte `position` of the text. -/
def decodePairs (position : Nat) : Bytes → Except Fault Bytes
  | high :: low :: rest =>
      match value? high, value? low with
      | none, _ => .error (.badDigit high position)
      | some _, none => .error (.badDigit low (position + 1))
      | some upper, some lower =>
          match decodePairs (position + 2) rest with
          | .error fault => .error fault
          | .ok bytes => .ok (UInt8.ofNat (16 * upper + lower) :: bytes)
  | _ => .ok []

/-- Reads a text of any even length. -/
def decode (text : String) : Except Fault Bytes :=
  let digits := Bytes.ofText text
  if digits.length % 2 ≠ 0 then .error .oddLength else decodePairs 0 digits

/-- Reads exactly `size` bytes. The length is checked before any digit. -/
def decodeFixed (size : Nat) (text : String) : Except Fault (FixedBytes size) :=
  let digits := Bytes.ofText text
  if digits.length % 2 ≠ 0 then .error .oddLength
  else if digits.length ≠ 2 * size then .error .wrongLength
  else
    match decodePairs 0 digits with
    | .error fault => .error fault
    | .ok bytes =>
        match FixedBytes.ofBytes? size bytes with
        | none => .error .wrongLength
        | some fixed => .ok fixed

/-- The lowercase hexadecimal digits of a number, without leading zeros. -/
def ofNat (value : Nat) : String :=
  String.ofList (Nat.toDigits 16 value)

/-- A byte as the Latin-1 character it stands for, between single quotes. Control characters, the
soft hyphen, the single quote and the backslash are escaped. -/
def quoteByte (byte : UInt8) : String :=
  let code := byte.toNat
  let body :=
    if code = 0 then "\\0"
    else if code = 9 then "\\t"
    else if code = 10 then "\\n"
    else if code = 13 then "\\r"
    else if code = 39 then "\\'"
    else if code = 92 then "\\\\"
    else if code < 32 ∨ (127 ≤ code ∧ code ≤ 159) ∨ code = 173 then
      "\\u\x7b" ++ ofNat code ++ "\x7d"
    else String.singleton (Char.ofNat code)
  "'" ++ body ++ "'"

def Fault.message : Fault → String
  | .oddLength => "Odd number of digits"
  | .wrongLength => "Invalid string length"
  | .badDigit byte position =>
      "Invalid character " ++ quoteByte byte ++ " at position " ++ Decimal.print position

end Purse.Hex
