import Purse.Json.Basic

/-!
# Reading JSON text

Every function takes the characters that are left and answers with what it read and the characters
left after it. Values nest, so their reader counts down a number that the length of the text
bounds.
-/

namespace Purse.Json

def isBlank (c : Char) : Bool :=
  c = ' ' || c = '\t' || c = '\n' || c = '\r'

def skipBlanks (input : List Char) : List Char :=
  input.dropWhile isBlank

def isDigit (c : Char) : Bool :=
  '0' ≤ c && c ≤ '9'

/-- Reads up to the closing quote. Escapes are checked for their form only. -/
def readLiteral : List Char → Option (List Char × List Char)
  | [] => none
  | '"' :: rest => some ([], rest)
  | '\\' :: 'u' :: a :: b :: c :: d :: rest =>
      if (unit? a b c d).isSome then
        (readLiteral rest).map fun (body, rest) =>
          ('\\' :: 'u' :: a :: b :: c :: d :: body, rest)
      else none
  | '\\' :: c :: rest =>
      if (shortEscape? c).isSome then
        (readLiteral rest).map fun (body, rest) => ('\\' :: c :: body, rest)
      else none
  | c :: rest =>
      if c = '\\' ∨ c.toNat < 32 then none
      else (readLiteral rest).map fun (body, rest) => (c :: body, rest)

/-- Reads one digit or more. -/
def readDigits (input : List Char) : Option (List Char × List Char) :=
  match input.takeWhile isDigit with
  | [] => none
  | digits => some (digits, input.dropWhile isDigit)

/-- Reads the digits before the point, among which a leading zero stands alone. -/
def readWhole : List Char → Option (List Char × List Char)
  | '0' :: rest => some (['0'], rest)
  | input => readDigits input

def readFraction : List Char → Option (List Char × List Char)
  | '.' :: rest => (readDigits rest).map fun (digits, rest) => ('.' :: digits, rest)
  | input => some ([], input)

def readExponent : List Char → Option (List Char × List Char)
  | mark :: rest =>
      if mark = 'e' ∨ mark = 'E' then
        match rest with
        | sign :: digits =>
            if sign = '+' ∨ sign = '-' then
              (readDigits digits).map fun (digits, rest) => (mark :: sign :: digits, rest)
            else (readDigits rest).map fun (digits, rest) => (mark :: digits, rest)
        | [] => none
      else some ([], mark :: rest)
  | [] => some ([], [])

def valueOfDigits (digits : List Char) : Nat :=
  digits.foldl (fun value c => 10 * value + (c.toNat - 48)) 0

/-- Reads a number without its sign. -/
def readUnsigned (input : List Char) : Option (Json × List Char) := do
  let (whole, rest) ← readWhole input
  let (fraction, rest) ← readFraction rest
  let (exponent, rest) ← readExponent rest
  if fraction.isEmpty && exponent.isEmpty then some (.natural (valueOfDigits whole), rest)
  else some (.number (whole ++ fraction ++ exponent), rest)

def readNumber : List Char → Option (Json × List Char)
  | '-' :: rest => do
      let (whole, rest) ← readWhole rest
      let (fraction, rest) ← readFraction rest
      let (exponent, rest) ← readExponent rest
      some (.number ('-' :: whole ++ fraction ++ exponent), rest)
  | input => readUnsigned input

mutual

def readValue : (bound : Nat) → List Char → Option (Json × List Char)
  | 0, _ => none
  | bound + 1, input =>
      match skipBlanks input with
      | 'n' :: 'u' :: 'l' :: 'l' :: rest => some (.null, rest)
      | 't' :: 'r' :: 'u' :: 'e' :: rest => some (.bool true, rest)
      | 'f' :: 'a' :: 'l' :: 's' :: 'e' :: rest => some (.bool false, rest)
      | '"' :: rest => (readLiteral rest).map fun (body, rest) => (.text ⟨body⟩, rest)
      | '[' :: rest =>
          match skipBlanks rest with
          | ']' :: rest => some (.list [], rest)
          | rest => (readItems bound rest).map fun (items, rest) => (.list items, rest)
      | '{' :: rest =>
          match skipBlanks rest with
          | '}' :: rest => some (.record [], rest)
          | rest => (readMembers bound rest).map fun (members, rest) => (.record members, rest)
      | rest => readNumber rest

/-- Reads one item or more, and the closing bracket. -/
def readItems : (bound : Nat) → List Char → Option (List Json × List Char)
  | 0, _ => none
  | bound + 1, input =>
      match readValue bound input with
      | none => none
      | some (item, rest) =>
          match skipBlanks rest with
          | ']' :: rest => some ([item], rest)
          | ',' :: rest => (readItems bound rest).map fun (items, rest) => (item :: items, rest)
          | _ => none

/-- Reads one member or more, and the closing brace. -/
def readMembers : (bound : Nat) → List Char → Option (List (Quoted × Json) × List Char)
  | 0, _ => none
  | bound + 1, input =>
      match skipBlanks input with
      | '"' :: rest =>
          match readLiteral rest with
          | none => none
          | some (key, rest) =>
              match skipBlanks rest with
              | ':' :: rest =>
                  match readValue bound rest with
                  | none => none
                  | some (value, rest) =>
                      match skipBlanks rest with
                      | '}' :: rest => some ([(⟨key⟩, value)], rest)
                      | ',' :: rest =>
                          (readMembers bound rest).map fun (members, rest) =>
                            ((⟨key⟩, value) :: members, rest)
                      | _ => none
              | _ => none
      | _ => none

end

/-- Reads a text that holds one value, blanks around it, and nothing else. -/
def parse? (text : String) : Option Json :=
  let input := text.toList
  match readValue (2 * input.length + 2) input with
  | some (value, rest) => if (skipBlanks rest).isEmpty then some value else none
  | none => none

/-- Reads the contents of a file, which have to be UTF-8. -/
def parseContents? (contents : ByteArray) : Option Json :=
  (String.fromUTF8? contents).bind parse?

end Purse.Json
