/-!
# JSON values

A value keeps its string literals as they are written, escapes in place, because a reader may skip
over a literal that stands for no text. Of the numbers, the ones written as digits alone are told
apart from the rest, which no format of this library reads.
-/

namespace Purse

namespace Json

/-- What stands between the quotes of a string literal. -/
structure Quoted where
  body : List Char
  deriving DecidableEq

end Json

inductive Json where
  | null
  | bool (value : Bool)
  | natural (value : Nat)
  | number (literal : List Char)
  | text (literal : Json.Quoted)
  | list (items : List Json)
  | record (members : List (Json.Quoted × Json))

namespace Json

/-- What a message says in place of the reason why a JSON text was refused. -/
def faultText : String := "<json>"

/-- The value of a hexadecimal digit of either case. -/
def hexValue? (c : Char) : Option Nat :=
  if '0' ≤ c ∧ c ≤ '9' then some (c.toNat - 48)
  else if 'a' ≤ c ∧ c ≤ 'f' then some (c.toNat - 87)
  else if 'A' ≤ c ∧ c ≤ 'F' then some (c.toNat - 55)
  else none

/-- The number that four hexadecimal digits spell. -/
def unit? (a b c d : Char) : Option Nat :=
  match hexValue? a, hexValue? b, hexValue? c, hexValue? d with
  | some a, some b, some c, some d => some (4096 * a + 256 * b + 16 * c + d)
  | _, _, _, _ => none

/-- What the letter after a backslash stands for, the letter `u` apart. -/
def shortEscape? (c : Char) : Option Char :=
  match c with
  | '"' => some '"'
  | '\\' => some '\\'
  | '/' => some '/'
  | 'b' => some '\x08'
  | 'f' => some '\x0c'
  | 'n' => some '\n'
  | 'r' => some '\r'
  | 't' => some '\t'
  | _ => none

def hexDigit (value : Nat) : Char :=
  if value < 10 then Char.ofNat (48 + value) else Char.ofNat (87 + value)

/-- How a literal spells one character: quotes, backslashes and control characters are escaped. -/
def escape (c : Char) : List Char :=
  if c = '"' then ['\\', '"']
  else if c = '\\' then ['\\', '\\']
  else if c = '\x08' then ['\\', 'b']
  else if c = '\x0c' then ['\\', 'f']
  else if c = '\n' then ['\\', 'n']
  else if c = '\r' then ['\\', 'r']
  else if c = '\t' then ['\\', 't']
  else if c.toNat < 32 then
    ['\\', 'u', '0', '0', hexDigit (c.toNat / 16), hexDigit (c.toNat % 16)]
  else [c]

namespace Quoted

/-- The text that a literal's characters stand for. A code unit above the basic plane takes two
escapes, and neither half may stand alone. -/
def unescape? : List Char → Option (List Char)
  | [] => some []
  | '\\' :: 'u' :: a :: b :: c :: d :: rest =>
      match unit? a b c d with
      | none => none
      | some high =>
          if high < 0xD800 ∨ 0xE000 ≤ high then
            (unescape? rest).map (Char.ofNat high :: ·)
          else if 0xDC00 ≤ high then none
          else
            match rest with
            | '\\' :: 'u' :: e :: f :: g :: h :: rest =>
                match unit? e f g h with
                | none => none
                | some low =>
                    if 0xDC00 ≤ low ∧ low < 0xE000 then
                      (unescape? rest).map
                        (Char.ofNat (0x10000 + 1024 * (high - 0xD800) + (low - 0xDC00)) :: ·)
                    else none
            | _ => none
  | '\\' :: c :: rest =>
      match shortEscape? c with
      | none => none
      | some meant => (unescape? rest).map (meant :: ·)
  | c :: rest => if c = '\\' then none else (unescape? rest).map (c :: ·)

def text? (literal : Quoted) : Option String :=
  (unescape? literal.body).map String.ofList

def ofText (text : String) : Quoted :=
  ⟨text.toList.flatMap escape⟩

end Quoted

def ofText (text : String) : Json :=
  .text (.ofText text)

/-- A record whose keys are given as text. -/
def ofFields (fields : List (String × Json)) : Json :=
  .record (fields.map fun (key, value) => (.ofText key, value))

/-- Whether a text comes no later than another in the order of a dictionary. -/
def precedes : List Char → List Char → Bool
  | [], _ => true
  | _ :: _, [] => false
  | a :: as, b :: bs => a < b || (a = b && precedes as bs)

mutual

/-- The value with the members of every record in ascending order of their keys. -/
def sortKeys : Json → Json
  | .list items => .list (sortItems items)
  | .record members =>
      .record ((sortMembers members).mergeSort fun a b => precedes a.1.body b.1.body)
  | value => value

def sortItems : List Json → List Json
  | [] => []
  | item :: rest => sortKeys item :: sortItems rest

def sortMembers : List (Quoted × Json) → List (Quoted × Json)
  | [] => []
  | (key, value) :: rest => (key, sortKeys value) :: sortMembers rest

end

end Json

end Purse
