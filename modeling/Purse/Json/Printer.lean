import Purse.Json.Basic

/-!
# Writing JSON text

The compact form has no blanks. The pretty form puts every item and every member on a line of its
own, two blanks deeper than what holds it.
-/

namespace Purse.Json

def quote (literal : Quoted) : List Char :=
  '"' :: literal.body ++ ['"']

mutual

def compactChars : Json → List Char
  | .null => ['n', 'u', 'l', 'l']
  | .bool true => ['t', 'r', 'u', 'e']
  | .bool false => ['f', 'a', 'l', 's', 'e']
  | .natural value => Nat.toDigits 10 value
  | .number literal => literal
  | .text literal => quote literal
  | .list [] => ['[', ']']
  | .list (item :: items) => '[' :: compactChars item ++ compactItems items
  | .record [] => ['{', '}']
  | .record ((key, value) :: members) =>
      '{' :: quote key ++ ':' :: compactChars value ++ compactMembers members

def compactItems : List Json → List Char
  | [] => [']']
  | item :: items => ',' :: compactChars item ++ compactItems items

def compactMembers : List (Quoted × Json) → List Char
  | [] => ['}']
  | (key, value) :: members =>
      ',' :: quote key ++ ':' :: compactChars value ++ compactMembers members

end

/-- The end of a line and the indentation of the next. -/
def newline (depth : Nat) : List Char :=
  '\n' :: List.replicate (2 * depth) ' '

mutual

def prettyChars (depth : Nat) : Json → List Char
  | .null => ['n', 'u', 'l', 'l']
  | .bool true => ['t', 'r', 'u', 'e']
  | .bool false => ['f', 'a', 'l', 's', 'e']
  | .natural value => Nat.toDigits 10 value
  | .number literal => literal
  | .text literal => quote literal
  | .list [] => ['[', ']']
  | .list (item :: items) =>
      '[' :: newline (depth + 1) ++ prettyChars (depth + 1) item ++ prettyItems depth items
  | .record [] => ['{', '}']
  | .record ((key, value) :: members) =>
      '{' :: newline (depth + 1) ++ quote key ++ ':' :: ' ' :: prettyChars (depth + 1) value ++
        prettyMembers depth members

def prettyItems (depth : Nat) : List Json → List Char
  | [] => newline depth ++ [']']
  | item :: items =>
      ',' :: newline (depth + 1) ++ prettyChars (depth + 1) item ++ prettyItems depth items

def prettyMembers (depth : Nat) : List (Quoted × Json) → List Char
  | [] => newline depth ++ ['}']
  | (key, value) :: members =>
      ',' :: newline (depth + 1) ++ quote key ++ ':' :: ' ' :: prettyChars (depth + 1) value ++
        prettyMembers depth members

end

def compact (value : Json) : String :=
  String.ofList (compactChars value)

def pretty (value : Json) : String :=
  String.ofList (prettyChars 0 value)

end Purse.Json
