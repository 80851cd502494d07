import Purse.Bytes
import Purse.Json.Basic

/-!
# Values with a JSON form

A record is read by the names of its fields. Members with other names are skipped, and a name that
occurs twice is refused. A list of the fields' values in their order is read as the record too.
-/

namespace Purse.Json

/-- Types whose values are written and read as JSON. -/
class Form (α : Type) where
  toJson : α → Json
  ofJson? : Json → Option α

export Form (toJson ofJson?)

/-- The members of a record, their keys as text. -/
def membersText? : List (Quoted × Json) → Option (List (String × Json))
  | [] => some []
  | (key, value) :: rest =>
      match key.text?, membersText? rest with
      | some key, some rest => some ((key, value) :: rest)
      | _, _ => none

/-- The value of the one member with the given name. The outer answer is missing if the name occurs
twice. -/
def member? (name : String) (members : List (String × Json)) : Option (Option Json) :=
  match members.filter fun entry => entry.1 = name with
  | [] => some none
  | [(_, value)] => some (some value)
  | _ => none

/-- The values of a record's fields in the order of `names`. -/
def memberValues? (names : List String) (members : List (Quoted × Json)) :
    Option (List (Option Json)) :=
  match membersText? members with
  | none => none
  | some members => names.mapM fun name => member? name members

/-- The fields of a record, given by member or as a list of all of them. -/
def fields? (names : List String) : Json → Option (List (Option Json))
  | .record members => memberValues? names members
  | .list items => if items.length = names.length then some (items.map some) else none
  | _ => none

/-- The fields of a record whose list form may stop early. -/
def leadingFields? (names : List String) : Json → Option (List (Option Json))
  | .record members => memberValues? names members
  | .list items =>
      if items.length ≤ names.length then
        some (items.map some ++ List.replicate (names.length - items.length) none)
      else none
  | _ => none

section Fields

variable {α : Type} [Form α]

/-- A field that has to be there. -/
def required? : Option Json → Option α
  | none => none
  | some value => ofJson? value

/-- A field that stands for `fallback` when it is missing. -/
def withDefault? (fallback : α) : Option Json → Option α
  | none => some fallback
  | some value => ofJson? value

end Fields

/-- The name of a plain alternative, alone or as the only key of a record that holds null. -/
def alternative? : Json → Option String
  | .text literal => literal.text?
  | .record [(key, .null)] => key.text?
  | _ => none

/-- A natural number below `bound`. -/
def natural? (bound : Nat) : Json → Option Nat
  | .natural value => if value < bound then some value else none
  | _ => none

instance : Form UInt64 where
  toJson value := .natural value.toNat
  ofJson? json := (natural? UInt64.size json).map UInt64.ofNat

instance : Form UInt32 where
  toJson value := .natural value.toNat
  ofJson? json := (natural? UInt32.size json).map UInt32.ofNat

instance : Form UInt8 where
  toJson value := .natural value.toNat
  ofJson? json := (natural? UInt8.size json).map UInt8.ofNat

instance : Form Bool where
  toJson value := .bool value
  ofJson?
    | .bool value => some value
    | _ => none

instance : Form String where
  toJson := ofText
  ofJson?
    | .text literal => literal.text?
    | _ => none

instance {α : Type} [Form α] : Form (List α) where
  toJson values := .list (values.map toJson)
  ofJson?
    | .list items => items.mapM ofJson?
    | _ => none

instance {α : Type} [Form α] : Form (Option α) where
  toJson
    | none => .null
    | some value => toJson value
  ofJson?
    | .null => some none
    | json => (ofJson? json).map some

instance {size : Nat} : Form (FixedBytes size) where
  toJson value := toJson value.toBytes
  ofJson? json :=
    match ofJson? json with
    | none => none
    | some bytes => FixedBytes.ofBytes? size bytes

end Purse.Json
