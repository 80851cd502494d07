import Purse.Account.Id
import Purse.Json.Parser

/-!
# Registries

A finite map from account numbers, kept in ascending order of the numbers, so that two registries
with the same entries are equal.
-/

namespace Purse

structure Registry (α : Type) where
  entries : List (AccountId × α)
  ascending : entries.Pairwise fun a b => a.1.number < b.1.number

namespace Registry

variable {α : Type}

instance [DecidableEq α] : DecidableEq (Registry α) := fun a b =>
  decidable_of_iff (a.entries = b.entries) (by cases a; cases b; simp)

def empty : Registry α := ⟨[], .nil⟩

/-- Puts an entry in its place among ascending entries. -/
def insertEntry (account : AccountId) (value : α) :
    List (AccountId × α) → List (AccountId × α)
  | [] => [(account, value)]
  | (other, old) :: rest =>
      if account.number < other.number then (account, value) :: (other, old) :: rest
      else if account = other then (account, value) :: rest
      else (other, old) :: insertEntry account value rest

theorem mem_insertEntry {account : AccountId} {value : α} {entries : List (AccountId × α)}
    {entry : AccountId × α} (hentry : entry ∈ insertEntry account value entries) :
    entry = (account, value) ∨ entry ∈ entries := by
  induction entries with
  | nil => simpa [insertEntry] using hentry
  | cons head rest ih =>
      obtain ⟨other, old⟩ := head
      simp only [insertEntry] at hentry
      split at hentry
      · simpa using hentry
      · split at hentry
        · rcases List.mem_cons.1 hentry with heq | hrest
          · exact .inl heq
          · exact .inr (List.mem_cons_of_mem _ hrest)
        · rcases List.mem_cons.1 hentry with heq | hrest
          · exact .inr (by simp [heq])
          · rcases ih hrest with heq | hmem
            · exact .inl heq
            · exact .inr (List.mem_cons_of_mem _ hmem)

theorem insertEntry_ascending {account : AccountId} {value : α} {entries : List (AccountId × α)}
    (hascending : entries.Pairwise fun a b => a.1.number < b.1.number) :
    (insertEntry account value entries).Pairwise fun a b => a.1.number < b.1.number := by
  induction entries with
  | nil => simp [insertEntry]
  | cons head rest ih =>
      obtain ⟨other, old⟩ := head
      obtain ⟨hhead, hrest⟩ := List.pairwise_cons.1 hascending
      simp only [insertEntry]
      split
      · rename_i hlt
        refine List.pairwise_cons.2 ⟨?_, hascending⟩
        intro entry hentry
        rcases List.mem_cons.1 hentry with rfl | hmem
        · exact hlt
        · exact UInt32.lt_trans hlt (hhead entry hmem)
      · split
        · rename_i heq
          subst heq
          exact List.pairwise_cons.2 ⟨hhead, hrest⟩
        · rename_i hle hne
          refine List.pairwise_cons.2 ⟨?_, ih hrest⟩
          intro entry hentry
          rcases mem_insertEntry hentry with rfl | hmem
          · have hnumber : other.number ≠ account.number := by
              intro hnumber
              exact hne (by cases other; cases account; simp_all)
            exact UInt32.lt_of_le_of_ne (UInt32.not_lt.1 hle) hnumber
          · exact hhead entry hmem

def insert (registry : Registry α) (account : AccountId) (value : α) : Registry α :=
  ⟨insertEntry account value registry.entries, insertEntry_ascending registry.ascending⟩

def get? (registry : Registry α) (account : AccountId) : Option α :=
  registry.entries.lookup account

/-- The account numbers, ascending. -/
def accounts (registry : Registry α) : List AccountId :=
  registry.entries.map Prod.fst

def size (registry : Registry α) : Nat :=
  registry.entries.length

/-- The account that a member's key spells in digits, without escapes or leading zeros. -/
def accountOfKey? (key : Json.Quoted) : Option AccountId :=
  match Json.readUnsigned key.body with
  | some (json, []) => Json.ofJson? json
  | _ => none

/-- Reads the members of a record in turn. A key that comes again replaces the earlier one. -/
def insertMembers? [Json.Form α] (registry : Registry α) :
    List (Json.Quoted × Json) → Option (Registry α)
  | [] => some registry
  | (key, json) :: rest =>
      match accountOfKey? key, Json.ofJson? json with
      | some account, some value => insertMembers? (registry.insert account value) rest
      | _, _ => none

instance [Json.Form α] : Json.Form (Registry α) where
  toJson registry :=
    .ofFields (registry.entries.map fun (account, value) => (account.toText, Json.toJson value))
  ofJson?
    | .record members => insertMembers? empty members
    | _ => none

end Registry

end Purse
