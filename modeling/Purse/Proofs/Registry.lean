import Mathlib
import Purse.Account.Registry

/-!
# What an insertion changes

An insertion changes one value.  It adds an account only where there was none.
-/

namespace Purse.Registry

variable {α : Type}

theorem lookup_insertEntry_self (account : AccountId) (value : α)
    (entries : List (AccountId × α)) :
    (insertEntry account value entries).lookup account = some value := by
  induction entries with
  | nil => rw [insertEntry, List.lookup_cons_self]
  | cons head rest ih =>
      obtain ⟨other, old⟩ := head
      rw [insertEntry]
      by_cases hlt : account.number < other.number
      · rw [if_pos hlt, List.lookup_cons_self]
      · rw [if_neg hlt]
        by_cases hsame : account = other
        · rw [if_pos hsame, List.lookup_cons_self]
        · rw [if_neg hsame, List.lookup_cons, beq_false_of_ne hsame]
          exact ih

theorem lookup_insertEntry_of_ne {account other : AccountId} (hother : other ≠ account)
    (value : α) (entries : List (AccountId × α)) :
    (insertEntry account value entries).lookup other = entries.lookup other := by
  induction entries with
  | nil => rw [insertEntry, List.lookup_cons, beq_false_of_ne hother]
  | cons head rest ih =>
      obtain ⟨third, old⟩ := head
      rw [insertEntry]
      by_cases hlt : account.number < third.number
      · rw [if_pos hlt, List.lookup_cons, beq_false_of_ne hother]
      · rw [if_neg hlt]
        by_cases hsame : account = third
        · subst hsame
          rw [if_pos rfl, List.lookup_cons, List.lookup_cons, beq_false_of_ne hother]
        · rw [if_neg hsame, List.lookup_cons, List.lookup_cons, ih]

@[simp]
theorem get?_insert_self (registry : Registry α) (account : AccountId) (value : α) :
    (registry.insert account value).get? account = some value :=
  lookup_insertEntry_self account value registry.entries

theorem get?_insert_of_ne (registry : Registry α) {account other : AccountId}
    (hother : other ≠ account) (value : α) :
    (registry.insert account value).get? other = registry.get? other :=
  lookup_insertEntry_of_ne hother value registry.entries

theorem get?_eq_none_iff (registry : Registry α) (account : AccountId) :
    registry.get? account = none ↔ account ∉ registry.accounts := by
  rw [get?, accounts, List.lookup_eq_none_iff, List.mem_map]
  constructor
  · rintro hnone ⟨entry, hentry, rfl⟩
    simpa using hnone entry hentry
  · intro habsent entry hentry
    have hne : account ≠ entry.1 := fun heq => habsent ⟨entry, hentry, heq.symm⟩
    simpa using hne

theorem lookup_eq_some_iff_mem {entries : List (AccountId × α)}
    (hascending : entries.Pairwise fun a b => a.1.number < b.1.number) {account : AccountId}
    {value : α} : entries.lookup account = some value ↔ (account, value) ∈ entries := by
  induction entries with
  | nil => simp
  | cons head rest ih =>
      obtain ⟨other, old⟩ := head
      obtain ⟨hhead, hrest⟩ := List.pairwise_cons.1 hascending
      rw [List.mem_cons, ← ih hrest]
      by_cases hsame : account = other
      · subst hsame
        have habsent : rest.lookup account ≠ some value := fun hlater =>
          UInt32.lt_irrefl _ (hhead (account, value) ((ih hrest).1 hlater))
        simp [habsent, eq_comm]
      · rw [List.lookup_cons, beq_false_of_ne hsame]
        simp [hsame]

theorem get?_eq_some_iff_mem (registry : Registry α) {account : AccountId} {value : α} :
    registry.get? account = some value ↔ (account, value) ∈ registry.entries :=
  lookup_eq_some_iff_mem registry.ascending

theorem map_fst_insertEntry_of_mem {account : AccountId} (value : α)
    {entries : List (AccountId × α)}
    (hascending : entries.Pairwise fun a b => a.1.number < b.1.number)
    (hmem : account ∈ entries.map Prod.fst) :
    (insertEntry account value entries).map Prod.fst = entries.map Prod.fst := by
  induction entries with
  | nil => cases hmem
  | cons head rest ih =>
      obtain ⟨other, old⟩ := head
      obtain ⟨hhead, hrest⟩ := List.pairwise_cons.1 hascending
      rw [insertEntry]
      by_cases hsame : account = other
      · subst hsame
        rw [if_neg (UInt32.lt_irrefl _), if_pos rfl, List.map_cons, List.map_cons]
      · have hlater : account ∈ rest.map Prod.fst := by
          rcases List.mem_cons.1 hmem with heq | hlater
          · exact absurd heq hsame
          · exact hlater
        obtain ⟨entry, hentry, hnumber⟩ := List.mem_map.1 hlater
        have hgreater : other.number < account.number := hnumber ▸ hhead entry hentry
        rw [if_neg (UInt32.lt_asymm hgreater), if_neg hsame, List.map_cons, List.map_cons,
          ih hrest hlater]

theorem insertEntry_of_lt {account : AccountId} (value : α)
    {entries : List (AccountId × α)}
    (hlast : ∀ entry ∈ entries, entry.1.number < account.number) :
    insertEntry account value entries = entries ++ [(account, value)] := by
  induction entries with
  | nil => rfl
  | cons head rest ih =>
      obtain ⟨other, old⟩ := head
      have hhead : other.number < account.number := hlast _ List.mem_cons_self
      have hne : account ≠ other := by
        rintro rfl
        exact UInt32.lt_irrefl _ hhead
      rw [insertEntry, if_neg (UInt32.lt_asymm hhead), if_neg hne, List.cons_append,
        ih fun entry hentry => hlast entry (List.mem_cons_of_mem _ hentry)]

/-- A new value for a known account changes no account number. -/
theorem accounts_insert_of_mem (registry : Registry α) {account : AccountId} (value : α)
    (hmem : account ∈ registry.accounts) :
    (registry.insert account value).accounts = registry.accounts :=
  map_fst_insertEntry_of_mem value registry.ascending hmem

/-- An account above all others comes last. -/
theorem accounts_insert_of_lt (registry : Registry α) {account : AccountId} (value : α)
    (hlast : ∀ other ∈ registry.accounts, other.number < account.number) :
    (registry.insert account value).accounts = registry.accounts ++ [account] := by
  have hentries : (registry.insert account value).entries =
      registry.entries ++ [(account, value)] :=
    insertEntry_of_lt value fun entry hentry => hlast entry.1 (List.mem_map_of_mem hentry)
  rw [accounts, hentries, List.map_append, accounts, List.map_singleton]

end Purse.Registry
