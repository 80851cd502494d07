import Purse.Address.Book
import Purse.Proofs.Registry
import Purse.Store.Failing
import Purse.Store.File
import Purse.Store.Memory

/-!
# Handing out addresses

An address is handed out in full or not at all: the record advances by one, the store takes it over,
and the digest becomes known.  Where the store refuses, only the store may have moved, and stores
that keep what they hold when they refuse have not moved either.
-/

namespace Purse

variable {σ β : Type}

/-! ## Stores that refuse -/

/-- A refused write leaves what `stored` shows of the store as it was. -/
def AccountStore.KeepsOnFailure (backend : AccountStore σ) (stored : σ → β) : Prop :=
  ∀ (account : AccountId) (record : AccountRecord) (state after : σ) (fault : StoreError),
    backend.saveAccount account record state = (.error fault, after) →
      stored after = stored state

/-- Nothing is asked of a store of which nothing is shown. -/
theorem AccountStore.keepsOnFailure_unit (backend : AccountStore σ) :
    backend.KeepsOnFailure fun _ => () :=
  fun _ _ _ _ _ _ => rfl

theorem MemoryStore.keepsOnFailure : store.KeepsOnFailure id := by
  intro account record state after fault hsave
  cases state with
  | none =>
      cases hsave
      rfl
  | some data => cases hsave

/-- A fault on request changes nothing, so a store that fails on request keeps what its inner store
keeps. -/
theorem FailingStore.keepsOnFailure {inner : AccountStore σ} {stored : σ → β}
    (hinner : inner.KeepsOnFailure stored) :
    (store inner).KeepsOnFailure fun state => stored state.inner := by
  intro account record state after fault hsave
  simp only [store, guarded] at hsave
  cases hfault : state.fault with
  | some requested =>
      rw [hfault] at hsave
      cases hsave
      rfl
  | none =>
      rw [hfault] at hsave
      rcases hresult : inner.saveAccount account record state.inner with ⟨refused | _, moved⟩
      · simp only [hresult] at hsave
        cases hsave
        exact hinner account record state.inner moved fault hresult
      · simp only [hresult] at hsave
        cases hsave

/-- A store in a file may leave its temporary file behind, but not the new data. -/
theorem FileStore.keepsOnFailure : store.KeepsOnFailure State.copy := by
  intro account record state after fault hsave
  simp only [store, saveAccount] at hsave
  cases hcopy : state.copy with
  | none =>
      rw [hcopy] at hsave
      cases hsave
      exact hcopy
  | some data =>
      rw [hcopy] at hsave
      simp only [write] at hsave
      rcases hwrite : writeFile state.path
        (WalletFile.print (data.saveAccount account record)).toUTF8 state.disk with
        ⟨refused | _, disk⟩
      · simp only [hwrite] at hsave
        cases hsave
        exact hcopy
      · simp only [hwrite] at hsave
        cases hsave

/-! ## Records -/

namespace AccountRecord

/-- The two records differ in that one more index of the branch has been handed out. -/
structure Advances (branch : Branch) (before after : AccountRecord) : Prop where
  kind_eq : after.kind = before.kind
  next_eq : (after.nextIndex branch).toNat = (before.nextIndex branch).toNat + 1
  others_eq : ∀ other, other ≠ branch → after.nextIndex other = before.nextIndex other

variable {record advanced : AccountRecord} {account : AccountId} {branch : Branch}

theorem index_le_of_advanced (hadvanced : record.advanced account branch = .ok advanced) :
    record.nextIndex branch ≤ maxAddressIndex := by
  unfold AccountRecord.advanced at hadvanced
  by_cases hexhausted : record.nextIndex branch > maxAddressIndex
  · rw [if_pos hexhausted] at hadvanced
    cases hadvanced
  · exact UInt32.not_lt.1 hexhausted

theorem eq_exhausted_of_advanced {fault : DerivationError}
    (hadvanced : record.advanced account branch = .error fault) :
    fault = .indexExhausted account branch := by
  unfold AccountRecord.advanced at hadvanced
  by_cases hexhausted : record.nextIndex branch > maxAddressIndex
  · rw [if_pos hexhausted] at hadvanced
    cases hadvanced
    rfl
  · rw [if_neg hexhausted] at hadvanced
    cases branch <;> cases hadvanced

/-- An index that may be handed out has a successor. -/
theorem advances_of_advanced (hadvanced : record.advanced account branch = .ok advanced) :
    record.Advances branch advanced := by
  unfold AccountRecord.advanced at hadvanced
  by_cases hexhausted : record.nextIndex branch > maxAddressIndex
  · rw [if_pos hexhausted] at hadvanced
    cases hadvanced
  · rw [if_neg hexhausted] at hadvanced
    have hroom : (record.nextIndex branch).toNat ≤ maxAddressIndex.toNat :=
      UInt32.le_iff_toNat_le.1 (UInt32.not_lt.1 hexhausted)
    have hsucc : (record.nextIndex branch + 1).toNat = (record.nextIndex branch).toNat + 1 := by
      have hgreatest : maxAddressIndex.toNat = 2147483647 := rfl
      rw [UInt32.toNat_add, UInt32.toNat_one]
      omega
    cases branch with
    | external =>
        cases hadvanced
        exact ⟨rfl, hsucc, fun other hother => by cases other <;> trivial⟩
    | internal =>
        cases hadvanced
        exact ⟨rfl, hsucc, fun other hother => by cases other <;> trivial⟩

end AccountRecord

/-! ## Books -/

namespace AddressBook

/-- Nothing has been handed out in between, and `stored` shows the same of the store. -/
structure SameUpTo (stored : σ → β) (before after : AddressBook σ) : Prop where
  keychain_eq : after.keychain = before.keychain
  records_eq : after.records = before.records
  owned_eq : after.owned = before.owned
  stored_eq : stored after.store = stored before.store

theorem SameUpTo.refl (stored : σ → β) (book : AddressBook σ) : book.SameUpTo stored book :=
  ⟨rfl, rfl, rfl, rfl⟩

/-- Exactly one address has been handed out in between, and its account's record was stored. -/
structure HandsOut (backend : AccountStore σ) (account : AccountId) (branch : Branch)
    (script : Script) (before after : AddressBook σ) : Prop where
  keychain_eq : after.keychain = before.keychain
  others_eq : ∀ other, other ≠ account → after.records.get? other = before.records.get? other
  advances : ∃ record advanced,
    before.records.get? account = some record ∧
    after.records.get? account = some advanced ∧
    record.Advances branch advanced ∧
    backend.saveAccount account advanced before.store = (.ok (), after.store) ∧
    script = before.keychain.script ⟨account, branch, record.nextIndex branch⟩ record.kind ∧
    after.owned =
      (script.pubkeyHash, ⟨account, branch, record.nextIndex branch⟩) :: before.owned

variable {backend : AccountStore σ} {stored : σ → β}

theorem record_eq_ok_iff {book : AddressBook σ} {account : AccountId} {record : AccountRecord} :
    book.record account = .ok record ↔ book.records.get? account = some record := by
  rw [AddressBook.record]
  cases book.records.get? account with
  | none => simp
  | some found => simp

theorem record_eq_error_iff {book : AddressBook σ} {account : AccountId}
    {fault : DerivationError} :
    book.record account = .error fault ↔
      book.records.get? account = none ∧ fault = .unknownAccount account := by
  rw [AddressBook.record]
  cases book.records.get? account with
  | none => simp [eq_comm]
  | some found => simp

/-- What it takes to hand out an address: a record with room on the branch, whose successor was
stored. -/
theorem issue_eq_ok {account : AccountId} {branch : Branch} {book after : AddressBook σ}
    {script : Script} (hissue : issue backend account branch book = (.ok script, after)) :
    ∃ record advanced store, book.records.get? account = some record ∧
      record.advanced account branch = .ok advanced ∧
      backend.saveAccount account advanced book.store = (.ok (), store) ∧
      script = book.keychain.script ⟨account, branch, record.nextIndex branch⟩ record.kind ∧
      after = ⟨book.keychain, book.records.insert account advanced,
        (script.pubkeyHash, ⟨account, branch, record.nextIndex branch⟩) :: book.owned, store⟩ := by
  rw [issue] at hissue
  cases hrecord : book.record account with
  | error fault =>
      rw [hrecord] at hissue
      cases hissue
  | ok record =>
      cases hadvanced : record.advanced account branch with
      | error fault =>
          simp only [hrecord, hadvanced] at hissue
          cases hissue
      | ok advanced =>
          rcases hsave : backend.saveAccount account advanced book.store with ⟨fault | _, store⟩
          · simp only [hrecord, hadvanced, saveRecord, hsave] at hissue
            cases hissue
          · simp only [hrecord, hadvanced, saveRecord, hsave] at hissue
            cases hissue
            exact ⟨record, advanced, store, record_eq_ok_iff.1 hrecord, hadvanced, hsave, rfl, rfl⟩

/-- An address is refused for want of an account, of an index or of a write, and nothing changes. -/
theorem issue_eq_error (hkeeps : backend.KeepsOnFailure stored) {account : AccountId}
    {branch : Branch} {book after : AddressBook σ} {fault : DerivationError}
    (hissue : issue backend account branch book = (.error fault, after)) :
    book.SameUpTo stored after ∧
      (book.records.get? account = none ∨ fault = .indexExhausted account branch ∨
        ∃ cause, fault = .store cause) := by
  rw [issue] at hissue
  cases hrecord : book.record account with
  | error refused =>
      rw [hrecord] at hissue
      cases hissue
      exact ⟨.refl stored _, Or.inl (record_eq_error_iff.1 hrecord).1⟩
  | ok record =>
      cases hadvanced : record.advanced account branch with
      | error refused =>
          simp only [hrecord, hadvanced] at hissue
          cases hissue
          exact ⟨.refl stored _, Or.inr (Or.inl (AccountRecord.eq_exhausted_of_advanced hadvanced))⟩
      | ok advanced =>
          rcases hsave : backend.saveAccount account advanced book.store with ⟨refused | _, store⟩
          · simp only [hrecord, hadvanced, saveRecord, hsave] at hissue
            cases hissue
            exact ⟨⟨rfl, rfl, rfl, hkeeps _ _ _ _ _ hsave⟩, Or.inr (Or.inr ⟨refused, rfl⟩)⟩
          · simp only [hrecord, hadvanced, saveRecord, hsave] at hissue
            cases hissue

theorem handsOut_of_issue {account : AccountId} {branch : Branch} {book after : AddressBook σ}
    {script : Script} (hissue : issue backend account branch book = (.ok script, after)) :
    HandsOut backend account branch script book after := by
  obtain ⟨record, advanced, store, hrecord, hadvanced, hsave, rfl, rfl⟩ := issue_eq_ok hissue
  refine ⟨rfl, ?_, record, advanced, hrecord, ?_⟩
  · intro other hother
    exact book.records.get?_insert_of_ne hother advanced
  · exact ⟨book.records.get?_insert_self account advanced,
      AccountRecord.advances_of_advanced hadvanced, hsave, rfl, rfl⟩

/-- An address is refused and nothing changes, or it is handed out. -/
theorem issue_cases (hkeeps : backend.KeepsOnFailure stored) (account : AccountId)
    (branch : Branch) (book : AddressBook σ) :
    (∃ fault after, issue backend account branch book = (.error fault, after) ∧
      book.SameUpTo stored after) ∨
    (∃ script after, issue backend account branch book = (.ok script, after) ∧
      HandsOut backend account branch script book after) := by
  rcases hissue : issue backend account branch book with ⟨fault | script, after⟩
  · exact Or.inl ⟨fault, after, rfl, (issue_eq_error hkeeps hissue).1⟩
  · exact Or.inr ⟨script, after, rfl, handsOut_of_issue hissue⟩

end AddressBook

end Purse
