import Purse.Proofs.WalletRuns

/-!
# Commits in one step

Creating a signed transaction commits before it signs, and nothing takes the commit back.  What
fails in authoring has handed out nothing, but what fails later has handed out its change address.
-/

namespace Purse.Wallet

variable {σ β : Type}

/-- A commit is refused and changes nothing, or keeps no change and changes nothing, or has handed
out the address that it pays its change to. -/
theorem build_commit_cases {backend : AccountStore σ} {stored : σ → β}
    (hkeeps : backend.KeepsOnFailure stored) (request : AuthoringRequest)
    (hcommits : request.dryRun = false) (account : AccountId) (draws : Nat → Draws)
    (wallet : Wallet σ) :
    (∃ fault book, build backend request account draws wallet =
        (.error fault, { wallet with book }) ∧ wallet.book.SameUpTo stored book) ∨
    (∃ authored, build backend request account draws wallet = (.ok authored, wallet) ∧
      authored.changeIndex = none) ∨
    (∃ authored book change, build backend request account draws wallet =
        (.ok authored, { wallet with book }) ∧ authored.changeOutput? = some change ∧
      AddressBook.HandsOut backend account .internal change.script wallet.book book) := by
  rcases build_cases backend request account draws wallet with
    ⟨fault, hbuild⟩ | ⟨authored, hnone, hbuild⟩ | ⟨_, _, hpreview, _⟩ |
      ⟨cause, book, _, hissue, hbuild⟩ | ⟨authored, change, book, _, hchange, hissue, hbuild⟩
  · exact Or.inl ⟨fault, wallet.book, hbuild, .refl stored wallet.book⟩
  · exact Or.inr (Or.inl ⟨authored, hbuild, hnone⟩)
  · cases hcommits.symm.trans hpreview
  · exact Or.inl ⟨_, book, hbuild, (AddressBook.issue_eq_error hkeeps hissue).1⟩
  · exact Or.inr (Or.inr ⟨authored, book, change, hbuild, hchange,
      AddressBook.handsOut_of_issue hissue⟩)

/-- A one-step commit that fails leaves everything but the book as it was. If authoring failed, or
kept no change, the book is as it was too. Otherwise signing or the check failed, and exactly the
address of the change output has been handed out. -/
theorem createSigned_refused {backend : AccountStore σ} {stored : σ → β}
    (hkeeps : backend.KeepsOnFailure stored) (draws : Nat → Draws) (payments : List Payment)
    (options : Options) {wallet after : Wallet σ} {fault : WalletError}
    (hrefused : createSigned backend draws payments options wallet = (.error fault, after)) :
    after = { wallet with book := after.book } ∧
    ((author backend draws payments options false wallet = (.error fault, after) ∧
        wallet.book.SameUpTo stored after.book) ∨
      ∃ authored,
        author backend draws payments options false wallet = (.ok authored, after) ∧
        signChecked after.book authored = .error fault ∧
        (authored.changeIndex = none ∧ after = wallet ∨
          ∃ change, authored.changeOutput? = some change ∧
            AddressBook.HandsOut backend options.account .internal change.script wallet.book
              after.book)) := by
  rw [createSigned_eq] at hrefused
  rw [author_eq_build] at hrefused ⊢
  have hsigning {authored : AuthoredTransaction} {last : Wallet σ}
      (hlast : ((signChecked last.book authored).map fun signed => (authored, signed), last) =
        (.error fault, after)) :
      last = after ∧ signChecked after.book authored = .error fault := by
    obtain ⟨hresult, rfl⟩ := Prod.mk.inj hlast
    cases hsigned : signChecked last.book authored with
    | error cause =>
        rw [hsigned] at hresult
        cases hresult
        exact ⟨rfl, rfl⟩
    | ok signed =>
        rw [hsigned] at hresult
        cases hresult
  rcases build_commit_cases hkeeps (wallet.request payments options false) rfl options.account
    draws wallet with
    ⟨cause, book, hbuild, hsame⟩ | ⟨authored, hbuild, hnone⟩ |
      ⟨authored, book, change, hbuild, hchange, hhanded⟩
  · rw [hbuild] at hrefused ⊢
    cases hrefused
    exact ⟨rfl, Or.inl ⟨rfl, hsame⟩⟩
  · rw [hbuild] at hrefused ⊢
    obtain ⟨rfl, hsigned⟩ := hsigning hrefused
    exact ⟨rfl, Or.inr ⟨authored, rfl, hsigned, Or.inl ⟨hnone, rfl⟩⟩⟩
  · rw [hbuild] at hrefused ⊢
    obtain ⟨rfl, hsigned⟩ := hsigning hrefused
    exact ⟨rfl, Or.inr ⟨authored, rfl, hsigned, Or.inr ⟨change, hchange, hhanded⟩⟩⟩

/-! ## A credit without a key -/

/-- A credit of 100000 whose script no key of the wallet unlocks. -/
def foreignCredit : Credit :=
  ⟨⟨⟨FixedBytes.replicate 32 1⟩, 0⟩, ⟨100000, ⟨.p2wpkh, ⟨FixedBytes.replicate 32 17⟩⟩⟩, .default,
    some 5, false⟩

/-- A payment of 50000. -/
def payment : Payment :=
  ⟨⟨.p2wpkh, ⟨FixedBytes.replicate 32 9⟩⟩, 50000⟩

/-- A new wallet, to which the credit was added. -/
def foreignWallet : Wallet MemoryStore.State :=
  reach MemoryStore.store [.setTip 10, .recordCredit foreignCredit] (.ofBook .inMemory .empty)

/-- An attempt to spend the credit. -/
def foreignAttempt :
    Except WalletError (AuthoredTransaction × Transaction) × Wallet MemoryStore.State :=
  createSigned MemoryStore.store (fun _ => []) [payment] (foreignWallet.defaultOptions .default)
    foreignWallet

set_option maxRecDepth 100000 in
theorem foreignAttempt_refused :
    foreignAttempt.1 = .error (.keyNotFound (.found foreignCredit.script)) := by
  decide +kernel

theorem foreignAttempt_record : foreignAttempt.2.book.record .default = .ok ⟨.p2wpkh, 0, 1⟩ := by
  rw [foreignAttempt, createSigned_state]
  exact AddressBook.record_eq_ok_iff.2 (by decide +kernel)

/-- The attempt fails for want of a key, and yet the account has handed out a change address. -/
theorem createSigned_refused_after_commit :
    AddressBook.create MemoryStore.store default .p2wpkh none =
        (.ok .inMemory, AddressBook.inMemory.store) ∧
      foreignWallet.book.record .default = .ok ⟨.p2wpkh, 0, 0⟩ ∧
      foreignAttempt.1 = .error (.keyNotFound (.found foreignCredit.script)) ∧
      foreignAttempt.2.book.record .default = .ok ⟨.p2wpkh, 0, 1⟩ :=
  ⟨rfl, rfl, foreignAttempt_refused, foreignAttempt_record⟩

theorem createSigned_foreign_refused :
    ∃ after authored change,
      foreignAttempt = (.error (.keyNotFound (.found foreignCredit.script)), after) ∧
      authored.changeOutput? = some change ∧
      signChecked after.book authored = .error (.keyNotFound (.found foreignCredit.script)) ∧
      AddressBook.HandsOut MemoryStore.store .default .internal change.script foreignWallet.book
        after.book := by
  have hresult := foreignAttempt_refused
  have hrecord := foreignAttempt_record
  rcases hattempt : foreignAttempt with ⟨result, after⟩
  rw [hattempt] at hresult hrecord
  subst hresult
  obtain ⟨_, ⟨_, hsame⟩ | ⟨authored, _, hsigning, ⟨_, hsame⟩ | ⟨change, hchange, hhanded⟩⟩⟩ :=
    createSigned_refused MemoryStore.keepsOnFailure (fun _ => []) [payment]
      (foreignWallet.defaultOptions .default) hattempt
  · rw [AddressBook.record, hsame.records_eq] at hrecord
    cases hrecord
  · rw [hsame] at hrecord
    cases hrecord
  · exact ⟨after, authored, change, rfl, hchange, hsigning, hhanded⟩

end Purse.Wallet
