import Purse.Proofs.SpendCycle

/-!
# Lookups agree with issuing

What a book has handed out it goes on listing, through refused writes and restarts, so that a script
keeps its owner.  An address that was shown and never handed out has none.
-/

namespace Purse

variable {σ : Type}

/-- Where the change address comes from that is shown for an account with this record. -/
def AccountRecord.changePath (record : AccountRecord) (account : AccountId) : KeyPath :=
  ⟨account, .internal, if record.nextInternal = 0 then 0 else record.nextInternal - 1⟩

namespace AddressBook

variable {backend : AccountStore σ} {book after later : AddressBook σ} {script : Script}
  {account : AccountId} {path : KeyPath}

/-! ## What stays -/

/-- Every account is still there, of the same kind, and has handed out no less. -/
structure Continues (before after : AddressBook σ) : Prop where
  keychain_eq : after.keychain = before.keychain
  record_grows : ∀ account record, before.records.get? account = some record →
    ∃ grown, after.records.get? account = some grown ∧ grown.kind = record.kind ∧
      ∀ branch, (record.nextIndex branch).toNat ≤ (grown.nextIndex branch).toNat

namespace Continues

theorem of_eq (hkeychain : after.keychain = book.keychain)
    (hrecords : after.records = book.records) : book.Continues after where
  keychain_eq := hkeychain
  record_grows _ record hrecord := ⟨record, hrecords ▸ hrecord, rfl, fun _ => Nat.le_refl _⟩

theorem trans (hfirst : book.Continues after) (hsecond : after.Continues later) :
    book.Continues later where
  keychain_eq := hsecond.keychain_eq.trans hfirst.keychain_eq
  record_grows account record hrecord := by
    obtain ⟨middle, hmiddle, hmiddleKind, hmiddleNext⟩ :=
      hfirst.record_grows account record hrecord
    obtain ⟨grown, hgrown, hkind, hnext⟩ := hsecond.record_grows account middle hmiddle
    exact ⟨grown, hgrown, hkind.trans hmiddleKind,
      fun branch => (hmiddleNext branch).trans (hnext branch)⟩

theorem of_handsOut {branch : Branch}
    (hhanded : HandsOut backend account branch script book after) : book.Continues after where
  keychain_eq := hhanded.keychain_eq
  record_grows other record hrecord := by
    obtain ⟨found, advanced, hfound, hadvanced, hadvances, _⟩ := hhanded.advances
    by_cases hsame : other = account
    · subst hsame
      cases hrecord.symm.trans hfound
      refine ⟨advanced, hadvanced, hadvances.kind_eq, fun side => ?_⟩
      by_cases hside : side = branch
      · rw [hside, hadvances.next_eq]
        exact Nat.le_succ _
      · rw [hadvances.others_eq side hside]
    · exact ⟨record, (hhanded.others_eq other hsame).trans hrecord, rfl, fun _ => Nat.le_refl _⟩

theorem issued (hcontinues : book.Continues after) (hissued : book.Issued path) :
    after.Issued path := by
  obtain ⟨record, hrecord, hindex⟩ := hissued
  obtain ⟨grown, hgrown, _, hnext⟩ := hcontinues.record_grows path.account record hrecord
  exact ⟨grown, hgrown, lt_of_lt_of_le hindex (hnext path.branch)⟩

theorem digest_eq (hcontinues : book.Continues after) (path : KeyPath) :
    after.digest path = book.digest path := by
  rw [digest, digest, hcontinues.keychain_eq]

/-- What an account lists it goes on listing. -/
theorem lists (hcontinues : book.Continues after) (hlists : book.lists account script = true) :
    after.lists account script = true := by
  obtain ⟨record, path, hrecord, hpath, rfl⟩ := lists_iff.1 hlists
  obtain ⟨grown, hgrown, hkind, hnext⟩ := hcontinues.record_grows account record hrecord
  obtain ⟨haccount, hindex⟩ := mem_issuedPaths.1 hpath
  refine lists_iff.2 ⟨grown, path, hgrown, mem_issuedPaths.2 ⟨haccount, ?_⟩, ?_⟩
  · exact lt_of_lt_of_le hindex (hnext path.branch)
  · rw [hcontinues.keychain_eq, hkind]

/-- Where digests are told apart later on, they were told apart before. -/
theorem separated (hcontinues : book.Continues after) (hseparated : after.Separated) :
    book.Separated := by
  intro first second hfirst hsecond hdigest
  apply hseparated first second (hcontinues.issued hfirst) (hcontinues.issued hsecond)
  rw [hcontinues.digest_eq, hcontinues.digest_eq, hdigest]

end Continues

theorem continues_issue (backend : AccountStore σ) (account : AccountId) (branch : Branch)
    (book : AddressBook σ) : book.Continues (issue backend account branch book).2 := by
  rcases issue_cases backend.keepsOnFailure_unit account branch book with
    ⟨fault, after, hissue, hsame⟩ | ⟨script, after, hissue, hhanded⟩
  · rw [hissue]
    exact .of_eq hsame.keychain_eq hsame.records_eq
  · rw [hissue]
    exact .of_handsOut hhanded

theorem continues_createAccount (backend : AccountStore σ) (kind : ScriptKind)
    {book : AddressBook σ} (hfresh : book.nextAccount ∉ book.accounts) :
    book.Continues (createAccount backend kind book).2 := by
  rcases createAccount_cases backend.keepsOnFailure_unit kind book with
    ⟨fault, after, hcreate, hsame⟩ | ⟨after, hcreate, hadds⟩
  · rw [hcreate]
    exact .of_eq hsame.keychain_eq hsame.records_eq
  · rw [hcreate]
    refine ⟨hadds.keychain_eq, fun account record hrecord => ?_⟩
    have hother : account ≠ book.nextAccount := by
      rintro rfl
      rw [(Registry.get?_eq_none_iff _ _).2 hfresh] at hrecord
      cases hrecord
    refine ⟨record, ?_, rfl, fun _ => Nat.le_refl _⟩
    rw [hadds.records_eq, Registry.get?_insert_of_ne _ hother, hrecord]

theorem continues_perform (backend : AccountStore σ) (call : BookCall) {book : AddressBook σ}
    (hfresh : call.FreshNumber book) : book.Continues (call.perform backend book).2 := by
  rcases call.perform_state_cases backend book with
    hsame | ⟨account, branch, hissue⟩ | ⟨kind, rfl, hcreate⟩
  · rw [hsame]
    exact .of_eq rfl rfl
  · rw [hissue]
    exact continues_issue backend account branch book
  · rw [hcreate]
    exact continues_createAccount backend kind hfresh

/-! ## Later books -/

/-- The book is what `book` has become: by calls, by whatever happens to its store, and by opening a
store again that holds what the book does.  Account numbers have not run out on the way, as in
`Genuine`. -/
inductive Follows (backend : AccountStore σ) (book : AddressBook σ) : AddressBook σ → Prop where
  | refl : Follows backend book book
  | performed {later : AddressBook σ} (hfollows : Follows backend book later) (call : BookCall)
      (hfresh : call.FreshNumber later) : Follows backend book (call.perform backend later).2
  | stored {later : AddressBook σ} (hfollows : Follows backend book later) (store : σ) :
      Follows backend book { later with store }
  | reopened {later opened : AddressBook σ} {store after : σ}
      (hfollows : Follows backend book later)
      (hopen : openStore backend store = (.ok opened, after))
      (hkeychain : opened.keychain = later.keychain) (hrecords : opened.records = later.records) :
      Follows backend book opened

namespace Follows

theorem continues (hfollows : book.Follows backend later) : book.Continues later := by
  induction hfollows with
  | refl => exact .of_eq rfl rfl
  | performed _ call hfresh ih => exact ih.trans (continues_perform backend call hfresh)
  | stored _ store ih => exact ih.trans (.of_eq rfl rfl)
  | reopened _ _ hkeychain hrecords ih => exact ih.trans (.of_eq hkeychain hrecords)

theorem genuine (hfollows : book.Follows backend later) (hgenuine : book.Genuine backend) :
    later.Genuine backend := by
  induction hfollows with
  | refl => exact hgenuine
  | performed _ call hfresh ih => exact ih.performed call hfresh
  | stored _ store ih => exact ih.stored store
  | reopened _ hopen _ _ _ => exact .opened hopen

end Follows

/-! ## Keys -/

/-- A digest is known exactly if it is that of a listed script. -/
theorem keyPairFor?_isSome_iff (hcoherent : book.Coherent) :
    (book.keyPairFor? script).isSome = true ↔
      ∃ account issued, book.lists account issued = true ∧
        issued.pubkeyHash = script.pubkeyHash := by
  rw [keyPairFor?, Option.isSome_map]
  constructor
  · intro hknown
    obtain ⟨path, hpath⟩ := Option.isSome_iff_exists.1 hknown
    obtain ⟨⟨record, hrecord, hindex⟩, hdigest⟩ :=
      (hcoherent _ path).1 (mem_owned_of_pathOf? hpath)
    exact ⟨path.account, book.keychain.script path record.kind,
      lists_iff.2 ⟨record, path, hrecord, mem_issuedPaths.2 ⟨rfl, hindex⟩, rfl⟩, hdigest⟩
  · rintro ⟨account, issued, hlists, hsame⟩
    obtain ⟨path, hissued, _, hdigest⟩ := exists_issued_of_lists hlists
    exact List.lookup_isSome_iff.2
      ⟨_, (hcoherent _ path).2 ⟨hissued, hdigest.trans hsame⟩, beq_self_eq_true _⟩

theorem hash_of_keyPairFor? (hcoherent : book.Coherent) {pair : KeyPair}
    (hpair : book.keyPairFor? script = some pair) : pair.publicKey.hash = script.pubkeyHash := by
  obtain ⟨path, hpath, rfl⟩ := Option.map_eq_some_iff.1 hpair
  exact ((hcoherent _ path).1 (mem_owned_of_pathOf? hpath)).2

/-! ## Addresses that were only shown -/

/-- No other path that was handed out leads to the digest of this one. -/
def SetsApart (book : AddressBook σ) (path : KeyPath) : Prop :=
  ∀ other, book.Issued other → book.digest other = book.digest path → other = path

theorem pathOf?_of_not_issued (hcoherent : book.Coherent) (hissued : ¬ book.Issued path)
    (hapart : book.SetsApart path) (hdigest : script.pubkeyHash = book.digest path) :
    book.pathOf? script = none := by
  rw [Option.eq_none_iff_forall_ne_some]
  intro other hother
  obtain ⟨hotherIssued, hsame⟩ := (hcoherent _ other).1 (mem_owned_of_pathOf? hother)
  apply hissued
  rw [← hapart other hotherIssued (hsame.trans hdigest)]
  exact hotherIssued

theorem currentChange_eq {record : AccountRecord}
    (hrecord : book.records.get? account = some record) :
    book.currentChange account =
      .ok (book.keychain.script (record.changePath account) record.kind) := by
  rw [currentChange, record_eq_ok_iff.2 hrecord]
  rfl

/-- The change address that is shown has been handed out, if any change address has. -/
theorem issued_changePath_iff {record : AccountRecord}
    (hrecord : book.records.get? account = some record) :
    book.Issued (record.changePath account) ↔ record.nextInternal ≠ 0 := by
  have hissued : book.Issued (record.changePath account) ↔
      (record.changePath account).index.toNat < record.nextInternal.toNat := by
    constructor
    · rintro ⟨found, hfound, hindex⟩
      cases hrecord.symm.trans hfound
      exact hindex
    · intro hindex
      exact ⟨record, hrecord, hindex⟩
  rw [hissued, AccountRecord.changePath]
  by_cases hnone : record.nextInternal = 0
  · rw [hnone, if_pos rfl]
    exact ⟨fun hindex => absurd hindex (Nat.lt_irrefl _), fun hsome => absurd rfl hsome⟩
  · have hpositive : 0 < record.nextInternal.toNat := by
      rw [Nat.pos_iff_ne_zero, ← UInt32.toNat_zero, Ne, UInt32.toNat_inj]
      exact hnone
    have hone : (1 : UInt32) ≤ record.nextInternal := UInt32.le_iff_toNat_le.2 hpositive
    rw [if_neg hnone, UInt32.toNat_sub_of_le _ _ hone, UInt32.toNat_one]
    exact ⟨fun _ => hnone, fun _ => Nat.sub_lt hpositive Nat.one_pos⟩

/-! ## All lookups -/

/-- As long as keys have different digests, a script belongs to exactly the account that lists it,
in the book as it is and in all that it becomes.  Keys are found for the listed digests, and are the
ones that the scripts commit to.  A change address that was shown belongs to nobody until it is
handed out.  Neither the book nor what it becomes has run out of account numbers: `Genuine` and
`Follows` leave out a call that adds an account under a number in use, which none does before
4294967295 is in use. -/
theorem lookups_agree (backend : AccountStore σ) {book : AddressBook σ}
    (hgenuine : book.Genuine backend) (hseparated : book.Separated) :
    (∀ script account, book.accountOf? script = some account ↔
      book.lists account script = true) ∧
    (∀ script, (book.keyPairFor? script).isSome = true ↔
      ∃ account issued, book.lists account issued = true ∧
        issued.pubkeyHash = script.pubkeyHash) ∧
    (∀ script pair, book.keyPairFor? script = some pair →
      pair.publicKey.hash = script.pubkeyHash) ∧
    (∀ account record, book.records.get? account = some record →
      ∃ script, book.currentChange account = .ok script ∧
        script = book.keychain.script (record.changePath account) record.kind ∧
        (book.Issued (record.changePath account) ↔ record.nextInternal ≠ 0) ∧
        ∀ later, book.Follows backend later → ¬ later.Issued (record.changePath account) →
          later.SetsApart (record.changePath account) →
          later.accountOf? script = none ∧ later.keyPairFor? script = none) ∧
    (∀ script account, book.accountOf? script = some account →
      ∀ later, book.Follows backend later → later.Separated →
        later.accountOf? script = some account) := by
  have hcoherent := hgenuine.coherent
  refine ⟨fun script account => ⟨lists_of_accountOf? hcoherent, accountOf?_of_lists hseparated
      hcoherent⟩, fun script => keyPairFor?_isSome_iff hcoherent,
    fun script pair => hash_of_keyPairFor? hcoherent, ?_, ?_⟩
  · intro account record hrecord
    refine ⟨_, currentChange_eq hrecord, rfl, issued_changePath_iff hrecord, ?_⟩
    intro later hfollows hissued hapart
    have hunknown : later.pathOf? (book.keychain.script (record.changePath account) record.kind) =
        none :=
      pathOf?_of_not_issued (hfollows.genuine hgenuine).coherent hissued hapart
        (hfollows.continues.digest_eq (record.changePath account)).symm
    rw [accountOf?, keyPairFor?, hunknown]
    exact ⟨rfl, rfl⟩
  · intro script account howner later hfollows hseparatedLater
    apply accountOf?_of_lists hseparatedLater (hfollows.genuine hgenuine).coherent
    exact hfollows.continues.lists (lists_of_accountOf? hcoherent howner)

end AddressBook

namespace Wallet

theorem follows_receivingBook : receivingBook.Follows MemoryStore.store mixedWallet.book := by
  have hunchanged : receivingBook.Follows MemoryStore.store receivingBook := .refl
  have hissued := hunchanged.performed (.nextChange .default) trivial
  rw [BookCall.perform, Action.bind_pure_state] at hissued
  exact hissued

/-- The first change address is nobody's while it is only shown.  The receive address that was
handed out before it stays with its account when it is handed out too. -/
theorem lookups_agree_receivingBook :
    receivingBook.Genuine MemoryStore.store ∧ receivingBook.Separated ∧
      receivingBook.accountOf? ownScript = some .default ∧
      receivingBook.currentChange .default = .ok changeScript ∧
      receivingBook.accountOf? changeScript = none ∧
      receivingBook.keyPairFor? changeScript = none ∧
      mixedWallet.book.Separated ∧ mixedWallet.book.accountOf? ownScript = some .default := by
  have hcontinues := follows_receivingBook.continues
  have hseparated := hcontinues.separated separated_mixedWallet
  obtain ⟨howner, _, _, hshown, hstays⟩ :=
    AddressBook.lookups_agree MemoryStore.store genuine_receivingBook hseparated
  have hrecord : receivingBook.records.get? .default = some ⟨.p2wpkh, 1, 0⟩ := rfl
  have hlists : receivingBook.lists .default ownScript = true :=
    AddressBook.lists_iff.2 ⟨⟨.p2wpkh, 1, 0⟩, ⟨.default, .external, 0⟩, hrecord, by decide, rfl⟩
  have howned := (howner ownScript .default).2 hlists
  obtain ⟨script, hchange, hscript, hissued, hunowned⟩ := hshown .default ⟨.p2wpkh, 1, 0⟩ hrecord
  cases hscript
  have happart : receivingBook.SetsApart ⟨.default, .internal, 0⟩ := by
    intro other hother hdigest
    apply separated_mixedWallet other ⟨.default, .internal, 0⟩ (hcontinues.issued hother)
    · exact ⟨⟨.p2wpkh, 1, 1⟩, rfl, by decide⟩
    · exact hdigest
  obtain ⟨hnobody, hnoKey⟩ :=
    hunowned receivingBook .refl (fun hhanded => hissued.1 hhanded rfl) happart
  exact ⟨genuine_receivingBook, hseparated, howned, hchange, hnobody, hnoKey,
    separated_mixedWallet,
    hstays ownScript .default howned mixedWallet.book follows_receivingBook separated_mixedWallet⟩

end Wallet

end Purse
