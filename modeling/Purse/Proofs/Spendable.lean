import Purse.Proofs.WalletRuns

/-!
# Credits that can be spent

Only what pays an address of the book is credited to a wallet, so that the book has a key for each
of its credits.  This holds from the first call on, and no call that adds credits by recording a
transaction can break it.
-/

namespace Purse

variable {σ : Type}

namespace AddressBook

/-- Each digest that the book knows is that of the key at its path. -/
def Unlocks (book : AddressBook σ) : Prop :=
  ∀ digest path, (digest, path) ∈ book.owned →
    (book.keychain.keyPair path).publicKey.hash = digest

/-- The book knows where the key of the script comes from. -/
def Knows (book : AddressBook σ) (script : Script) : Prop :=
  ∃ path, (script.pubkeyHash, path) ∈ book.owned

/-- At most one digest has become known in between, and that of the key at its path. -/
structure Extends (before after : AddressBook σ) : Prop where
  keychain_eq : after.keychain = before.keychain
  owned_eq : after.owned = before.owned ∨
    ∃ path, after.owned = ((before.keychain.keyPair path).publicKey.hash, path) :: before.owned

variable {book after : AddressBook σ}

theorem Extends.refl (book : AddressBook σ) : book.Extends book :=
  ⟨rfl, Or.inl rfl⟩

theorem Unlocks.of_extends (hunlocks : book.Unlocks) (hextends : book.Extends after) :
    after.Unlocks := by
  intro digest path hmem
  rw [hextends.keychain_eq]
  rcases hextends.owned_eq with hsame | ⟨new, hadded⟩
  · rw [hsame] at hmem
    exact hunlocks digest path hmem
  · rw [hadded] at hmem
    rcases List.mem_cons.1 hmem with hnew | hold
    · cases hnew
      rfl
    · exact hunlocks digest path hold

theorem Knows.of_extends {script : Script} (hknows : book.Knows script)
    (hextends : book.Extends after) : after.Knows script := by
  obtain ⟨path, hmem⟩ := hknows
  refine ⟨path, ?_⟩
  rcases hextends.owned_eq with hsame | ⟨new, hadded⟩
  · rw [hsame]
    exact hmem
  · rw [hadded]
    exact List.mem_cons_of_mem _ hmem

theorem mem_owned_of_pathOf? {script : Script} {path : KeyPath}
    (hpath : book.pathOf? script = some path) : (script.pubkeyHash, path) ∈ book.owned := by
  obtain ⟨earlier, later, howned, _⟩ := List.lookup_eq_some_iff.1 hpath
  rw [howned]
  exact List.mem_append_right _ List.mem_cons_self

theorem knows_of_accountOf? {script : Script} {account : AccountId}
    (howner : book.accountOf? script = some account) : book.Knows script := by
  rw [accountOf?] at howner
  cases hpath : book.pathOf? script with
  | none =>
      rw [hpath] at howner
      cases howner
  | some path => exact ⟨path, mem_owned_of_pathOf? hpath⟩

/-- The book has a key for exactly the scripts that it knows. -/
theorem knows_iff_isSome {script : Script} :
    book.Knows script ↔ (book.keyPairFor? script).isSome = true := by
  rw [keyPairFor?, Option.isSome_map, pathOf?, List.lookup_isSome_iff, Knows]
  constructor
  · rintro ⟨path, hpath⟩
    exact ⟨_, hpath, beq_self_eq_true _⟩
  · rintro ⟨⟨digest, path⟩, hpath, hsame⟩
    cases eq_of_beq hsame
    exact ⟨path, hpath⟩

/-- The key that the book finds for a known script is the one that the script commits to. -/
theorem exists_keyPairFor? (hunlocks : book.Unlocks) {script : Script}
    (hknows : book.Knows script) :
    ∃ pair, book.keyPairFor? script = some pair ∧ pair.publicKey.hash = script.pubkeyHash := by
  obtain ⟨pair, hpair⟩ := Option.isSome_iff_exists.1 (knows_iff_isSome.1 hknows)
  obtain ⟨path, hpath, rfl⟩ := Option.map_eq_some_iff.1 hpair
  exact ⟨_, hpair, hunlocks _ path (mem_owned_of_pathOf? hpath)⟩

/-! ## One call to the book -/

variable (backend : AccountStore σ)

theorem extends_issue (account : AccountId) (branch : Branch) (book : AddressBook σ) :
    book.Extends (issue backend account branch book).2 := by
  rcases hissue : issue backend account branch book with ⟨fault | script, after⟩
  · have hsame := (issue_eq_error backend.keepsOnFailure_unit hissue).1
    exact ⟨hsame.keychain_eq, Or.inl hsame.owned_eq⟩
  · obtain ⟨record, advanced, store, _, _, _, rfl, rfl⟩ := issue_eq_ok hissue
    exact ⟨rfl, Or.inr ⟨_, rfl⟩⟩

theorem extends_createAccount (kind : ScriptKind) (book : AddressBook σ) :
    book.Extends (createAccount backend kind book).2 := by
  rcases createAccount_cases backend.keepsOnFailure_unit kind book with
    ⟨fault, after, hcreate, hsame⟩ | ⟨after, hcreate, hadds⟩
  · rw [hcreate]
    exact ⟨hsame.keychain_eq, Or.inl hsame.owned_eq⟩
  · rw [hcreate]
    exact ⟨hadds.keychain_eq, Or.inl hadds.owned_eq⟩

theorem unlocks_create {seed : Seed} {kind : ScriptKind} {store created : σ}
    (hcreate : create backend seed kind store = (.ok book, created)) : book.Unlocks := by
  rw [create] at hcreate
  rcases hreplace : backend.replace (initialData seed kind) store with ⟨fault | _, stored⟩
  · simp only [hreplace] at hcreate
    cases hcreate
  · simp only [hreplace] at hcreate
    cases hcreate
    exact fun _ _ hmem => nomatch hmem

end AddressBook

theorem BookCall.extends_perform (backend : AccountStore σ) (call : BookCall)
    (book : AddressBook σ) : book.Extends (call.perform backend book).2 := by
  rcases call.perform_state_cases backend book with
    hsame | ⟨account, branch, hissue⟩ | ⟨kind, _, hcreate⟩
  · rw [hsame]
    exact .refl book
  · rw [hissue]
    exact AddressBook.extends_issue backend account branch book
  · rw [hcreate]
    exact AddressBook.extends_createAccount backend kind book

/-! ## Recording transactions -/

namespace Wallet

theorem recordTransaction_state (wallet : Wallet σ) (tx : Transaction)
    (blockHeight : Option UInt64) :
    (wallet.recordTransaction tx blockHeight).2 =
      { wallet with
        ledger := (creditOutputs wallet.book ⟨tx.txid, blockHeight, tx.isCoinbase⟩ 0
          (if tx.isCoinbase then wallet.ledger else spendInputs wallet.ledger tx.inputs)
          tx.outputs).2 } := rfl

theorem mem_of_mem_spendInputs {ledger : Ledger} {inputs : List Input} {credit : Credit}
    (hcredit : credit ∈ (spendInputs ledger inputs).credits) : credit ∈ ledger.credits := by
  induction inputs generalizing ledger with
  | nil => exact hcredit
  | cons input rest ih => exact List.mem_of_mem_eraseP (ih hcredit)

theorem mem_of_mem_recordCredit {ledger : Ledger} {new credit : Credit}
    (hcredit : credit ∈ (ledger.recordCredit new).2.credits) :
    credit ∈ ledger.credits ∨ credit = new := by
  rw [Ledger.recordCredit] at hcredit
  by_cases hknown : ledger.knows new.outpoint = true
  · rw [if_pos hknown] at hcredit
    exact Or.inl hcredit
  · rw [if_neg hknown] at hcredit
    rcases List.mem_append.1 hcredit with hold | hnew
    · exact Or.inl hold
    · exact Or.inr (List.mem_singleton.1 hnew)

/-- What recording outputs adds is at the position of an output whose script the book has handed
out. -/
theorem mem_creditOutputs {book : AddressBook σ} {template : CreditTemplate} {index : Nat}
    {ledger : Ledger} {outputs : List Output} {credit : Credit}
    (hcredit : credit ∈ (creditOutputs book template index ledger outputs).2.credits) :
    credit ∈ ledger.credits ∨ ∃ position output account, position < index + outputs.length ∧
      book.accountOf? output.script = some account ∧
      credit = template.credit position output account := by
  induction outputs generalizing index ledger with
  | nil => exact Or.inl hcredit
  | cons output rest ih =>
      rw [List.length_cons]
      cases howner : book.accountOf? output.script with
      | none =>
          simp only [creditOutputs, howner] at hcredit
          rcases ih hcredit with hold | ⟨position, other, account, hposition, hother⟩
          · exact Or.inl hold
          · exact Or.inr ⟨position, other, account, by omega, hother⟩
      | some account =>
          simp only [creditOutputs, howner] at hcredit
          rcases ih hcredit with hbefore | ⟨position, other, account, hposition, hother⟩
          · rcases mem_of_mem_recordCredit hbefore with hold | hnew
            · exact Or.inl hold
            · exact Or.inr ⟨index, output, account, by omega, howner, hnew⟩
          · exact Or.inr ⟨position, other, account, by omega, hother⟩

/-- A single output whose script the book has handed out is recorded as a credit. -/
theorem creditOutputs_singleton {book : AddressBook σ} {script : Script} {account : AccountId}
    (howner : book.accountOf? script = some account) (template : CreditTemplate) (index : Nat)
    (ledger : Ledger) (value : Amount) :
    (creditOutputs book template index ledger [⟨value, script⟩]).2 =
      (ledger.recordCredit (template.credit index ⟨value, script⟩ account)).2 := by
  simp only [creditOutputs, howner]

/-- Positions among fewer than 2^64 outputs never reach the one of the null outpoint. -/
theorem isNull_credit {template : CreditTemplate} {position : Nat} {output : Output}
    {account : AccountId} (hposition : position + 1 < UInt64.size) :
    (template.credit position output account).outpoint.isNull = false := by
  rw [OutPoint.isNull, decide_eq_false_iff_not]
  intro hnull
  have hindex := congrArg (fun point => point.index.toNat) hnull
  have hnull : OutPoint.null.index.toNat = UInt64.size - 1 := rfl
  simp only [CreditTemplate.credit, hnull,
    UInt64.toNat_ofNat_of_lt' (Nat.lt_of_succ_lt hposition)] at hindex
  omega

/-! ## Runs -/

/-- The book has the key of each credit, and no credit is at the null outpoint. -/
structure Spendable (wallet : Wallet σ) : Prop where
  unlocks : wallet.book.Unlocks
  known : ∀ credit ∈ wallet.ledger.credits, wallet.book.Knows credit.script
  not_null : ∀ credit ∈ wallet.ledger.credits, credit.outpoint.isNull = false

namespace Spendable

variable {wallet after : Wallet σ} (hspendable : wallet.Spendable)
include hspendable

theorem of_extends (hledger : after.ledger = wallet.ledger)
    (hextends : wallet.book.Extends after.book) : after.Spendable where
  unlocks := hspendable.unlocks.of_extends hextends
  known credit hcredit :=
    (hspendable.known credit (hledger ▸ hcredit)).of_extends hextends
  not_null credit hcredit := hspendable.not_null credit (hledger ▸ hcredit)

theorem of_subset (hbook : after.book = wallet.book)
    (hcredits : ∀ credit ∈ after.ledger.credits, credit ∈ wallet.ledger.credits) :
    after.Spendable where
  unlocks := hbook ▸ hspendable.unlocks
  known credit hcredit := hbook ▸ hspendable.known credit (hcredits credit hcredit)
  not_null credit hcredit := hspendable.not_null credit (hcredits credit hcredit)

theorem build (backend : AccountStore σ) (request : AuthoringRequest) (account : AccountId)
    (draws : Nat → Draws) : (Wallet.build backend request account draws wallet).2.Spendable := by
  rcases build_state_cases backend request account draws wallet with hunchanged | hasked
  · rw [hunchanged]
    exact hspendable
  · rw [hasked]
    exact hspendable.of_extends rfl (AddressBook.extends_issue backend account .internal _)

theorem recordTransaction {tx : Transaction} (houtputs : tx.outputs.length < UInt64.size)
    (blockHeight : Option UInt64) : (wallet.recordTransaction tx blockHeight).2.Spendable := by
  have hcredits : ∀ credit ∈ (wallet.recordTransaction tx blockHeight).2.ledger.credits,
      credit ∈ wallet.ledger.credits ∨ wallet.book.Knows credit.script ∧
        credit.outpoint.isNull = false := by
    intro credit hcredit
    rw [recordTransaction_state] at hcredit
    rcases mem_creditOutputs hcredit with hold | ⟨position, output, account, hposition, howner, rfl⟩
    · refine Or.inl ?_
      split at hold
      · exact hold
      · exact mem_of_mem_spendInputs hold
    · exact Or.inr ⟨AddressBook.knows_of_accountOf? howner, isNull_credit (by omega)⟩
  refine ⟨hspendable.unlocks, fun credit hcredit => ?_, fun credit hcredit => ?_⟩
  · rcases hcredits credit hcredit with hold | hnew
    · exact hspendable.known credit hold
    · exact hnew.1
  · rcases hcredits credit hcredit with hold | hnew
    · exact hspendable.not_null credit hold
    · exact hnew.2

end Spendable

end Wallet

/-- The call adds no credit but by recording a transaction, of fewer than 2^64 outputs. -/
def WalletCall.isOrdinary : WalletCall → Bool
  | .recordTransaction tx _ => tx.outputs.length < UInt64.size
  | .recordCredit _ => false
  | _ => true

theorem Wallet.Spendable.perform {wallet : Wallet σ} (hspendable : wallet.Spendable)
    (backend : AccountStore σ) {call : WalletCall} (hordinary : call.isOrdinary = true) :
    (call.perform backend wallet).Spendable := by
  cases call with
  | addresses call => exact hspendable.of_extends rfl (call.extends_perform backend wallet.book)
  | build request account draws => exact hspendable.build backend request account draws
  | author payments options dryRun draws =>
      exact hspendable.build backend (wallet.request payments options dryRun) options.account draws
  | createSigned payments options draws =>
      rw [WalletCall.perform, createSigned_state]
      exact hspendable.build backend (wallet.request payments options false) options.account draws
  | recordTransaction tx blockHeight =>
      exact hspendable.recordTransaction (of_decide_eq_true hordinary) blockHeight
  | recordCredit credit => cases hordinary
  | markSpent point =>
      exact hspendable.of_subset rfl fun credit hcredit => List.mem_of_mem_eraseP hcredit
  | setTip | configure | restrictInputs => exact hspendable.of_subset rfl fun _ => id

/-- The wallet was new once, and ordinary calls made it what it is. -/
def Wallet.Ordinary (backend : AccountStore σ) (wallet : Wallet σ) : Prop :=
  ∃ (seed : Seed) (kind : ScriptKind) (store created : σ) (book : AddressBook σ)
    (calls : List WalletCall),
    AddressBook.create backend seed kind store = (.ok book, created) ∧
    (∀ call ∈ calls, call.isOrdinary = true) ∧
    wallet = Wallet.reach backend calls (.ofBook book .empty)

theorem Wallet.Ordinary.spendable {backend : AccountStore σ} {wallet : Wallet σ}
    (hordinary : wallet.Ordinary backend) : wallet.Spendable := by
  obtain ⟨seed, kind, store, created, book, calls, hcreate, hcalls, rfl⟩ := hordinary
  have hnew : (Wallet.ofBook book .empty).Spendable :=
    ⟨AddressBook.unlocks_create backend hcreate, nofun, nofun⟩
  generalize Wallet.ofBook book .empty = wallet at hnew
  induction calls generalizing wallet with
  | nil => exact hnew
  | cons call rest ih =>
      exact ih (fun other hother => hcalls other (List.mem_cons_of_mem _ hother)) _
        (hnew.perform backend (hcalls call List.mem_cons_self))

end Purse
