import Purse.Proofs.FeeAdequacy
import Purse.Proofs.Signing
import Purse.Proofs.Spendable

/-!
# Signed transactions pass their check

What a wallet authors from credits that it can spend, it can also sign.  The signed transaction is
then consistent, so that nothing but its length is left for the check to refuse.
-/

namespace Purse

open Credit

variable {σ : Type}

/-! ## What an authored transaction spends -/

/-- The authored transaction spends the credits, in their order, and leaves nothing over. -/
structure AuthoredTransaction.Spends (authored : AuthoredTransaction) (credits : List Credit) :
    Prop where
  inputs_eq : authored.tx.inputs = credits.map fun credit => .unsigned credit.outpoint
  scripts_eq : authored.prevScripts = credits.map Credit.script
  values_eq : authored.prevValues = credits.map Credit.amount
  credits_ne_nil : credits ≠ []
  outpoints_nodup : (credits.map Credit.outpoint).Nodup
  outputs_ne_nil : authored.tx.outputs ≠ []
  outputs_positive : ∀ output ∈ authored.tx.outputs, output.value ≠ 0
  balance : authored.totalInput.toNat =
    Amount.total (authored.tx.outputs.map Output.value) + authored.fee.toNat

namespace AuthoringRequest.Sound

variable {request : AuthoringRequest} {prepared : Prepared} (hsound : request.Sound prepared)
include hsound

theorem requested_ne_nil : request.requested ≠ [] := by
  intro hnil
  have htotal := hsound.totalOut_eq
  have hpositive := hsound.totalOut_pos
  rw [hnil] at htotal
  exact absurd htotal hpositive.ne'

theorem requested_positive : ∀ output ∈ request.requested, output.value ≠ 0 := by
  intro output houtput
  obtain ⟨payment, hpayment, rfl⟩ := List.mem_map.1 houtput
  exact UInt64.pos_iff_ne_zero.1 (hsound.positive payment hpayment)

theorem outpoints_nodup : (prepared.funding.selection.selected.map Credit.outpoint).Nodup := by
  obtain ⟨_, _, hfunded⟩ := hsound.funded
  exact hfunded.outpoints_nodup hsound.distinct

theorem unchanging_spends :
    (request.unchanging prepared).Spends prepared.funding.selection.selected where
  inputs_eq := rfl
  scripts_eq := rfl
  values_eq := rfl
  credits_ne_nil := hsound.selected_ne_nil
  outpoints_nodup := hsound.outpoints_nodup
  outputs_ne_nil := hsound.requested_ne_nil
  outputs_positive := hsound.requested_positive
  balance := hsound.balance_of_drops

theorem changing_spends
    (hkeeps : request.dropsChange prepared.change prepared.changeKind = false) (script : Script) :
    (request.changing prepared script).Spends prepared.funding.selection.selected where
  inputs_eq := rfl
  scripts_eq := rfl
  values_eq := rfl
  credits_ne_nil := hsound.selected_ne_nil
  outpoints_nodup := hsound.outpoints_nodup
  outputs_ne_nil := List.append_ne_nil_of_right_ne_nil _ (List.cons_ne_nil _ _)
  outputs_positive := by
    intro output houtput
    rcases List.mem_append.1 houtput with hrequested | hchange
    · exact hsound.requested_positive output hrequested
    · cases List.mem_singleton.1 hchange
      exact UInt64.pos_iff_ne_zero.1 (dropsChange_eq_false_iff.1 hkeeps).1
  balance := hsound.balance_of_keeps script

/-- What is selected stands among the eligible credits, each at most as often. -/
theorem selected_subperm :
    prepared.funding.selection.selected.Subperm prepared.eligible := by
  obtain ⟨draws, _, hfunded⟩ := hsound.funded
  have hbegins := hfunded.shortest.begins.sublist.subperm
  have hordered := (Selection.arrange_perm request.strategy draws
    (Selection.candidates prepared.eligible request.feeRate)).subperm
  exact (hbegins.trans hordered).trans List.filter_sublist.subperm

/-- The total is exact where the credits are worth less than 2^64. -/
theorem total_eq_worth (hsize : worth prepared.funding.selection.selected < UInt64.size) :
    prepared.funding.selection.total.toNat = worth prepared.funding.selection.selected := by
  obtain ⟨_, _, hfunded⟩ := hsound.funded
  exact hfunded.shortest.total_eq_worth hsize

end AuthoringRequest.Sound

namespace Wallet

variable {backend : AccountStore σ} {request : AuthoringRequest} {account : AccountId}
  {draws : Nat → Draws} {wallet after : Wallet σ} {authored : AuthoredTransaction}

/-- A wallet authors from the credits of its ledger, and counts them in full where they are worth
less than 2^64. -/
theorem exists_spends_of_build
    (hbuild : build backend request account draws wallet = (.ok authored, after)) :
    ∃ credits, authored.Spends credits ∧ (∀ credit ∈ credits, credit ∈ wallet.ledger.credits) ∧
      (worth wallet.ledger.credits < UInt64.size →
        authored.totalInput.toNat = worth credits) := by
  obtain ⟨prepared, hprepare, hend⟩ := build_eq_ok hbuild
  have hsound := sound_of_prepare hprepare
  have hsubperm : prepared.funding.selection.selected.Subperm wallet.ledger.credits := by
    have heligible := hsound.selected_subperm
    rw [(prepare_eq_ok hprepare).2] at heligible
    exact heligible.trans ((Eligibility.filter_sublist _ _ _).trans List.filter_sublist).subperm
  have hexact (hsize : worth wallet.ledger.credits < UInt64.size) :
      prepared.funding.selection.total.toNat = worth prepared.funding.selection.selected :=
    hsound.total_eq_worth (lt_of_le_of_lt (worth_le_of_subperm hsubperm) hsize)
  refine ⟨prepared.funding.selection.selected, ?_,
    fun credit hcredit => hsubperm.subset hcredit, ?_⟩
  · rcases hend with rfl | ⟨hkeeps, script, rfl⟩
    · exact hsound.unchanging_spends
    · exact hsound.changing_spends hkeeps script
  · rcases hend with rfl | ⟨_, script, rfl⟩
    · exact hexact
    · exact hexact

end Wallet

/-! ## Signing what was authored -/

section Signing

variable {book : AddressBook σ} {authored : AuthoredTransaction} {credits : List Credit}

/-- Each of the credits is spent by an input that the key of its script has signed. -/
structure SignsCredits (book : AddressBook σ) (authored : AuthoredTransaction)
    (credits : List Credit) (signed : Transaction) : Prop where
  sameSpend : authored.tx.SameSpend signed
  signedBy : ∀ position credit, credits[position]? = some credit →
    ∃ pair, book.keyPairFor? credit.script = some pair ∧
      pair.publicKey.hash = credit.script.pubkeyHash ∧
      signed.inputs[position]? = some ((Input.unsigned credit.outpoint).signedBy pair
        (authored.tx.signingMessage position credit.script credit.amount))

/-- A book that knows the scripts of the spent credits signs for all of them. -/
theorem AuthoredTransaction.Spends.exists_sign (hspends : authored.Spends credits)
    (hunlocks : book.Unlocks) (hknown : ∀ credit ∈ credits, book.Knows credit.script) :
    ∃ signed, Wallet.sign book authored = .ok signed ∧
      SignsCredits book authored credits signed := by
  have hspent : authored.prevScripts.zip authored.prevValues =
      credits.map fun credit => (credit.script, credit.amount) := by
    rw [hspends.scripts_eq, hspends.values_eq, List.zip_map']
  have hkeys : ∀ script value, (script, value) ∈ authored.prevScripts.zip authored.prevValues →
      ∃ pair, book.keyPairFor? script = some pair := by
    intro script value hmem
    rw [hspent] at hmem
    obtain ⟨credit, hcredit, heq⟩ := List.mem_map.1 hmem
    cases heq
    obtain ⟨pair, hpair, _⟩ := AddressBook.exists_keyPairFor? hunlocks (hknown credit hcredit)
    exact ⟨pair, hpair⟩
  have hroom : 0 + (authored.prevScripts.zip authored.prevValues).length ≤
      authored.tx.inputs.length := by
    rw [hspent, hspends.inputs_eq, List.length_map, List.length_map, Nat.zero_add]
  obtain ⟨signed, hsigned, hsame, _, hinputs⟩ :=
    Wallet.exists_signInputs_eq_ok book hkeys hroom
  refine ⟨signed, hsigned, hsame, fun position credit hcredit => ?_⟩
  obtain ⟨pair, input, hpair, hinput, hsignedInput⟩ :=
    hinputs position credit.script credit.amount (by rw [hspent, List.getElem?_map, hcredit]; rfl)
  obtain ⟨found, hfound, hdigest⟩ :=
    AddressBook.exists_keyPairFor? hunlocks (hknown credit (List.mem_of_getElem? hcredit))
  cases hpair.symm.trans hfound
  rw [hspends.inputs_eq, Nat.zero_add, List.getElem?_map, hcredit] at hinput
  cases hinput
  rw [Nat.zero_add] at hsignedInput
  exact ⟨pair, hpair, hdigest, hsignedInput⟩

/-- With signatures that their keys accept, the signed transaction is consistent. -/
theorem SignsCredits.consistent {signed : Transaction}
    (hsigns : SignsCredits book authored credits signed) (hspends : authored.Spends credits)
    (hnull : ∀ credit ∈ credits, credit.outpoint.isNull = false)
    (hexact : authored.totalInput.toNat = worth credits)
    (haccepts : ∀ index script value pair, authored.prevScripts[index]? = some script →
      authored.prevValues[index]? = some value → book.keyPairFor? script = some pair →
        pair.acceptsOwn (authored.tx.signingMessage index script value) = true) :
    signed.Consistent authored.prevScripts authored.prevValues
      ⟨authored.totalInput, authored.totalInput - authored.fee, authored.fee⟩ := by
  have hlength : signed.inputs.length = credits.length := by
    rw [hsigns.sameSpend.length_eq, hspends.inputs_eq, List.length_map]
  have houtput : (authored.totalInput - authored.fee).toNat =
      Amount.total (signed.outputs.map Output.value) := by
    have hbalance := hspends.balance
    rw [hsigns.sameSpend.outputs_eq, Amount.toNat_sub_of_le (by omega)]
    omega
  exact {
    scripts_length := by rw [hspends.scripts_eq, List.length_map, hlength]
    values_length := by rw [hspends.values_eq, List.length_map, hlength]
    inputs_ne_nil := by
      intro hnil
      rw [hnil] at hlength
      exact hspends.credits_ne_nil (List.eq_nil_of_length_eq_zero hlength.symm)
    outputs_ne_nil := hsigns.sameSpend.outputs_eq ▸ hspends.outputs_ne_nil
    outputs_positive := hsigns.sameSpend.outputs_eq ▸ hspends.outputs_positive
    inputs_spending := by
      intro input hinput
      obtain ⟨position, hposition⟩ := List.mem_iff_getElem?.1 hinput
      have hbound : position < credits.length :=
        hlength ▸ (List.getElem?_eq_some_iff.1 hposition).1
      obtain ⟨pair, _, _, hsigned⟩ := hsigns.signedBy position _ (List.getElem?_eq_getElem hbound)
      cases hposition.symm.trans hsigned
      exact Input.spending_signedBy (hnull _ (List.getElem_mem hbound)) pair _
    outpoints_nodup := by
      rw [hsigns.sameSpend.outpoints_eq, hspends.inputs_eq, List.map_map]
      exact hspends.outpoints_nodup
    verified := by
      intro position script value hspent
      rw [hspends.scripts_eq, hspends.values_eq, List.zip_map', List.getElem?_map] at hspent
      obtain ⟨credit, hcredit, heq⟩ := Option.map_eq_some_iff.1 hspent
      cases heq
      obtain ⟨pair, hpair, hdigest, hsigned⟩ := hsigns.signedBy position credit hcredit
      refine Transaction.verifyInput_of_signedBy hsigns.sameSpend hsigned hdigest ?_
      exact haccepts position credit.script credit.amount pair
        (by rw [hspends.scripts_eq, List.getElem?_map, hcredit]; rfl)
        (by rw [hspends.values_eq, List.getElem?_map, hcredit]; rfl) hpair
    totalInput_eq := by rw [hexact, hspends.values_eq, worth]
    totalOutput_eq := houtput
    balance := by rw [houtput, hsigns.sameSpend.outputs_eq, hspends.balance] }

end Signing

namespace Wallet

/-- What an ordinary wallet authors it can sign, as long as its credits are worth less than 2^64 and
the keys of the spent scripts accept their own signatures. The check of the signed transaction then
confirms the totals of the authored one, or finds it too long. -/
theorem author_passes_selfCheck (backend : AccountStore σ) {wallet after : Wallet σ}
    (hordinary : wallet.Ordinary backend)
    (hvalue : worth wallet.ledger.credits < UInt64.size)
    {draws : Nat → Draws} {payments : List Payment} {options : Options} {dryRun : Bool}
    {authored : AuthoredTransaction}
    (hauthor : author backend draws payments options dryRun wallet = (.ok authored, after))
    (haccepts : ∀ index script value pair, authored.prevScripts[index]? = some script →
      authored.prevValues[index]? = some value → after.book.keyPairFor? script = some pair →
        pair.acceptsOwn (authored.tx.signingMessage index script value) = true) :
    ∃ signed, sign after.book authored = .ok signed ∧
      signed.validateSpend authored.prevScripts authored.prevValues =
        if signed.encode.length > Transaction.maxSize then
          .error (.oversized signed.encode.length Transaction.maxSize)
        else .ok ⟨authored.totalInput, authored.totalInput - authored.fee, authored.fee⟩ := by
  have hspendable := hordinary.spendable
  obtain ⟨credits, hspends, hcredits, hexact⟩ := exists_spends_of_build hauthor
  have hafter : after.Spendable := by
    have hbuilt := hspendable.build backend (wallet.request payments options dryRun)
      options.account draws
    rwa [← author_eq_build, hauthor] at hbuilt
  have hledger : after.ledger = wallet.ledger :=
    (congrArg (fun result => result.2.ledger) hauthor).symm
  have hknown : ∀ credit ∈ credits, after.book.Knows credit.script := fun credit hcredit =>
    hafter.known credit (hledger ▸ hcredits credit hcredit)
  have hnull : ∀ credit ∈ credits, credit.outpoint.isNull = false := fun credit hcredit =>
    hspendable.not_null credit (hcredits credit hcredit)
  obtain ⟨signed, hsigned, hsigns⟩ := hspends.exists_sign hafter.unlocks hknown
  have hconsistent := hsigns.consistent hspends hnull (hexact hvalue) haccepts
  exact ⟨signed, hsigned, hconsistent.validateSpend_eq⟩

/-! ## A payment received and spent -/

/-- The first address that the book in memory hands out. -/
def ownScript : Script :=
  KeyChain.script ⟨default⟩ ⟨.default, .external, 0⟩ .p2wpkh

/-- A transaction that pays 100000 to the address. -/
def incoming : Transaction :=
  ⟨Transaction.currentVersion, [.unsigned ⟨Digest.zero, 0⟩], [⟨100000, ownScript⟩], 0⟩

def receivingCalls : List WalletCall :=
  [.addresses (.newAddress .default), .setTip 10, .recordTransaction incoming (some 5)]

/-- The book once the address has been handed out. -/
def receivingBook : AddressBook MemoryStore.State :=
  (AddressBook.issue MemoryStore.store .default .external .inMemory).2

theorem pathOf?_ownScript :
    receivingBook.pathOf? ownScript = some ⟨.default, .external, 0⟩ := by
  have howned : receivingBook.owned = [(ownScript.pubkeyHash, ⟨.default, .external, 0⟩)] := rfl
  rw [AddressBook.pathOf?, howned, List.lookup_cons_self]

theorem accountOf?_ownScript : receivingBook.accountOf? ownScript = some .default := by
  rw [AddressBook.accountOf?, pathOf?_ownScript]
  rfl

/-- The wallet once the transaction has been recorded. -/
def receivingWallet : Wallet MemoryStore.State :=
  ⟨receivingBook, ⟨10, [⟨⟨incoming.txid, 0⟩, ⟨100000, ownScript⟩, .default, some 5, false⟩]⟩,
    .standard, none⟩

/-- Recording the transaction adds its output to a ledger without credits. -/
theorem recordTransaction_incoming :
    (recordTransaction ⟨receivingBook, ⟨10, []⟩, .standard, none⟩ incoming (some 5)).2 =
      receivingWallet := by
  have hcoinbase : incoming.isCoinbase = false := by decide
  have hspent : spendInputs ⟨10, []⟩ incoming.inputs = ⟨10, []⟩ := rfl
  have houtputs : incoming.outputs = [⟨100000, ownScript⟩] := rfl
  have hcredited (template : CreditTemplate) :
      (creditOutputs receivingBook template 0 ⟨10, []⟩ [⟨100000, ownScript⟩]).2 =
        ⟨10, [template.credit 0 ⟨100000, ownScript⟩ .default]⟩ :=
    creditOutputs_singleton accountOf?_ownScript template 0 ⟨10, []⟩ 100000
  rw [recordTransaction_state, hcoinbase, if_neg Bool.false_ne_true, hspent, houtputs, hcredited]
  rfl

theorem reach_receivingCalls :
    reach MemoryStore.store receivingCalls (.ofBook .inMemory .empty) = receivingWallet := by
  have hbook : ((BookCall.newAddress .default).perform MemoryStore.store .inMemory).2 =
      receivingBook := by
    rw [BookCall.perform, Action.bind_pure_state]
    rfl
  have hissued : (WalletCall.addresses (.newAddress .default)).perform MemoryStore.store
      (.ofBook .inMemory .empty) = ⟨receivingBook, .empty, .standard, none⟩ :=
    congrArg (fun book => (⟨book, .empty, .standard, none⟩ : Wallet MemoryStore.State)) hbook
  have htip : (WalletCall.setTip 10).perform MemoryStore.store
      ⟨receivingBook, .empty, .standard, none⟩ = ⟨receivingBook, ⟨10, []⟩, .standard, none⟩ := rfl
  rw [reach, receivingCalls, List.foldl_cons, hissued, List.foldl_cons, htip, List.foldl_cons,
    WalletCall.perform, recordTransaction_incoming, List.foldl_nil]

/-- What the wallet authors for a payment of 99800, which leaves no change worth keeping. -/
def outgoing : AuthoredTransaction where
  tx := ⟨Transaction.currentVersion, [.unsigned ⟨incoming.txid, 0⟩],
    [⟨99800, ⟨.p2wpkh, Digest.zero⟩⟩], 0⟩
  changeIndex := none
  totalInput := 100000
  fee := 200
  prevScripts := [ownScript]
  prevValues := [100000]

theorem author_receivingWallet :
    author MemoryStore.store (fun _ => []) [⟨⟨.p2wpkh, Digest.zero⟩, 99800⟩]
      ⟨.default, 1, ⟨1000⟩, .random⟩ false receivingWallet = (.ok outgoing, receivingWallet) :=
  rfl

-- one signature and its verification, which the kernel computes
set_option maxRecDepth 100000 in
/-- The key of the address accepts what it signs for the payment. -/
theorem ownKey_accepts :
    (KeyChain.keyPair ⟨default⟩ ⟨.default, .external, 0⟩).acceptsOwn
      (outgoing.tx.signingMessage 0 ownScript 100000) = true := by
  decide +kernel

/-- The payment is signed and passes the check with a fee of 200. -/
theorem author_receivingWallet_passes_selfCheck :
    ∃ signed, sign receivingWallet.book outgoing = .ok signed ∧
      signed.validateSpend [ownScript] [100000] =
        if signed.encode.length > Transaction.maxSize then
          .error (.oversized signed.encode.length Transaction.maxSize)
        else .ok ⟨100000, 99800, 200⟩ := by
  have hordinary : receivingWallet.Ordinary MemoryStore.store :=
    ⟨default, .p2wpkh, none, _, .inMemory, receivingCalls, rfl, by decide,
      reach_receivingCalls.symm⟩
  have hvalue : worth receivingWallet.ledger.credits < UInt64.size := by decide
  refine author_passes_selfCheck MemoryStore.store hordinary hvalue author_receivingWallet ?_
  intro index script value pair hscript hvalue hpair
  cases index with
  | zero =>
      cases hscript
      cases hvalue
      rw [AddressBook.keyPairFor?, receivingWallet, pathOf?_ownScript] at hpair
      cases hpair
      exact ownKey_accepts
  | succ index => cases hscript

end Wallet

end Purse
