import Purse.Proofs.Ledger
import Purse.Proofs.Ownership
import Purse.Proofs.Unspent

/-!
# A whole cycle of spending

A payment that was authored, signed and recorded takes from the ledger what it spends and puts back
what it pays the wallet itself.  The wallet is poorer by the fee and by what it paid to others.
-/

namespace Purse

open Credit

variable {σ : Type}

/-! ## What pays the wallet -/

namespace AddressBook

/-- The credits of the outputs that pay addresses of the book. -/
def receipts (book : AddressBook σ) (tx : Transaction) (blockHeight : Option UInt64) :
    List Credit :=
  tx.outputs.zipIdx.filterMap fun (output, position) =>
    (book.issuer? output.script).map fun account =>
      ⟨⟨tx.txid, UInt64.ofNat position⟩, output, account, blockHeight, false⟩

/-- What the outputs pay to scripts that the book has not handed out. -/
def foreignTotal (book : AddressBook σ) (outputs : List Output) : Nat :=
  Amount.total ((outputs.filter fun output => book.issuer? output.script = none).map Output.value)

variable {book : AddressBook σ} {tx : Transaction} {blockHeight : Option UInt64} {output : Output}
  {rest : List Output}

/-- Recording adds the receipts, since looking scripts up finds their issuers. -/
theorem ownCredits_eq_receipts (hcoherent : book.Coherent) (hseparated : book.Separated)
    (tx : Transaction) (blockHeight : Option UInt64) :
    Wallet.ownCredits book ⟨tx.txid, blockHeight, false⟩ 0 tx.outputs =
      book.receipts tx blockHeight := by
  simp only [Wallet.ownCredits, receipts, accountOf?_eq_issuer? hseparated hcoherent]
  rfl

theorem txid_of_mem_receipts {credit : Credit}
    (hcredit : credit ∈ book.receipts tx blockHeight) : credit.outpoint.txid = tx.txid := by
  obtain ⟨⟨output, position⟩, _, hcredit⟩ := List.mem_filterMap.1 hcredit
  obtain ⟨account, _, rfl⟩ := Option.map_eq_some_iff.1 hcredit
  rfl

/-- The amounts of the receipts do not depend on positions. -/
theorem map_amount_receipts (book : AddressBook σ) (tx : Transaction)
    (blockHeight : Option UInt64) :
    (book.receipts tx blockHeight).map Credit.amount =
      tx.outputs.filterMap fun output =>
        (book.issuer? output.script).map fun _ => output.value := by
  calc
    (book.receipts tx blockHeight).map Credit.amount =
        tx.outputs.zipIdx.filterMap ((fun output =>
          (book.issuer? output.script).map fun _ => output.value) ∘ Prod.fst) := by
      rw [receipts, List.map_filterMap]
      congr 1
      funext entry
      obtain ⟨output, position⟩ := entry
      cases hissuer : book.issuer? output.script with
      | none => simp only [hissuer, Function.comp_apply, Option.map_none]
      | some account => simp only [hissuer, Function.comp_apply, Option.map_some, Credit.amount]
    _ = (tx.outputs.zipIdx.map Prod.fst).filterMap fun output =>
          (book.issuer? output.script).map fun _ => output.value :=
      List.filterMap_map.symm
    _ = tx.outputs.filterMap fun output =>
          (book.issuer? output.script).map fun _ => output.value := by
      rw [List.zipIdx_map_fst]

theorem foreignTotal_cons_of_none (hforeign : book.issuer? output.script = none) :
    book.foreignTotal (output :: rest) = output.value.toNat + book.foreignTotal rest := by
  simp only [foreignTotal, List.filter_cons, hforeign, decide_true, if_true, List.map_cons,
    Amount.total]

theorem foreignTotal_cons_of_some {account : AccountId}
    (hissuer : book.issuer? output.script = some account) :
    book.foreignTotal (output :: rest) = book.foreignTotal rest := by
  simp only [foreignTotal, List.filter_cons, hissuer, reduceCtorEq, decide_false,
    Bool.false_eq_true, if_false]

theorem foreignTotal_append (book : AddressBook σ) (left right : List Output) :
    book.foreignTotal (left ++ right) = book.foreignTotal left + book.foreignTotal right := by
  rw [foreignTotal, List.filter_append, List.map_append, Amount.total_append, foreignTotal,
    foreignTotal]

/-- Each output pays the wallet or somebody else. -/
theorem worth_receipts_add_foreignTotal (book : AddressBook σ) (tx : Transaction)
    (blockHeight : Option UInt64) :
    worth (book.receipts tx blockHeight) + book.foreignTotal tx.outputs =
      Amount.total (tx.outputs.map Output.value) := by
  rw [worth, map_amount_receipts]
  induction tx.outputs with
  | nil => rfl
  | cons output rest ih =>
      rw [List.map_cons, Amount.total, ← ih]
      cases hissuer : book.issuer? output.script with
      | none =>
          rw [List.filterMap_cons_none (by rw [hissuer, Option.map_none]),
            foreignTotal_cons_of_none hissuer]
          omega
      | some account =>
          rw [List.filterMap_cons_some (by rw [hissuer, Option.map_some]),
            foreignTotal_cons_of_some hissuer, Amount.total]
          omega

end AddressBook

/-! ## What is spent -/

namespace Ledger

variable {ledger : Ledger} (hdistinct : ledger.Distinct) {credits : List Credit}
  (hnodup : (credits.map Credit.outpoint).Nodup)
  (hlisted : ∀ credit ∈ credits, credit ∈ ledger.credits)
include hdistinct hnodup hlisted

/-- Listed credits are all that the ledger lists at their outpoints. -/
theorem filter_outpoint_perm :
    (ledger.credits.filter fun credit => credit.outpoint ∈ credits.map Credit.outpoint).Perm
      credits := by
  have hledger : ledger.credits.Nodup := List.Nodup.of_map _ hdistinct
  rw [List.perm_ext_iff_of_nodup (hledger.filter _) (List.Nodup.of_map _ hnodup)]
  intro credit
  rw [List.mem_filter, decide_eq_true_iff]
  constructor
  · rintro ⟨hcredit, hpoint⟩
    obtain ⟨spent, hspent, hsame⟩ := List.mem_map.1 hpoint
    rwa [← List.inj_on_of_nodup_map hdistinct (hlisted spent hspent) hcredit hsame]
  · intro hcredit
    exact ⟨hlisted credit hcredit, List.mem_map_of_mem hcredit⟩

/-- The ledger is worth what is left of it and what is spent. -/
theorem worth_filter_add_worth :
    worth (ledger.credits.filter fun credit =>
        credit.outpoint ∉ credits.map Credit.outpoint) + worth credits =
      worth ledger.credits := by
  have hspent := worth_perm (filter_outpoint_perm hdistinct hnodup hlisted)
  have hsplit := worth_perm (List.filter_append_perm (fun credit : Credit =>
    decide (credit.outpoint ∈ credits.map Credit.outpoint)) ledger.credits)
  simp only [decide_not]
  rw [← hsplit, worth_append, hspent, add_comm]

end Ledger

namespace AuthoredTransaction.Spends

variable {authored : AuthoredTransaction} {credits : List Credit}
  (hspends : authored.Spends credits)
include hspends

/-- There are no more outputs than units that they pay. -/
theorem outputs_length_lt : authored.tx.outputs.length < UInt64.size := by
  have hpositive : ∀ amount ∈ authored.tx.outputs.map Output.value, 0 < amount := by
    refine List.forall_mem_map.2 fun output houtput => ?_
    exact UInt64.pos_iff_ne_zero.2 (hspends.outputs_positive output houtput)
  have hlength := Amount.length_le_total hpositive
  have hbalance := hspends.balance
  have hbound : authored.totalInput.toNat < UInt64.size := authored.totalInput.toNat_lt
  rw [List.length_map] at hlength
  omega

/-- What is spent comes back, goes to others or is the fee. -/
theorem worth_ledger {ledger : Ledger} (hdistinct : ledger.Distinct)
    (hlisted : ∀ credit ∈ credits, credit ∈ ledger.credits)
    (hexact : authored.totalInput.toNat = worth credits) (book : AddressBook σ)
    {tx : Transaction} (houtputs : tx.outputs = authored.tx.outputs)
    (blockHeight : Option UInt64) :
    worth ledger.credits =
      worth (ledger.credits.filter (fun credit => credit.outpoint ∉ credits.map Credit.outpoint) ++
          book.receipts tx blockHeight) +
        authored.fee.toNat + book.foreignTotal tx.outputs := by
  have hreceipts := book.worth_receipts_add_foreignTotal tx blockHeight
  have hbalance := hspends.balance
  rw [← houtputs, hexact] at hbalance
  rw [← Ledger.worth_filter_add_worth hdistinct hspends.outpoints_nodup hlisted, worth_append]
  omega

end AuthoredTransaction.Spends

namespace Wallet

variable {backend : AccountStore σ} {draws : Nat → Draws} {payments : List Payment}
  {options : Options} {wallet middle : Wallet σ} {authored : AuthoredTransaction}
  {signed : Transaction}

/-- A payment is authored and signed in one step if authoring succeeds and then signing does. -/
theorem createSigned_eq_ok_iff :
    createSigned backend draws payments options wallet = (.ok (authored, signed), middle) ↔
      author backend draws payments options false wallet = (.ok authored, middle) ∧
        signChecked middle.book authored = .ok signed := by
  rw [createSigned_eq]
  constructor
  · intro hcreate
    rcases hauthor : author backend draws payments options false wallet with
      ⟨fault | found, after⟩
    · rw [hauthor] at hcreate
      cases hcreate
    · rw [hauthor] at hcreate
      dsimp only at hcreate
      cases hsigned : signChecked after.book found with
      | error fault =>
          rw [hsigned] at hcreate
          cases hcreate
      | ok result =>
          rw [hsigned] at hcreate
          cases hcreate
          exact ⟨rfl, hsigned⟩
  · rintro ⟨hauthor, hsigned⟩
    rw [hauthor]
    dsimp only
    rw [hsigned]
    rfl

theorem signChecked_eq_ok_iff {book : AddressBook σ} :
    signChecked book authored = .ok signed ↔ sign book authored = .ok signed ∧
      ∃ totals, signed.validateSpend authored.prevScripts authored.prevValues = .ok totals := by
  rw [signChecked]
  cases sign book authored with
  | error fault => simp only [reduceCtorEq, false_and]
  | ok tx =>
      simp only [Except.ok.injEq]
      cases hvalid : tx.validateSpend authored.prevScripts authored.prevValues with
      | error fault =>
          simp only [reduceCtorEq, false_iff, not_and, not_exists]
          rintro rfl totals haccepted
          cases hvalid.symm.trans haccepted
      | ok totals =>
          constructor
          · rintro ⟨rfl⟩
            exact ⟨rfl, totals, hvalid⟩
          · rintro ⟨rfl, _⟩
            rfl

/-- What passes the check spends and pays what was authored, and is no coinbase transaction. -/
theorem sameSpend_of_signChecked {book : AddressBook σ}
    (hsigned : signChecked book authored = .ok signed) :
    authored.tx.SameSpend signed ∧ signed.isCoinbase = false := by
  obtain ⟨hsign, totals, hvalid⟩ := signChecked_eq_ok_iff.1 hsigned
  have hstructure := Transaction.checkStructure_of_validateSpend hvalid
  exact ⟨sameSpend_of_signInputs hsign, Transaction.isCoinbase_of_checkInputs
    (Transaction.checkInputs_of_checkStructure hstructure)⟩

/-- A commit pays what was asked for and then its change, to an address that the account has had
handed out for it. -/
theorem build_commit_eq_ok {request : AuthoringRequest} {account : AccountId}
    (hcommits : request.dryRun = false)
    (hbuild : build backend request account draws wallet = (.ok authored, middle)) :
    authored.tx.outputs = request.requested ++ authored.changeOutput?.toList ∧
      ∀ change, authored.changeOutput? = some change →
        middle.book.accountOf? change.script = some account := by
  cases hprepare : prepare backend request account draws wallet with
  | error fault =>
      rw [build_of_refused hprepare] at hbuild
      cases hbuild
  | ok prepared =>
      cases hchange : request.dropsChange prepared.change prepared.changeKind with
      | true =>
          rw [build_of_drops hprepare hchange] at hbuild
          cases hbuild
          exact ⟨(List.append_nil _).symm, fun _ hnone => by cases hnone⟩
      | false =>
          rw [build_of_commit hprepare hcommits hchange] at hbuild
          rcases hissue : AddressBook.issue backend account .internal wallet.book with
            ⟨cause | script, book⟩
          · rw [hissue] at hbuild
            cases hbuild
          · rw [hissue] at hbuild
            cases hbuild
            rw [changeOutput?_changing (sound_of_prepare hprepare)]
            refine ⟨rfl, fun change hsome => ?_⟩
            cases hsome
            exact AddressBook.accountOf?_of_issue hissue

/-- The signed payment spends credits of the wallet, pays what was asked for, and pays its change,
if there is any, to the account. -/
structure SignedSpend (wallet middle : Wallet σ) (payments : List Payment) (account : AccountId)
    (authored : AuthoredTransaction) (signed : Transaction) (credits : List Credit) : Prop where
  ledger_eq : middle.ledger = wallet.ledger
  spends : authored.Spends credits
  listed : ∀ credit ∈ credits, credit ∈ wallet.ledger.credits
  totalInput_eq : worth wallet.ledger.credits < UInt64.size →
    authored.totalInput.toNat = worth credits
  not_coinbase : signed.isCoinbase = false
  points_eq : signed.inputs.map Input.previousOutput = credits.map Credit.outpoint
  outputs_eq : signed.outputs = authored.tx.outputs
  paid_eq : signed.outputs = payments.map Payment.output ++ authored.changeOutput?.toList
  change_owner : ∀ change, authored.changeOutput? = some change →
    middle.book.accountOf? change.script = some account

theorem exists_signedSpend
    (hcreate : createSigned backend draws payments options wallet =
      (.ok (authored, signed), middle)) :
    ∃ credits, SignedSpend wallet middle payments options.account authored signed credits := by
  obtain ⟨hauthor, hsigned⟩ := createSigned_eq_ok_iff.1 hcreate
  obtain ⟨hsame, hcoinbase⟩ := sameSpend_of_signChecked hsigned
  obtain ⟨credits, hspends, hlisted, hexact⟩ := exists_spends_of_build hauthor
  obtain ⟨houtputs, hchange⟩ := build_commit_eq_ok rfl hauthor
  have hledger : (createSigned backend draws payments options wallet).2.ledger = wallet.ledger :=
    ledger_createSigned backend payments options draws
  rw [hcreate] at hledger
  exact ⟨credits, {
    ledger_eq := hledger
    spends := hspends
    listed := hlisted
    totalInput_eq := hexact
    not_coinbase := hcoinbase
    points_eq := by
      rw [hsame.outpoints_eq, hspends.inputs_eq, List.map_map]
      rfl
    outputs_eq := hsame.outputs_eq
    paid_eq := hsame.outputs_eq.trans houtputs
    change_owner := hchange }⟩

namespace SignedSpend

variable {account : AccountId} {credits : List Credit}
  (hspend : SignedSpend wallet middle payments account authored signed credits)
include hspend

/-- Nothing that is spent stays, and nothing that comes in takes its place. -/
theorem previousOutput_notMem (hnew : ∀ credit ∈ wallet.ledger.credits,
      credit.outpoint.txid ≠ signed.txid) (book : AddressBook σ) (blockHeight : Option UInt64)
    {input : Input} (hinput : input ∈ signed.inputs) :
    input.previousOutput ∉ (wallet.ledger.credits.filter (fun credit =>
        credit.outpoint ∉ signed.inputs.map Input.previousOutput) ++
      book.receipts signed blockHeight).map Credit.outpoint := by
  intro hmem
  have hpoint : input.previousOutput ∈ signed.inputs.map Input.previousOutput :=
    List.mem_map_of_mem hinput
  obtain ⟨credit, hcredit, hsame⟩ := List.mem_map.1 hmem
  rcases List.mem_append.1 hcredit with hkept | hreceived
  · exact of_decide_eq_true (List.mem_filter.1 hkept).2 (hsame ▸ hpoint)
  · rw [hspend.points_eq] at hpoint
    obtain ⟨spent, hspent, hsameSpent⟩ := List.mem_map.1 hpoint
    apply hnew spent (hspend.listed spent hspent)
    rw [hsameSpent, ← hsame, AddressBook.txid_of_mem_receipts hreceived]

section Issuer

variable (hcoherent : middle.book.Coherent) (hseparated : middle.book.Separated)
include hcoherent hseparated

theorem issuer?_change {change : Output} (hchange : authored.changeOutput? = some change) :
    middle.book.issuer? change.script = some account := by
  rw [← AddressBook.accountOf?_eq_issuer? hseparated hcoherent]
  exact hspend.change_owner change hchange

/-- What goes to others was asked for, since the change does not. -/
theorem foreignTotal_eq :
    middle.book.foreignTotal signed.outputs =
      middle.book.foreignTotal (payments.map Payment.output) := by
  have hchange : middle.book.foreignTotal authored.changeOutput?.toList = 0 := by
    cases hsome : authored.changeOutput? with
    | none => rfl
    | some change =>
        exact AddressBook.foreignTotal_cons_of_some
          (hspend.issuer?_change hcoherent hseparated hsome)
  rw [hspend.paid_eq, AddressBook.foreignTotal_append, hchange, Nat.add_zero]

end Issuer

end SignedSpend

/-- A signed payment that is recorded takes out of the ledger exactly what it spends, and adds one
credit for each output that pays an address of the book, the change among them.  The wallet loses
the fee and what it paid to scripts that the book has not handed out.  The book has not run out of
account numbers: `Genuine` leaves out a call that adds an account under a number in use, which none
does before 4294967295 is in use. -/
theorem recordTransaction_signed_conserves (backend : AccountStore σ) {wallet middle : Wallet σ}
    (hgenuine : wallet.book.Genuine backend) (hdistinct : wallet.ledger.Distinct)
    (hvalue : worth wallet.ledger.credits < UInt64.size) {draws : Nat → Draws}
    {payments : List Payment} {options : Options} {authored : AuthoredTransaction}
    {signed : Transaction}
    (hcreate : createSigned backend draws payments options wallet =
      (.ok (authored, signed), middle))
    (hnew : ∀ credit ∈ wallet.ledger.credits, credit.outpoint.txid ≠ signed.txid)
    (hseparated : middle.book.Separated) (blockHeight : Option UInt64) {credited : Nat}
    {after : Wallet σ}
    (hrecord : middle.recordTransaction signed blockHeight = (credited, after)) :
    (∀ input ∈ signed.inputs, input.previousOutput ∉ after.ledger.points) ∧
    after.ledger.credits =
      wallet.ledger.credits.filter (fun credit =>
          credit.outpoint ∉ signed.inputs.map Input.previousOutput) ++
        middle.book.receipts signed blockHeight ∧
    credited = (middle.book.receipts signed blockHeight).length ∧
    after.ledger.tipHeight = wallet.ledger.tipHeight ∧
    after.book = middle.book ∧
    (∀ change, authored.changeOutput? = some change → change ∈ signed.outputs ∧
      middle.book.issuer? change.script = some options.account) ∧
    worth wallet.ledger.credits =
      worth after.ledger.credits + authored.fee.toNat +
        middle.book.foreignTotal (payments.map Payment.output) := by
  obtain ⟨credits, hspend⟩ := exists_signedSpend hcreate
  have hcoherent : middle.book.Coherent := by
    have hafter := genuine_perform hgenuine (.createSigned payments options draws) trivial
    rw [WalletCall.perform, hcreate] at hafter
    exact hafter.coherent
  have hroom : signed.outputs.length ≤ UInt64.size := by
    rw [hspend.outputs_eq]
    exact hspend.spends.outputs_length_lt.le
  have hledger := hspend.ledger_eq
  have hrecorded := recordTransaction_eq middle (hledger ▸ hdistinct) hspend.not_coinbase
    (hledger ▸ hnew) hroom blockHeight
  rw [AddressBook.ownCredits_eq_receipts hcoherent hseparated, hrecord, hledger] at hrecorded
  obtain ⟨rfl, rfl⟩ := Prod.mk.inj hrecorded
  refine ⟨?_, rfl, rfl, rfl, rfl, ?_, ?_⟩
  · intro input hinput
    exact hspend.previousOutput_notMem hnew middle.book blockHeight hinput
  · intro change hchange
    refine ⟨?_, hspend.issuer?_change hcoherent hseparated hchange⟩
    rw [hspend.paid_eq, hchange]
    exact List.mem_append_right _ List.mem_cons_self
  · rw [hspend.points_eq, ← hspend.foreignTotal_eq hcoherent hseparated]
    exact hspend.spends.worth_ledger hdistinct hspend.listed (hspend.totalInput_eq hvalue)
      middle.book hspend.outputs_eq blockHeight

/-! ## A payment to oneself and to others -/

/-- What the wallet asks for: 30000 to its own address, and 20000 to somebody else's. -/
def mixedPayments : List Payment :=
  [⟨ownScript, 30000⟩, ⟨⟨.p2wpkh, Digest.zero⟩, 20000⟩]

def mixedOptions : Options :=
  ⟨.default, 1, ⟨1000⟩, .random⟩

/-- The first change address that the book hands out. -/
def changeScript : Script :=
  KeyChain.script ⟨default⟩ ⟨.default, .internal, 0⟩ .p2wpkh

/-- What the wallet authors: the change is 49828, and the fee is 172. -/
def mixed : AuthoredTransaction where
  tx := ⟨Transaction.currentVersion, [.unsigned ⟨incoming.txid, 0⟩],
    [⟨30000, ownScript⟩, ⟨20000, ⟨.p2wpkh, Digest.zero⟩⟩, ⟨49828, changeScript⟩], 0⟩
  changeIndex := some 2
  totalInput := 100000
  fee := 172
  prevScripts := [ownScript]
  prevValues := [100000]

/-- The wallet once the change address has been handed out. -/
def mixedWallet : Wallet MemoryStore.State :=
  { receivingWallet with
    book := (AddressBook.issue MemoryStore.store .default .internal receivingBook).2 }

theorem author_receivingWallet_mixed :
    author MemoryStore.store (fun _ => []) mixedPayments mixedOptions false receivingWallet =
      (.ok mixed, mixedWallet) :=
  rfl

def mixedSigned : Transaction :=
  { mixed.tx with
    inputs := [⟨⟨incoming.txid, 0⟩,
      [8, 83, 154, 22, 13, 177, 58, 202, 139, 141, 213, 119, 218, 153, 119, 135,
        44, 48, 210, 188, 74, 19, 182, 108, 65, 174, 176, 12, 141, 34, 4, 44,
        45, 131, 20, 169, 101, 50, 126, 223, 14, 93, 148, 17, 112, 187, 168, 70,
        36, 28, 234, 206, 254, 172, 85, 138, 5, 138, 177, 99, 213, 220, 151, 3],
      [123, 44, 232, 147, 245, 19, 128, 251, 47, 196, 254, 246, 121, 20, 209, 142,
        47, 24, 137, 210, 57, 83, 174, 102, 196, 72, 231, 205, 113, 192, 22, 164]⟩] }

-- keys, digests, a signature and its verification, which the kernel computes
set_option maxRecDepth 100000 in
/-- The payment is signed and passes its check, and its digests are told apart. -/
theorem signChecked_mixed :
    signChecked mixedWallet.book mixed = .ok mixedSigned ∧
      incoming.txid ≠ mixedSigned.txid ∧
      changeScript.pubkeyHash ≠ ownScript.pubkeyHash ∧
      changeScript.pubkeyHash ≠ Digest.zero := by
  decide +kernel

theorem eq_of_issued_mixedWallet {path : KeyPath} (hissued : mixedWallet.book.Issued path) :
    path = ⟨.default, .external, 0⟩ ∨ path = ⟨.default, .internal, 0⟩ := by
  obtain ⟨account, branch, index⟩ := path
  obtain ⟨record, hrecord, hindex⟩ := hissued
  have hentries : mixedWallet.book.records.entries = [(.default, ⟨.p2wpkh, 1, 1⟩)] := rfl
  rw [Registry.get?_eq_some_iff_mem, hentries, List.mem_singleton] at hrecord
  cases hrecord
  have hzero {next : UInt32} (hnext : next = 1) (hindex : index.toNat < next.toNat) :
      index = 0 := by
    rw [hnext, UInt32.toNat_one, Nat.lt_one_iff] at hindex
    exact UInt32.toNat_inj.1 hindex
  cases branch with
  | external =>
      cases hzero rfl hindex
      exact Or.inl rfl
  | internal =>
      cases hzero rfl hindex
      exact Or.inr rfl

theorem separated_mixedWallet : mixedWallet.book.Separated := by
  intro first second hfirst hsecond hdigest
  have hdistinct := signChecked_mixed.2.2.1
  rcases eq_of_issued_mixedWallet hfirst with rfl | rfl
  · rcases eq_of_issued_mixedWallet hsecond with rfl | rfl
    · rfl
    · exact absurd hdigest.symm hdistinct
  · rcases eq_of_issued_mixedWallet hsecond with rfl | rfl
    · exact absurd hdigest hdistinct
    · rfl

theorem issuer?_ownScript : mixedWallet.book.issuer? ownScript = some .default :=
  (AddressBook.issuer?_eq_some_iff separated_mixedWallet).2 (AddressBook.lists_iff.2
    ⟨⟨.p2wpkh, 1, 1⟩, ⟨.default, .external, 0⟩, rfl, by decide, rfl⟩)

theorem issuer?_changeScript : mixedWallet.book.issuer? changeScript = some .default :=
  (AddressBook.issuer?_eq_some_iff separated_mixedWallet).2 (AddressBook.lists_iff.2
    ⟨⟨.p2wpkh, 1, 1⟩, ⟨.default, .internal, 0⟩, rfl, by decide, rfl⟩)

theorem issuer?_zero : mixedWallet.book.issuer? ⟨.p2wpkh, Digest.zero⟩ = none := by
  rw [Option.eq_none_iff_forall_ne_some]
  intro account hissuer
  obtain ⟨path, hissued, _, hdigest⟩ := AddressBook.exists_issued_of_lists
    ((AddressBook.issuer?_eq_some_iff separated_mixedWallet).1 hissuer)
  rcases eq_of_issued_mixedWallet hissued with rfl | rfl
  · exact ownScript_pubkeyHash_ne_zero hdigest
  · exact signChecked_mixed.2.2.2 hdigest

/-- Two of the three outputs pay the wallet. -/
theorem length_receipts_mixedSigned (blockHeight : Option UInt64) :
    (mixedWallet.book.receipts mixedSigned blockHeight).length = 2 := by
  have houtputs : mixedSigned.outputs =
      [⟨30000, ownScript⟩, ⟨20000, ⟨.p2wpkh, Digest.zero⟩⟩, ⟨49828, changeScript⟩] := rfl
  rw [← List.length_map, AddressBook.map_amount_receipts, houtputs,
    List.filterMap_cons_some (by rw [issuer?_ownScript, Option.map_some]),
    List.filterMap_cons_none (by rw [issuer?_zero, Option.map_none]),
    List.filterMap_cons_some (by rw [issuer?_changeScript, Option.map_some])]
  rfl

/-- One of the two payments goes to somebody else. -/
theorem foreignTotal_mixedPayments :
    mixedWallet.book.foreignTotal (mixedPayments.map Payment.output) = 20000 := by
  have houtputs : mixedPayments.map Payment.output =
      [⟨30000, ownScript⟩, ⟨20000, ⟨.p2wpkh, Digest.zero⟩⟩] := rfl
  have hown : mixedWallet.book.issuer? (Output.mk 30000 ownScript).script = some .default :=
    issuer?_ownScript
  have hforeign : mixedWallet.book.issuer? (Output.mk 20000 ⟨.p2wpkh, Digest.zero⟩).script =
      none := issuer?_zero
  rw [houtputs, AddressBook.foreignTotal_cons_of_some hown,
    AddressBook.foreignTotal_cons_of_none hforeign]
  rfl

theorem genuine_receivingBook : receivingBook.Genuine MemoryStore.store := by
  have hcreated : AddressBook.create MemoryStore.store default .p2wpkh none =
      (.ok .inMemory, some (AddressBook.initialData default .p2wpkh)) := rfl
  have hissued := (AddressBook.Genuine.created hcreated).performed (.newAddress .default) trivial
  rw [BookCall.perform, Action.bind_pure_state] at hissued
  exact hissued

theorem createSigned_receivingWallet_mixed :
    createSigned MemoryStore.store (fun _ => []) mixedPayments mixedOptions receivingWallet =
      (.ok (mixed, mixedSigned), mixedWallet) :=
  createSigned_eq_ok_iff.2 ⟨author_receivingWallet_mixed, signChecked_mixed.1⟩

theorem txid_ne_mixedSigned : ∀ credit ∈ receivingWallet.ledger.credits,
    credit.outpoint.txid ≠ mixedSigned.txid := by
  intro credit hcredit
  cases List.mem_singleton.1 hcredit
  exact signChecked_mixed.2.1

theorem worth_receivingWallet : worth receivingWallet.ledger.credits = 100000 := rfl

/-- Of 100000 the wallet keeps 79828: it pays 20000 to somebody else and a fee of 172. -/
theorem recordTransaction_mixedSigned_conserves :
    createSigned MemoryStore.store (fun _ => []) mixedPayments mixedOptions receivingWallet =
        (.ok (mixed, mixedSigned), mixedWallet) ∧
      receivingWallet.book.Genuine MemoryStore.store ∧ receivingWallet.ledger.Distinct ∧
      worth receivingWallet.ledger.credits = 100000 ∧
      (∀ credit ∈ receivingWallet.ledger.credits, credit.outpoint.txid ≠ mixedSigned.txid) ∧
      mixedWallet.book.Separated ∧
      ∃ after, mixedWallet.recordTransaction mixedSigned (some 11) = (2, after) ∧
        worth after.ledger.credits = 79828 := by
  have hworth := worth_receivingWallet
  have hvalue : worth receivingWallet.ledger.credits < UInt64.size := by
    rw [hworth]
    decide
  have hcreate := createSigned_receivingWallet_mixed
  have hnew := txid_ne_mixedSigned
  rcases hrecord : mixedWallet.recordTransaction mixedSigned (some 11) with ⟨credited, after⟩
  obtain ⟨_, _, hcredited, _, _, _, hconserved⟩ :=
    recordTransaction_signed_conserves MemoryStore.store genuine_receivingBook
      distinct_receivingWallet hvalue hcreate hnew separated_mixedWallet (some 11) hrecord
  have hfee : mixed.fee.toNat = 172 := rfl
  rw [length_receipts_mixedSigned] at hcredited
  rw [hworth, hfee, foreignTotal_mixedPayments] at hconserved
  exact ⟨hcreate, genuine_receivingBook, distinct_receivingWallet, hworth, hnew,
    separated_mixedWallet, after, by rw [hcredited], by omega⟩

end Wallet

end Purse
