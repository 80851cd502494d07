import Purse.Proofs.Ledger
import Purse.Proofs.SelfCheck

/-!
# Spent outpoints

A ledger forgets an outpoint once it is spent.  Whether it lists the outpoint after a run of calls
depends only on the call that touched it last: recording the outpoint's own transaction once more
lists it again, whatever has been spent before.
-/

namespace Purse

open Ledger

variable {σ : Type}

namespace WalletCall

/-- The call takes the outpoint out of the ledger. -/
def Spends (point : OutPoint) : WalletCall → Prop
  | .recordTransaction tx _ =>
      tx.isCoinbase = false ∧ point ∈ tx.inputs.map Input.previousOutput
  | .markSpent spent => point = spent
  | _ => False

instance (call : WalletCall) (point : OutPoint) : Decidable (call.Spends point) :=
  match call with
  | .recordTransaction tx _ =>
      inferInstanceAs (Decidable
        (tx.isCoinbase = false ∧ point ∈ tx.inputs.map Input.previousOutput))
  | .markSpent spent => inferInstanceAs (Decidable (point = spent))
  | .addresses _ | .build .. | .author .. | .createSigned .. | .recordCredit _ | .setTip _
  | .configure _ | .restrictInputs _ => inferInstanceAs (Decidable False)

/-- The call puts a credit at the outpoint, unless there is one. -/
def Credits (book : AddressBook σ) (point : OutPoint) : WalletCall → Prop
  | .recordTransaction tx _ =>
      ∃ position output account, tx.outputs[position]? = some output ∧
        book.accountOf? output.script = some account ∧
        point = ⟨tx.txid, UInt64.ofNat position⟩
  | .recordCredit credit => point = credit.outpoint
  | _ => False

end WalletCall

namespace Wallet

/-! ## One call -/

section Step

variable (backend : AccountStore σ) {wallet : Wallet σ}

variable (hdistinct : wallet.ledger.Distinct)
include hdistinct

theorem distinct_recordTransaction (tx : Transaction) (blockHeight : Option UInt64) :
    (wallet.recordTransaction tx blockHeight).2.ledger.Distinct := by
  rw [recordTransaction_state]
  refine distinct_creditOutputs ?_
  split
  · exact hdistinct
  · exact distinct_spendInputs hdistinct tx.inputs

theorem mem_points_recordTransaction {point : OutPoint} (tx : Transaction)
    (blockHeight : Option UInt64) :
    point ∈ (wallet.recordTransaction tx blockHeight).2.ledger.points ↔
      (WalletCall.recordTransaction tx blockHeight).Credits wallet.book point ∨
        point ∈ wallet.ledger.points ∧
          ¬ (WalletCall.recordTransaction tx blockHeight).Spends point := by
  have hcredited : point ∈ (ownCredits wallet.book ⟨tx.txid, blockHeight, tx.isCoinbase⟩ 0
      tx.outputs).map Credit.outpoint ↔
        (WalletCall.recordTransaction tx blockHeight).Credits wallet.book point := by
    simp only [List.mem_map, mem_ownCredits, Nat.zero_add, WalletCall.Credits]
    constructor
    · rintro ⟨_, ⟨position, output, account, houtput, howner, rfl⟩, rfl⟩
      exact ⟨position, output, account, houtput, howner, rfl⟩
    · rintro ⟨position, output, account, houtput, howner, rfl⟩
      exact ⟨_, ⟨position, output, account, houtput, howner, rfl⟩, rfl⟩
  rw [recordTransaction_state, mem_points_creditOutputs, hcredited, or_comm, WalletCall.Spends]
  cases tx.isCoinbase with
  | true => simp only [if_true, Bool.true_eq_false, false_and, not_false_eq_true, and_true]
  | false =>
      simp only [Bool.false_eq_true, if_false, true_and]
      rw [mem_points_spendInputs hdistinct]

/-- No call lists an outpoint twice. -/
theorem distinct_perform (call : WalletCall) :
    (call.perform backend wallet).ledger.Distinct := by
  cases call with
  | addresses | setTip | configure | restrictInputs => exact hdistinct
  | build request account draws =>
      rw [WalletCall.perform, ledger_build]
      exact hdistinct
  | author payments options dryRun draws =>
      rw [WalletCall.perform, author_eq_build, ledger_build]
      exact hdistinct
  | createSigned payments options draws =>
      rw [WalletCall.perform, ledger_createSigned]
      exact hdistinct
  | recordTransaction tx blockHeight => exact distinct_recordTransaction hdistinct tx blockHeight
  | recordCredit credit => exact hdistinct.recordCredit credit
  | markSpent point => exact hdistinct.markSpent point

/-- After a call the outpoint is listed if the call credits it, or if it was listed before and the
call does not spend it. -/
theorem mem_points_perform {point : OutPoint} (call : WalletCall) :
    point ∈ (call.perform backend wallet).ledger.points ↔
      call.Credits wallet.book point ∨ point ∈ wallet.ledger.points ∧ ¬ call.Spends point := by
  have hunchanged : point ∈ wallet.ledger.points ↔
      False ∨ point ∈ wallet.ledger.points ∧ ¬ False := by
    rw [false_or, not_false_eq_true, and_true]
  cases call with
  | addresses | setTip | configure | restrictInputs => exact hunchanged
  | build request account draws =>
      rw [WalletCall.perform, ledger_build]
      exact hunchanged
  | author payments options dryRun draws =>
      rw [WalletCall.perform, author_eq_build, ledger_build]
      exact hunchanged
  | createSigned payments options draws =>
      rw [WalletCall.perform, ledger_createSigned]
      exact hunchanged
  | recordTransaction tx blockHeight =>
      exact mem_points_recordTransaction hdistinct tx blockHeight
  | recordCredit credit =>
      have hkept : ¬ (WalletCall.recordCredit credit).Spends point := id
      exact mem_points_recordCredit.trans (or_comm.trans (or_congr_right (and_iff_left hkept).symm))
  | markSpent spent =>
      exact (mem_points_markSpent hdistinct spent).trans (or_iff_right id).symm

end Step

/-! ## A run -/

/-- One of the calls credits the outpoint, and none of those after it spends it. -/
def CreditedLast (backend : AccountStore σ) (wallet : Wallet σ) (point : OutPoint)
    (calls : List WalletCall) : Prop :=
  ∃ before call after, calls = before ++ call :: after ∧
    call.Credits (reach backend before wallet).book point ∧ ∀ next ∈ after, ¬ next.Spends point

theorem creditedLast_cons {backend : AccountStore σ} {wallet : Wallet σ} {point : OutPoint}
    {call : WalletCall} {rest : List WalletCall} :
    CreditedLast backend wallet point (call :: rest) ↔
      CreditedLast backend (call.perform backend wallet) point rest ∨
        call.Credits wallet.book point ∧ ∀ next ∈ rest, ¬ next.Spends point := by
  constructor
  · rintro ⟨_ | ⟨first, before⟩, crediting, after, heq, hcredits, hkept⟩
    · cases heq
      exact Or.inr ⟨hcredits, hkept⟩
    · cases heq
      exact Or.inl ⟨before, crediting, after, rfl, hcredits, hkept⟩
  · rintro (⟨before, crediting, after, rfl, hcredits, hkept⟩ | ⟨hcredits, hkept⟩)
    · exact ⟨call :: before, crediting, after, rfl, hcredits, hkept⟩
    · exact ⟨[], call, rest, rfl, hcredits, hkept⟩

/-- After a run the outpoint is listed if some call credited it for good, or if it was listed before
and no call spent it. -/
theorem mem_points_reach (backend : AccountStore σ) {wallet : Wallet σ}
    (hdistinct : wallet.ledger.Distinct) {point : OutPoint} (calls : List WalletCall) :
    point ∈ (reach backend calls wallet).ledger.points ↔
      CreditedLast backend wallet point calls ∨
        point ∈ wallet.ledger.points ∧ ∀ call ∈ calls, ¬ call.Spends point := by
  induction calls generalizing wallet with
  | nil =>
      have hnone : ¬ CreditedLast backend wallet point [] := by
        rintro ⟨before, call, after, heq, _⟩
        cases before <;> cases heq
      simp only [reach, List.foldl_nil, hnone, false_or, List.not_mem_nil, false_imp_iff,
        implies_true, and_true]
  | cons call rest ih =>
      have hstep : reach backend (call :: rest) wallet =
          reach backend rest (call.perform backend wallet) := rfl
      rw [hstep, ih (distinct_perform backend hdistinct call),
        mem_points_perform backend hdistinct, creditedLast_cons, List.forall_mem_cons, or_and_right,
        and_assoc, or_assoc]

/-! ## What is not listed is not used -/

/-- No balance counts a credit at the outpoint, and nothing that is authored spends it. -/
structure Disregards (backend : AccountStore σ) (wallet : Wallet σ) (point : OutPoint) : Prop where
  eligible : ∀ account minConf, ∀ credit ∈ wallet.eligible account minConf,
    credit.outpoint ≠ point
  build : ∀ request account draws authored after,
    build backend request account draws wallet = (.ok authored, after) →
      ∀ input ∈ authored.tx.inputs, input.previousOutput ≠ point

theorem disregards_of_notMem (backend : AccountStore σ) {wallet : Wallet σ} {point : OutPoint}
    (hunlisted : point ∉ wallet.ledger.points) : wallet.Disregards backend point where
  eligible := by
    rintro account minConf credit hcredit rfl
    have hlisted : credit ∈ wallet.ledger.credits :=
      List.mem_of_mem_filter ((Eligibility.filter_sublist _ _ _).subset hcredit)
    exact hunlisted (List.mem_map_of_mem hlisted)
  build := by
    rintro request account draws authored after hbuild input hinput rfl
    obtain ⟨credits, hspends, hlisted, _⟩ := exists_spends_of_build hbuild
    rw [hspends.inputs_eq] at hinput
    obtain ⟨credit, hcredit, rfl⟩ := List.mem_map.1 hinput
    exact hunlisted (List.mem_map_of_mem (hlisted credit hcredit))

/-- An outpoint that a recorded transaction has spent is listed in the end if and only if some call
credits it and none after that spends it.  Otherwise the wallet disregards it. -/
theorem spent_listed_iff_creditedLast (backend : AccountStore σ) {wallet : Wallet σ}
    (hdistinct : wallet.ledger.Distinct) {calls : List WalletCall} {tx : Transaction}
    {blockHeight : Option UInt64} (hrecorded : .recordTransaction tx blockHeight ∈ calls)
    (htx : tx.isCoinbase = false) {point : OutPoint}
    (hspent : point ∈ tx.inputs.map Input.previousOutput) :
    (point ∈ (reach backend calls wallet).ledger.points ↔
      CreditedLast backend wallet point calls) ∧
    (¬ CreditedLast backend wallet point calls →
      (reach backend calls wallet).Disregards backend point) := by
  have hsomeSpends : ¬ ∀ call ∈ calls, ¬ call.Spends point :=
    fun hkept => hkept _ hrecorded ⟨htx, hspent⟩
  have hlisted : point ∈ (reach backend calls wallet).ledger.points ↔
      CreditedLast backend wallet point calls := by
    rw [mem_points_reach backend hdistinct]
    exact or_iff_left fun hlisted => hsomeSpends hlisted.2
  exact ⟨hlisted, fun hcredited => disregards_of_notMem backend (hlisted.not.2 hcredited)⟩

/-! ## A payment recorded once more -/

set_option maxRecDepth 100000 in
/-- The address that the book has handed out is another one, as the kernel computes. -/
theorem ownScript_pubkeyHash_ne_zero : ownScript.pubkeyHash ≠ Digest.zero := by
  decide +kernel

theorem accountOf?_zero : receivingBook.accountOf? ⟨.p2wpkh, Digest.zero⟩ = none := by
  have howned : receivingBook.owned = [(ownScript.pubkeyHash, ⟨.default, .external, 0⟩)] := rfl
  have hunknown : receivingBook.pathOf? ⟨.p2wpkh, Digest.zero⟩ = none := by
    rw [AddressBook.pathOf?, howned, List.lookup_eq_none_iff]
    intro entry hentry
    cases List.mem_singleton.1 hentry
    exact bne_iff_ne.2 ownScript_pubkeyHash_ne_zero.symm
  rw [AddressBook.accountOf?, hunknown]

theorem isCoinbase_outgoing : outgoing.tx.isCoinbase = false := by
  have hnull : (⟨incoming.txid, 0⟩ : OutPoint).isNull = false := by
    rw [OutPoint.isNull, decide_eq_false_iff_not]
    exact fun hnull => absurd (congrArg OutPoint.index hnull) (by decide)
  exact hnull

/-- Recording the payment spends its input and adds no credit. -/
theorem recordTransaction_outgoing (blockHeight : Option UInt64) (ledger : Ledger) :
    (recordTransaction ⟨receivingBook, ledger, .standard, none⟩ outgoing.tx blockHeight).2 =
      ⟨receivingBook, spendInputs ledger outgoing.tx.inputs, .standard, none⟩ := by
  have hforeign : ∀ output ∈ outgoing.tx.outputs,
      receivingBook.accountOf? output.script = none := by
    intro output houtput
    cases List.mem_singleton.1 houtput
    exact accountOf?_zero
  rw [recordTransaction_state, isCoinbase_outgoing, if_neg Bool.false_ne_true,
    creditOutputs_of_foreign hforeign]

theorem distinct_receivingWallet : receivingWallet.ledger.Distinct :=
  List.nodup_singleton _

/-- Once the payment has been recorded the wallet has no credit left. -/
theorem recordTransaction_outgoing_receivingWallet (blockHeight : Option UInt64) :
    (receivingWallet.recordTransaction outgoing.tx blockHeight).2 =
      ⟨receivingBook, ⟨10, []⟩, .standard, none⟩ := by
  have hspent : receivingWallet.ledger.credits.filter (fun credit =>
      credit.outpoint ∉ outgoing.tx.inputs.map Input.previousOutput) = [] := by
    rw [List.filter_eq_nil_iff]
    intro credit hcredit hkept
    cases List.mem_singleton.1 hcredit
    exact of_decide_eq_true hkept (List.mem_singleton_self _)
  refine (recordTransaction_outgoing blockHeight receivingWallet.ledger).trans ?_
  rw [spendInputs_eq distinct_receivingWallet, hspent]
  rfl

/-- The payment recorded unconfirmed and then in a block leaves its input unlisted. -/
theorem spent_notListed_outgoing :
    receivingWallet.ledger.Distinct ∧ outgoing.tx.isCoinbase = false ∧
      ⟨incoming.txid, 0⟩ ∈ outgoing.tx.inputs.map Input.previousOutput ∧
      ¬ CreditedLast MemoryStore.store receivingWallet ⟨incoming.txid, 0⟩
        [.recordTransaction outgoing.tx none, .recordTransaction outgoing.tx (some 6)] ∧
      (reach MemoryStore.store
        [.recordTransaction outgoing.tx none, .recordTransaction outgoing.tx (some 6)]
          receivingWallet).Disregards MemoryStore.store ⟨incoming.txid, 0⟩ := by
  have hspent : ⟨incoming.txid, 0⟩ ∈ outgoing.tx.inputs.map Input.previousOutput :=
    List.mem_singleton_self _
  have hreach : reach MemoryStore.store
      [.recordTransaction outgoing.tx none, .recordTransaction outgoing.tx (some 6)]
        receivingWallet = ⟨receivingBook, ⟨10, []⟩, .standard, none⟩ := by
    rw [reach, List.foldl_cons, WalletCall.perform, recordTransaction_outgoing_receivingWallet,
      List.foldl_cons, WalletCall.perform, recordTransaction_outgoing]
    rfl
  have hrecorded : WalletCall.recordTransaction outgoing.tx none ∈
      [.recordTransaction outgoing.tx none, .recordTransaction outgoing.tx (some 6)] :=
    List.mem_cons_self
  have hlisted := spent_listed_iff_creditedLast MemoryStore.store distinct_receivingWallet
    hrecorded isCoinbase_outgoing hspent
  have hcredited := hlisted.1.not.1 (by rw [hreach]; exact List.not_mem_nil)
  exact ⟨distinct_receivingWallet, isCoinbase_outgoing, hspent, hcredited, hlisted.2 hcredited⟩

/-- Recording the spent credit's own transaction once more undoes the spending: the credit counts
again, and the next payment spends it again. -/
theorem spent_listed_again :
    outgoing.tx.isCoinbase = false ∧
      ⟨incoming.txid, 0⟩ ∈ outgoing.tx.inputs.map Input.previousOutput ∧
      reach MemoryStore.store
        [.recordTransaction outgoing.tx none, .recordTransaction incoming (some 5)]
          receivingWallet = receivingWallet ∧
      ⟨incoming.txid, 0⟩ ∈ receivingWallet.ledger.points ∧
      receivingWallet.balance .default 0 = 100000 ∧
      author MemoryStore.store (fun _ => []) [⟨⟨.p2wpkh, Digest.zero⟩, 99800⟩]
        ⟨.default, 1, ⟨1000⟩, .random⟩ false receivingWallet = (.ok outgoing, receivingWallet) := by
  have hreach : reach MemoryStore.store
      [.recordTransaction outgoing.tx none, .recordTransaction incoming (some 5)]
        receivingWallet = receivingWallet := by
    rw [reach, List.foldl_cons, WalletCall.perform, recordTransaction_outgoing_receivingWallet,
      List.foldl_cons, WalletCall.perform, recordTransaction_incoming, List.foldl_nil]
  exact ⟨isCoinbase_outgoing, List.mem_singleton_self _, hreach, List.mem_singleton_self _, rfl,
    author_receivingWallet⟩

end Wallet

end Purse
