import Purse.Proofs.Ownership
import Purse.Proofs.Unspent

/-!
# The order of a ledger

A ledger is a map from outpoints to credits that keeps the order in which they came.  What is added
goes to the end, and what is spent leaves the others as they stand.  After any run the credits that
nothing has spent come first, in their old order.
-/

namespace Purse

open Ledger

variable {σ : Type}

/-! ## Spending one credit -/

namespace Ledger

variable {ledger : Ledger} {credit : Credit} {point : OutPoint}

theorem markSpent_of_notMem (hunlisted : point ∉ ledger.points) :
    ledger.markSpent point = (none, ledger) := by
  have hother : ∀ credit ∈ ledger.credits, ¬ decide (credit.outpoint = point) = true := by
    intro credit hcredit hsame
    apply hunlisted
    rw [← of_decide_eq_true hsame]
    exact List.mem_map_of_mem hcredit
  rw [markSpent, List.find?_eq_none.2 hother, List.eraseP_of_forall_not hother]

/-- Of a listed credit all others stay where they are. -/
theorem markSpent_of_split (hdistinct : ledger.Distinct) {earlier later : List Credit}
    (hcredits : ledger.credits = earlier ++ credit :: later) :
    ledger.markSpent credit.outpoint =
      (some credit, { ledger with credits := earlier ++ later }) := by
  have hearlier : ∀ other ∈ earlier, ¬ decide (other.outpoint = credit.outpoint) = true := by
    intro other hother hsame
    rw [Distinct, points, hcredits, List.map_append, List.map_cons, List.nodup_append] at hdistinct
    exact hdistinct.2.2 _ (List.mem_map_of_mem hother) _ List.mem_cons_self
      (of_decide_eq_true hsame)
  have hself : decide (credit.outpoint = credit.outpoint) = true := decide_eq_true rfl
  have hfound : ledger.credits.find? (fun other => other.outpoint = credit.outpoint) =
      some credit := by
    rw [hcredits, List.find?_append, List.find?_eq_none.2 hearlier, Option.none_or]
    exact List.find?_cons_of_pos hself
  have herased : ledger.credits.eraseP (fun other => other.outpoint = credit.outpoint) =
      earlier ++ later := by
    rw [hcredits, List.eraseP_append_right _ hearlier]
    exact congrArg (earlier ++ ·) (List.eraseP_cons_of_pos hself)
  rw [markSpent, hfound, herased]

end Ledger

namespace Wallet

/-! ## One call -/

theorem keptBy_eq_filter (wallet : Wallet σ) (tx : Transaction) (blockHeight : Option UInt64) :
    wallet.keptBy tx = wallet.ledger.credits.filter fun credit =>
      ¬ (WalletCall.recordTransaction tx blockHeight).Spends credit.outpoint := by
  have hspends (credit : Credit) :
      (WalletCall.recordTransaction tx blockHeight).Spends credit.outpoint ↔
        tx.isCoinbase = false ∧ credit.outpoint ∈ tx.inputs.map Input.previousOutput := Iff.rfl
  cases htx : tx.isCoinbase with
  | true =>
      rw [keptBy, htx, if_pos rfl, eq_comm, List.filter_eq_self]
      intro credit _
      rw [decide_eq_true_iff, hspends, htx]
      exact fun hspent => Bool.noConfusion hspent.1
  | false =>
      rw [keptBy, htx, if_neg Bool.false_ne_true]
      apply List.filter_congr
      intro credit _
      rw [decide_eq_decide, hspends, htx, eq_self_iff_true, true_and]

/-- Of what is put in, each credit stands at an outpoint that the call credits. -/
theorem credits_of_mem_addedBy {wallet : Wallet σ} {tx : Transaction}
    {blockHeight : Option UInt64} {credit : Credit}
    (hadded : credit ∈ wallet.addedBy tx blockHeight) :
    (WalletCall.recordTransaction tx blockHeight).Credits wallet.book credit.outpoint := by
  have hown := (Eligibility.firstAtOutpoint_sublist _ _).subset hadded
  obtain ⟨position, output, account, houtput, howner, rfl⟩ := mem_ownCredits.1 hown
  rw [Nat.zero_add]
  exact ⟨position, output, account, houtput, howner, rfl⟩

/-- What the call does not spend stands first, in its order, and what it credits after that. -/
theorem credits_perform (backend : AccountStore σ) {wallet : Wallet σ}
    (hdistinct : wallet.ledger.Distinct) (call : WalletCall) :
    ∃ added, (call.perform backend wallet).ledger.credits =
        wallet.ledger.credits.filter (fun credit => ¬ call.Spends credit.outpoint) ++ added ∧
      ∀ credit ∈ added, call.Credits wallet.book credit.outpoint := by
  have hall : wallet.ledger.credits.filter (fun _ => ¬ False) = wallet.ledger.credits :=
    List.filter_eq_self.2 fun _ _ => decide_eq_true not_false
  have hunchanged (credits : List Credit) (hcredits : credits = wallet.ledger.credits) :
      ∃ added, credits = wallet.ledger.credits.filter (fun _ => ¬ False) ++ added ∧
        ∀ credit ∈ added, False := by
    refine ⟨[], ?_, nofun⟩
    rw [hcredits, List.append_nil, hall]
  cases call with
  | addresses | setTip | configure | restrictInputs => exact hunchanged _ rfl
  | build request account draws =>
      exact hunchanged _ (congrArg credits (ledger_build backend request account draws))
  | author payments options dryRun draws =>
      apply hunchanged
      rw [WalletCall.perform, author_eq_build, ledger_build]
  | createSigned payments options draws =>
      exact hunchanged _ (congrArg credits (ledger_createSigned backend payments options draws))
  | recordTransaction tx blockHeight =>
      refine ⟨wallet.addedBy tx blockHeight, ?_, fun _ hadded => credits_of_mem_addedBy hadded⟩
      rw [WalletCall.perform, recordTransaction_eq_added wallet hdistinct, ← keptBy_eq_filter]
      rfl
  | recordCredit credit =>
      have hperform : (WalletCall.recordCredit credit).perform backend wallet =
          { wallet with ledger := (wallet.ledger.recordCredit credit).2 } := rfl
      rw [hperform]
      by_cases hlisted : credit.outpoint ∈ wallet.ledger.points
      · rw [recordCredit_of_mem hlisted]
        refine ⟨[], ?_, nofun⟩
        rw [List.append_nil]
        exact hall.symm
      · rw [recordCredit_of_notMem hlisted]
        refine ⟨[credit], congrArg (· ++ [credit]) hall.symm, ?_⟩
        intro added hadded
        exact congrArg Credit.outpoint (List.mem_singleton.1 hadded)
  | markSpent point =>
      refine ⟨[], ?_, nofun⟩
      have hspent := credits_markSpent hdistinct point
      rw [List.append_nil]
      exact hspent

/-! ## A run -/

/-- What the calls never spend stands first, in its old order, and what they credit for good after
that. -/
theorem credits_reach (backend : AccountStore σ) {wallet : Wallet σ}
    (hdistinct : wallet.ledger.Distinct) (calls : List WalletCall) :
    ∃ added, (reach backend calls wallet).ledger.credits =
        wallet.ledger.credits.filter (fun credit =>
          ∀ call ∈ calls, ¬ call.Spends credit.outpoint) ++ added ∧
      ∀ credit ∈ added, CreditedLast backend wallet credit.outpoint calls := by
  induction calls generalizing wallet with
  | nil =>
      have hall : wallet.ledger.credits.filter (fun credit =>
          ∀ call ∈ ([] : List WalletCall), ¬ call.Spends credit.outpoint) =
          wallet.ledger.credits :=
        List.filter_eq_self.2 fun _ _ => decide_eq_true (List.forall_mem_nil _)
      refine ⟨[], ?_, nofun⟩
      rw [List.append_nil, hall]
      rfl
  | cons call rest ih =>
      obtain ⟨first, hfirst, hcredits⟩ := credits_perform backend hdistinct call
      obtain ⟨later, hlater, hlast⟩ := ih (distinct_perform backend hdistinct call)
      have hkept : (wallet.ledger.credits.filter fun credit =>
          ¬ call.Spends credit.outpoint).filter (fun credit =>
            ∀ next ∈ rest, ¬ next.Spends credit.outpoint) =
          wallet.ledger.credits.filter fun credit =>
            ∀ next ∈ call :: rest, ¬ next.Spends credit.outpoint := by
        rw [List.filter_filter]
        apply List.filter_congr
        intro credit _
        rw [← Bool.decide_and, decide_eq_decide, List.forall_mem_cons, and_comm]
      have hstep : reach backend (call :: rest) wallet =
          reach backend rest (call.perform backend wallet) := rfl
      refine ⟨first.filter (fun credit => ∀ next ∈ rest, ¬ next.Spends credit.outpoint) ++ later,
        ?_, ?_⟩
      · rw [hstep, hlater, hfirst, List.filter_append, hkept, List.append_assoc]
      · intro credit hadded
        rw [creditedLast_cons]
        rcases List.mem_append.1 hadded with hsurvives | hnew
        · obtain ⟨hmem, hnever⟩ := List.mem_filter.1 hsurvives
          exact Or.inr ⟨hcredits credit hmem, of_decide_eq_true hnever⟩
        · exact Or.inl (hlast credit hnew)

/-- No run lists an outpoint twice. -/
theorem distinct_reach (backend : AccountStore σ) {wallet : Wallet σ}
    (hdistinct : wallet.ledger.Distinct) (calls : List WalletCall) :
    (reach backend calls wallet).ledger.Distinct := by
  induction calls generalizing wallet with
  | nil => exact hdistinct
  | cons call rest ih => exact ih (distinct_perform backend hdistinct call)

/-! ## An ordered map -/

/-- The ledger is a map from outpoints to credits that keeps the order in which they came. -/
structure KeepsOrder (wallet : Wallet σ) : Prop where
  distinct : wallet.ledger.Distinct
  recordCredit_listed : ∀ credit, credit.outpoint ∈ wallet.ledger.points →
    wallet.recordCredit credit = (false, wallet)
  recordCredit_new : ∀ credit, credit.outpoint ∉ wallet.ledger.points →
    wallet.recordCredit credit = (true, wallet.withCredits (wallet.ledger.credits ++ [credit]))
  markSpent_unlisted : ∀ point, point ∉ wallet.ledger.points →
    wallet.markSpent point = (none, wallet)
  markSpent_listed : ∀ earlier credit later, wallet.ledger.credits = earlier ++ credit :: later →
    wallet.markSpent credit.outpoint = (some credit, wallet.withCredits (earlier ++ later))
  setTip : ∀ height, wallet.setTip height =
    { wallet with ledger := ⟨height, wallet.ledger.credits⟩ }
  /-- What the transaction spends goes, and what it pays the wallet comes after the rest. -/
  recordTransaction : ∀ tx blockHeight, wallet.recordTransaction tx blockHeight =
    ((wallet.addedBy tx blockHeight).length,
      wallet.withCredits (wallet.keptBy tx ++ wallet.addedBy tx blockHeight))
  /-- What comes are the outputs that pay the wallet at outpoints that are not listed. -/
  added : ∀ tx blockHeight, tx.outputs.length ≤ UInt64.size →
    wallet.addedBy tx blockHeight =
      (ownCredits wallet.book ⟨tx.txid, blockHeight, tx.isCoinbase⟩ 0 tx.outputs).filter
        fun credit => credit.outpoint ∉ (wallet.keptBy tx).map Credit.outpoint
  /-- An output pays the wallet only if one of its accounts lists the script. -/
  owner : wallet.book.Coherent → ∀ script account,
    wallet.book.accountOf? script = some account → wallet.book.lists account script = true
  /-- As long as keys have different digests it does so whenever an account lists the script. -/
  owner_eq : wallet.book.Coherent → wallet.book.Separated →
    ∀ script, wallet.book.accountOf? script = wallet.book.issuer? script

theorem keepsOrder_of_distinct {wallet : Wallet σ} (hdistinct : wallet.ledger.Distinct) :
    wallet.KeepsOrder where
  distinct := hdistinct
  recordCredit_listed credit hlisted := by
    rw [Wallet.recordCredit, recordCredit_of_mem hlisted]
  recordCredit_new credit hnew := by
    rw [Wallet.recordCredit, recordCredit_of_notMem hnew, withCredits]
  markSpent_unlisted point hunlisted := by
    rw [Wallet.markSpent, markSpent_of_notMem hunlisted]
  markSpent_listed earlier credit later hcredits := by
    rw [Wallet.markSpent, markSpent_of_split hdistinct hcredits, withCredits]
  setTip _ := rfl
  recordTransaction := recordTransaction_eq_added wallet hdistinct
  added _ blockHeight hroom := addedBy_eq_filter wallet hroom blockHeight
  owner hcoherent _ _ := AddressBook.lists_of_accountOf? hcoherent
  owner_eq hcoherent hseparated := AddressBook.accountOf?_eq_issuer? hseparated hcoherent

/-- Whatever a run does, the ledger stays a map that keeps its order.  What no call has spent comes
first, in its old order, and only what was credited for good comes after that. -/
theorem reach_keepsOrder (backend : AccountStore σ) {wallet : Wallet σ}
    (hdistinct : wallet.ledger.Distinct) (calls : List WalletCall) :
    (reach backend calls wallet).KeepsOrder ∧
    ∃ added, (reach backend calls wallet).ledger.credits =
        wallet.ledger.credits.filter (fun credit =>
          ∀ call ∈ calls, ¬ call.Spends credit.outpoint) ++ added ∧
      ∀ credit ∈ added, CreditedLast backend wallet credit.outpoint calls :=
  ⟨keepsOrder_of_distinct (distinct_reach backend hdistinct calls),
    credits_reach backend hdistinct calls⟩

/-! ## A reward recorded twice -/

/-- A coinbase transaction with two outputs to the wallet and one to nobody it knows. -/
def reward : Transaction :=
  ⟨Transaction.currentVersion, [.unsigned .null],
    [⟨50, ownScript⟩, ⟨7, ⟨.p2wpkh, Digest.zero⟩⟩, ⟨60, ownScript⟩], 0⟩

/-- The credit of one of its outputs. -/
def rewardCredit (blockHeight : Option UInt64) (index : UInt64) (value : Amount) : Credit :=
  ⟨⟨reward.txid, index⟩, ⟨value, ownScript⟩, .default, blockHeight, true⟩

/-- The wallet that knows the script, with the credits. -/
def rewarded (credits : List Credit) : Wallet MemoryStore.State :=
  .ofBook receivingBook ⟨0, credits⟩

theorem ownCredits_reward (blockHeight : Option UInt64) :
    ownCredits receivingBook ⟨reward.txid, blockHeight, true⟩ 0 reward.outputs =
      [rewardCredit blockHeight 0 50, rewardCredit blockHeight 2 60] := by
  have houtputs : reward.outputs =
      [⟨50, ownScript⟩, ⟨7, ⟨.p2wpkh, Digest.zero⟩⟩, ⟨60, ownScript⟩] := rfl
  have howner (value : Amount) : receivingBook.accountOf? (Output.mk value ownScript).script =
      some .default := accountOf?_ownScript
  have hforeign : receivingBook.accountOf? (Output.mk 7 ⟨.p2wpkh, Digest.zero⟩).script = none :=
    accountOf?_zero
  rw [houtputs, ownCredits_cons_of_some (howner 50), ownCredits_cons_of_none hforeign,
    ownCredits_cons_of_some (howner 60)]
  rfl

/-- Recording the reward adds what is not listed of it. -/
theorem KeepsOrder.recordTransaction_reward {credits : List Credit}
    (hkeeps : (rewarded credits).KeepsOrder) (blockHeight : Option UInt64) :
    let added := [rewardCredit blockHeight 0 50, rewardCredit blockHeight 2 60].filter
      fun credit => credit.outpoint ∉ credits.map Credit.outpoint
    (rewarded credits).recordTransaction reward blockHeight =
      (added.length, rewarded (credits ++ added)) := by
  have hcoinbase : reward.isCoinbase = true := by decide
  have hkept : (rewarded credits).keptBy reward = credits := by
    rw [keptBy, hcoinbase, if_pos rfl]
    rfl
  have hroom : reward.outputs.length ≤ UInt64.size := by decide
  have hbook : (rewarded credits).book = receivingBook := rfl
  rw [hkeeps.recordTransaction, hkeeps.added reward blockHeight hroom, hkept, hbook, hcoinbase,
    ownCredits_reward]
  rfl

/-- Recorded once more the reward adds nothing, and after one of its credits was spent it adds that
one behind the other. -/
theorem reach_keepsOrder_reward :
    let first := [rewardCredit (some 3) 0 50, rewardCredit (some 3) 2 60]
    (rewarded []).ledger.Distinct ∧
      reach MemoryStore.store [.recordTransaction reward (some 3)] (rewarded []) =
        rewarded first ∧
      (rewarded first).recordTransaction reward none = (0, rewarded first) ∧
      (rewarded first).markSpent ⟨reward.txid, 0⟩ =
        (some (rewardCredit (some 3) 0 50), rewarded [rewardCredit (some 3) 2 60]) ∧
      (rewarded [rewardCredit (some 3) 2 60]).recordTransaction reward none =
        (1, rewarded [rewardCredit (some 3) 2 60, rewardCredit none 0 50]) := by
  intro first
  have hempty : (rewarded []).ledger.Distinct := List.nodup_nil
  have hstart : (rewarded []).KeepsOrder := (reach_keepsOrder MemoryStore.store hempty []).1
  have hrecorded : (rewarded []).recordTransaction reward (some 3) = (2, rewarded first) :=
    hstart.recordTransaction_reward (some 3)
  have hfirst : reach MemoryStore.store [.recordTransaction reward (some 3)] (rewarded []) =
      rewarded first := by
    rw [reach, List.foldl_cons, WalletCall.perform, hrecorded, List.foldl_nil]
  have hlisted := (reach_keepsOrder MemoryStore.store hempty
    [.recordTransaction reward (some 3)]).1
  rw [hfirst] at hlisted
  have hspent : (rewarded first).markSpent ⟨reward.txid, 0⟩ =
      (some (rewardCredit (some 3) 0 50), rewarded [rewardCredit (some 3) 2 60]) :=
    hlisted.markSpent_listed [] (rewardCredit (some 3) 0 50) _ rfl
  have hsecond : reach MemoryStore.store
      [.recordTransaction reward (some 3), .markSpent ⟨reward.txid, 0⟩] (rewarded []) =
        rewarded [rewardCredit (some 3) 2 60] := by
    rw [reach, List.foldl_cons, WalletCall.perform, hrecorded, List.foldl_cons, WalletCall.perform,
      hspent, List.foldl_nil]
  have hleft := (reach_keepsOrder MemoryStore.store hempty
    [.recordTransaction reward (some 3), .markSpent ⟨reward.txid, 0⟩]).1
  rw [hsecond] at hleft
  refine ⟨hempty, hfirst, ?_, hspent, ?_⟩
  · rw [hlisted.recordTransaction_reward]
    simp [first, rewardCredit]
  · rw [hleft.recordTransaction_reward]
    simp [rewardCredit]

end Wallet

end Purse
