import Purse.Proofs.Recheck
import Purse.Proofs.WalletRuns

/-!
# What a ledger lists

A ledger without repeated outpoints behaves like a finite map from outpoints to credits.  Spending
takes out exactly the spent outpoints, and recording a transaction puts in the outputs that pay the
wallet, as far as their outpoints are not listed already.
-/

namespace Purse

variable {σ : Type}

namespace Ledger

/-- The outpoints of the listed credits, in their order. -/
def points (ledger : Ledger) : List OutPoint :=
  ledger.credits.map Credit.outpoint

/-- No outpoint is listed twice. -/
def Distinct (ledger : Ledger) : Prop :=
  ledger.points.Nodup

variable {ledger : Ledger} {credit : Credit} {point : OutPoint}

theorem knows_iff : ledger.knows point = true ↔ point ∈ ledger.points := by
  rw [knows, List.any_eq_true, points, List.mem_map]
  simp only [decide_eq_true_iff]

theorem recordCredit_of_mem (hmem : credit.outpoint ∈ ledger.points) :
    ledger.recordCredit credit = (false, ledger) := by
  rw [recordCredit, if_pos (knows_iff.2 hmem)]

theorem recordCredit_of_notMem (hnew : credit.outpoint ∉ ledger.points) :
    ledger.recordCredit credit = (true, { ledger with credits := ledger.credits ++ [credit] }) := by
  rw [recordCredit, if_neg (knows_iff.not.2 hnew)]

/-- A credit that is recorded is listed, whether it is new or not. -/
theorem mem_points_recordCredit :
    point ∈ (ledger.recordCredit credit).2.points ↔
      point ∈ ledger.points ∨ point = credit.outpoint := by
  by_cases hmem : credit.outpoint ∈ ledger.points
  · rw [recordCredit_of_mem hmem]
    constructor
    · exact Or.inl
    · rintro (hlisted | rfl)
      · exact hlisted
      · exact hmem
  · rw [recordCredit_of_notMem hmem]
    simp only [points, List.map_append, List.map_singleton, List.mem_append, List.mem_singleton]

/-! ## Distinct outpoints -/

/-- Of credits at distinct outpoints, the first one at a point is the only one. -/
theorem eraseP_outpoint {credits : List Credit} (hnodup : (credits.map Credit.outpoint).Nodup)
    (point : OutPoint) :
    credits.eraseP (fun credit => credit.outpoint = point) =
      credits.filter fun credit => credit.outpoint ≠ point := by
  induction credits with
  | nil => rfl
  | cons credit rest ih =>
      rw [List.map_cons, List.nodup_cons] at hnodup
      by_cases hspent : credit.outpoint = point
      · have hothers : rest.filter (fun credit => credit.outpoint ≠ point) = rest := by
          refine List.filter_eq_self.2 fun other hother => decide_eq_true fun heq => ?_
          exact hnodup.1 (hspent.trans heq.symm ▸ List.mem_map_of_mem hother)
        rw [List.eraseP_cons_of_pos (by simpa using hspent), List.filter_cons_of_neg (by simpa),
          hothers]
      · rw [List.eraseP_cons_of_neg (by simpa using hspent), List.filter_cons_of_pos (by simpa),
          ih hnodup.2]

variable (hdistinct : ledger.Distinct)
include hdistinct

theorem Distinct.recordCredit (credit : Credit) : (ledger.recordCredit credit).2.Distinct := by
  by_cases hmem : credit.outpoint ∈ ledger.points
  · rw [recordCredit_of_mem hmem]
    exact hdistinct
  · rw [recordCredit_of_notMem hmem, Distinct, points, List.map_append, List.map_singleton,
      List.nodup_append]
    refine ⟨hdistinct, List.nodup_singleton _, ?_⟩
    intro listed hlisted new hnew heq
    rw [List.mem_singleton] at hnew
    exact hmem (hnew ▸ heq ▸ hlisted)

theorem credits_markSpent (point : OutPoint) :
    (ledger.markSpent point).2.credits =
      ledger.credits.filter fun credit => credit.outpoint ≠ point :=
  eraseP_outpoint hdistinct point

theorem Distinct.markSpent (point : OutPoint) : (ledger.markSpent point).2.Distinct :=
  hdistinct.sublist (List.eraseP_sublist.map Credit.outpoint)

theorem mem_points_markSpent (spent : OutPoint) :
    point ∈ (ledger.markSpent spent).2.points ↔ point ∈ ledger.points ∧ point ≠ spent := by
  rw [points, credits_markSpent hdistinct, points, List.mem_map, List.mem_map]
  constructor
  · rintro ⟨credit, hcredit, rfl⟩
    obtain ⟨hlisted, hkept⟩ := List.mem_filter.1 hcredit
    exact ⟨⟨credit, hlisted, rfl⟩, of_decide_eq_true hkept⟩
  · rintro ⟨⟨credit, hcredit, rfl⟩, hkept⟩
    exact ⟨credit, List.mem_filter.2 ⟨hcredit, decide_eq_true hkept⟩, rfl⟩

end Ledger

namespace Wallet

open Ledger

/-! ## Spending inputs -/

section Spending

variable {ledger : Ledger} (hdistinct : ledger.Distinct)
include hdistinct

theorem distinct_spendInputs (inputs : List Input) : (spendInputs ledger inputs).Distinct := by
  induction inputs generalizing ledger with
  | nil => exact hdistinct
  | cons input rest ih => exact ih (hdistinct.markSpent input.previousOutput)

/-- Spending keeps the tip and the credits at other outpoints, in their order. -/
theorem spendInputs_eq (inputs : List Input) :
    spendInputs ledger inputs = { ledger with
      credits := ledger.credits.filter fun credit =>
        credit.outpoint ∉ inputs.map Input.previousOutput } := by
  induction inputs generalizing ledger with
  | nil =>
      have hall : ledger.credits.filter (fun credit => credit.outpoint ∉ ([] : List OutPoint)) =
          ledger.credits :=
        List.filter_eq_self.2 fun _ _ => decide_eq_true List.not_mem_nil
      rw [List.map_nil, hall]
      rfl
  | cons input rest ih =>
      have hstep : spendInputs ledger (input :: rest) =
          spendInputs (ledger.markSpent input.previousOutput).2 rest := rfl
      rw [hstep, ih (hdistinct.markSpent _), credits_markSpent hdistinct, List.filter_filter]
      congr 1
      apply List.filter_congr
      intro credit _
      rw [← Bool.decide_and, List.map_cons, decide_eq_decide, List.mem_cons, not_or, and_comm]

theorem mem_points_spendInputs {point : OutPoint} (inputs : List Input) :
    point ∈ (spendInputs ledger inputs).points ↔
      point ∈ ledger.points ∧ point ∉ inputs.map Input.previousOutput := by
  rw [spendInputs_eq hdistinct, points, points, List.mem_map, List.mem_map]
  constructor
  · rintro ⟨credit, hcredit, rfl⟩
    obtain ⟨hlisted, hkept⟩ := List.mem_filter.1 hcredit
    exact ⟨⟨credit, hlisted, rfl⟩, of_decide_eq_true hkept⟩
  · rintro ⟨⟨credit, hcredit, rfl⟩, hkept⟩
    exact ⟨credit, List.mem_filter.2 ⟨hcredit, decide_eq_true hkept⟩, rfl⟩

end Spending

/-! ## Crediting outputs -/

/-- The credits of the outputs, counted from `index` on, whose scripts the book has handed out. -/
def ownCredits (book : AddressBook σ) (template : CreditTemplate) (index : Nat)
    (outputs : List Output) : List Credit :=
  (outputs.zipIdx index).filterMap fun (output, position) =>
    (book.accountOf? output.script).map (template.credit position output)

variable {book : AddressBook σ} {template : CreditTemplate} {index : Nat} {output : Output}
  {outputs : List Output} {ledger : Ledger}

theorem ownCredits_cons_of_none (hforeign : book.accountOf? output.script = none) :
    ownCredits book template index (output :: outputs) =
      ownCredits book template (index + 1) outputs := by
  rw [ownCredits, List.zipIdx_cons, List.filterMap_cons_none]
  · rfl
  · simp only [hforeign, Option.map_none]

theorem ownCredits_cons_of_some {account : AccountId}
    (howner : book.accountOf? output.script = some account) :
    ownCredits book template index (output :: outputs) =
      template.credit index output account :: ownCredits book template (index + 1) outputs := by
  rw [ownCredits, List.zipIdx_cons, List.filterMap_cons_some]
  · rfl
  · simp only [howner, Option.map_some]

theorem mem_ownCredits {credit : Credit} :
    credit ∈ ownCredits book template index outputs ↔
      ∃ position output account, outputs[position]? = some output ∧
        book.accountOf? output.script = some account ∧
        credit = template.credit (index + position) output account := by
  simp only [ownCredits, List.mem_filterMap, Prod.exists, Option.map_eq_some_iff,
    List.mk_mem_zipIdx_iff_le_and_getElem?_sub]
  constructor
  · rintro ⟨output, place, ⟨hle, houtput⟩, account, howner, rfl⟩
    exact ⟨place - index, output, account, houtput, howner, by rw [Nat.add_sub_cancel' hle]⟩
  · rintro ⟨position, output, account, houtput, howner, rfl⟩
    refine ⟨output, index + position, ⟨Nat.le_add_right _ _, ?_⟩, account, howner, rfl⟩
    rwa [Nat.add_sub_cancel_left]

/-- Outputs that pay nobody whom the book knows change nothing. -/
theorem creditOutputs_of_foreign
    (hforeign : ∀ output ∈ outputs, book.accountOf? output.script = none) :
    creditOutputs book template index ledger outputs = (0, ledger) := by
  induction outputs generalizing index with
  | nil => rfl
  | cons output rest ih =>
      simp only [creditOutputs, hforeign output List.mem_cons_self]
      exact ih fun other hother => hforeign other (List.mem_cons_of_mem _ hother)

/-- Outputs at fewer than 2^64 positions are credited at outpoints of their own. -/
theorem ownCredits_nodup (hroom : index + outputs.length ≤ UInt64.size) :
    ((ownCredits book template index outputs).map Credit.outpoint).Nodup := by
  induction outputs generalizing index with
  | nil => exact List.nodup_nil
  | cons output rest ih =>
      rw [List.length_cons] at hroom
      cases howner : book.accountOf? output.script with
      | none =>
          rw [ownCredits_cons_of_none howner]
          exact ih (by omega)
      | some account =>
          rw [ownCredits_cons_of_some howner, List.map_cons, List.nodup_cons]
          refine ⟨fun hrepeated => ?_, ih (by omega)⟩
          obtain ⟨credit, hcredit, hsame⟩ := List.mem_map.1 hrepeated
          obtain ⟨position, _, _, houtput, _, rfl⟩ := mem_ownCredits.1 hcredit
          have hinside := (List.getElem?_eq_some_iff.1 houtput).1
          have hindices := congrArg (fun point => point.index.toNat) hsame
          simp only [CreditTemplate.credit] at hindices
          rw [UInt64.toNat_ofNat_of_lt' (by omega), UInt64.toNat_ofNat_of_lt' (by omega)]
            at hindices
          omega

/-- The credits of the outputs are added in their order, except those whose outpoint is listed when
their turn comes. -/
theorem creditOutputs_eq (book : AddressBook σ) (template : CreditTemplate) (index : Nat)
    (ledger : Ledger) (outputs : List Output) :
    creditOutputs book template index ledger outputs =
      ((Eligibility.firstAtOutpoint ledger.points
          (ownCredits book template index outputs)).length,
        { ledger with
          credits := ledger.credits ++ Eligibility.firstAtOutpoint ledger.points
            (ownCredits book template index outputs) }) := by
  induction outputs generalizing index ledger with
  | nil => simp [creditOutputs, ownCredits, Eligibility.firstAtOutpoint]
  | cons output rest ih =>
      cases howner : book.accountOf? output.script with
      | none =>
          simp only [creditOutputs, howner]
          rw [ih, ownCredits_cons_of_none howner]
      | some account =>
          simp only [creditOutputs, howner]
          rw [ownCredits_cons_of_some howner, Eligibility.firstAtOutpoint]
          by_cases hlisted : (template.credit index output account).outpoint ∈ ledger.points
          · rw [recordCredit_of_mem hlisted, if_pos hlisted, ih]
            rfl
          · have hpoints : ∀ point, point ∈ ledger.points ++
                [(template.credit index output account).outpoint] ↔
                point ∈ (template.credit index output account).outpoint :: ledger.points := by
              intro point
              rw [List.mem_append, List.mem_singleton, List.mem_cons, or_comm]
            rw [recordCredit_of_notMem hlisted, if_neg hlisted, ih, points, List.map_append,
              List.map_singleton, ← points, Eligibility.firstAtOutpoint_congr _ hpoints]
            simp only [Bool.toNat_true, List.length_cons, List.append_assoc,
              List.singleton_append]

theorem distinct_creditOutputs (hdistinct : ledger.Distinct) :
    (creditOutputs book template index ledger outputs).2.Distinct := by
  rw [creditOutputs_eq, Distinct, points, List.map_append, List.nodup_append]
  refine ⟨hdistinct, Eligibility.firstAtOutpoint_nodup _ _, ?_⟩
  rintro point hlisted _ hadded rfl
  obtain ⟨credit, hcredit, rfl⟩ := List.mem_map.1 hadded
  exact Eligibility.outpoint_not_mem_seen hcredit hlisted

theorem mem_points_creditOutputs {point : OutPoint} :
    point ∈ (creditOutputs book template index ledger outputs).2.points ↔
      point ∈ ledger.points ∨
        point ∈ (ownCredits book template index outputs).map Credit.outpoint := by
  rw [creditOutputs_eq, points, List.map_append, List.mem_append, ← points]
  constructor
  · rintro (hlisted | hadded)
    · exact Or.inl hlisted
    · exact Or.inr (((Eligibility.firstAtOutpoint_sublist _ _).map _).subset hadded)
  · rintro (hlisted | hown)
    · exact Or.inl hlisted
    · by_cases hlisted : point ∈ ledger.points
      · exact Or.inl hlisted
      · obtain ⟨credit, hcredit, rfl⟩ := List.mem_map.1 hown
        exact Or.inr (Eligibility.mem_outpoints_firstAtOutpoint hcredit hlisted)

/-! ## Recording a transaction -/

/-- The wallet with other credits in its ledger. -/
def withCredits (wallet : Wallet σ) (credits : List Credit) : Wallet σ :=
  { wallet with ledger := { wallet.ledger with credits } }

/-- The credits that the transaction does not spend. A coinbase transaction spends none. -/
def keptBy (wallet : Wallet σ) (tx : Transaction) : List Credit :=
  if tx.isCoinbase then wallet.ledger.credits
  else wallet.ledger.credits.filter fun credit =>
    credit.outpoint ∉ tx.inputs.map Input.previousOutput

/-- The credits of the outputs that pay the wallet, except those whose outpoint is listed when their
turn comes. -/
def addedBy (wallet : Wallet σ) (tx : Transaction) (blockHeight : Option UInt64) : List Credit :=
  Eligibility.firstAtOutpoint ((wallet.keptBy tx).map Credit.outpoint)
    (ownCredits wallet.book ⟨tx.txid, blockHeight, tx.isCoinbase⟩ 0 tx.outputs)

/-- Recording a transaction takes out what it spends and adds what it pays the wallet at the end. -/
theorem recordTransaction_eq_added (wallet : Wallet σ) (hdistinct : wallet.ledger.Distinct)
    (tx : Transaction) (blockHeight : Option UInt64) :
    wallet.recordTransaction tx blockHeight =
      ((wallet.addedBy tx blockHeight).length,
        wallet.withCredits (wallet.keptBy tx ++ wallet.addedBy tx blockHeight)) := by
  have hspent : (if tx.isCoinbase then wallet.ledger else spendInputs wallet.ledger tx.inputs) =
      { wallet.ledger with credits := wallet.keptBy tx } := by
    rw [keptBy]
    split
    · rfl
    · exact spendInputs_eq hdistinct tx.inputs
  rw [recordTransaction, hspent, creditOutputs_eq]
  rfl

/-- With outputs at fewer than 2^64 positions, those are added whose outpoint is not listed. -/
theorem addedBy_eq_filter (wallet : Wallet σ) {tx : Transaction}
    (hroom : tx.outputs.length ≤ UInt64.size) (blockHeight : Option UInt64) :
    wallet.addedBy tx blockHeight =
      (ownCredits wallet.book ⟨tx.txid, blockHeight, tx.isCoinbase⟩ 0 tx.outputs).filter
        fun credit => credit.outpoint ∉ (wallet.keptBy tx).map Credit.outpoint := by
  have hnodup : ((ownCredits wallet.book ⟨tx.txid, blockHeight, tx.isCoinbase⟩ 0
      tx.outputs).map Credit.outpoint).Nodup :=
    ownCredits_nodup (by rwa [Nat.zero_add])
  exact Eligibility.firstAtOutpoint_eq_filter hnodup

/-- Recording a transaction whose outputs are not listed yet takes out what it spends and adds what
it pays the wallet. -/
theorem recordTransaction_eq (wallet : Wallet σ) (hdistinct : wallet.ledger.Distinct)
    {tx : Transaction} (htx : tx.isCoinbase = false)
    (hnew : ∀ credit ∈ wallet.ledger.credits, credit.outpoint.txid ≠ tx.txid)
    (hroom : tx.outputs.length ≤ UInt64.size) (blockHeight : Option UInt64) :
    wallet.recordTransaction tx blockHeight =
      ((ownCredits wallet.book ⟨tx.txid, blockHeight, false⟩ 0 tx.outputs).length,
        { wallet with ledger := { wallet.ledger with
          credits := wallet.ledger.credits.filter (fun credit =>
              credit.outpoint ∉ tx.inputs.map Input.previousOutput) ++
            ownCredits wallet.book ⟨tx.txid, blockHeight, false⟩ 0 tx.outputs } }) := by
  have hkept : wallet.keptBy tx = wallet.ledger.credits.filter fun credit =>
      credit.outpoint ∉ tx.inputs.map Input.previousOutput := by
    rw [keptBy, htx, if_neg Bool.false_ne_true]
  have hadded : wallet.addedBy tx blockHeight =
      ownCredits wallet.book ⟨tx.txid, blockHeight, false⟩ 0 tx.outputs := by
    rw [addedBy_eq_filter wallet hroom, htx, List.filter_eq_self]
    intro credit hcredit
    obtain ⟨_, _, _, _, _, rfl⟩ := mem_ownCredits.1 hcredit
    refine decide_eq_true fun hlisted => ?_
    obtain ⟨listed, hmem, hsame⟩ := List.mem_map.1 hlisted
    rw [hkept] at hmem
    exact hnew listed (List.mem_of_mem_filter hmem) (congrArg OutPoint.txid hsame)
  rw [recordTransaction_eq_added wallet hdistinct, hkept, hadded]
  rfl

/-! ## Calls -/

section Calls

variable (backend : AccountStore σ) {wallet : Wallet σ}

theorem ledger_build (request : AuthoringRequest) (account : AccountId) (draws : Nat → Draws) :
    (build backend request account draws wallet).2.ledger = wallet.ledger := by
  rcases build_state_cases backend request account draws wallet with hunchanged | hasked
  · rw [hunchanged]
  · rw [hasked]

theorem ledger_createSigned (payments : List Payment) (options : Options) (draws : Nat → Draws) :
    (createSigned backend draws payments options wallet).2.ledger = wallet.ledger := by
  rw [createSigned_state, author_eq_build, ledger_build]

end Calls

end Wallet

end Purse
