import Mathlib
import Purse.Authoring.Eligibility

/-!
# What the recheck of a ledger leaves

However often a ledger lists an outpoint, one eligible credit has it at most.
-/

namespace Purse.Eligibility

theorem outpoint_not_mem_seen {seen : List OutPoint} {credits : List Credit} {credit : Credit}
    (hcredit : credit ∈ firstAtOutpoint seen credits) : credit.outpoint ∉ seen := by
  induction credits generalizing seen with
  | nil => cases hcredit
  | cons first rest ih =>
      simp only [firstAtOutpoint] at hcredit
      split at hcredit
      · exact ih hcredit
      · rename_i hfirst
        rcases List.mem_cons.1 hcredit with rfl | hrest
        · exact hfirst
        · intro hseen
          exact ih hrest (List.mem_cons_of_mem _ hseen)

theorem firstAtOutpoint_sublist (seen : List OutPoint) (credits : List Credit) :
    (firstAtOutpoint seen credits).Sublist credits := by
  induction credits generalizing seen with
  | nil => exact List.Sublist.refl []
  | cons credit rest ih =>
      simp only [firstAtOutpoint]
      split
      · exact (ih seen).cons credit
      · exact (ih _).cons_cons credit

theorem filter_sublist (rule : Eligibility) (tip : UInt64) (listed : List Credit) :
    (rule.filter tip listed).Sublist listed :=
  (firstAtOutpoint_sublist [] _).trans List.filter_sublist

theorem firstAtOutpoint_nodup (seen : List OutPoint) (credits : List Credit) :
    ((firstAtOutpoint seen credits).map Credit.outpoint).Nodup := by
  induction credits generalizing seen with
  | nil => exact List.nodup_nil
  | cons credit rest ih =>
      simp only [firstAtOutpoint]
      split
      · exact ih seen
      · rw [List.map_cons, List.nodup_cons]
        refine ⟨fun hrepeated => ?_, ih _⟩
        obtain ⟨other, hother, heq⟩ := List.mem_map.1 hrepeated
        exact outpoint_not_mem_seen hother (heq ▸ List.mem_cons_self)

theorem filter_nodup (rule : Eligibility) (tip : UInt64) (listed : List Credit) :
    ((rule.filter tip listed).map Credit.outpoint).Nodup :=
  firstAtOutpoint_nodup [] _

variable {σ : Type}

theorem read_eq_ok_iff {rule : Eligibility} {ledger : LedgerReader σ} {state after : σ}
    {eligible : List Credit} :
    rule.read ledger state = (.ok eligible, after) ↔
      ∃ tip middle listed, ledger.tipHeight state = (.ok tip, middle) ∧
        ledger.listUnspent rule.account rule.minConf middle = (.ok listed, after) ∧
        eligible = rule.filter tip listed := by
  simp only [read, Action.bind_eq_ok_iff, Action.mapError_eq_ok_iff, Action.pure_apply,
    Prod.mk.injEq, Except.ok.injEq]
  constructor
  · rintro ⟨tip, middle, htip, listed, last, hlisted, heq, rfl⟩
    exact ⟨tip, middle, listed, htip, hlisted, heq.symm⟩
  · rintro ⟨tip, middle, listed, htip, hlisted, rfl⟩
    exact ⟨tip, middle, htip, listed, after, hlisted, rfl, rfl⟩

theorem read_eq_error_iff {rule : Eligibility} {ledger : LedgerReader σ} {state after : σ}
    {fault : WalletError} :
    rule.read ledger state = (.error fault, after) ↔
      ∃ cause, fault = .ofLedger cause ∧
        (ledger.tipHeight state = (.error cause, after) ∨
          ∃ tip middle, ledger.tipHeight state = (.ok tip, middle) ∧
            ledger.listUnspent rule.account rule.minConf middle = (.error cause, after)) := by
  simp only [read, Action.bind_eq_error_iff, Action.mapError_eq_ok_iff,
    Action.mapError_eq_error_iff, Action.pure_apply]
  constructor
  · rintro (⟨cause, htip, rfl⟩ | ⟨tip, middle, htip, ⟨cause, hlist, rfl⟩ | ⟨_, _, _, hpure⟩⟩)
    · exact ⟨cause, rfl, Or.inl htip⟩
    · exact ⟨cause, rfl, Or.inr ⟨tip, middle, htip, hlist⟩⟩
    · cases hpure
  · rintro ⟨cause, rfl, htip | ⟨tip, middle, htip, hlist⟩⟩
    · exact Or.inl ⟨cause, htip, rfl⟩
    · exact Or.inr ⟨tip, middle, htip, Or.inl ⟨cause, hlist, rfl⟩⟩

theorem read_eq_error {rule : Eligibility} {ledger : LedgerReader σ} {state after : σ}
    {fault : WalletError} (hread : rule.read ledger state = (.error fault, after)) :
    ∃ cause, fault = .ofLedger cause := by
  obtain ⟨cause, hcause, _⟩ := read_eq_error_iff.1 hread
  exact ⟨cause, hcause⟩

theorem nodup_of_read {rule : Eligibility} {ledger : LedgerReader σ} {state after : σ}
    {eligible : List Credit} (hread : rule.read ledger state = (.ok eligible, after)) :
    (eligible.map Credit.outpoint).Nodup := by
  obtain ⟨tip, middle, listed, _, _, rfl⟩ := read_eq_ok_iff.1 hread
  exact rule.filter_nodup tip listed

end Purse.Eligibility
