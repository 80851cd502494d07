import Purse.Authoring.Selection
import Purse.Proofs.Amount

/-!
# What a selection takes

A selection is the shortest beginning of the arranged credits that reaches the target.  Draws settle
any order there is, and the order of the largest strategy is descending and stable.
-/

namespace Purse

/-! ## Orders -/

theorem shuffle_perm {α : Type} (draws : Draws) (items : List α) :
    (shuffle draws items).Perm items := by
  induction draws generalizing items with
  | nil => exact List.Perm.refl items
  | cons draw draws ih =>
      cases items with
      | nil => exact List.Perm.refl []
      | cons item rest =>
          have hindex : draw % (item :: rest).length < (item :: rest).length :=
            Nat.mod_lt draw (Nat.succ_pos rest.length)
          simp only [shuffle, List.getElem?_eq_getElem hindex, Option.toList_some,
            List.singleton_append]
          exact ((ih _).cons _).trans (List.getElem_cons_eraseIdx_perm hindex)

/-- Every order is settled by some draws. -/
theorem exists_shuffle_eq {α : Type} {order items : List α} (hperm : order.Perm items) :
    ∃ draws, shuffle draws items = order := by
  induction order generalizing items with
  | nil => exact ⟨[], hperm.nil_eq.symm⟩
  | cons first order ih =>
      have hfirst : first ∈ items := hperm.subset List.mem_cons_self
      obtain ⟨index, hindex, hget⟩ := List.mem_iff_getElem.1 hfirst
      have hrest : order.Perm (items.eraseIdx index) := by
        apply List.Perm.cons_inv (a := first)
        rw [← hget]
        exact (hget ▸ hperm).trans (List.getElem_cons_eraseIdx_perm hindex).symm
      obtain ⟨draws, hdraws⟩ := ih hrest
      refine ⟨index :: draws, ?_⟩
      cases items with
      | nil => cases hfirst
      | cons item rest =>
          simp only [shuffle, Nat.mod_eq_of_lt hindex, List.getElem?_eq_getElem hindex,
            Option.toList_some, List.singleton_append, hget, hdraws]

/-- The exact value of credits. -/
def Credit.worth (credits : List Credit) : Nat :=
  Amount.total (credits.map Credit.amount)

namespace Credit

@[simp]
theorem worth_nil : worth [] = 0 := rfl

@[simp]
theorem worth_cons (credit : Credit) (rest : List Credit) :
    worth (credit :: rest) = credit.amount.toNat + worth rest := rfl

theorem worth_append (left right : List Credit) :
    worth (left ++ right) = worth left + worth right := by
  rw [worth, List.map_append, Amount.total_append, worth, worth]

theorem worth_perm {left right : List Credit} (hperm : left.Perm right) :
    worth left = worth right :=
  Amount.total_perm (hperm.map Credit.amount)

theorem worth_le_of_subperm {left right : List Credit} (hsubperm : left.Subperm right) :
    worth left ≤ worth right := by
  obtain ⟨chosen, hchosen, hsublist⟩ := hsubperm
  obtain ⟨rest, hrest⟩ := hsublist.exists_perm_append
  rw [← worth_perm hchosen, worth_perm hrest, worth_append]
  exact Nat.le_add_right _ _

end Credit

namespace Selection

open Credit

/-- The credits that are worth spending. -/
def candidates (eligible : List Credit) (rate : FeeRate) : List Credit :=
  eligible.filter fun credit => credit.yieldsPositively rate

theorem yieldsPositively_of_mem_candidates {eligible : List Credit} {rate : FeeRate}
    {credit : Credit} (hcredit : credit ∈ candidates eligible rate) :
    credit.yieldsPositively rate := by
  simpa using (List.mem_filter.1 hcredit).2

theorem arrange_perm (strategy : SelectionStrategy) (draws : Draws) (credits : List Credit) :
    (arrange strategy draws credits).Perm credits := by
  cases strategy with
  | largest => exact List.mergeSort_perm credits _
  | random => exact shuffle_perm draws credits

/-- `ordered` holds the credits by descending amount, and leaves equal amounts in their order. -/
structure Descending (credits ordered : List Credit) : Prop where
  perm : ordered.Perm credits
  sorted : ordered.Pairwise fun a b => b.amount ≤ a.amount
  stable : ∀ amount, (ordered.filter fun credit => credit.amount = amount) =
    credits.filter fun credit => credit.amount = amount

theorem amountOrder_trans (a b c : Credit) (hab : decide (b.amount ≤ a.amount) = true)
    (hbc : decide (c.amount ≤ b.amount) = true) : decide (c.amount ≤ a.amount) = true := by
  rw [decide_eq_true_iff] at *
  exact UInt64.le_trans hbc hab

theorem amountOrder_total (a b : Credit) :
    (decide (b.amount ≤ a.amount) || decide (a.amount ≤ b.amount)) = true := by
  simpa using UInt64.le_total b.amount a.amount

theorem arrange_largest_sorted (draws : Draws) (credits : List Credit) :
    (arrange .largest draws credits).Pairwise fun a b => b.amount ≤ a.amount := by
  have hsorted := List.pairwise_mergeSort amountOrder_trans amountOrder_total credits
  simpa only [arrange, decide_eq_true_eq] using hsorted

/-- The credits of one amount are sorted as they stand, so sorting keeps them in their order. -/
theorem arrange_largest_stable (draws : Draws) (credits : List Credit) (amount : Amount) :
    ((arrange .largest draws credits).filter fun credit => credit.amount = amount) =
      credits.filter fun credit => credit.amount = amount := by
  let equals : Credit → Bool := fun credit => credit.amount = amount
  have hequal : (credits.filter equals).Pairwise
      fun a b => decide (b.amount ≤ a.amount) = true := by
    apply List.pairwise_of_forall_mem_list
    intro a ha b hb
    have hleft : a.amount = amount := by simpa [equals] using (List.mem_filter.1 ha).2
    have hright : b.amount = amount := by simpa [equals] using (List.mem_filter.1 hb).2
    rw [hleft, hright]
    exact decide_eq_true (UInt64.le_refl amount)
  have hsublist : (credits.filter equals).Sublist (arrange .largest draws credits) :=
    List.sublist_mergeSort amountOrder_trans amountOrder_total hequal List.filter_sublist
  have hkept : (credits.filter equals).Sublist
      ((arrange .largest draws credits).filter equals) := by
    simpa [List.filter_filter] using hsublist.filter equals
  have hlength := ((arrange_perm .largest draws credits).filter equals).length_eq
  exact (hkept.eq_of_length hlength.symm).symm

theorem arrange_largest_descending (draws : Draws) (credits : List Credit) :
    Descending credits (arrange .largest draws credits) where
  perm := arrange_perm .largest draws credits
  sorted := arrange_largest_sorted draws credits
  stable := arrange_largest_stable draws credits

/-! ## Accumulation -/

/-- `selection` is the shortest beginning of `ordered` that is worth the target. -/
structure Shortest (ordered : List Credit) (target : Amount) (selection : Selection) : Prop where
  begins : selection.selected <+: ordered
  total_eq : selection.total.toNat = min (worth selection.selected) (UInt64.size - 1)
  reaches : target.toNat ≤ worth selection.selected
  short : ∀ beginning, beginning <+: selection.selected → beginning ≠ selection.selected →
    worth beginning < target.toNat

theorem accumulate_selected_begins (target total : Amount) (credits : List Credit) :
    (accumulate target total credits).selected <+: credits := by
  induction credits generalizing total with
  | nil => exact List.prefix_rfl
  | cons credit rest ih =>
      simp only [accumulate]
      split
      · exact List.nil_prefix
      · exact (List.prefix_cons_inj credit).2 (ih _)

theorem toNat_accumulate_total (target total : Amount) (credits : List Credit) :
    (accumulate target total credits).total.toNat =
      min (total.toNat + worth (accumulate target total credits).selected) (UInt64.size - 1) := by
  have hbound (amount : Amount) : amount.toNat ≤ UInt64.size - 1 :=
    Nat.le_sub_one_of_lt amount.toNat_lt
  induction credits generalizing total with
  | nil =>
      have htotal := hbound total
      simp only [accumulate, worth_nil]
      omega
  | cons credit rest ih =>
      have htotal := hbound total
      simp only [accumulate]
      split
      · simp only [worth_nil]
        omega
      · simp only [worth_cons]
        rw [ih, Amount.toNat_addSaturating]
        omega

/-- What was taken before the last credit falls short of the target. -/
theorem accumulate_short {target total : Amount} {credits beginning : List Credit}
    (hbegins : beginning <+: (accumulate target total credits).selected)
    (hproper : beginning ≠ (accumulate target total credits).selected) :
    total.toNat + worth beginning < target.toNat := by
  have htarget : target.toNat ≤ UInt64.size - 1 := Nat.le_sub_one_of_lt target.toNat_lt
  induction credits generalizing total beginning with
  | nil => exact absurd (List.prefix_nil.1 hbegins) hproper
  | cons credit rest ih =>
      simp only [accumulate] at hbegins hproper
      split at hbegins
      · exact absurd (List.prefix_nil.1 hbegins) (by rwa [if_pos ‹_›] at hproper)
      · rename_i hreached
        rw [if_neg hreached] at hproper
        have hbelow : total.toNat < target.toNat := by
          simpa [UInt64.le_iff_toNat_le] using hreached
        cases beginning with
        | nil => simpa using hbelow
        | cons first beginning =>
            obtain ⟨rfl, htail⟩ := List.cons_prefix_cons.1 hbegins
            have hshort := ih htail (fun heq => hproper (by rw [heq]))
            rw [Amount.toNat_addSaturating] at hshort
            simp only [worth_cons]
            omega

theorem accumulate_exhausts {target total : Amount} {credits : List Credit}
    (hshort : (accumulate target total credits).total < target) :
    (accumulate target total credits).selected = credits := by
  induction credits generalizing total with
  | nil => rfl
  | cons credit rest ih =>
      simp only [accumulate] at hshort ⊢
      split
      · rename_i hreached
        rw [if_pos hreached] at hshort
        exact absurd hshort (UInt64.not_lt.2 hreached)
      · rename_i hreached
        rw [if_neg hreached] at hshort
        simpa using ih hshort

/-- A selection is the shortest beginning that reaches the target, or all candidates together fall
short of it. -/
theorem select_cases (strategy : SelectionStrategy) (draws : Draws) (eligible : List Credit)
    (target : Amount) (rate : FeeRate) :
    (∃ selection, select strategy draws eligible target rate = .ok selection ∧
      Shortest (arrange strategy draws (candidates eligible rate)) target selection) ∨
    (∃ available, select strategy draws eligible target rate =
        .error (.insufficientFunds available target) ∧
      available.toNat = worth (candidates eligible rate) ∧
      worth (candidates eligible rate) < target.toNat) := by
  have htarget : target.toNat ≤ UInt64.size - 1 := Nat.le_sub_one_of_lt target.toNat_lt
  let ordered := arrange strategy draws (candidates eligible rate)
  let taken := accumulate target 0 ordered
  have htotal : taken.total.toNat = min (worth taken.selected) (UInt64.size - 1) := by
    have h := toNat_accumulate_total target 0 ordered
    rwa [UInt64.toNat_zero, Nat.zero_add] at h
  have hselect : select strategy draws eligible target rate =
      if taken.total < target then .error (.insufficientFunds taken.total target)
      else .ok taken := rfl
  rw [hselect]
  by_cases hshort : taken.total < target
  · have hall : taken.selected = ordered := accumulate_exhausts hshort
    have hworth : worth taken.selected = worth (candidates eligible rate) := by
      rw [hall]
      exact worth_perm (arrange_perm strategy draws _)
    have hbelow := UInt64.lt_iff_toNat_lt.1 hshort
    refine Or.inr ⟨taken.total, if_pos hshort, ?_, ?_⟩ <;> omega
  · have hreached := UInt64.le_iff_toNat_le.1 (UInt64.not_lt.1 hshort)
    refine Or.inl ⟨taken, if_neg hshort, ?_⟩
    exact {
      begins := accumulate_selected_begins target 0 ordered
      total_eq := htotal
      reaches := by omega
      short := fun beginning hbegins hproper => by
        simpa using accumulate_short hbegins hproper }

/-! ## Where the total is exact -/

namespace Shortest

variable {ordered : List Credit} {target : Amount} {selection : Selection}

theorem target_le_total (hshortest : Shortest ordered target selection) :
    target.toNat ≤ selection.total.toNat := by
  have htarget : target.toNat ≤ UInt64.size - 1 := Nat.le_sub_one_of_lt target.toNat_lt
  have hreaches := hshortest.reaches
  rw [hshortest.total_eq]
  omega

/-- In descending order no credit is worth more than the first, so the last one cannot carry the
total past 64 bits. -/
theorem worth_lt_size (hshortest : Shortest ordered target selection)
    (hsorted : ordered.Pairwise fun a b => b.amount ≤ a.amount)
    (htarget : target.toNat + target.toNat ≤ UInt64.size) :
    worth selection.selected < UInt64.size := by
  rcases List.eq_nil_or_concat selection.selected with hnil | ⟨initial, last, hconcat⟩
  · rw [hnil, worth_nil]
    decide
  · rw [List.concat_eq_append] at hconcat
    have hinitial : worth initial < target.toNat :=
      hshortest.short initial (hconcat ▸ List.prefix_append initial [last])
        (by simp [hconcat])
    have hlast : last.amount.toNat < UInt64.size := last.amount.toNat_lt
    rw [hconcat, worth_append, worth_cons, worth_nil]
    cases initial with
    | nil => simpa using hlast
    | cons first middle =>
        have hpair : (first :: (middle ++ [last])).Pairwise fun a b => b.amount ≤ a.amount := by
          have h := hsorted.sublist hshortest.begins.sublist
          rwa [hconcat, List.cons_append] at h
        have hle := UInt64.le_iff_toNat_le.1
          (List.rel_of_pairwise_cons hpair (List.mem_append_right middle List.mem_cons_self))
        rw [worth_cons] at hinitial ⊢
        omega

theorem total_eq_worth (hshortest : Shortest ordered target selection)
    (hsize : worth selection.selected < UInt64.size) :
    selection.total.toNat = worth selection.selected := by
  rw [hshortest.total_eq, Nat.min_eq_left (Nat.le_sub_one_of_lt hsize)]

/-- There is one shortest beginning that reaches a target. -/
theorem unique {other : Selection} (hshortest : Shortest ordered target selection)
    (hother : Shortest ordered target other) : selection = other := by
  have hselected : selection.selected = other.selected := by
    by_contra hdifferent
    rcases List.prefix_or_prefix_of_prefix hshortest.begins hother.begins with hbegins | hbegins
    · exact absurd hshortest.reaches
        (Nat.not_le.2 (hother.short _ hbegins hdifferent))
    · exact absurd hother.reaches
        (Nat.not_le.2 (hshortest.short _ hbegins (Ne.symm hdifferent)))
  have htotal : selection.total = other.total := by
    rw [← UInt64.toNat_inj, hshortest.total_eq, hother.total_eq, hselected]
  cases selection
  cases other
  cases hselected
  cases htotal
  rfl

end Shortest

end Selection

end Purse
