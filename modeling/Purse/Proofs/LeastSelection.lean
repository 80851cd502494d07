import Purse.Proofs.Selection

/-!
# Selections are as small as they can be

Whether a target is reached depends on what the candidates are worth together, and on no order.  A
selection stops at the first credit that reaches the target.  In descending order that is the least
number of credits that any choice could do with.
-/

namespace Purse

/-! ## Positions of what is chosen -/

/-- What is chosen from a list stands at positions that are all different. -/
theorem exists_positions_of_subperm {α : Type} {chosen items : List α}
    (hchosen : chosen.Subperm items) :
    ∃ positions : List (Fin items.length), positions.Nodup ∧
      chosen = positions.map items.get := by
  obtain ⟨kept, hperm, hsublist⟩ := hchosen
  obtain ⟨ascending, rfl, hascending⟩ := List.sublist_eq_map_getElem hsublist
  have hordered : ∃ positions : List (Fin items.length),
      chosen = positions.map items.get ∧ positions.Perm ascending := by
    have hmeet := congrFun (congrFun (List.eq_map_comp_perm items.get) chosen) ascending
    exact hmeet.mpr hperm.symm
  obtain ⟨positions, hpositions, hsame⟩ := hordered
  refine ⟨positions, hsame.nodup_iff.2 ?_, hpositions⟩
  exact hascending.imp fun hlt => Fin.ne_of_lt hlt

namespace Selection

open Credit

/-! ## The largest credits -/

/-- Without a credit that none of the others exceeds, as many of the others are worth no more. -/
theorem worth_take_le_take_cons {first : Credit} {rest : List Credit}
    (hfirst : ∀ credit ∈ rest, credit.amount ≤ first.amount) (count : Nat) :
    worth (rest.take count) ≤ worth ((first :: rest).take count) := by
  cases count with
  | zero => exact Nat.le_refl 0
  | succ count =>
      have hnext : worth rest[count]?.toList ≤ first.amount.toNat := by
        cases hget : rest[count]? with
        | none => exact Nat.zero_le _
        | some credit =>
            exact UInt64.le_iff_toNat_le.1 (hfirst credit (List.mem_of_getElem? hget))
      calc
        worth (rest.take (count + 1)) = worth (rest.take count) + worth rest[count]?.toList := by
          rw [List.take_add_one, worth_append]
        _ ≤ worth (rest.take count) + first.amount.toNat := by
          apply Nat.add_le_add_left
          exact hnext
        _ = worth ((first :: rest).take (count + 1)) := by
          rw [List.take_succ_cons, worth_cons, Nat.add_comm]

/-- Any choice of credits is worth at most as much as equally many of the largest. -/
theorem worth_le_take_of_sublist {ordered chosen : List Credit}
    (hsorted : ordered.Pairwise fun a b => b.amount ≤ a.amount)
    (hchosen : chosen.Sublist ordered) :
    worth chosen ≤ worth (ordered.take chosen.length) := by
  induction hchosen with
  | slnil => exact Nat.le_refl 0
  | cons first _ ih =>
      obtain ⟨hfirst, hrest⟩ := List.pairwise_cons.1 hsorted
      apply (ih hrest).trans
      exact worth_take_le_take_cons hfirst _
  | cons_cons first _ ih =>
      rw [List.length_cons, List.take_succ_cons, worth_cons, worth_cons]
      apply Nat.add_le_add_left
      exact ih (List.pairwise_cons.1 hsorted).2

namespace Shortest

variable {ordered : List Credit} {target : Amount} {selection : Selection}
  (hshortest : Shortest ordered target selection)
include hshortest

theorem short_dropLast (hsome : selection.selected ≠ []) :
    worth selection.selected.dropLast < target.toNat := by
  apply hshortest.short _ (List.dropLast_prefix _)
  intro hsame
  have hlength := congrArg List.length hsame
  have hpositive := List.length_pos_of_ne_nil hsome
  rw [List.length_dropLast] at hlength
  omega

theorem selected_eq_nil_iff : selection.selected = [] ↔ target = 0 := by
  rw [← UInt64.toNat_inj, UInt64.toNat_zero]
  constructor
  · intro hnone
    have hreaches := hshortest.reaches
    rw [hnone, worth_nil] at hreaches
    exact Nat.le_zero.1 hreaches
  · intro hzero
    by_contra hsome
    have hshort := hshortest.short [] List.nil_prefix (Ne.symm hsome)
    omega

/-- Whatever else reaches the target takes at least as many credits, if the largest come first. -/
theorem length_le {credits chosen : List Credit} (hdescending : Descending credits ordered)
    (hchosen : chosen.Sublist credits) (hreaches : target.toNat ≤ worth chosen) :
    selection.selected.length ≤ chosen.length := by
  by_contra hfewer
  obtain ⟨same, hsame, hsublist⟩ := hchosen.subperm.trans hdescending.perm.symm.subperm
  have hbegins : ordered.take chosen.length <+: selection.selected := by
    apply List.prefix_of_prefix_length_le (List.take_prefix _ _) hshortest.begins
    rw [List.length_take]
    omega
  have hproper : ordered.take chosen.length ≠ selection.selected := by
    intro hequal
    have hlength := congrArg List.length hequal
    rw [List.length_take] at hlength
    omega
  have hshort : worth (ordered.take chosen.length) < target.toNat :=
    hshortest.short _ hbegins hproper
  have hlargest : worth chosen ≤ worth (ordered.take chosen.length) := by
    rw [← worth_perm hsame, ← hsame.length_eq]
    exact worth_le_take_of_sublist hdescending.sorted hsublist
  omega

end Shortest

/-! ## Selecting -/

/-- What is selected stands at different positions of the list that it was selected from. -/
theorem exists_positions_of_shortest {strategy : SelectionStrategy} {draws : Draws}
    {eligible : List Credit} {target : Amount} {rate : FeeRate} {selection : Selection}
    (hshortest : Shortest (arrange strategy draws (candidates eligible rate)) target selection) :
    ∃ positions : List (Fin eligible.length), positions.Nodup ∧
      selection.selected = positions.map eligible.get := by
  apply exists_positions_of_subperm
  have hcandidates : selection.selected.Subperm (candidates eligible rate) :=
    hshortest.begins.sublist.subperm.trans (arrange_perm strategy draws _).subperm
  exact hcandidates.trans List.filter_sublist.subperm

/-- A selection is found exactly where all credits that are worth spending reach the target
together, whatever the strategy and the order that is drawn, and any order may be drawn.  It is the
shortest beginning of the ordered candidates that reaches the target, and takes no position twice.
With the largest credits first, no smaller choice of candidates would do. -/
theorem select_exact (eligible : List Credit) (target : Amount) (rate : FeeRate) :
    (∀ order, order.Perm (candidates eligible rate) ↔
      ∃ draws, arrange .random draws (candidates eligible rate) = order) ∧
    (∀ draws, Descending (candidates eligible rate)
      (arrange .largest draws (candidates eligible rate))) ∧
    ∀ strategy draws,
      ((∃ selection, select strategy draws eligible target rate = .ok selection) ↔
        target.toNat ≤ worth (candidates eligible rate)) ∧
      (∀ fault, select strategy draws eligible target rate = .error fault →
        ∃ available, fault = .insufficientFunds available target ∧
          available.toNat = worth (candidates eligible rate)) ∧
      ∀ selection, select strategy draws eligible target rate = .ok selection →
        Shortest (arrange strategy draws (candidates eligible rate)) target selection ∧
        (selection.selected ≠ [] → worth selection.selected.dropLast < target.toNat) ∧
        (selection.selected = [] ↔ target = 0) ∧
        (∃ positions : List (Fin eligible.length), positions.Nodup ∧
          selection.selected = positions.map eligible.get) ∧
        (strategy = .largest → ∀ chosen, chosen.Sublist (candidates eligible rate) →
          target.toNat ≤ worth chosen → selection.selected.length ≤ chosen.length) := by
  refine ⟨fun order => ⟨exists_shuffle_eq, ?_⟩, fun draws => arrange_largest_descending draws _,
    fun strategy draws => ?_⟩
  · rintro ⟨draws, rfl⟩
    exact arrange_perm .random draws _
  rcases select_cases strategy draws eligible target rate with
    ⟨selection, hselect, hshortest⟩ | ⟨available, hselect, havailable, hshort⟩
  · have hreaches : target.toNat ≤ worth (candidates eligible rate) := by
      apply hshortest.reaches.trans
      rw [← worth_perm (arrange_perm strategy draws (candidates eligible rate))]
      exact worth_le_of_subperm hshortest.begins.sublist.subperm
    refine ⟨⟨fun _ => hreaches, fun _ => ⟨selection, hselect⟩⟩, fun fault hfault => ?_,
      fun other hother => ?_⟩
    · cases hselect.symm.trans hfault
    · cases hselect.symm.trans hother
      refine ⟨hshortest, hshortest.short_dropLast, hshortest.selected_eq_nil_iff,
        exists_positions_of_shortest hshortest, ?_⟩
      rintro rfl chosen hchosen hchosenReaches
      exact hshortest.length_le (arrange_largest_descending draws _) hchosen hchosenReaches
  · refine ⟨⟨?_, fun hreaches => absurd hreaches (Nat.not_le.2 hshort)⟩, fun fault hfault => ?_,
      fun other hother => ?_⟩
    · rintro ⟨selection, hok⟩
      cases hselect.symm.trans hok
    · cases hselect.symm.trans hfault
      exact ⟨available, rfl, havailable⟩
    · cases hselect.symm.trans hother

/-- Three credits of which two are equal, and one that is not worth its input. -/
def tiedCredits : List Credit :=
  [⟨⟨Digest.zero, 0⟩, ⟨5000, ⟨.p2wpkh, Digest.zero⟩⟩, .default, some 1, false⟩,
    ⟨⟨Digest.zero, 1⟩, ⟨60, ⟨.p2pkh, Digest.zero⟩⟩, .default, some 1, false⟩,
    ⟨⟨Digest.zero, 2⟩, ⟨7000, ⟨.p2tr, Digest.zero⟩⟩, .default, some 1, false⟩,
    ⟨⟨Digest.zero, 3⟩, ⟨5000, ⟨.p2wpkh, Digest.zero⟩⟩, .default, some 1, false⟩]

/-- The largest credit and the first of the equal ones reach 12000, and no single credit would. -/
theorem select_tiedCredits :
    ∃ selection, select .largest [] tiedCredits 12000 ⟨1000⟩ = .ok selection ∧
      selection.selected.map (fun credit => credit.outpoint.index) = [2, 0] ∧
      worth selection.selected.dropLast < 12000 ∧
      ∀ chosen, chosen.Sublist (candidates tiedCredits ⟨1000⟩) → 12000 ≤ worth chosen →
        2 ≤ chosen.length := by
  obtain ⟨_, _, hselects⟩ := select_exact tiedCredits 12000 ⟨1000⟩
  obtain ⟨hfound, _, hselected⟩ := hselects .largest []
  obtain ⟨selection, hselect⟩ := hfound.2 (by decide)
  obtain ⟨_, hshort, _, _, hfewest⟩ := hselected selection hselect
  have htaken : selection = ⟨[tiedCredits[2], tiedCredits[0]], 12000⟩ := by
    rw [← Except.ok.injEq, ← hselect]
    cbv
  subst htaken
  exact ⟨_, hselect, rfl, hshort (List.cons_ne_nil _ _), hfewest rfl⟩

end Selection

end Purse
