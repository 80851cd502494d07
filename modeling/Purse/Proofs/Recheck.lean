import Purse.Proofs.Eligibility

/-!
# The recheck of a ledger is exact

What a ledger lists may be foreign, immature and repeated.  The recheck keeps the first credit at
each outpoint among those that qualify, in the listed order.  A credit that does not qualify takes
no outpoint from a later one that does.
-/

namespace Purse

namespace Credit

/-- How many blocks confirm the credit, in natural numbers. -/
def depth (credit : Credit) (tip : UInt64) : Nat :=
  match credit.blockHeight with
  | none => 0
  | some height => tip.toNat + 1 - height.toNat

/-- The credit is not one of the block at height 0 under the largest tip, which 2^64 blocks
confirm. -/
def Countable (credit : Credit) (tip : UInt64) : Prop :=
  ¬ (credit.blockHeight = some 0 ∧ tip.toNat + 1 = UInt64.size)

instance (credit : Credit) (tip : UInt64) : Decidable (credit.Countable tip) :=
  inferInstanceAs (Decidable (¬ _))

theorem toNat_confirmations {credit : Credit} {tip : UInt64} (hcountable : credit.Countable tip) :
    (credit.confirmations tip).toNat = credit.depth tip := by
  rw [confirmations, depth]
  cases hheight : credit.blockHeight with
  | none => rfl
  | some height =>
      by_cases hbelow : height ≤ tip
      · have hle : height.toNat ≤ tip.toNat := UInt64.le_iff_toNat_le.1 hbelow
        have htip : tip.toNat < UInt64.size := tip.toNat_lt
        have hroom : tip.toNat - height.toNat + 1 < UInt64.size := by
          by_contra hfull
          apply hcountable
          rw [hheight, Option.some.injEq, ← UInt64.toNat_inj, UInt64.toNat_zero]
          omega
        simp only [if_pos hbelow]
        rw [UInt64.toNat_add, UInt64.toNat_sub_of_le _ _ hbelow, UInt64.toNat_one,
          Nat.mod_eq_of_lt hroom]
        omega
      · have habove : tip.toNat < height.toNat :=
          UInt64.lt_iff_toNat_lt.1 (UInt64.not_le.1 hbelow)
        simp only [if_neg hbelow, UInt64.toNat_zero]
        omega

end Credit

namespace Eligibility

/-! ## What qualifies -/

/-- What is asked of a credit by itself, in natural numbers. -/
structure Qualifies (rule : Eligibility) (tip : UInt64) (credit : Credit) : Prop where
  account_eq : credit.account = rule.account
  confirmed : rule.minConf.toNat ≤ credit.depth tip
  mature : credit.isCoinbase = true → Credit.coinbaseMaturity.toNat ≤ credit.depth tip
  kind_eq : ∀ kind ∈ rule.inputKind, credit.script.kind = kind

instance (rule : Eligibility) (tip : UInt64) (credit : Credit) :
    Decidable (rule.Qualifies tip credit) :=
  decidable_of_iff
    (credit.account = rule.account ∧ rule.minConf.toNat ≤ credit.depth tip ∧
      (credit.isCoinbase = true → Credit.coinbaseMaturity.toNat ≤ credit.depth tip) ∧
      ∀ kind ∈ rule.inputKind, credit.script.kind = kind)
    ⟨fun ⟨haccount, hconfirmed, hmature, hkind⟩ => ⟨haccount, hconfirmed, hmature, hkind⟩,
      fun hqualifies => ⟨hqualifies.account_eq, hqualifies.confirmed, hqualifies.mature,
        hqualifies.kind_eq⟩⟩

variable {rule : Eligibility} {tip : UInt64} {credit : Credit} {listed : List Credit}

theorem isMature_iff (hcountable : credit.Countable tip) :
    credit.isMature tip = true ↔
      (credit.isCoinbase = true → Credit.coinbaseMaturity.toNat ≤ credit.depth tip) := by
  rw [Credit.isMature, Bool.or_eq_true, decide_eq_true_iff, UInt64.le_iff_toNat_le,
    Credit.toNat_confirmations hcountable]
  cases credit.isCoinbase <;> simp

theorem minConf_le_confirmations_iff (minConf : UInt32) (hcountable : credit.Countable tip) :
    minConf.toUInt64 ≤ credit.confirmations tip ↔ minConf.toNat ≤ credit.depth tip := by
  rw [UInt64.le_iff_toNat_le, Credit.toNat_confirmations hcountable, UInt32.toNat_toUInt64]

theorem admits_iff (hcountable : credit.Countable tip) :
    rule.admits tip credit = true ↔ rule.Qualifies tip credit := by
  simp only [admits, Bool.and_eq_true, decide_eq_true_iff, isMature_iff hcountable,
    minConf_le_confirmations_iff _ hcountable]
  constructor
  · rintro ⟨⟨⟨haccount, hconfirmed⟩, hmature⟩, hkind⟩
    refine ⟨haccount, hconfirmed, hmature, fun kind hwanted => ?_⟩
    rw [Option.mem_def.1 hwanted] at hkind
    exact of_decide_eq_true hkind
  · rintro ⟨haccount, hconfirmed, hmature, hkind⟩
    refine ⟨⟨⟨haccount, hconfirmed⟩, hmature⟩, ?_⟩
    cases hwanted : rule.inputKind with
    | none => rfl
    | some kind => exact decide_eq_true (hkind kind hwanted)

/-! ## One credit more -/

theorem firstAtOutpoint_append_singleton (seen : List OutPoint) (credits : List Credit)
    (credit : Credit) :
    firstAtOutpoint seen (credits ++ [credit]) = firstAtOutpoint seen credits ++
      if credit.outpoint ∈ seen ∨ credit.outpoint ∈ credits.map Credit.outpoint then []
      else [credit] := by
  induction credits generalizing seen with
  | nil => by_cases hseen : credit.outpoint ∈ seen <;> simp [firstAtOutpoint, hseen]
  | cons first rest ih =>
      simp only [List.cons_append, firstAtOutpoint, List.map_cons, List.mem_cons]
      by_cases hfirst : first.outpoint ∈ seen
      · have hrepeated : credit.outpoint = first.outpoint → credit.outpoint ∈ seen :=
          fun heq => heq ▸ hfirst
        have hcondition : (credit.outpoint ∈ seen ∨ credit.outpoint = first.outpoint ∨
            credit.outpoint ∈ rest.map Credit.outpoint) ↔
            (credit.outpoint ∈ seen ∨ credit.outpoint ∈ rest.map Credit.outpoint) := by
          tauto
        simp only [if_pos hfirst, ih, hcondition]
      · have hcondition : (credit.outpoint ∈ first.outpoint :: seen ∨
            credit.outpoint ∈ rest.map Credit.outpoint) ↔
            (credit.outpoint ∈ seen ∨ credit.outpoint = first.outpoint ∨
              credit.outpoint ∈ rest.map Credit.outpoint) := by
          rw [List.mem_cons]
          tauto
        simp only [if_neg hfirst, ih, hcondition, List.cons_append]

/-- The credit qualifies, and none of the earlier ones that do has its outpoint. -/
def FirstAfter (rule : Eligibility) (tip : UInt64) (earlier : List Credit) (credit : Credit) :
    Prop :=
  rule.Qualifies tip credit ∧
    ∀ other ∈ earlier, rule.Qualifies tip other → other.outpoint ≠ credit.outpoint

/-- A credit at the end of the list is kept exactly if it is the first with its outpoint among those
that qualify. -/
theorem filter_append_singleton
    (hcountable : ∀ other ∈ listed ++ [credit], other.Countable tip) :
    rule.filter tip (listed ++ [credit]) = rule.filter tip listed ++ [credit] ∧
        rule.FirstAfter tip listed credit ∨
      rule.filter tip (listed ++ [credit]) = rule.filter tip listed ∧
        ¬ rule.FirstAfter tip listed credit := by
  have hlisted : ∀ other ∈ listed, (rule.admits tip other = true ↔ rule.Qualifies tip other) :=
    fun other hother => admits_iff (hcountable other (List.mem_append_left _ hother))
  have hcredit : rule.admits tip credit = true ↔ rule.Qualifies tip credit :=
    admits_iff (hcountable credit (List.mem_append_right _ List.mem_cons_self))
  by_cases hqualifies : rule.Qualifies tip credit
  · have hadmitted : [credit].filter (rule.admits tip) = [credit] := by
      rw [List.filter_singleton, hcredit.2 hqualifies, cond_true]
    have hfilter : rule.filter tip (listed ++ [credit]) = rule.filter tip listed ++
        if credit.outpoint ∈ [] ∨
            credit.outpoint ∈ (listed.filter (rule.admits tip)).map Credit.outpoint then []
        else [credit] := by
      rw [filter, List.filter_append, hadmitted, firstAtOutpoint_append_singleton, filter]
    by_cases hrepeated : credit.outpoint ∈
        (listed.filter (rule.admits tip)).map Credit.outpoint
    · rw [if_pos (Or.inr hrepeated), List.append_nil] at hfilter
      refine Or.inr ⟨hfilter, fun hfirst => ?_⟩
      obtain ⟨other, hother, hsame⟩ := List.mem_map.1 hrepeated
      obtain ⟨hmem, hadmits⟩ := List.mem_filter.1 hother
      exact hfirst.2 other hmem ((hlisted other hmem).1 hadmits) hsame
    · rw [if_neg (by simpa only [List.not_mem_nil, false_or] using hrepeated)] at hfilter
      refine Or.inl ⟨hfilter, hqualifies, fun other hother hadmits hsame => ?_⟩
      apply hrepeated
      rw [← hsame]
      exact List.mem_map_of_mem
        (List.mem_filter.2 ⟨hother, (hlisted other hother).2 hadmits⟩)
  · have hrefused : [credit].filter (rule.admits tip) = [] := by
      rw [List.filter_singleton, Bool.eq_false_iff.2 (hcredit.not.2 hqualifies), cond_false]
    refine Or.inr ⟨?_, fun hfirst => hqualifies hfirst.1⟩
    rw [filter, List.filter_append, hrefused, List.append_nil, filter]

/-! ## First among those that qualify -/

/-- At this position stands the first credit with its outpoint among those that qualify. -/
def Leads (rule : Eligibility) (tip : UInt64) (listed : List Credit) (index : Nat) : Prop :=
  ∃ credit, listed[index]? = some credit ∧ rule.FirstAfter tip (listed.take index) credit

theorem Leads.lt_length {index : Nat} (hleads : rule.Leads tip listed index) :
    index < listed.length := by
  obtain ⟨_, hget, _⟩ := hleads
  exact (List.getElem?_eq_some_iff.1 hget).1

theorem leads_append_singleton {index : Nat} :
    rule.Leads tip (listed ++ [credit]) index ↔
      rule.Leads tip listed index ∨ index = listed.length ∧ rule.FirstAfter tip listed credit := by
  rcases Nat.lt_trichotomy index listed.length with hbefore | rfl | hafter
  · rw [Leads, List.getElem?_append_left hbefore,
      List.take_append_of_le_length (Nat.le_of_lt hbefore), ← Leads]
    exact ⟨Or.inl, fun h => h.resolve_right fun hlast => hbefore.ne hlast.1⟩
  · rw [Leads, List.getElem?_concat_length, List.take_left]
    constructor
    · rintro ⟨_, hget, hfirst⟩
      cases hget
      exact Or.inr ⟨rfl, hfirst⟩
    · rintro (hleads | ⟨_, hfirst⟩)
      · exact absurd hleads.lt_length (Nat.lt_irrefl _)
      · exact ⟨credit, rfl, hfirst⟩
  · constructor
    · intro hleads
      have hlength := hleads.lt_length
      rw [List.length_append, List.length_singleton] at hlength
      exact absurd hafter (Nat.not_lt.2 (Nat.le_of_lt_succ hlength))
    · rintro (hleads | ⟨rfl, _⟩)
      · exact absurd hleads.lt_length (Nat.lt_asymm hafter)
      · exact absurd hafter (Nat.lt_irrefl _)

/-- The first credit at each outpoint among those that qualify, in the listed order. -/
structure KeepsFirst (rule : Eligibility) (tip : UInt64) (listed eligible : List Credit) :
    Prop where
  ordered : ∃ positions : List Nat, positions.Pairwise (· < ·) ∧
    (∀ index, index ∈ positions ↔ rule.Leads tip listed index) ∧
    eligible.map some = positions.map fun index => listed[index]?
  distinct : (eligible.map Credit.outpoint).Nodup
  complete : ∀ credit ∈ listed, rule.Qualifies tip credit →
    credit.outpoint ∈ eligible.map Credit.outpoint

/-- By induction on the list from its end: a position that leads also leads in a longer list. -/
theorem exists_positions (hcountable : ∀ credit ∈ listed, credit.Countable tip) :
    ∃ positions : List Nat, positions.Pairwise (· < ·) ∧
      (∀ index, index ∈ positions ↔ rule.Leads tip listed index) ∧
      (rule.filter tip listed).map some = positions.map fun index => listed[index]? := by
  induction listed using List.reverseRecOn with
  | nil =>
      refine ⟨[], List.Pairwise.nil, fun index => ?_, rfl⟩
      exact ⟨fun hindex => absurd hindex List.not_mem_nil,
        fun hleads => absurd hleads.lt_length (Nat.not_lt_zero _)⟩
  | append_singleton listed credit ih =>
      obtain ⟨positions, hincreasing, hpositions, hkept⟩ :=
        ih fun earlier hearlier => hcountable earlier (List.mem_append_left _ hearlier)
      have hinside : ∀ index ∈ positions, index < listed.length :=
        fun index hindex => ((hpositions index).1 hindex).lt_length
      have hsame : positions.map (fun index => (listed ++ [credit])[index]?) =
          positions.map fun index => listed[index]? := by
        apply List.map_congr_left
        intro index hindex
        exact List.getElem?_append_left (hinside index hindex)
      rcases filter_append_singleton hcountable with ⟨hfilter, hfirst⟩ | ⟨hfilter, hfirst⟩
      · refine ⟨positions ++ [listed.length], ?_, fun index => ?_, ?_⟩
        · rw [List.pairwise_append]
          refine ⟨hincreasing, List.pairwise_singleton _ _, fun index hindex last hlast => ?_⟩
          cases List.mem_singleton.1 hlast
          exact hinside index hindex
        · rw [leads_append_singleton, List.mem_append, List.mem_singleton, hpositions,
            and_iff_left hfirst]
        · rw [hfilter, List.map_append, List.map_append, hkept, hsame, List.map_singleton,
            List.map_singleton, List.getElem?_concat_length]
      · refine ⟨positions, hincreasing, fun index => ?_, ?_⟩
        · rw [leads_append_singleton, hpositions, or_iff_left fun hlast => hfirst hlast.2]
        · rw [hfilter, hkept, hsame]

theorem mem_outpoints_firstAtOutpoint {seen : List OutPoint} {credits : List Credit}
    (hcredit : credit ∈ credits) (hnew : credit.outpoint ∉ seen) :
    credit.outpoint ∈ (firstAtOutpoint seen credits).map Credit.outpoint := by
  induction credits generalizing seen with
  | nil => cases hcredit
  | cons first rest ih =>
      simp only [firstAtOutpoint]
      by_cases hfirst : first.outpoint ∈ seen
      · rw [if_pos hfirst]
        rcases List.mem_cons.1 hcredit with rfl | hrest
        · exact absurd hfirst hnew
        · exact ih hrest hnew
      · rw [if_neg hfirst, List.map_cons, List.mem_cons]
        by_cases hsame : credit.outpoint = first.outpoint
        · exact Or.inl hsame
        · right
          apply ih
          · rcases List.mem_cons.1 hcredit with rfl | hrest
            · exact absurd rfl hsame
            · exact hrest
          · rw [List.mem_cons, not_or]
            exact ⟨hsame, hnew⟩

theorem filter_keepsFirst (hcountable : ∀ credit ∈ listed, credit.Countable tip) :
    rule.KeepsFirst tip listed (rule.filter tip listed) where
  ordered := exists_positions hcountable
  distinct := rule.filter_nodup tip listed
  complete := by
    intro credit hcredit hqualifies
    have hadmits := (admits_iff (hcountable credit hcredit)).2 hqualifies
    exact mem_outpoints_firstAtOutpoint (List.mem_filter.2 ⟨hcredit, hadmits⟩)
      List.not_mem_nil

/-! ## Distinct outpoints -/

/-- Of credits at distinct outpoints, those outside `seen` are kept. -/
theorem firstAtOutpoint_eq_filter {seen : List OutPoint} {credits : List Credit}
    (hnodup : (credits.map Credit.outpoint).Nodup) :
    firstAtOutpoint seen credits = credits.filter fun credit => credit.outpoint ∉ seen := by
  induction credits generalizing seen with
  | nil => rfl
  | cons first rest ih =>
      rw [List.map_cons, List.nodup_cons] at hnodup
      rw [firstAtOutpoint]
      by_cases hfirst : first.outpoint ∈ seen
      · rw [if_pos hfirst, ih hnodup.2, List.filter_cons_of_neg (by simpa using hfirst)]
      · rw [if_neg hfirst, ih hnodup.2, List.filter_cons_of_pos (by simpa using hfirst)]
        congr 1
        apply List.filter_congr
        intro credit hcredit
        have hother : credit.outpoint ≠ first.outpoint := fun heq =>
          hnodup.1 (heq ▸ List.mem_map_of_mem hcredit)
        rw [decide_eq_decide, List.mem_cons, or_iff_right hother]

theorem firstAtOutpoint_of_nodup {seen : List OutPoint} {credits : List Credit}
    (hnodup : (credits.map Credit.outpoint).Nodup)
    (hnew : ∀ credit ∈ credits, credit.outpoint ∉ seen) :
    firstAtOutpoint seen credits = credits := by
  rw [firstAtOutpoint_eq_filter hnodup, List.filter_eq_self]
  exact fun credit hcredit => decide_eq_true (hnew credit hcredit)

/-- Only the members of `seen` matter. -/
theorem firstAtOutpoint_congr {seen other : List OutPoint} (credits : List Credit)
    (hsame : ∀ point, point ∈ seen ↔ point ∈ other) :
    firstAtOutpoint seen credits = firstAtOutpoint other credits := by
  induction credits generalizing seen other with
  | nil => rfl
  | cons first rest ih =>
      have hnext : ∀ point, point ∈ first.outpoint :: seen ↔ point ∈ first.outpoint :: other := by
        intro point
        rw [List.mem_cons, List.mem_cons, hsame]
      rw [firstAtOutpoint, firstAtOutpoint, ih hsame, ih hnext]
      simp only [hsame]

/-- Where no outpoint is listed twice, the recheck is a filter. -/
theorem filter_of_nodup (hnodup : (listed.map Credit.outpoint).Nodup)
    (hcountable : ∀ credit ∈ listed, credit.Countable tip) :
    rule.filter tip listed = listed.filter fun credit => rule.Qualifies tip credit := by
  have hsame : listed.filter (rule.admits tip) =
      listed.filter fun credit => rule.Qualifies tip credit := by
    apply List.filter_congr
    intro credit hcredit
    rw [Bool.eq_iff_iff, admits_iff (hcountable credit hcredit), decide_eq_true_iff]
  have hdistinct : ((listed.filter (rule.admits tip)).map Credit.outpoint).Nodup :=
    hnodup.sublist (List.filter_sublist.map _)
  rw [filter, firstAtOutpoint_of_nodup hdistinct fun _ _ => List.not_mem_nil, hsame]

end Eligibility

end Purse
