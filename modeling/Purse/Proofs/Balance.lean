import Purse.Proofs.Recheck
import Purse.Proofs.Unspent

/-!
# Balances

A wallet's balance is what the credits are worth that authoring starts from.  The ledger asks for
the account and the depth of a credit, and the recheck asks for them again, so neither refuses what
the other admits.
-/

namespace Purse

variable {σ τ : Type}

open Credit Eligibility

namespace Ledger

variable {ledger : Ledger} {account : AccountId} {minConf : UInt32}

theorem mem_listUnspent {credit : Credit} (hcountable : credit.Countable ledger.tipHeight) :
    credit ∈ ledger.listUnspent account minConf ↔
      credit ∈ ledger.credits ∧ credit.account = account ∧
        minConf.toNat ≤ credit.depth ledger.tipHeight := by
  rw [listUnspent, List.mem_filter, Bool.and_eq_true, decide_eq_true_iff, decide_eq_true_iff,
    minConf_le_confirmations_iff minConf hcountable]

/-- The ledger withholds nothing that the recheck would admit. -/
theorem filter_listUnspent (inputKind : Option ScriptKind) :
    Eligibility.filter ⟨account, minConf, inputKind⟩ ledger.tipHeight
        (ledger.listUnspent account minConf) =
      Eligibility.filter ⟨account, minConf, inputKind⟩ ledger.tipHeight ledger.credits := by
  rw [Eligibility.filter, Eligibility.filter, listUnspent, List.filter_filter]
  congr 1
  apply List.filter_congr
  intro credit _
  simp only [admits]
  cases decide (credit.account = account) <;>
    cases decide (minConf.toUInt64 ≤ credit.confirmations ledger.tipHeight) <;>
      simp

end Ledger

namespace Wallet

variable {backend : AccountStore σ} {wallet after : Wallet σ} {account : AccountId}
  {minConf : UInt32}

/-- Words are added modulo 2^64. -/
theorem toNat_foldl_amount (credits : List Credit) (start : Amount) :
    (credits.foldl (fun total credit => total + credit.amount) start).toNat =
      (start.toNat + worth credits) % UInt64.size := by
  induction credits generalizing start with
  | nil => exact (Nat.mod_eq_of_lt start.toNat_lt).symm
  | cons credit rest ih =>
      rw [List.foldl_cons, ih, UInt64.toNat_add, Nat.mod_add_mod, worth_cons, Nat.add_assoc]

theorem toNat_balance (hsize : worth (wallet.eligible account minConf) < UInt64.size) :
    (wallet.balance account minConf).toNat = worth (wallet.eligible account minConf) := by
  rw [balance, toNat_foldl_amount, UInt64.toNat_zero, Nat.zero_add, Nat.mod_eq_of_lt hsize]

/-- Without repeated outpoints the eligible credits are the ledger's own, filtered. -/
theorem eligible_eq (hdistinct : wallet.ledger.Distinct)
    (hcountable : ∀ credit ∈ wallet.ledger.credits, credit.Countable wallet.ledger.tipHeight) :
    wallet.eligible account minConf = wallet.ledger.credits.filter fun credit =>
      Qualifies ⟨account, minConf, wallet.inputKind⟩ wallet.ledger.tipHeight credit := by
  rw [eligible, Ledger.filter_listUnspent]
  exact filter_of_nodup hdistinct hcountable

/-- What a transaction pays and what it leaves to the fee comes from the eligible credits. -/
theorem paid_le_worth_eligible {draws : Nat → Draws} {payments : List Payment} {feeRate : FeeRate}
    {strategy : SelectionStrategy} {dryRun : Bool} {authored : AuthoredTransaction}
    (hauthor : author backend draws payments ⟨account, minConf, feeRate, strategy⟩ dryRun wallet =
      (.ok authored, after)) :
    Amount.total (authored.tx.outputs.map Output.value) + authored.fee.toNat ≤
      worth (wallet.eligible account minConf) := by
  obtain ⟨prepared, hprepare, hend⟩ := build_eq_ok hauthor
  have hsound := sound_of_prepare hprepare
  have heligible : prepared.eligible = wallet.eligible account minConf := (prepare_eq_ok hprepare).2
  obtain ⟨_, _, hfunded⟩ := hsound.funded
  have hbalance : Amount.total (authored.tx.outputs.map Output.value) + authored.fee.toNat =
      prepared.funding.selection.total.toNat := by
    rcases hend with rfl | ⟨hkeeps, script, rfl⟩
    · exact hsound.unchanging_spends.balance.symm
    · exact (hsound.changing_spends hkeeps script).balance.symm
  calc
    Amount.total (authored.tx.outputs.map Output.value) + authored.fee.toNat =
        prepared.funding.selection.total.toNat := hbalance
    _ ≤ worth prepared.funding.selection.selected := by
      rw [hfunded.shortest.total_eq]
      exact min_le_left _ _
    _ ≤ worth prepared.eligible := worth_le_of_subperm hsound.selected_subperm
    _ = worth (wallet.eligible account minConf) := by rw [heligible]

/-- Whatever a ledger answers, the recheck leaves the first credit at each outpoint among those that
qualify.  On the wallet's own ledger that is what authoring starts from, and where no outpoint is
listed twice it is the filtered list.  The balance is its worth, and no transaction that is authored
takes more. -/
theorem eligible_exact (σ τ : Type) :
    (∀ (rule : Eligibility) (ledger : LedgerReader τ) (state middle after : τ) (tip : UInt64)
        (listed : List Credit), ledger.tipHeight state = (.ok tip, middle) →
      ledger.listUnspent rule.account rule.minConf middle = (.ok listed, after) →
      (∀ credit ∈ listed, credit.Countable tip) →
      ∃ eligible, rule.read ledger state = (.ok eligible, after) ∧
        rule.KeepsFirst tip listed eligible) ∧
    ∀ (wallet : Wallet σ) (account : AccountId) (minConf : UInt32),
      (∀ credit ∈ wallet.ledger.credits, credit.Countable wallet.ledger.tipHeight) →
      (∀ credit ∈ wallet.ledger.credits,
        credit ∈ wallet.ledger.listUnspent account minConf ↔
          credit.account = account ∧ minConf.toNat ≤ credit.depth wallet.ledger.tipHeight) ∧
      (wallet.ledger.Distinct →
        wallet.eligible account minConf = wallet.ledger.credits.filter fun credit =>
          Qualifies ⟨account, minConf, wallet.inputKind⟩ wallet.ledger.tipHeight credit) ∧
      (∀ payments feeRate strategy dryRun (book : AddressBook σ),
        ((wallet.request payments ⟨account, minConf, feeRate, strategy⟩ dryRun).eligibility
            account).read (wallet.ledger.reader (AddressBook σ)) book =
          (.ok (wallet.eligible account minConf), book)) ∧
      (worth (wallet.eligible account minConf) < UInt64.size →
        (wallet.balance account minConf).toNat = worth (wallet.eligible account minConf) ∧
        ∀ backend draws payments feeRate strategy dryRun authored after,
          author backend draws payments ⟨account, minConf, feeRate, strategy⟩ dryRun wallet =
            (.ok authored, after) →
          Amount.total (authored.tx.outputs.map Output.value) + authored.fee.toNat ≤
            (wallet.balance account minConf).toNat) := by
  constructor
  · intro rule ledger state middle after tip listed htip hlisted hcountable
    refine ⟨rule.filter tip listed, ?_, filter_keepsFirst hcountable⟩
    exact read_eq_ok_iff.2 ⟨tip, middle, listed, htip, hlisted, rfl⟩
  · intro wallet account minConf hcountable
    refine ⟨fun credit hcredit => ?_, fun hdistinct => eligible_eq hdistinct hcountable,
      fun _ _ _ _ book => read_reader _ _ book, fun hsize => ⟨toNat_balance hsize, ?_⟩⟩
    · rw [Ledger.mem_listUnspent (hcountable credit hcredit), and_iff_right hcredit]
    · intro backend draws payments feeRate strategy dryRun authored after hauthor
      rw [toNat_balance hsize]
      exact paid_le_worth_eligible hauthor

/-- One outpoint, listed for another account, as a young coinbase, and twice as it should be. -/
def disputedCredits : List Credit :=
  [⟨⟨Digest.zero, 0⟩, ⟨5000, ⟨.p2wpkh, Digest.zero⟩⟩, ⟨7⟩, some 1, false⟩,
    ⟨⟨Digest.zero, 0⟩, ⟨6000, ⟨.p2wpkh, Digest.zero⟩⟩, .default, some 90, true⟩,
    ⟨⟨Digest.zero, 0⟩, ⟨7000, ⟨.p2wpkh, Digest.zero⟩⟩, .default, some 100, false⟩,
    ⟨⟨Digest.zero, 0⟩, ⟨8000, ⟨.p2wpkh, Digest.zero⟩⟩, .default, some 1, false⟩]

/-- The third of the disputed credits is the eligible one.  The wallet with a credit of 100000 pays
99800 with a fee of 200, and its balance allows no more. -/
theorem eligible_exact_receivingWallet :
    (∃ eligible, Eligibility.read ⟨.default, 1, none⟩ (LedgerReader.constant 100 disputedCredits)
        () = (.ok eligible, ()) ∧ eligible.map Credit.amount = [7000] ∧
      Eligibility.KeepsFirst ⟨.default, 1, none⟩ 100 disputedCredits eligible) ∧
    (receivingWallet.eligible .default 1 = receivingWallet.ledger.credits.filter fun credit =>
      Qualifies ⟨.default, 1, none⟩ 10 credit) ∧
    receivingWallet.balance .default 1 = 100000 ∧
    Amount.total (outgoing.tx.outputs.map Output.value) + outgoing.fee.toNat ≤
      (receivingWallet.balance .default 1).toNat := by
  obtain ⟨hread, hwallet⟩ := eligible_exact MemoryStore.State Unit
  obtain ⟨_, hfiltered, _, hpaid⟩ := hwallet receivingWallet .default 1 (by decide)
  obtain ⟨eligible, heligible, hkeeps⟩ := hread ⟨.default, 1, none⟩
    (LedgerReader.constant 100 disputedCredits) () () () 100 disputedCredits rfl rfl (by decide)
  have hkept : eligible = [disputedCredits[2]] := by
    cases heligible
    rfl
  refine ⟨⟨eligible, heligible, ?_, hkeeps⟩, hfiltered distinct_receivingWallet, rfl,
    (hpaid (by decide)).2 _ _ _ _ _ _ _ _ author_receivingWallet⟩
  rw [hkept]
  rfl

end Wallet

end Purse
