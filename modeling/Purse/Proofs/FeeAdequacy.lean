import Purse.Proofs.AddressBook
import Purse.Proofs.Authoring

/-!
# Fees of authored transactions

The fee is found for a transaction with a change output.  The transaction that is handed back may
have none, and the fee of a smaller transaction may be larger; but funding starts from a fee that
allows for this, and no later round asks for less.
-/

namespace Purse

variable {σ : Type}

/-- Right after it has named the kind of change, the source hands out scripts of that kind. -/
def ChangeSource.KeepsKind (addresses : ChangeSource σ) : Prop :=
  ∀ {account : AccountId} {commit : Bool} {state asked after : σ} {kind : ScriptKind}
    {script : Script}, addresses.kind account state = (.ok kind, asked) →
      addresses.script account commit asked = (.ok script, after) → script.kind = kind

theorem ChangeSource.keepsKind_constant (script : Script) :
    (constant script : ChangeSource σ).KeepsKind := by
  intro account commit state asked after kind handed hkind hscript
  cases commit <;> cases hkind <;> cases hscript <;> rfl

/-- Every address of an account is of the kind in its record. -/
theorem AddressBook.keepsKind_changeSource (backend : AccountStore σ) :
    (changeSource backend).KeepsKind := by
  intro account commit book asked after kind script hkind hscript
  have hasked : (book.accountKind account, book) = (.ok kind, asked) :=
    Action.mapError_eq_ok_iff.1 hkind
  obtain ⟨hfound, rfl⟩ := Prod.mk.inj hasked
  cases hrecord : book.record account with
  | error fault =>
      rw [accountKind, hrecord] at hfound
      cases hfound
  | ok record =>
      rw [accountKind, hrecord] at hfound
      cases hfound
      cases commit with
      | false =>
          have hcurrent : (book.currentChange account, book) = (.ok script, after) :=
            Action.mapError_eq_ok_iff.1 hscript
          rw [currentChange, hrecord] at hcurrent
          cases hcurrent
          rfl
      | true =>
          have hissue : issue backend account .internal book = (.ok script, after) :=
            Action.mapError_eq_ok_iff.1 hscript
          have hkeeps : backend.KeepsOnFailure fun _ => () := fun _ _ _ _ _ _ => rfl
          rcases issue_cases hkeeps account .internal book with
            ⟨fault, last, hfailed, _⟩ | ⟨handed, last, hok, hhanded⟩
          · rw [hfailed] at hissue
            cases hissue
          · rw [hok] at hissue
            cases hissue
            obtain ⟨same, _, hsame, _, _, _, rfl, _⟩ := hhanded.advances
            rw [record_eq_ok_iff, hsame] at hrecord
            cases hrecord
            rfl

/-- The virtual size of an authored transaction once it is signed, with a further output if `change`
is one. -/
def AuthoredTransaction.vsize (authored : AuthoredTransaction) (change : Option ScriptKind) : Nat :=
  estimateVirtualSize (authored.prevScripts.map Script.kind) authored.tx.outputs change

namespace AuthoringRequest

variable {request : AuthoringRequest} {prepared : Prepared}

/-- The size of a transaction that spends what was prepared. -/
theorem vsize_spending (outputs : List Output) (changeIndex : Option UInt64) (lockTime : UInt64)
    (fee : Amount) (change : Option ScriptKind) :
    (AuthoredTransaction.spending prepared.funding.selection outputs changeIndex lockTime
        fee).vsize change =
      estimateVirtualSize
        (prepared.funding.selection.selected.map fun credit => credit.script.kind) outputs
        change := by
  simp only [AuthoredTransaction.vsize, AuthoredTransaction.spending, List.map_map]
  rfl

namespace Sound

variable (hsound : request.Sound prepared)
include hsound

/-- Something is requested, so something is spent. -/
theorem selected_ne_nil : prepared.funding.selection.selected ≠ [] := by
  intro hnil
  obtain ⟨_, _, hfunded⟩ := hsound.funded
  have htotal := hfunded.shortest.total_eq
  have hpays := hsound.pays
  have hpositive := hsound.totalOut_pos
  rw [hnil, Credit.worth_nil, Nat.zero_min] at htotal
  omega

/-- The fee that funding ends with is that of the selected credits, the outputs and change. -/
theorem fee_eq :
    prepared.funding.fee = request.feeRate.fee (estimateVirtualSize
      (prepared.funding.selection.selected.map fun credit => credit.script.kind)
      request.requested (some prepared.changeKind)) := by
  obtain ⟨_, _, hfunded⟩ := hsound.funded
  exact hfunded.fee_eq

/-- Where change is dropped, what is left to the fee suffices for the smaller transaction, even if
it has to pay for a whole kilobyte that the larger one does not. -/
theorem fee_none_le :
    prepared.totalOut.toNat + (request.feeRate.fee (estimateVirtualSize
        (prepared.funding.selection.selected.map fun credit => credit.script.kind)
        request.requested none)).toNat ≤ prepared.funding.selection.total.toNat := by
  let kinds := prepared.funding.selection.selected.map fun credit => credit.script.kind
  obtain ⟨_, targetFee, hfunded⟩ := hsound.funded
  have hinputs : kinds ≠ [] := by simpa [kinds] using hsound.selected_ne_nil
  have hbetween := request.feeRate.toNat_fee_le_max
    (estimateVirtualSize_nil_le request.requested hinputs prepared.changeKind)
    (estimateVirtualSize_none_le request.requested kinds prepared.changeKind)
  have hstart : (request.feeRate.fee (estimateVirtualSize [] request.requested
      (some prepared.changeKind))).toNat ≤ targetFee.toNat := hfunded.start_le
  have hreached : prepared.totalOut.toNat + targetFee.toNat ≤
      prepared.funding.selection.total.toNat := hfunded.target_le
  have hpays := hsound.pays
  rw [hsound.fee_eq] at hpays
  rcases le_max_iff.1 hbetween with hsmall | hlarge
  · calc
      prepared.totalOut.toNat +
            (request.feeRate.fee (estimateVirtualSize kinds request.requested none)).toNat ≤
          prepared.totalOut.toNat + targetFee.toNat := by
        apply Nat.add_le_add_left
        exact hsmall.trans hstart
      _ ≤ prepared.funding.selection.total.toNat := hreached
  · calc
      prepared.totalOut.toNat +
            (request.feeRate.fee (estimateVirtualSize kinds request.requested none)).toNat ≤
          prepared.totalOut.toNat + (request.feeRate.fee (estimateVirtualSize kinds
            request.requested (some prepared.changeKind))).toNat := by
        apply Nat.add_le_add_left
        exact hlarge
      _ ≤ prepared.funding.selection.total.toNat := hpays

end Sound

/-- An authored transaction pays for its size: exactly if it has a change output, and otherwise by
no more than worthless change above what it had paid with one. -/
theorem build_fee_adequate (request : AuthoringRequest) (account : AccountId)
    (ledger : LedgerReader σ) (addresses : ChangeSource σ) (draws : Nat → Draws)
    {state after : σ} {authored : AuthoredTransaction} (hkinds : addresses.KeepsKind)
    (hbuild : request.build account ledger addresses draws state = (.ok authored, after)) :
    ∃ (eligible : List Credit) (read asked : σ) (changeKind : ScriptKind),
      (request.eligibility account).read ledger state = (.ok eligible, read) ∧
      addresses.kind account read = (.ok changeKind, asked) ∧
      request.feeRate.fee (authored.vsize none) ≤ authored.fee ∧
      (authored.changeIndex ≠ none → authored.fee = request.feeRate.fee (authored.vsize none)) ∧
      (authored.changeIndex = none →
        request.feeRate.fee (authored.vsize (some changeKind)) ≤ authored.fee ∧
        (authored.fee - request.feeRate.fee (authored.vsize (some changeKind)) = 0 ∨
          isDust (authored.fee - request.feeRate.fee (authored.vsize (some changeKind))) changeKind
            request.relayFee)) := by
  obtain ⟨prepared, asked, hprepare, hsound, hend⟩ := build_eq_ok hbuild
  obtain ⟨_, _, read, hread, hkind⟩ := prepare_eq_ok_iff.1 hprepare
  refine ⟨prepared.eligible, read, asked, prepared.changeKind, hread, hkind, ?_⟩
  have hpays := hsound.pays
  rcases hend with ⟨hdrops, rfl, rfl⟩ | ⟨hkeeps, script, hscript, rfl⟩
  · have hfee : (prepared.funding.selection.total - prepared.totalOut).toNat =
        prepared.funding.selection.total.toNat - prepared.totalOut.toNat :=
      Amount.toNat_sub_of_le (by omega)
    have hleft := hsound.fee_none_le
    rw [vsize_spending, vsize_spending, ← hsound.fee_eq]
    refine ⟨?_, ?_, fun _ => ⟨?_, ?_⟩⟩
    · apply UInt64.le_iff_toNat_le.2
      simp only [AuthoredTransaction.spending]
      omega
    · intro hkept
      exact absurd rfl hkept
    · apply UInt64.le_iff_toNat_le.2
      simp only [AuthoredTransaction.spending]
      omega
    · rw [dropsChange, Bool.or_eq_true, decide_eq_true_iff] at hdrops
      exact hdrops
  · have hsame : script.kind = prepared.changeKind := hkinds hkind hscript
    have hfee : prepared.funding.fee = request.feeRate.fee
        (estimateVirtualSize
          (prepared.funding.selection.selected.map fun credit => credit.script.kind)
          (request.requested ++ [prepared.changeOutput script]) none) := by
      rw [hsound.fee_eq, ← hsame]
      exact congrArg _ (estimateVirtualSize_append_output request.requested _
        (prepared.changeOutput script)).symm
    rw [vsize_spending, ← hfee]
    refine ⟨UInt64.le_refl _, fun _ => rfl, ?_⟩
    intro hdropped
    cases hdropped

/-- A payment of 50000 at a rate so low that a transaction without change, but not one with it, has
to pay for a whole kilobyte. -/
def cheapPayment : AuthoringRequest :=
  { ofConfig .standard with
    payments := [⟨⟨.p2wpkh, Digest.zero⟩, 50000⟩]
    feeRate := ⟨8⟩
    strategy := .random }

/-- A credit that leaves 10 for the fee of the payment. -/
def barelyEnough : List Credit :=
  [⟨⟨Digest.zero, 0⟩, ⟨50010, ⟨.p2wpkh, Digest.zero⟩⟩, .default, some 50, false⟩]

theorem build_cheapPayment_fee_adequate :
    ∃ authored, cheapPayment.build .default (.constant 100 barelyEnough)
        (.constant ⟨.p2wpkh, Digest.zero⟩) (fun _ => []) () = (.ok authored, ()) ∧
      authored.changeIndex = none ∧ authored.fee = 10 ∧
      cheapPayment.feeRate.fee (authored.vsize (some .p2wpkh)) = 1 ∧
      cheapPayment.feeRate.fee (authored.vsize none) = 8 ∧
      cheapPayment.feeRate.fee (authored.vsize none) ≤ authored.fee := by
  refine ⟨_, rfl, rfl, rfl, by decide, by decide, ?_⟩
  obtain ⟨_, _, _, _, _, _, hadequate, _⟩ :=
    @build_fee_adequate Unit cheapPayment .default (.constant 100 barelyEnough)
      (.constant ⟨.p2wpkh, Digest.zero⟩) (fun _ => []) () () _
      (ChangeSource.keepsKind_constant _) rfl
  exact hadequate

end AuthoringRequest

end Purse
