import Purse.Proofs.Allocation
import Purse.Proofs.Shortfall

/-!
# Why authoring fails

Authoring stops at the first of its checks, questions and rounds that goes wrong, and what it
reports says which one that was.
-/

namespace Purse

variable {σ : Type}

/-! ## What the collaborators answer -/

/-- The ledger is asked for its tip, then for the account's credits, and answers both. -/
inductive LedgerReader.Answers (ledger : LedgerReader σ) (account : AccountId) (minConf : UInt32)
    (state : σ) : (tip : UInt64) → (listed : List Credit) → (after : σ) → Prop where
  | mk {tip : UInt64} {listed : List Credit} {middle after : σ}
      (htip : ledger.tipHeight state = (.ok tip, middle))
      (hlist : ledger.listUnspent account minConf middle = (.ok listed, after)) :
      Answers ledger account minConf state tip listed after

/-- The ledger refuses its tip, or the account's credits after it. -/
inductive LedgerReader.Refuses (ledger : LedgerReader σ) (account : AccountId) (minConf : UInt32)
    (state : σ) : (fault : LedgerError) → (after : σ) → Prop where
  | tip {fault : LedgerError} {after : σ}
      (htip : ledger.tipHeight state = (.error fault, after)) :
      Refuses ledger account minConf state fault after
  | list {tip : UInt64} {fault : LedgerError} {middle after : σ}
      (htip : ledger.tipHeight state = (.ok tip, middle))
      (hlist : ledger.listUnspent account minConf middle = (.error fault, after)) :
      Refuses ledger account minConf state fault after

theorem Eligibility.read_eq_ok_iff_answers {rule : Eligibility} {ledger : LedgerReader σ}
    {state after : σ} {eligible : List Credit} :
    rule.read ledger state = (.ok eligible, after) ↔
      ∃ tip listed, ledger.Answers rule.account rule.minConf state tip listed after ∧
        eligible = rule.filter tip listed := by
  rw [read_eq_ok_iff]
  constructor
  · rintro ⟨tip, middle, listed, htip, hlist, heligible⟩
    exact ⟨tip, listed, ⟨htip, hlist⟩, heligible⟩
  · rintro ⟨tip, listed, ⟨htip, hlist⟩, heligible⟩
    exact ⟨tip, _, listed, htip, hlist, heligible⟩

theorem Eligibility.read_eq_error_iff_refuses {rule : Eligibility} {ledger : LedgerReader σ}
    {state after : σ} {fault : WalletError} :
    rule.read ledger state = (.error fault, after) ↔
      ∃ cause, fault = .ofLedger cause ∧
        ledger.Refuses rule.account rule.minConf state cause after := by
  rw [read_eq_error_iff]
  constructor
  · rintro ⟨cause, hfault, htip | ⟨tip, middle, htip, hlist⟩⟩
    · exact ⟨cause, hfault, .tip htip⟩
    · exact ⟨cause, hfault, .list htip hlist⟩
  · rintro ⟨cause, hfault, hrefuses⟩
    cases hrefuses with
    | tip htip => exact ⟨cause, hfault, Or.inl htip⟩
    | list htip hlist => exact ⟨cause, hfault, Or.inr ⟨_, _, htip, hlist⟩⟩

/-- The change address in use for a dry run, and a fresh one otherwise. -/
def ChangeSource.offer (addresses : ChangeSource σ) (account : AccountId) (dryRun : Bool) :
    Action σ DerivationError Script :=
  if dryRun then addresses.currentChange account else addresses.nextChange account

theorem ChangeSource.script_eq_offer (addresses : ChangeSource σ) (account : AccountId)
    (dryRun : Bool) :
    addresses.script account (!dryRun) =
      (addresses.offer account dryRun).mapError .ofDerivation := by
  cases dryRun with
  | false => rfl
  | true => rfl

namespace AuthoringRequest

variable (request : AuthoringRequest) (account : AccountId) (ledger : LedgerReader σ)
  (addresses : ChangeSource σ) (draws : Nat → Draws)

/-! ## What stops the first half -/

/-- The request asks for nothing, for an empty payment, or for more than all the money there is. -/
def Invalid : Prop :=
  request.payments = [] ∨ (∃ payment ∈ request.payments, payment.amount = 0) ∨
    Amount.maxMoney < Amount.total (request.payments.map Payment.amount)

variable {request} in
theorem total_eq_ok_iff_not_invalid {totalOut : Amount} :
    Payment.total request.payments = .ok totalOut ↔
      ¬ request.Invalid ∧
        totalOut.toNat = Amount.total (request.payments.map Payment.amount) := by
  rw [Payment.total_eq_ok_iff]
  simp only [Invalid, not_or, not_exists, not_and, Nat.not_lt, ← UInt64.pos_iff_ne_zero]
  constructor
  · rintro ⟨hsome, hpositive, htotal, hmoney⟩
    exact ⟨⟨hsome, hpositive, htotal ▸ hmoney⟩, htotal⟩
  · rintro ⟨⟨hsome, hpositive, hmoney⟩, htotal⟩
    exact ⟨hsome, hpositive, htotal, htotal ▸ hmoney⟩

variable {request} in
theorem exists_total_of_not_invalid (hvalid : ¬ request.Invalid) :
    ∃ totalOut, Payment.total request.payments = .ok totalOut := by
  have hmoney : Amount.total (request.payments.map Payment.amount) ≤ Amount.maxMoney :=
    Nat.not_lt.1 fun habove => hvalid (Or.inr (Or.inr habove))
  have hexact := UInt64.toNat_ofNat_of_lt' (Nat.lt_of_le_of_lt hmoney Amount.maxMoney_lt_size)
  exact ⟨_, total_eq_ok_iff_not_invalid.2 ⟨hvalid, hexact⟩⟩

variable {request} in
theorem invalid_iff :
    request.Invalid ↔ ∃ fault, Payment.total request.payments = .error fault := by
  constructor
  · intro hinvalid
    cases htotal : Payment.total request.payments with
    | error fault => exact ⟨fault, rfl⟩
    | ok totalOut => exact absurd hinvalid (total_eq_ok_iff_not_invalid.1 htotal).1
  · rintro ⟨fault, hfault⟩
    by_contra hvalid
    obtain ⟨totalOut, htotal⟩ := exists_total_of_not_invalid hvalid
    cases hfault.symm.trans htotal

/-- A valid request, what is eligible for it in the ledger, and the kind of its change: all that
funding starts from. -/
inductive Opens (state : σ) :
    (totalOut : Amount) → (eligible : List Credit) → (kind : ScriptKind) → (asked : σ) → Prop where
  | mk {totalOut : Amount} {tip : UInt64} {listed : List Credit} {kind : ScriptKind}
      {read asked : σ} (hvalid : ¬ request.Invalid)
      (htotal : totalOut.toNat = Amount.total (request.payments.map Payment.amount))
      (hanswers : ledger.Answers account request.minConf state tip listed read)
      (hkind : addresses.changeKind account read = (.ok kind, asked)) :
      Opens state totalOut ((request.eligibility account).filter tip listed) kind asked

/-- The first half of authoring stops, and reports why. -/
inductive Stops (state : σ) : (fault : WalletError) → (after : σ) → Prop where
  | invalid {fault : RequestFault} (htotal : Payment.total request.payments = .error fault) :
      Stops state (.request fault) state
  | unread {fault : LedgerError} {after : σ} (hvalid : ¬ request.Invalid)
      (hrefuses : ledger.Refuses account request.minConf state fault after) :
      Stops state (.ofLedger fault) after
  | kindless {tip : UInt64} {listed : List Credit} {fault : DerivationError} {read after : σ}
      (hvalid : ¬ request.Invalid)
      (hanswers : ledger.Answers account request.minConf state tip listed read)
      (hrefused : addresses.changeKind account read = (.error fault, after)) :
      Stops state (.ofDerivation fault) after
  | short {totalOut available needed : Amount} {eligible : List Credit} {kind : ScriptKind}
      {after : σ}
      (hopens : request.Opens account ledger addresses state totalOut eligible kind after)
      (hshort : (request.plan eligible totalOut kind).Shortfall draws
        request.maxFeeIterations.toNat available needed) :
      Stops state (.insufficientFunds available needed) after

/-- The first half of authoring ends with a round that covers its fee. -/
structure Prepares (state : σ) (prepared : Prepared) (asked : σ) : Prop where
  opens : request.Opens account ledger addresses state prepared.totalOut prepared.eligible
    prepared.changeKind asked
  covered : (request.plan prepared.eligible prepared.totalOut prepared.changeKind).Covered draws
    request.maxFeeIterations.toNat prepared.funding

variable {request account ledger addresses draws} {state after : σ} {prepared : Prepared}

theorem opens_iff {totalOut : Amount} {eligible : List Credit} {kind : ScriptKind} :
    request.Opens account ledger addresses state totalOut eligible kind after ↔
      Payment.total request.payments = .ok totalOut ∧
      ∃ read, (request.eligibility account).read ledger state = (.ok eligible, read) ∧
        addresses.kind account read = (.ok kind, after) := by
  simp only [ChangeSource.kind, Action.mapError_eq_ok_iff, total_eq_ok_iff_not_invalid,
    Eligibility.read_eq_ok_iff_answers]
  constructor
  · rintro ⟨hvalid, htotal, hanswers, hkind⟩
    exact ⟨⟨hvalid, htotal⟩, _, ⟨_, _, hanswers, rfl⟩, hkind⟩
  · rintro ⟨⟨hvalid, htotal⟩, read, ⟨tip, listed, hanswers, rfl⟩, hkind⟩
    exact ⟨hvalid, htotal, hanswers, hkind⟩

theorem Opens.total_le_maxMoney {totalOut : Amount} {eligible : List Credit} {kind : ScriptKind}
    (hopens : request.Opens account ledger addresses state totalOut eligible kind after) :
    totalOut.toNat ≤ Amount.maxMoney :=
  (Payment.total_eq_ok_iff.1 (opens_iff.1 hopens).1).2.2.2

theorem Opens.total_pos {totalOut : Amount} {eligible : List Credit} {kind : ScriptKind}
    (hopens : request.Opens account ledger addresses state totalOut eligible kind after) :
    0 < totalOut.toNat := by
  obtain ⟨hsome, hpositive, htotal, _⟩ := Payment.total_eq_ok_iff.1 (opens_iff.1 hopens).1
  have hlength := Payment.length_le_total hpositive
  have hnonempty := List.length_pos_of_ne_nil hsome
  omega

theorem prepares_iff :
    request.Prepares account ledger addresses draws state prepared after ↔
      request.prepare account ledger addresses draws state = (.ok prepared, after) := by
  rw [prepare_eq_ok_iff]
  constructor
  · rintro ⟨hopens, hcovered⟩
    obtain ⟨htotal, hread⟩ := opens_iff.1 hopens
    exact ⟨htotal, (FundingPlan.fund_eq_ok_iff hopens.total_le_maxMoney).2 hcovered, hread⟩
  · rintro ⟨htotal, hfund, hread⟩
    have hopens := opens_iff.2 ⟨htotal, hread⟩
    exact ⟨hopens, (FundingPlan.fund_eq_ok_iff hopens.total_le_maxMoney).1 hfund⟩

theorem Stops.prepare_eq {fault : WalletError}
    (hstops : request.Stops account ledger addresses draws state fault after) :
    request.prepare account ledger addresses draws state = (.error fault, after) := by
  have hchecked {result : Except RequestFault Amount}
      (htotal : Payment.total request.payments = result) :
      (Action.ofExcept ((Payment.total request.payments).mapError .request) :
        Action σ WalletError Amount) state = (result.mapError .request, state) := by
    rw [htotal, Action.ofExcept_apply]
  cases hstops with
  | invalid htotal => exact Action.bind_of_error (hchecked htotal)
  | @unread fault _ hvalid hrefuses =>
      obtain ⟨totalOut, htotal⟩ := exists_total_of_not_invalid hvalid
      have hread : (request.eligibility account).read ledger state =
          (.error (.ofLedger fault), after) :=
        Eligibility.read_eq_error_iff_refuses.2 ⟨fault, rfl, hrefuses⟩
      rw [prepare, Action.bind_of_ok (hchecked htotal), Action.bind_of_error hread]
  | @kindless tip listed fault read _ hvalid hanswers hrefused =>
      obtain ⟨totalOut, htotal⟩ := exists_total_of_not_invalid hvalid
      have hread : (request.eligibility account).read ledger state =
          (.ok ((request.eligibility account).filter tip listed), read) :=
        Eligibility.read_eq_ok_iff_answers.2 ⟨tip, listed, hanswers, rfl⟩
      have hkind : addresses.kind account read = (.error (.ofDerivation fault), after) :=
        Action.mapError_eq_error_iff.2 ⟨fault, hrefused, rfl⟩
      rw [prepare, Action.bind_of_ok (hchecked htotal), Action.bind_of_ok hread]
      exact Action.bind_of_error hkind
  | short hopens hshort =>
      obtain ⟨htotal, read, hread, hkind⟩ := opens_iff.1 hopens
      have hfund := hshort.fund_eq hopens.total_le_maxMoney
      rw [prepare, Action.bind_of_ok (hchecked htotal), Action.bind_of_ok hread,
        Action.bind_of_ok hkind, hfund]
      rfl

theorem stops_iff {fault : WalletError} :
    request.Stops account ledger addresses draws state fault after ↔
      request.prepare account ledger addresses draws state = (.error fault, after) := by
  refine ⟨Stops.prepare_eq, fun hprepare => ?_⟩
  -- each step stops the first half, or leaves what the condition of the next one starts from
  rw [prepare, Action.ofExcept_mapError] at hprepare
  rcases Action.bind_eq_error_iff.1 hprepare with hchecked | ⟨totalOut, _, hchecked, hprepare⟩
  · obtain ⟨cause, hrefused, rfl⟩ := Action.mapError_eq_error_iff.1 hchecked
    obtain ⟨htotal, rfl⟩ : Payment.total request.payments = .error cause ∧ state = after :=
      Prod.mk.inj hrefused
    exact .invalid htotal
  obtain ⟨htotal, rfl⟩ : Payment.total request.payments = .ok totalOut ∧ state = _ :=
    Prod.mk.inj (Action.mapError_eq_ok_iff.1 hchecked)
  have hvalid := (total_eq_ok_iff_not_invalid.1 htotal).1
  rcases Action.bind_eq_error_iff.1 hprepare with hread | ⟨eligible, read, hread, hprepare⟩
  · obtain ⟨cause, rfl, hrefuses⟩ := Eligibility.read_eq_error_iff_refuses.1 hread
    exact .unread hvalid hrefuses
  rcases Action.bind_eq_error_iff.1 hprepare with hkind | ⟨kind, asked, hkind, hprepare⟩
  · obtain ⟨tip, listed, hanswers, _⟩ := Eligibility.read_eq_ok_iff_answers.1 hread
    obtain ⟨cause, hrefused, rfl⟩ := Action.mapError_eq_error_iff.1 hkind
    exact .kindless hvalid hanswers hrefused
  have hopens := opens_iff.2 ⟨htotal, read, hread, hkind⟩
  rcases Action.bind_eq_error_iff.1 hprepare with hfund | ⟨funding, _, _, hprepare⟩
  · obtain ⟨hrefused, rfl⟩ : (request.plan eligible totalOut kind).fund draws
          request.maxFeeIterations.toNat = .error fault ∧ asked = after := Prod.mk.inj hfund
    obtain ⟨available, needed, rfl, hshort⟩ :=
      (FundingPlan.fund_eq_error_iff hopens.total_le_maxMoney).1 hrefused
    exact .short hopens hshort
  · cases hprepare

/-! ## What stops the second half -/

variable (request) in
/-- Something is left that is worth an output of its own. -/
def KeepsChange (prepared : Prepared) : Prop :=
  0 < prepared.change ∧ isDust prepared.change prepared.changeKind request.relayFee = false

namespace Sound

variable (hsound : request.Sound prepared)
include hsound

theorem complete_of_keepsChange (hkeeps : request.KeepsChange prepared) :
    request.complete account addresses prepared state =
      match addresses.offer account request.dryRun state with
      | (.error cause, after) => (.error (.ofDerivation cause), after)
      | (.ok script, after) =>
          (.ok (.spending prepared.funding.selection
            (request.requested ++ [prepared.changeOutput script])
            (some (UInt64.ofNat request.requested.length)) request.lockTime
            prepared.funding.fee), after) := by
  rw [hsound.complete_of_keeps (dropsChange_eq_false_iff.2 hkeeps), ChangeSource.script_eq_offer,
    Action.mapError]
  rcases addresses.offer account request.dryRun state with ⟨cause | script, last⟩
  · rfl
  · rfl

theorem complete_of_not_keepsChange (hdrops : ¬ request.KeepsChange prepared) :
    ∃ authored, request.complete account addresses prepared state = (.ok authored, state) := by
  have hchange : request.dropsChange prepared.change prepared.changeKind = true := by
    by_contra hkept
    exact hdrops (dropsChange_eq_false_iff.1 (eq_false_of_ne_true hkept))
  exact ⟨_, hsound.complete_of_drops hchange state⟩

/-- With the funds found, nothing but a refused change address is in the way. -/
theorem complete_eq_error_iff {fault : WalletError} :
    request.complete account addresses prepared state = (.error fault, after) ↔
      request.KeepsChange prepared ∧ ∃ cause, fault = .ofDerivation cause ∧
        addresses.offer account request.dryRun state = (.error cause, after) := by
  by_cases hkeeps : request.KeepsChange prepared
  · rw [hsound.complete_of_keepsChange hkeeps]
    rcases addresses.offer account request.dryRun state with ⟨cause | script, last⟩
    · simp only [hkeeps, true_and, Prod.mk.injEq, Except.error.injEq]
      constructor
      · rintro ⟨rfl, rfl⟩
        exact ⟨cause, rfl, rfl, rfl⟩
      · rintro ⟨_, rfl, rfl, rfl⟩
        exact ⟨rfl, rfl⟩
    · simp
  · obtain ⟨authored, hcomplete⟩ := hsound.complete_of_not_keepsChange hkeeps
    rw [hcomplete]
    simp [hkeeps]

theorem exists_complete_iff :
    (∃ authored, request.complete account addresses prepared state = (.ok authored, after)) ↔
      (¬ request.KeepsChange prepared ∧ state = after) ∨
        (request.KeepsChange prepared ∧
          ∃ script, addresses.offer account request.dryRun state = (.ok script, after)) := by
  by_cases hkeeps : request.KeepsChange prepared
  · rw [hsound.complete_of_keepsChange hkeeps]
    rcases addresses.offer account request.dryRun state with ⟨cause | script, last⟩
    · simp [hkeeps]
    · simp [hkeeps]
  · obtain ⟨authored, hcomplete⟩ := hsound.complete_of_not_keepsChange hkeeps
    rw [hcomplete]
    simp [hkeeps]

end Sound

/-! ## What stops authoring -/

theorem build_eq_error_iff {fault : WalletError} :
    request.build account ledger addresses draws state = (.error fault, after) ↔
      request.Stops account ledger addresses draws state fault after ∨
        ∃ prepared asked, request.Prepares account ledger addresses draws state prepared asked ∧
          request.KeepsChange prepared ∧ ∃ cause, fault = .ofDerivation cause ∧
            addresses.offer account request.dryRun asked = (.error cause, after) := by
  rw [build_eq_prepare_complete, Action.bind_eq_error_iff, stops_iff]
  apply or_congr Iff.rfl
  constructor
  · rintro ⟨prepared, asked, hprepare, hcomplete⟩
    exact ⟨prepared, asked, prepares_iff.2 hprepare,
      (sound_of_prepare hprepare).complete_eq_error_iff.1 hcomplete⟩
  · rintro ⟨prepared, asked, hprepares, hrefused⟩
    have hprepare := prepares_iff.1 hprepares
    exact ⟨prepared, asked, hprepare,
      (sound_of_prepare hprepare).complete_eq_error_iff.2 hrefused⟩

theorem exists_build_iff :
    (∃ authored, request.build account ledger addresses draws state = (.ok authored, after)) ↔
      ∃ prepared asked, request.Prepares account ledger addresses draws state prepared asked ∧
        ((¬ request.KeepsChange prepared ∧ asked = after) ∨
          (request.KeepsChange prepared ∧
            ∃ script, addresses.offer account request.dryRun asked = (.ok script, after))) := by
  simp only [build_eq_prepare_complete, Action.bind_eq_ok_iff]
  constructor
  · rintro ⟨authored, prepared, asked, hprepare, hcomplete⟩
    exact ⟨prepared, asked, prepares_iff.2 hprepare,
      (sound_of_prepare hprepare).exists_complete_iff.1 ⟨authored, hcomplete⟩⟩
  · rintro ⟨prepared, asked, hprepares, hends⟩
    have hprepare := prepares_iff.1 hprepares
    obtain ⟨authored, hcomplete⟩ := (sound_of_prepare hprepare).exists_complete_iff.2 hends
    exact ⟨authored, prepared, asked, hprepare, hcomplete⟩

variable (request account ledger addresses draws state) in
/-- What authoring answers from `state`, and when. -/
structure FailsExactly : Prop where
  invalidRequest : (∃ cause after, request.build account ledger addresses draws state =
      (.error (.invalidRequest cause), after)) ↔ request.Invalid
  unasked : request.Invalid → request.calls account ledger addresses draws state = [] ∧
    (request.build account ledger addresses draws state).2 = state
  storeUnavailable (cause : Cause LedgerError) (after : σ) :
    request.build account ledger addresses draws state =
        (.error (.storeUnavailable cause), after) ↔
      ¬ request.Invalid ∧ ∃ fault, cause = .found fault ∧
        ledger.Refuses account request.minConf state fault after
  insufficientFunds (available needed : Amount) (after : σ) :
    request.build account ledger addresses draws state =
        (.error (.insufficientFunds available needed), after) ↔
      ∃ totalOut eligible kind,
        request.Opens account ledger addresses state totalOut eligible kind after ∧
        (request.plan eligible totalOut kind).Shortfall draws request.maxFeeIterations.toNat
          available needed
  available_lt_needed (available needed : Amount) (after : σ) :
    request.build account ledger addresses draws state =
        (.error (.insufficientFunds available needed), after) → available < needed
  addressDerivationFailed (cause : Cause DerivationError) (after : σ) :
    request.build account ledger addresses draws state =
        (.error (.addressDerivationFailed cause), after) ↔
      ∃ fault, cause = .found fault ∧
        ((¬ request.Invalid ∧ ∃ tip listed read,
            ledger.Answers account request.minConf state tip listed read ∧
            addresses.changeKind account read = (.error fault, after)) ∨
          ∃ prepared asked,
            request.Prepares account ledger addresses draws state prepared asked ∧
            request.KeepsChange prepared ∧
            addresses.offer account request.dryRun asked = (.error fault, after))
  authored (after : σ) :
    (∃ authored, request.build account ledger addresses draws state = (.ok authored, after)) ↔
      ∃ prepared asked, request.Prepares account ledger addresses draws state prepared asked ∧
        ((¬ request.KeepsChange prepared ∧ asked = after) ∨
          (request.KeepsChange prepared ∧
            ∃ script, addresses.offer account request.dryRun asked = (.ok script, after)))
  nothing_else (fault : WalletError) (after : σ) :
    request.build account ledger addresses draws state = (.error fault, after) →
      (∃ cause, fault = .invalidRequest cause) ∨
      (∃ cause, fault = .storeUnavailable cause) ∨
      (∃ available needed, fault = .insufficientFunds available needed) ∨
      ∃ cause, fault = .addressDerivationFailed cause

/-- An invalid request is refused before anyone is asked. -/
theorem Invalid.build_eq (hinvalid : request.Invalid) :
    ∃ fault, ∀ {τ : Type} (ledger : LedgerReader τ) (addresses : ChangeSource τ) (state : τ),
      request.build account ledger addresses draws state = (.error (.request fault), state) := by
  obtain ⟨fault, htotal⟩ := invalid_iff.1 hinvalid
  exact ⟨fault, fun ledger addresses state => build_eq_error_iff.2 (Or.inl (.invalid htotal))⟩

/-- Each fault of authoring has one condition, and there are no others. -/
theorem build_fails_exactly (request : AuthoringRequest) (account : AccountId)
    (ledger : LedgerReader σ) (addresses : ChangeSource σ) (draws : Nat → Draws) (state : σ) :
    request.FailsExactly account ledger addresses draws state where
  invalidRequest := by
    constructor
    · rintro ⟨cause, after, hbuild⟩
      rcases build_eq_error_iff.1 hbuild with hstops | ⟨_, _, _, _, _, hcause, _⟩
      · cases hstops with
        | invalid htotal => exact invalid_iff.2 ⟨_, htotal⟩
      · cases hcause
    · intro hinvalid
      obtain ⟨fault, hbuild⟩ := hinvalid.build_eq
      exact ⟨.found fault, state, hbuild ledger addresses state⟩
  unasked hinvalid := by
    obtain ⟨fault, hbuild⟩ := hinvalid.build_eq
    rw [calls, hbuild, hbuild]
    exact ⟨rfl, rfl⟩
  storeUnavailable cause after := by
    rw [build_eq_error_iff]
    constructor
    · rintro (hstops | ⟨_, _, _, _, _, hcause, _⟩)
      · cases hstops with
        | unread hvalid hrefuses => exact ⟨hvalid, _, rfl, hrefuses⟩
      · cases hcause
    · rintro ⟨hvalid, fault, rfl, hrefuses⟩
      exact Or.inl (.unread hvalid hrefuses)
  insufficientFunds available needed after := by
    rw [build_eq_error_iff]
    constructor
    · rintro (hstops | ⟨_, _, _, _, _, hcause, _⟩)
      · cases hstops with
        | short hopens hshort => exact ⟨_, _, _, hopens, hshort⟩
      · cases hcause
    · rintro ⟨totalOut, eligible, kind, hopens, hshort⟩
      exact Or.inl (.short hopens hshort)
  available_lt_needed available needed after hbuild := by
    rcases build_eq_error_iff.1 hbuild with hstops | ⟨_, _, _, _, _, hcause, _⟩
    · cases hstops with
      | short hopens hshort => exact hshort.lt hopens.total_pos
    · cases hcause
  addressDerivationFailed cause after := by
    rw [build_eq_error_iff]
    constructor
    · rintro (hstops | ⟨prepared, asked, hprepares, hkeeps, fault, hcause, hrefused⟩)
      · cases hstops with
        | kindless hvalid hanswers hrefused =>
            exact ⟨_, rfl, Or.inl ⟨hvalid, _, _, _, hanswers, hrefused⟩⟩
      · cases hcause
        exact ⟨fault, rfl, Or.inr ⟨prepared, asked, hprepares, hkeeps, hrefused⟩⟩
    · rintro ⟨fault, rfl, ⟨hvalid, tip, listed, read, hanswers, hrefused⟩ |
        ⟨prepared, asked, hprepares, hkeeps, hrefused⟩⟩
      · exact Or.inl (.kindless hvalid hanswers hrefused)
      · exact Or.inr ⟨prepared, asked, hprepares, hkeeps, fault, rfl, hrefused⟩
  authored _ := exists_build_iff
  nothing_else fault after hbuild := by
    rcases build_eq_error_iff.1 hbuild with hstops | ⟨_, _, _, _, cause, rfl, _⟩
    · cases hstops with
      | invalid => exact Or.inl ⟨_, rfl⟩
      | unread => exact Or.inr (Or.inl ⟨_, rfl⟩)
      | kindless => exact Or.inr (Or.inr (Or.inr ⟨_, rfl⟩))
      | short => exact Or.inr (Or.inr (Or.inl ⟨_, _, rfl⟩))
    · exact Or.inr (Or.inr (Or.inr ⟨_, rfl⟩))

/-- A ledger that knows its tip, and cannot be read. -/
def lockedLedger : LedgerReader Unit :=
  { LedgerReader.constant 100 [] with
    listUnspent := fun _ _ => .fail (.unavailable "database locked") }

/-- A source that shows a change address, and cannot store that it has handed one out. -/
def unstoredSource : ChangeSource Unit :=
  { ChangeSource.constant ⟨.p2wpkh, Digest.zero⟩ with
    nextChange := fun _ => .fail (.store (.serialization "disk full")) }

theorem build_changedPayment_fails :
    { changedPayment with payments := [] }.calls .default lockedLedger unstoredSource
        (fun _ => []) () = [] ∧
    changedPayment.build .default lockedLedger unstoredSource (fun _ => []) () =
      (.error (.storeUnavailable (.found (.unavailable "database locked"))), ()) ∧
    (∃ available needed, { changedPayment with maxFeeIterations := 0 }.build .default
        (.constant 100 [largeCredit]) unstoredSource (fun _ => []) () =
          (.error (.insufficientFunds available needed), ()) ∧ available < needed) ∧
    ∃ prepared asked, changedPayment.Prepares .default (.constant 100 [largeCredit])
        unstoredSource (fun _ => []) () prepared asked ∧
      changedPayment.KeepsChange prepared := by
  have hexact (request : AuthoringRequest) (ledger : LedgerReader Unit) :=
    build_fails_exactly request .default ledger unstoredSource (fun _ => []) ()
  refine ⟨((hexact _ lockedLedger).unasked (Or.inl rfl)).1, ?_, ?_, ?_⟩
  · have htotal : Payment.total changedPayment.payments = .ok 50000 := rfl
    have hvalid := (total_eq_ok_iff_not_invalid.1 htotal).1
    exact ((hexact changedPayment lockedLedger).storeUnavailable _ _).2
      ⟨hvalid, _, rfl, .list rfl rfl⟩
  · refine ⟨_, _, rfl, ?_⟩
    exact (hexact { changedPayment with maxFeeIterations := 0 }
      (.constant 100 [largeCredit])).available_lt_needed _ _ _ rfl
  · obtain ⟨_, _, ⟨_, _, _, _, _, hkind⟩ | ⟨prepared, asked, hprepares, hkeeps, _⟩⟩ :=
      ((hexact changedPayment (.constant 100 [largeCredit])).addressDerivationFailed
        (.found (.store (.serialization "disk full"))) ()).1 rfl
    · cases hkind
    · exact ⟨prepared, asked, hprepares, hkeeps⟩

end AuthoringRequest

end Purse
