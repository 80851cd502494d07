import Purse.Authoring.Trace
import Purse.Proofs.Authoring

/-!
# Traces of authoring

Noting the calls changes neither the answers nor the state of the collaborators.  The first half of
authoring makes three calls, or the first few of them if it fails.
-/

namespace Purse

variable {σ ε φ α β : Type}

/-- Whether the call has a fresh change address handed out. -/
def Call.allocates : Call → Bool
  | .nextChange _ => true
  | _ => false

namespace Traced

/-- The traced action answers as the plain one does, and notes `calls`, or the first few of them if
it fails. -/
structure Mirrors (traced : Action (Traced σ) ε α) (calls : List Call) (action : Action σ ε α) :
    Prop where
  ok : ∀ {state after : σ} {value : α} (before : List Call),
    action state = (.ok value, after) →
      traced ⟨state, before⟩ = (.ok value, ⟨after, before ++ calls⟩)
  error : ∀ {state after : σ} {fault : ε} (before : List Call),
    action state = (.error fault, after) →
      ∃ noted, noted <+: calls ∧
        traced ⟨state, before⟩ = (.error fault, ⟨after, before ++ noted⟩)

theorem mirrors_note (call : Call) (action : Action σ ε α) :
    Mirrors (note call action) [call] action where
  ok before hok := by rw [note, hok]
  error before herror := ⟨[call], List.prefix_refl _, by rw [note, herror]⟩

theorem mirrors_ofExcept (result : Except ε α) :
    Mirrors (σ := σ) (.ofExcept result) [] (.ofExcept result) where
  ok before hok := by
    cases hok
    rw [Action.ofExcept_apply, List.append_nil]
  error before herror := by
    cases herror
    exact ⟨[], List.prefix_refl _, by rw [Action.ofExcept_apply, List.append_nil]⟩

theorem mirrors_pure (value : α) :
    Mirrors (σ := σ) (ε := ε) (pure value) [] (pure value) :=
  mirrors_ofExcept (.ok value)

theorem Mirrors.mapError {traced : Action (Traced σ) ε α} {calls : List Call}
    {action : Action σ ε α} (hmirrors : Mirrors traced calls action) (change : ε → φ) :
    Mirrors (traced.mapError change) calls (action.mapError change) where
  ok {state after value} before hok := by
    rw [Action.mapError_eq_ok_iff] at hok
    rw [Action.mapError, hmirrors.ok before hok]
  error {state after fault} before herror := by
    rw [Action.mapError] at herror
    rcases hresult : action state with ⟨cause | value, middle⟩
    · rw [hresult] at herror
      cases herror
      obtain ⟨noted, hnoted, htraced⟩ := hmirrors.error before hresult
      exact ⟨noted, hnoted, by rw [Action.mapError, htraced]⟩
    · rw [hresult] at herror
      cases herror

theorem Mirrors.bind {traced : Action (Traced σ) ε α} {next : α → Action (Traced σ) ε β}
    {calls later : List Call} {action : Action σ ε α} {plain : α → Action σ ε β}
    (hmirrors : Mirrors traced calls action)
    (hnext : ∀ value, Mirrors (next value) later (plain value)) :
    Mirrors (traced >>= next) (calls ++ later) (action >>= plain) where
  ok {state after value} before hok := by
    obtain ⟨first, middle, hfirst, hrest⟩ := Action.bind_eq_ok_iff.1 hok
    rw [Action.bind_of_ok (hmirrors.ok before hfirst), (hnext first).ok _ hrest,
      List.append_assoc]
  error {state after fault} before herror := by
    rcases hresult : action state with ⟨cause | first, middle⟩
    · rw [Action.bind_of_error hresult] at herror
      cases herror
      obtain ⟨noted, hnoted, htraced⟩ := hmirrors.error before hresult
      exact ⟨noted, hnoted.trans (List.prefix_append _ _), Action.bind_of_error htraced⟩
    · rw [Action.bind_of_ok hresult] at herror
      obtain ⟨noted, hnoted, htraced⟩ := (hnext first).error (before ++ calls) herror
      refine ⟨calls ++ noted, (List.prefix_append_right_inj calls).2 hnoted, ?_⟩
      rw [Action.bind_of_ok (hmirrors.ok before hresult), htraced, List.append_assoc]

theorem mapError_note (call : Call) (action : Action σ ε α) (change : ε → φ) (state : σ)
    (before : List Call) :
    (note call action).mapError change ⟨state, before⟩ =
      ((action.mapError change state).1,
        ⟨(action.mapError change state).2, before ++ [call]⟩) := by
  simp only [Action.mapError, note]
  rcases action state with ⟨fault | value, after⟩
  · rfl
  · rfl

theorem addresses_script (source : ChangeSource σ) (account : AccountId) (commit : Bool) (state : σ)
    (before : List Call) :
    (addresses source).script account commit ⟨state, before⟩ =
      ((source.script account commit state).1, ⟨(source.script account commit state).2,
        before ++ [if commit then .nextChange account else .currentChange account]⟩) := by
  cases commit with
  | false => exact mapError_note _ (source.currentChange account) _ state before
  | true => exact mapError_note _ (source.nextChange account) _ state before

end Traced

namespace AuthoringRequest

open Traced

variable (request : AuthoringRequest) (account : AccountId) (ledger : LedgerReader σ)
  (addresses : ChangeSource σ) (draws : Nat → Draws)

/-- The calls of the first half of authoring. -/
def opening : List Call :=
  [.tipHeight, .listUnspent account request.minConf, .changeKind account]

theorem prepare_mirrors :
    Mirrors (request.prepare account (Traced.ledger ledger) (Traced.addresses addresses) draws)
      (request.opening account) (request.prepare account ledger addresses draws) := by
  have hread : Mirrors ((request.eligibility account).read (Traced.ledger ledger))
      [.tipHeight, .listUnspent account request.minConf]
      ((request.eligibility account).read ledger) :=
    ((mirrors_note _ _).mapError _).bind fun _ =>
      ((mirrors_note _ _).mapError _).bind fun _ => mirrors_pure _
  have hkind : Mirrors ((Traced.addresses addresses).kind account) [.changeKind account]
      (addresses.kind account) :=
    (mirrors_note _ _).mapError _
  exact (mirrors_ofExcept _).bind fun _ => hread.bind fun _ => hkind.bind fun _ =>
    (mirrors_ofExcept _).bind fun _ => mirrors_pure _

/-- Tracing changes nothing.  Authoring fails in its first half, or needs no address, or ends with
its one call for an address. -/
theorem build_traced_cases (state : σ) :
    ∃ noted,
      request.build account (Traced.ledger ledger) (Traced.addresses addresses) draws ⟨state, []⟩ =
        ((request.build account ledger addresses draws state).1,
          ⟨(request.build account ledger addresses draws state).2, noted⟩) ∧
      ((∃ fault after,
          request.prepare account ledger addresses draws state = (.error fault, after) ∧
          noted <+: request.opening account) ∨
        ∃ prepared asked,
          request.prepare account ledger addresses draws state = (.ok prepared, asked) ∧
          ((request.dropsChange prepared.change prepared.changeKind = true ∧
              noted = request.opening account) ∨
            (request.dropsChange prepared.change prepared.changeKind = false ∧
              noted = request.opening account ++
                [if request.dryRun then .currentChange account else .nextChange account]))) := by
  simp only [build_eq_prepare_complete]
  have hmirrors := request.prepare_mirrors account ledger addresses draws
  rcases hprepare : request.prepare account ledger addresses draws state with
    ⟨fault | prepared, asked⟩
  · obtain ⟨noted, hnoted, htraced⟩ := hmirrors.error [] hprepare
    rw [Action.bind_of_error htraced, Action.bind_of_error hprepare]
    exact ⟨noted, rfl, Or.inl ⟨fault, asked, rfl, hnoted⟩⟩
  · have hsound := sound_of_prepare hprepare
    rw [Action.bind_of_ok (hmirrors.ok [] hprepare), Action.bind_of_ok hprepare]
    cases hchange : request.dropsChange prepared.change prepared.changeKind with
    | true =>
        rw [hsound.complete_of_drops hchange, hsound.complete_of_drops hchange]
        exact ⟨_, rfl, Or.inr ⟨prepared, asked, rfl, Or.inl ⟨hchange, rfl⟩⟩⟩
    | false =>
        refine ⟨request.opening account ++
          [if request.dryRun then .currentChange account else .nextChange account], ?_,
          Or.inr ⟨prepared, asked, rfl, Or.inr ⟨hchange, rfl⟩⟩⟩
        rw [hsound.complete_of_keeps hchange, hsound.complete_of_keeps hchange,
          Traced.addresses_script]
        rcases addresses.script account (!request.dryRun) asked with ⟨fault | script, after⟩
        · cases request.dryRun <;> rfl
        · cases request.dryRun <;> rfl

/-- The calls of authoring, in their order. -/
def calls (state : σ) : List Call :=
  (request.build account (Traced.ledger ledger) (Traced.addresses addresses) draws
    ⟨state, []⟩).2.calls

theorem build_traced (state : σ) :
    request.build account (Traced.ledger ledger) (Traced.addresses addresses) draws ⟨state, []⟩ =
      ((request.build account ledger addresses draws state).1,
        ⟨(request.build account ledger addresses draws state).2,
          request.calls account ledger addresses draws state⟩) := by
  obtain ⟨noted, htraced, _⟩ := request.build_traced_cases account ledger addresses draws state
  rw [calls, htraced]

end AuthoringRequest

end Purse
