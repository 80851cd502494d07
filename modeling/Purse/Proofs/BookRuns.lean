import Purse.Proofs.AddressBook
import Purse.Proofs.Preservation

/-!
# Runs of an address book

A run makes one call after another and goes on whatever becomes of each.  What it leaves is a
history of calls and answers, which is all that somebody outside the book gets to see.
-/

namespace Purse

variable {σ β : Type}

/-- A call to an address book. The last six only look something up. -/
inductive BookCall where
  | createAccount (kind : ScriptKind)
  | currentAddress (account : AccountId)
  | newAddress (account : AccountId)
  | nextChange (account : AccountId)
  | currentChange (account : AccountId)
  | accounts
  | record (account : AccountId)
  | accountKind (account : AccountId)
  | accountAddresses (account : AccountId)
  | accountOf (script : Script)
  | keyPairFor (script : Script)
  deriving DecidableEq

inductive BookAnswer where
  | account (account : AccountId)
  | script (script : Script)
  | accounts (accounts : List AccountId)
  | record (record : AccountRecord)
  | kind (kind : ScriptKind)
  | scripts (scripts : List Script)
  | owner (account : Option AccountId)
  | key (pair : Option KeyPair)
  deriving DecidableEq

namespace BookCall

open AddressBook

/-- Answers from the book as it is. -/
def looking (answer : AddressBook σ → Except DerivationError BookAnswer) :
    Action (AddressBook σ) DerivationError BookAnswer :=
  fun book => (answer book, book)

def perform (backend : AccountStore σ) :
    BookCall → Action (AddressBook σ) DerivationError BookAnswer
  | .createAccount kind => do return .account (← AddressBook.createAccount backend kind)
  | .currentAddress account => do return .script (← AddressBook.currentAddress backend account)
  | .newAddress account => do return .script (← AddressBook.newAddress backend account)
  | .nextChange account => do return .script (← AddressBook.nextChange backend account)
  | .currentChange account => looking fun book => (book.currentChange account).map .script
  | .accounts => looking fun book => .ok (.accounts book.accounts)
  | .record account => looking fun book => (book.record account).map .record
  | .accountKind account => looking fun book => (book.accountKind account).map .kind
  | .accountAddresses account => looking fun book => (book.accountAddresses account).map .scripts
  | .accountOf script => looking fun book => .ok (.owner (book.accountOf? script))
  | .keyPairFor script => looking fun book => .ok (.key (book.keyPairFor? script))

end BookCall

/-- A call, what it was answered, and the book before and after it. -/
structure BookEvent (σ : Type) where
  before : AddressBook σ
  call : BookCall
  answer : Except DerivationError BookAnswer
  after : AddressBook σ

def BookCall.event (call : BookCall) (backend : AccountStore σ) (book : AddressBook σ) :
    BookEvent σ :=
  ⟨book, call, (call.perform backend book).1, (call.perform backend book).2⟩

namespace AddressBook

variable (backend : AccountStore σ)

/-- The book after the calls have been made in turn. -/
def reach (calls : List BookCall) (book : AddressBook σ) : AddressBook σ :=
  calls.foldl (fun book call => (call.perform backend book).2) book

/-- What became of each of the calls. -/
def history : List BookCall → AddressBook σ → List (BookEvent σ)
  | [], _ => []
  | call :: rest, book => call.event backend book :: history rest (call.event backend book).after

theorem reach_append_singleton (calls : List BookCall) (call : BookCall) (book : AddressBook σ) :
    reach backend (calls ++ [call]) book =
      (call.event backend (reach backend calls book)).after := by
  rw [reach, List.foldl_append]
  rfl

theorem history_append_singleton (calls : List BookCall) (call : BookCall)
    (book : AddressBook σ) :
    history backend (calls ++ [call]) book =
      history backend calls book ++ [call.event backend (reach backend calls book)] := by
  induction calls generalizing book with
  | nil => rfl
  | cons first rest ih => exact congrArg (first.event backend book :: ·) (ih _)

variable {backend} {stored : σ → β}

/-! ## One call -/

/-- Exactly one account has been added in between, with nothing handed out. -/
structure AddsAccount (backend : AccountStore σ) (kind : ScriptKind)
    (before after : AddressBook σ) : Prop where
  keychain_eq : after.keychain = before.keychain
  records_eq : after.records = before.records.insert before.nextAccount (.fresh kind)
  owned_eq : after.owned = before.owned
  saved : backend.saveAccount before.nextAccount (.fresh kind) before.store =
    (.ok (), after.store)

theorem createAccount_cases (hkeeps : backend.KeepsOnFailure stored) (kind : ScriptKind)
    (book : AddressBook σ) :
    (∃ fault after, createAccount backend kind book = (.error fault, after) ∧
      book.SameUpTo stored after) ∨
    (∃ after, createAccount backend kind book = (.ok book.nextAccount, after) ∧
      AddsAccount backend kind book after) := by
  rcases hsave : backend.saveAccount book.nextAccount (.fresh kind) book.store with
    ⟨fault | _, store⟩
  · simp only [createAccount, saveRecord, hsave]
    exact Or.inl ⟨_, _, rfl, rfl, rfl, rfl, hkeeps _ _ _ _ _ hsave⟩
  · simp only [createAccount, saveRecord, hsave]
    exact Or.inr ⟨_, rfl, rfl, rfl, rfl, hsave⟩

/-- The receive address in use is shown, unless there is none yet: then the first is handed out. -/
theorem currentAddress_cases (account : AccountId) (book : AddressBook σ) :
    (∃ record, book.records.get? account = some record ∧ record.nextExternal ≠ 0 ∧
      currentAddress backend account book = (.ok (book.keychain.script
        ⟨account, .external, record.nextExternal - 1⟩ record.kind), book)) ∨
    ((∀ record, book.records.get? account = some record → record.nextExternal = 0) ∧
      currentAddress backend account book = issue backend account .external book) := by
  cases hrecord : book.record account with
  | error fault =>
      have hnone := (record_eq_error_iff.1 hrecord).1
      refine Or.inr ⟨fun record hsome => ?_, ?_⟩
      · rw [hnone] at hsome
        cases hsome
      · rw [currentAddress, issue, hrecord]
  | ok record =>
      have hsome := record_eq_ok_iff.1 hrecord
      by_cases hfirst : record.nextExternal = 0
      · refine Or.inr ⟨fun other hother => ?_, ?_⟩
        · rw [hsome] at hother
          cases hother
          exact hfirst
        · simp only [currentAddress, hrecord, if_pos hfirst]
      · refine Or.inl ⟨record, hsome, hfirst, ?_⟩
        simp only [currentAddress, hrecord, if_neg hfirst]

end AddressBook

namespace BookCall

open AddressBook

variable {backend : AccountStore σ} {stored : σ → β}

theorem event_of_perform {call : BookCall} {book after : AddressBook σ}
    {answer : Except DerivationError BookAnswer}
    (hperform : call.perform backend book = (answer, after)) :
    call.event backend book = ⟨book, call, answer, after⟩ := by
  rw [event, hperform]

/-- A call leaves the book as it is, has the next address of a branch handed out, or adds an
account. -/
theorem perform_state_cases (backend : AccountStore σ) (call : BookCall) (book : AddressBook σ) :
    (call.perform backend book).2 = book ∨
    (∃ account branch, (call.perform backend book).2 = (issue backend account branch book).2) ∨
    (∃ kind, call = .createAccount kind ∧
      (call.perform backend book).2 = (AddressBook.createAccount backend kind book).2) := by
  cases call with
  | createAccount kind => exact Or.inr (Or.inr ⟨kind, rfl, Action.bind_pure_state _ _ book⟩)
  | newAddress account =>
      exact Or.inr (Or.inl ⟨account, .external, Action.bind_pure_state _ _ book⟩)
  | nextChange account =>
      exact Or.inr (Or.inl ⟨account, .internal, Action.bind_pure_state _ _ book⟩)
  | currentAddress account =>
      rw [perform, Action.bind_pure_state]
      rcases currentAddress_cases account book with ⟨_, _, _, hshown⟩ | ⟨_, hfirst⟩
      · exact Or.inl (congrArg Prod.snd hshown)
      · exact Or.inr (Or.inl ⟨account, .external, congrArg Prod.snd hfirst⟩)
  | currentChange | accounts | record | accountKind | accountAddresses | accountOf | keyPairFor =>
      exact Or.inl rfl

theorem perform_createAccount (hkeeps : backend.KeepsOnFailure stored) (kind : ScriptKind)
    (book : AddressBook σ) :
    (∃ fault after, perform backend (.createAccount kind) book = (.error fault, after) ∧
      book.SameUpTo stored after) ∨
    (∃ after, perform backend (.createAccount kind) book =
        (.ok (.account book.nextAccount), after) ∧ AddsAccount backend kind book after) := by
  rcases createAccount_cases hkeeps kind book with
    ⟨fault, after, hcreate, hsame⟩ | ⟨after, hcreate, hadds⟩
  · exact Or.inl ⟨fault, after, Action.bind_of_error hcreate, hsame⟩
  · exact Or.inr ⟨after, Action.bind_of_ok hcreate, hadds⟩

/-- What becomes of a call that has the next address of a branch handed out. -/
theorem perform_issue (hkeeps : backend.KeepsOnFailure stored) {call : BookCall}
    {account : AccountId} {branch : Branch} {book : AddressBook σ}
    (hcall : call.perform backend book =
      (issue backend account branch >>= fun script => pure (.script script)) book) :
    (∃ fault after, call.perform backend book = (.error fault, after) ∧
      book.SameUpTo stored after) ∨
    (∃ script after, call.perform backend book = (.ok (.script script), after) ∧
      issue backend account branch book = (.ok script, after)) := by
  rw [hcall]
  rcases hissue : issue backend account branch book with ⟨fault | script, after⟩
  · exact Or.inl ⟨fault, after, Action.bind_of_error hissue, (issue_eq_error hkeeps hissue).1⟩
  · exact Or.inr ⟨script, after, Action.bind_of_ok hissue, rfl⟩

/-- A call that is refused changes nothing. -/
theorem sameUpTo_of_refused (hkeeps : backend.KeepsOnFailure stored) (call : BookCall)
    (book : AddressBook σ) {fault : DerivationError}
    (hrefused : (call.event backend book).answer = .error fault) :
    book.SameUpTo stored (call.event backend book).after := by
  have hissue {account : AccountId} {branch : Branch}
      (hcall : call.perform backend book =
        (issue backend account branch >>= fun script => pure (.script script)) book) :
      book.SameUpTo stored (call.event backend book).after := by
    rcases perform_issue hkeeps hcall with ⟨_, after, hperform, hsame⟩ | ⟨_, after, hperform, _⟩
    · rw [event_of_perform hperform]
      exact hsame
    · rw [event_of_perform hperform] at hrefused
      cases hrefused
  cases call with
  | createAccount kind =>
      rcases perform_createAccount hkeeps kind book with
        ⟨_, after, hperform, hsame⟩ | ⟨after, hperform, _⟩
      · rw [event_of_perform hperform]
        exact hsame
      · rw [event_of_perform hperform] at hrefused
        cases hrefused
  | newAddress account => exact hissue rfl
  | nextChange account => exact hissue rfl
  | currentAddress account =>
      rcases currentAddress_cases account book with ⟨record, _, _, hshown⟩ | ⟨_, hfirst⟩
      · rw [event_of_perform (Action.bind_of_ok hshown)] at hrefused
        cases hrefused
      · exact hissue (by rw [perform, Action.bind_apply, hfirst]; rfl)
  | currentChange | accounts | record | accountKind | accountAddresses | accountOf | keyPairFor =>
      exact .refl stored book

end BookCall

end Purse
