import Purse.Proofs.BookRuns

/-!
# Addresses in order

Seen from outside, an address book hands out the indices of each branch one after another from zero
on, and the account numbers likewise.  Refused calls leave no gap, and nothing is handed out twice.
-/

namespace Purse

variable {σ β : Type}

/-! ## What the answers show -/

/-- An address that was handed out. -/
structure Issue where
  account : AccountId
  branch : Branch
  script : Script
  deriving DecidableEq

namespace Issue

/-- The scripts of a branch, in the order in which they were handed out. -/
def scriptsOn (account : AccountId) (branch : Branch) (issues : List Issue) : List Script :=
  (issues.filter fun issue => issue.account = account && issue.branch = branch).map Issue.script

/-- Adds what an event hands out. Asking for the current address hands one out only if the account
has no receive address yet. -/
def note (issues : List Issue) (event : BookEvent σ) : List Issue :=
  match event.call, event.answer with
  | .newAddress account, .ok (.script script) => issues ++ [⟨account, .external, script⟩]
  | .nextChange account, .ok (.script script) => issues ++ [⟨account, .internal, script⟩]
  | .currentAddress account, .ok (.script script) =>
      if (scriptsOn account .external issues).isEmpty then
        issues ++ [⟨account, .external, script⟩]
      else issues
  | _, _ => issues

/-- What a history handed out. -/
def all (events : List (BookEvent σ)) : List Issue :=
  events.foldl note []

end Issue

/-- The account that an event adds. -/
def BookEvent.opened (event : BookEvent σ) : List AccountId :=
  match event.call, event.answer with
  | .createAccount _, .ok (.account account) => [account]
  | _, _ => []

/-! ## Key material -/

theorem Branch.code_injective : Function.Injective Branch.code := by
  intro branch other hcode
  cases branch with
  | external =>
      cases other with
      | external => rfl
      | internal => cases hcode
  | internal =>
      cases other with
      | external => cases hcode
      | internal => rfl

namespace KeyChain

theorem ofNat_word_injective {a b : UInt32}
    (hwords : Bytes.ofNat 4 a.toNat = Bytes.ofNat 4 b.toNat) : a = b := by
  have htoNat := congrArg Bytes.toNat hwords
  rw [Bytes.toNat_ofNat 4 _ a.toNat_lt, Bytes.toNat_ofNat 4 _ b.toNat_lt] at htoNat
  exact UInt32.toNat_inj.1 htoNat

/-- No two paths share their key material. -/
theorem material_injective (chain : KeyChain) : Function.Injective chain.material := by
  rintro ⟨⟨account⟩, branch, index⟩ ⟨⟨other⟩, side, place⟩ hmaterial
  simp only [material, List.append_assoc, List.append_cancel_left_eq] at hmaterial
  obtain ⟨haccount, hrest⟩ := List.append_inj hmaterial (by simp)
  obtain ⟨hbranch, hindex⟩ := List.cons.inj hrest
  rw [ofNat_word_injective haccount, Branch.code_injective hbranch, ofNat_word_injective hindex]

/-- Key derivation and the digest of the public key together send no two of the chain's inputs to
one digest. -/
def Separates (chain : KeyChain) : Prop :=
  ∀ first second : KeyPath,
    (chain.keyPair first).publicKey.hash = (chain.keyPair second).publicKey.hash →
      chain.material first = chain.material second

end KeyChain

namespace Issue

theorem scriptsOn_append_singleton (account : AccountId) (branch : Branch) (issues : List Issue)
    (issue : Issue) :
    scriptsOn account branch (issues ++ [issue]) =
      scriptsOn account branch issues ++
        if issue.account = account ∧ issue.branch = branch then [issue.script] else [] := by
  rw [scriptsOn, List.filter_append, List.map_append, ← scriptsOn, List.filter_singleton,
    ← Bool.decide_and]
  by_cases hhere : issue.account = account ∧ issue.branch = branch
  · simp only [hhere, decide_true, cond_true, List.map_singleton, and_self, if_true]
  · simp only [hhere, decide_false, cond_false, List.map_nil, if_false]

end Issue

namespace AddressBook

open Issue

theorem indicesBelow_succ {next after : UInt32} (hafter : after.toNat = next.toNat + 1) :
    indicesBelow after = indicesBelow next ++ [next] := by
  rw [indicesBelow, indicesBelow, hafter, List.range_succ, List.map_append, List.map_singleton,
    UInt32.ofNat_toNat]

theorem mem_indicesBelow {next index : UInt32} :
    index ∈ indicesBelow next ↔ index.toNat < next.toNat := by
  rw [indicesBelow, List.mem_map]
  constructor
  · rintro ⟨number, hnumber, rfl⟩
    have hsize := lt_trans (List.mem_range.1 hnumber) next.toNat_lt
    rw [UInt32.toNat_ofNat_of_lt' hsize]
    exact List.mem_range.1 hnumber
  · intro hindex
    exact ⟨index.toNat, List.mem_range.2 hindex, UInt32.ofNat_toNat⟩

/-- The scripts of a branch that the account's record stands for. -/
def handedOut (book : AddressBook σ) (account : AccountId) (branch : Branch) : List Script :=
  match book.records.get? account with
  | none => []
  | some record => (indicesBelow (record.nextIndex branch)).map fun index =>
      book.keychain.script ⟨account, branch, index⟩ record.kind

theorem handedOut_of_get? {book : AddressBook σ} {account : AccountId} {branch : Branch}
    {record : AccountRecord} (hrecord : book.records.get? account = some record) :
    book.handedOut account branch = (indicesBelow (record.nextIndex branch)).map fun index =>
      book.keychain.script ⟨account, branch, index⟩ record.kind := by
  rw [handedOut, hrecord]

theorem accountAddresses_of_record {book : AddressBook σ} {account : AccountId}
    {record : AccountRecord} (hrecord : book.record account = .ok record) :
    book.accountAddresses account =
      .ok (book.handedOut account .external ++ book.handedOut account .internal) := by
  have hget := record_eq_ok_iff.1 hrecord
  rw [accountAddresses, hrecord, handedOut_of_get? hget, handedOut_of_get? hget]
  simp only [Except.map, issuedPaths, List.flatMap_cons, List.flatMap_nil, List.append_nil,
    List.map_append, List.map_map]
  rfl

/-- The book stands for exactly the addresses `issues` and, besides the default one, the accounts
`opened`. -/
structure StandsFor (seed : Seed) (book : AddressBook σ) (issues : List Issue)
    (opened : List AccountId) : Prop where
  keychain_eq : book.keychain = ⟨seed⟩
  scripts_eq : ∀ account branch, scriptsOn account branch issues = book.handedOut account branch
  indices_le : ∀ account record branch, book.records.get? account = some record →
    (record.nextIndex branch).toNat ≤ AccountRecord.maxAddressIndex.toNat + 1
  accounts_eq : book.accounts =
    (List.range (opened.length + 1)).map fun number => ⟨UInt32.ofNat number⟩
  opened_eq : opened =
    (List.range opened.length).map fun number => ⟨UInt32.ofNat (number + 1)⟩
  distinct : KeyChain.Separates ⟨seed⟩ →
    (issues.map fun issue => issue.script.pubkeyHash).Nodup

theorem standsFor_create {backend : AccountStore σ} {seed : Seed} {kind : ScriptKind}
    {store after : σ} {book : AddressBook σ}
    (hcreate : create backend seed kind store = (.ok book, after)) :
    book.StandsFor seed [] [] := by
  rw [create] at hcreate
  rcases hreplace : backend.replace (initialData seed kind) store with ⟨fault | _, stored⟩
  · simp only [hreplace] at hcreate
    cases hcreate
  · simp only [hreplace] at hcreate
    cases hcreate
    have hrecords (account : AccountId) (record : AccountRecord)
        (hrecord : (initialData seed kind).accounts.get? account = some record) :
        record = .fresh kind := by
      by_cases hdefault : account = .default
      · subst hdefault
        rw [initialData, Registry.get?_insert_self] at hrecord
        exact (Option.some.inj hrecord).symm
      · rw [initialData, Registry.get?_insert_of_ne _ hdefault] at hrecord
        cases hrecord
    refine ⟨rfl, fun account branch => ?_, fun account record branch hrecord => ?_, rfl, rfl,
      fun _ => List.nodup_nil⟩
    · rw [handedOut, ofData]
      cases hrecord : (initialData seed kind).accounts.get? account with
      | none => rfl
      | some record =>
          rw [hrecords account record hrecord]
          cases branch <;> rfl
    · rw [hrecords account record hrecord]
      cases branch <;> exact Nat.zero_le _

namespace StandsFor

variable {backend : AccountStore σ} {seed : Seed} {book after : AddressBook σ}
  {issues : List Issue} {opened : List AccountId} (hstands : book.StandsFor seed issues opened)
include hstands

/-- Calls that hand nothing out leave the book standing for the same. -/
theorem of_same (hkeychain : after.keychain = book.keychain)
    (hrecords : after.records = book.records) : after.StandsFor seed issues opened where
  keychain_eq := hkeychain.trans hstands.keychain_eq
  scripts_eq account branch := by
    rw [hstands.scripts_eq, handedOut, handedOut, hkeychain, hrecords]
  indices_le := hrecords ▸ hstands.indices_le
  accounts_eq := by rw [accounts, hrecords, ← accounts, hstands.accounts_eq]
  opened_eq := hstands.opened_eq
  distinct := hstands.distinct

/-- What was handed out belongs to an index that its branch has passed. -/
theorem exists_index_of_mem {issue : Issue} (hissue : issue ∈ issues) :
    ∃ record index, book.records.get? issue.account = some record ∧
      index.toNat < (record.nextIndex issue.branch).toNat ∧
      issue.script = book.keychain.script ⟨issue.account, issue.branch, index⟩ record.kind := by
  have hscript : issue.script ∈ scriptsOn issue.account issue.branch issues :=
    List.mem_map_of_mem (List.mem_filter.2 ⟨hissue, by simp⟩)
  rw [hstands.scripts_eq, handedOut] at hscript
  cases hrecord : book.records.get? issue.account with
  | none =>
      rw [hrecord] at hscript
      cases hscript
  | some record =>
      rw [hrecord] at hscript
      obtain ⟨index, hindex, hderived⟩ := List.mem_map.1 hscript
      exact ⟨record, index, rfl, mem_indicesBelow.1 hindex, hderived.symm⟩

/-- The index that is handed out next has not been handed out before. -/
theorem digest_not_mem (hseparates : KeyChain.Separates ⟨seed⟩) {account : AccountId}
    {branch : Branch} {record : AccountRecord}
    (hrecord : book.records.get? account = some record) (kind : ScriptKind) :
    (book.keychain.script ⟨account, branch, record.nextIndex branch⟩ kind).pubkeyHash ∉
      issues.map fun issue => issue.script.pubkeyHash := by
  intro hrepeated
  obtain ⟨issue, hissue, hdigest⟩ := List.mem_map.1 hrepeated
  obtain ⟨other, index, hother, hindex, hscript⟩ := hstands.exists_index_of_mem hissue
  rw [hscript, hstands.keychain_eq] at hdigest
  cases KeyChain.material_injective _ (hseparates _ _ hdigest)
  cases hrecord.symm.trans hother
  exact Nat.lt_irrefl _ hindex

/-- The book after the next address of a branch has been handed out. -/
theorem issued {account : AccountId} {branch : Branch} {script : Script}
    (hissue : issue backend account branch book = (.ok script, after)) :
    after.StandsFor seed (issues ++ [⟨account, branch, script⟩]) opened := by
  obtain ⟨record, advanced, store, hrecord, hadvanced, _, rfl, rfl⟩ := issue_eq_ok hissue
  have hadvances := AccountRecord.advances_of_advanced hadvanced
  have hroom := UInt32.le_iff_toNat_le.1 (AccountRecord.index_le_of_advanced hadvanced)
  refine ⟨hstands.keychain_eq, fun other side => ?_, fun other found side hfound => ?_, ?_,
    hstands.opened_eq, fun hseparates => ?_⟩
  · rw [scriptsOn_append_singleton, hstands.scripts_eq]
    by_cases hsame : other = account
    · subst hsame
      rw [handedOut_of_get? hrecord, handedOut_of_get? (Registry.get?_insert_self _ _ _),
        hadvances.kind_eq]
      by_cases hside : side = branch
      · subst hside
        rw [if_pos ⟨rfl, rfl⟩, indicesBelow_succ hadvances.next_eq, List.map_append]
        rfl
      · rw [if_neg fun hboth => hside hboth.2.symm, hadvances.others_eq side hside,
          List.append_nil]
    · rw [if_neg fun hboth => hsame hboth.1.symm, List.append_nil, handedOut, handedOut,
        Registry.get?_insert_of_ne _ hsame]
  · by_cases hsame : other = account
    · subst hsame
      cases (book.records.get?_insert_self other advanced).symm.trans hfound
      by_cases hside : side = branch
      · subst hside
        rw [hadvances.next_eq]
        omega
      · rw [hadvances.others_eq side hside]
        exact hstands.indices_le other record side hrecord
    · rw [Registry.get?_insert_of_ne _ hsame] at hfound
      exact hstands.indices_le other found side hfound
  · have hknown : account ∈ book.records.accounts := by
      by_contra habsent
      rw [(Registry.get?_eq_none_iff _ _).2 habsent] at hrecord
      cases hrecord
    rw [accounts, Registry.accounts_insert_of_mem _ _ hknown, ← accounts, hstands.accounts_eq]
  · rw [List.map_append, List.nodup_append]
    refine ⟨hstands.distinct hseparates, List.nodup_singleton _, ?_⟩
    intro old hold new hnew heq
    rw [List.map_singleton, List.mem_singleton] at hnew
    subst hnew heq
    exact hstands.digest_not_mem hseparates hrecord _ hold

theorem nextAccount_eq : book.nextAccount = ⟨UInt32.ofNat (opened.length + 1)⟩ := by
  have hlast : book.accounts.getLast? = some ⟨UInt32.ofNat opened.length⟩ := by
    rw [hstands.accounts_eq, List.range_succ, List.map_append, List.map_singleton,
      List.getLast?_concat]
  rw [nextAccount, hlast, UInt32.ofNat_add]
  rfl

/-- The book after an account has been added. -/
theorem added {kind : ScriptKind} (hadds : AddsAccount backend kind book after)
    (hlimit : opened.length + 1 < UInt32.size) :
    after.StandsFor seed issues (opened ++ [book.nextAccount]) := by
  have hnext := hstands.nextAccount_eq
  have hbelow : ∀ other ∈ book.records.accounts, other.number < book.nextAccount.number := by
    intro other hother
    rw [← accounts, hstands.accounts_eq] at hother
    obtain ⟨number, hnumber, rfl⟩ := List.mem_map.1 hother
    have hrange := List.mem_range.1 hnumber
    rw [hnext, UInt32.lt_iff_toNat_lt, UInt32.toNat_ofNat_of_lt' hlimit,
      UInt32.toNat_ofNat_of_lt' (lt_trans hrange hlimit)]
    exact hrange
  have hfresh : book.records.get? book.nextAccount = none :=
    (Registry.get?_eq_none_iff _ _).2 fun hknown => UInt32.lt_irrefl _ (hbelow _ hknown)
  refine ⟨hadds.keychain_eq.trans hstands.keychain_eq, fun account branch => ?_,
    fun account record branch hrecord => ?_, ?_, ?_, hstands.distinct⟩
  · rw [hstands.scripts_eq]
    by_cases hnew : account = book.nextAccount
    · rw [hnew, handedOut, hfresh,
        handedOut_of_get? (hadds.records_eq ▸ Registry.get?_insert_self _ _ _)]
      cases branch <;> rfl
    · rw [handedOut, handedOut, hadds.records_eq, hadds.keychain_eq,
        Registry.get?_insert_of_ne _ hnew]
  · rw [hadds.records_eq] at hrecord
    by_cases hnew : account = book.nextAccount
    · rw [hnew, Registry.get?_insert_self] at hrecord
      cases hrecord
      cases branch <;> exact Nat.zero_le _
    · rw [Registry.get?_insert_of_ne _ hnew] at hrecord
      exact hstands.indices_le account record branch hrecord
  · rw [accounts, hadds.records_eq, Registry.accounts_insert_of_lt _ _ hbelow, ← accounts,
      hstands.accounts_eq, hnext, List.length_append, List.length_singleton,
      List.range_succ (n := opened.length + 1), List.map_append, List.map_singleton]
  · conv_lhs => rw [hstands.opened_eq, hnext]
    rw [List.length_append, List.length_singleton, List.range_succ, List.map_append,
      List.map_singleton]

/-- A branch whose index is not zero has handed something out. -/
theorem scriptsOn_ne_nil {account : AccountId} {branch : Branch} {record : AccountRecord}
    (hrecord : book.records.get? account = some record) (hindex : record.nextIndex branch ≠ 0) :
    scriptsOn account branch issues ≠ [] := by
  have hpositive : 0 < (record.nextIndex branch).toNat :=
    UInt32.lt_iff_toNat_lt.1 (UInt32.pos_iff_ne_zero.2 hindex)
  rw [hstands.scripts_eq, handedOut_of_get? hrecord]
  simp only [indicesBelow, ne_eq, List.map_eq_nil_iff, List.range_eq_nil]
  omega

theorem scriptsOn_eq_nil {account : AccountId} {branch : Branch}
    (hindex : ∀ record, book.records.get? account = some record → record.nextIndex branch = 0) :
    scriptsOn account branch issues = [] := by
  rw [hstands.scripts_eq, handedOut]
  cases hrecord : book.records.get? account with
  | none => rfl
  | some record =>
      simp only [hindex record hrecord]
      rfl

/-- One call, whatever its answer. -/
theorem event (call : BookCall)
    (hlimit : (opened ++ (call.event backend book).opened).length < UInt32.size) :
    (call.event backend book).after.StandsFor seed (note issues (call.event backend book))
      (opened ++ (call.event backend book).opened) := by
  have hkeeps := backend.keepsOnFailure_unit
  have hrefused {fault : DerivationError} {after : AddressBook σ}
      (hperform : call.perform backend book = (.error fault, after))
      (hsame : book.SameUpTo (fun _ => ()) after) :
      (call.event backend book).after.StandsFor seed (note issues (call.event backend book))
        (opened ++ (call.event backend book).opened) := by
    have hnothing := hstands.of_same hsame.keychain_eq hsame.records_eq
    rw [BookCall.event_of_perform hperform]
    cases call <;> simpa only [note, BookEvent.opened, List.append_nil] using hnothing
  have hissued {account : AccountId} {branch : Branch}
      (hcall : call.perform backend book =
        (issue backend account branch >>= fun script => pure (.script script)) book)
      (hnote : ∀ script after, note issues ⟨book, call, .ok (.script script), after⟩ =
        issues ++ [⟨account, branch, script⟩]) :
      (call.event backend book).after.StandsFor seed (note issues (call.event backend book))
        (opened ++ (call.event backend book).opened) := by
    rcases BookCall.perform_issue hkeeps hcall with
      ⟨fault, after, hperform, hsame⟩ | ⟨script, after, hperform, hissue⟩
    · exact hrefused hperform hsame
    · have hafter := hstands.issued hissue
      rw [BookCall.event_of_perform hperform, hnote]
      cases call <;> simpa only [BookEvent.opened, List.append_nil] using hafter
  cases call with
  | createAccount kind =>
      rcases BookCall.perform_createAccount hkeeps kind book with
        ⟨fault, after, hperform, hsame⟩ | ⟨after, hperform, hadds⟩
      · exact hrefused hperform hsame
      · rw [BookCall.event_of_perform hperform] at hlimit ⊢
        exact hstands.added hadds (by simpa [BookEvent.opened] using hlimit)
  | newAddress account => exact hissued rfl fun _ _ => rfl
  | nextChange account => exact hissued rfl fun _ _ => rfl
  | currentAddress account =>
      rcases currentAddress_cases account book with
        ⟨record, hrecord, hindex, hshown⟩ | ⟨hfirst, hissue⟩
      · have hsome : scriptsOn account .external issues ≠ [] :=
          hstands.scriptsOn_ne_nil hrecord hindex
        rw [BookCall.event_of_perform (Action.bind_of_ok hshown)]
        simpa [note, BookEvent.opened, hsome] using hstands
      · have hnone : scriptsOn account .external issues = [] := hstands.scriptsOn_eq_nil hfirst
        refine hissued (by rw [BookCall.perform, Action.bind_apply, hissue]; rfl) fun _ _ => ?_
        simp only [note, hnone, List.isEmpty_nil, if_true]
  | currentChange | accounts | record | accountKind | accountAddresses | accountOf | keyPairFor =>
      simp only [BookCall.event, note, BookEvent.opened, List.append_nil]
      exact hstands

end StandsFor

/-- A run, whatever its answers. -/
theorem StandsFor.reach {backend : AccountStore σ} {seed : Seed} {book : AddressBook σ}
    (hstands : book.StandsFor seed [] []) (calls : List BookCall)
    (hlimit : ((history backend calls book).flatMap BookEvent.opened).length < UInt32.size) :
    (reach backend calls book).StandsFor seed (Issue.all (history backend calls book))
      ((history backend calls book).flatMap BookEvent.opened) := by
  induction calls using List.reverseRecOn with
  | nil => exact hstands
  | append_singleton calls call ih =>
      rw [history_append_singleton, List.flatMap_append, List.flatMap_singleton] at hlimit ⊢
      have hshorter : ((history backend calls book).flatMap BookEvent.opened).length <
          UInt32.size := by
        rw [List.length_append] at hlimit
        exact lt_of_le_of_lt (Nat.le_add_right _ _) hlimit
      have hbefore := ih hshorter
      rw [reach_append_singleton, Issue.all, List.foldl_append]
      exact hbefore.event call hlimit

theorem refused_of_mem_history {backend : AccountStore σ} {stored : σ → β}
    (hkeeps : backend.KeepsOnFailure stored) (calls : List BookCall) (book : AddressBook σ)
    {event : BookEvent σ} (hevent : event ∈ history backend calls book) {fault : DerivationError}
    (hrefused : event.answer = .error fault) : event.before.SameUpTo stored event.after := by
  induction calls generalizing book with
  | nil => cases hevent
  | cons call rest ih =>
      rcases List.mem_cons.1 hevent with rfl | hlater
      · exact BookCall.sameUpTo_of_refused hkeeps call book hrefused
      · exact ih _ hlater

/-- What is refused in a run of a new book changes nothing. As long as the account numbers last,
each branch hands out its indices one after another from zero on and none above the greatest, the
record counts them and the account lists them; the accounts are numbered one after another likewise.
If key derivation separates its inputs, no digest is handed out twice. -/
theorem history_issues_in_order (backend : AccountStore σ) (stored : σ → β)
    (hkeeps : backend.KeepsOnFailure stored) (seed : Seed) (kind : ScriptKind) {store after : σ}
    {book : AddressBook σ} (hcreate : create backend seed kind store = (.ok book, after))
    (calls : List BookCall) :
    let events := history backend calls book
    let issues := Issue.all events
    let opened := events.flatMap BookEvent.opened
    let last := reach backend calls book
    (∀ event ∈ events, ∀ fault, event.answer = .error fault →
      event.before.SameUpTo stored event.after) ∧
    (opened.length < UInt32.size →
      (∀ account record, last.record account = .ok record →
        (∀ branch,
          scriptsOn account branch issues =
            (List.range (scriptsOn account branch issues).length).map (fun index =>
              KeyChain.script ⟨seed⟩ ⟨account, branch, UInt32.ofNat index⟩ record.kind) ∧
          (record.nextIndex branch).toNat = (scriptsOn account branch issues).length ∧
          (scriptsOn account branch issues).length ≤ AccountRecord.maxAddressIndex.toNat + 1) ∧
        last.accountAddresses account =
          .ok (scriptsOn account .external issues ++ scriptsOn account .internal issues)) ∧
      (∀ account fault, last.record account = .error fault →
        ∀ branch, scriptsOn account branch issues = []) ∧
      opened = (List.range opened.length).map (fun number => ⟨UInt32.ofNat (number + 1)⟩) ∧
      (KeyChain.Separates ⟨seed⟩ →
        (issues.map fun issue => issue.script.pubkeyHash).Nodup)) := by
  refine ⟨fun event hevent fault => refused_of_mem_history hkeeps calls book hevent,
    fun hlimit => ?_⟩
  have hstands := (standsFor_create hcreate).reach calls hlimit
  refine ⟨fun account record hrecord => ?_, fun account fault hfault branch => ?_,
    hstands.opened_eq, hstands.distinct⟩
  · have hget := record_eq_ok_iff.1 hrecord
    have hscripts (branch : Branch) := (hstands.scripts_eq account branch).trans
      (handedOut_of_get? hget)
    have hlength (branch : Branch) :
        (scriptsOn account branch (Issue.all (history backend calls book))).length =
          (record.nextIndex branch).toNat := by
      rw [hscripts, List.length_map, indicesBelow, List.length_map, List.length_range]
    refine ⟨fun branch => ⟨?_, (hlength branch).symm, ?_⟩, ?_⟩
    · rw [hlength, hscripts, indicesBelow, List.map_map, hstands.keychain_eq]
      rfl
    · rw [hlength]
      exact hstands.indices_le account record branch hget
    · rw [accountAddresses_of_record hrecord, hstands.scripts_eq, hstands.scripts_eq]
  · have hnone := (record_eq_error_iff.1 hfault).1
    rw [hstands.scripts_eq, handedOut, hnone]

end AddressBook

/-! ## A run with refused writes -/

namespace ScheduledStore

/-- A store whose next writes of records are refused where `schedule` has a fault. -/
structure State (σ : Type) where
  inner : σ
  schedule : List (Option StoreError)

def saveAccount (inner : AccountStore σ) (account : AccountId) (record : AccountRecord) :
    Action (State σ) StoreError Unit :=
  fun state =>
    match state.schedule.head?.join with
    | some fault => (.error fault, { state with schedule := state.schedule.tail })
    | none =>
        match inner.saveAccount account record state.inner with
        | (result, inner) => (result, ⟨inner, state.schedule.tail⟩)

def store (inner : AccountStore σ) : AccountStore (State σ) where
  load := inner.load.within State.inner fun state inner => { state with inner }
  replace data := (inner.replace data).within State.inner fun state inner => { state with inner }
  saveAccount := saveAccount inner

theorem keepsOnFailure {inner : AccountStore σ} {stored : σ → β}
    (hinner : inner.KeepsOnFailure stored) :
    (store inner).KeepsOnFailure fun state => stored state.inner := by
  intro account record state after fault hsave
  simp only [store, saveAccount] at hsave
  cases hnext : state.schedule.head?.join with
  | some refused =>
      rw [hnext] at hsave
      cases hsave
      rfl
  | none =>
      rw [hnext] at hsave
      rcases hresult : inner.saveAccount account record state.inner with ⟨refused | _, moved⟩
      · simp only [hresult] at hsave
        cases hsave
        exact hinner account record state.inner moved fault hresult
      · simp only [hresult] at hsave
        cases hsave

end ScheduledStore

namespace AddressBook

open Issue

/-- Calls of which six write a record. -/
def mixedCalls : List BookCall :=
  [.newAddress .default, .currentAddress .default, .createAccount .p2tr, .createAccount .p2tr,
    .nextChange ⟨1⟩, .newAddress .default, .currentAddress .default]

/-- The first and the fourth write are refused. -/
def mixedSchedule : List (Option StoreError) :=
  [some .notInitialized, none, none, some .notInitialized, none, none]

theorem history_mixedCalls_issues_in_order :
    ∃ book after, create (ScheduledStore.store MemoryStore.store) default .p2wpkh
        ⟨none, mixedSchedule⟩ = (.ok book, after) ∧
      let events := history (ScheduledStore.store MemoryStore.store) mixedCalls book
      events.flatMap BookEvent.opened = [⟨1⟩] ∧
      scriptsOn .default .external (Issue.all events) =
        [KeyChain.script ⟨default⟩ ⟨.default, .external, 0⟩ .p2wpkh,
          KeyChain.script ⟨default⟩ ⟨.default, .external, 1⟩ .p2wpkh] ∧
      scriptsOn ⟨1⟩ .internal (Issue.all events) =
        [KeyChain.script ⟨default⟩ ⟨⟨1⟩, .internal, 0⟩ .p2tr] := by
  let data := initialData default .p2wpkh
  let book : AddressBook (ScheduledStore.State MemoryStore.State) :=
    ofData data ⟨some data, mixedSchedule⟩
  let events := history (ScheduledStore.store MemoryStore.store) mixedCalls book
  have hcreate : create (ScheduledStore.store MemoryStore.store) default .p2wpkh
      ⟨none, mixedSchedule⟩ = (.ok book, ⟨some data, mixedSchedule⟩) := rfl
  have hopened : events.flatMap BookEvent.opened = [⟨1⟩] := rfl
  let last := reach (ScheduledStore.store MemoryStore.store) mixedCalls book
  have hdefault : last.record .default = .ok ⟨.p2wpkh, 2, 0⟩ :=
    record_eq_ok_iff.2 (by decide +kernel)
  have hadded : last.record ⟨1⟩ = .ok ⟨.p2tr, 0, 1⟩ :=
    record_eq_ok_iff.2 (by decide +kernel)
  have hreceived : (scriptsOn .default .external (Issue.all events)).length = 2 := by
    decide +kernel
  have hchange : (scriptsOn ⟨1⟩ .internal (Issue.all events)).length = 1 := by
    decide +kernel
  have hlimit : (events.flatMap BookEvent.opened).length < UInt32.size := by
    rw [hopened]
    decide
  obtain ⟨hknown, _⟩ := (history_issues_in_order (ScheduledStore.store MemoryStore.store)
    (fun state => state.inner) (ScheduledStore.keepsOnFailure MemoryStore.keepsOnFailure)
    default .p2wpkh hcreate mixedCalls).2 hlimit
  refine ⟨book, _, hcreate, hopened, ?_, ?_⟩
  · have hfirst := ((hknown .default _ hdefault).1 .external).1
    rw [hreceived] at hfirst
    exact hfirst
  · have hsecond := ((hknown ⟨1⟩ _ hadded).1 .internal).1
    rw [hchange] at hsecond
    exact hsecond

end AddressBook

end Purse
