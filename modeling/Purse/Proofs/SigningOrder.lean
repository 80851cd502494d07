import Purse.Proofs.Lookups

/-!
# Signing in any order

Inputs are signed in place, one call after another.  Since no signature is part of what another one
commits to, the order of the calls does not matter, and neither does how often an input is signed
with the same keys.  A wallet signs as such calls do, with the keys that its book has for the
scripts.
-/

namespace Purse

variable {σ : Type}

/-- What an input is signed with: the script and value that it spends, and a pair of keys. -/
structure Signer where
  script : Script
  value : Amount
  pair : KeyPair

namespace Transaction

/-- Signs an input in place.  A call that is refused leaves the transaction as it is. -/
def signing (index : Nat) (signer : Signer) : Action Transaction SigningError Unit :=
  fun tx =>
    match tx.signInput index signer.script signer.value signer.pair with
    | .error fault => (.error fault, tx)
    | .ok signed => (.ok (), signed)

/-- What becomes of the transaction if the calls are made in turn. -/
def signEach (tx : Transaction) (steps : List (Nat × Signer)) : Transaction :=
  steps.foldl (fun tx step => (signing step.1 step.2 tx).2) tx

/-- What becomes of the transaction if the inputs are signed in the order of the positions, each
with its own signer. -/
def signAll (tx : Transaction) (signers : Nat → Signer) (order : List Nat) : Transaction :=
  tx.signEach (order.map fun position => (position, signers position))

/-! ## One call -/

section Step

variable {tx : Transaction} {index : Nat}

theorem signing_of_lt (hindex : index < tx.inputs.length) (signer : Signer) :
    signing index signer tx =
      (.ok (), tx.signedAt index signer.script signer.value signer.pair) := by
  rw [signing, signInput_eq hindex]

theorem signing_of_le (hindex : tx.inputs.length ≤ index) (signer : Signer) :
    signing index signer tx = (.error (.inputIndexOutOfBounds index tx.inputs.length), tx) := by
  have hrefused : tx.signInput index signer.script signer.value signer.pair =
      .error (.inputIndexOutOfBounds index tx.inputs.length) := by
    rw [signInput, signingHash, if_neg (Nat.not_lt.2 hindex)]
  rw [signing, hrefused]

theorem sameSpend_signing (tx : Transaction) (index : Nat) (signer : Signer) :
    tx.SameSpend (signing index signer tx).2 := by
  by_cases hindex : index < tx.inputs.length
  · rw [signing_of_lt hindex]
    exact sameSpend_signedAt tx index signer.script signer.value signer.pair
  · rw [signing_of_le (Nat.not_lt.1 hindex)]
    exact .refl tx

/-- A call changes no input but its own. -/
theorem getElem?_signing (tx : Transaction) (index : Nat) (signer : Signer) (position : Nat) :
    (signing index signer tx).2.inputs[position]? = tx.inputs[position]?.map fun input =>
      if position = index then
        input.signedBy signer.pair (tx.signingMessage index signer.script signer.value)
      else input := by
  by_cases hindex : index < tx.inputs.length
  · rw [signing_of_lt hindex]
    by_cases hposition : position = index
    · subst hposition
      have hinput := List.getElem?_eq_getElem hindex
      rw [getElem?_signedAt_self hinput, hinput, Option.map_some, if_pos rfl]
    · rw [getElem?_signedAt_of_ne (Ne.symm hposition)]
      simp only [hposition, if_false, Option.map_id_fun', id]
  · rw [signing_of_le (Nat.not_lt.1 hindex)]
    by_cases hposition : position = index
    · rw [hposition, List.getElem?_eq_none (Nat.not_lt.1 hindex), Option.map_none]
    · simp only [hposition, if_false, Option.map_id_fun', id]

/-- Whether an input verifies depends on the input and on what all signatures commit to. -/
theorem verifyInput_congr {other : Transaction} (hsame : tx.SameSpend other)
    (hinput : other.inputs[index]? = tx.inputs[index]?) (script : Script) (value : Amount) :
    other.verifyInput index script value = tx.verifyInput index script value := by
  simp only [verifyInput, signingHash, hsame.length_eq, hsame.signingPreimage_eq, hinput]

end Step

/-! ## Runs -/

theorem sameSpend_signEach (tx : Transaction) (steps : List (Nat × Signer)) :
    tx.SameSpend (tx.signEach steps) := by
  induction steps generalizing tx with
  | nil => exact .refl tx
  | cons step rest ih => exact (sameSpend_signing tx step.1 step.2).trans (ih _)

/-- An input that no call signs stays as it is. -/
theorem getElem?_signEach_of_ne (tx : Transaction) {steps : List (Nat × Signer)} {position : Nat}
    (hothers : ∀ step ∈ steps, step.1 ≠ position) :
    (tx.signEach steps).inputs[position]? = tx.inputs[position]? := by
  induction steps generalizing tx with
  | nil => rfl
  | cons step rest ih =>
      rw [List.forall_mem_cons] at hothers
      have hstep : tx.signEach (step :: rest) = (signing step.1 step.2 tx).2.signEach rest := rfl
      rw [hstep, ih _ hothers.2, getElem?_signing]
      simp only [Ne.symm hothers.1, if_false, Option.map_id_fun', id]

/-- Each input that is signed at all carries the signature of its signer, for what was to be signed
in the first place. -/
theorem getElem?_signAll (tx : Transaction) (signers : Nat → Signer) (order : List Nat)
    (position : Nat) :
    (tx.signAll signers order).inputs[position]? = tx.inputs[position]?.map fun input =>
      if position ∈ order then
        input.signedBy (signers position).pair
          (tx.signingMessage position (signers position).script (signers position).value)
      else input := by
  induction order generalizing tx with
  | nil => simp [signAll, signEach]
  | cons index rest ih =>
      have hstep : tx.signAll signers (index :: rest) =
          (signing index (signers index) tx).2.signAll signers rest := rfl
      have hsame := sameSpend_signing tx index (signers index)
      rw [hstep, ih, getElem?_signing, Option.map_map, hsame.signingMessage_eq]
      congr 1
      funext input
      simp only [Function.comp_apply, List.mem_cons]
      by_cases hposition : position = index
      · subst hposition
        by_cases hrest : position ∈ rest
        · simp only [hrest, or_true, if_true]
          rfl
        · simp only [hrest, if_true, if_false, true_or]
      · simp only [hposition, if_false, false_or]

theorem SameSpend.eq_of_inputs {tx first second : Transaction} (hfirst : tx.SameSpend first)
    (hsecond : tx.SameSpend second) (hinputs : first.inputs = second.inputs) : first = second := by
  cases first with
  | mk version inputs outputs lockTime =>
      cases second with
      | mk version' inputs' outputs' lockTime' =>
          rw [Transaction.mk.injEq]
          exact ⟨hfirst.version_eq.trans hsecond.version_eq.symm, hinputs,
            hfirst.outputs_eq.trans hsecond.outputs_eq.symm,
            hfirst.lockTime_eq.trans hsecond.lockTime_eq.symm⟩

/-- Only which inputs are signed matters. -/
theorem signAll_congr (tx : Transaction) (signers : Nat → Signer) {order other : List Nat}
    (hmem : ∀ position < tx.inputs.length, position ∈ order ↔ position ∈ other) :
    tx.signAll signers order = tx.signAll signers other := by
  apply (sameSpend_signEach tx _).eq_of_inputs (sameSpend_signEach tx _)
  apply List.ext_getElem?
  intro position
  refine (getElem?_signAll tx signers order position).trans
    (Eq.trans ?_ (getElem?_signAll tx signers other position).symm)
  by_cases hposition : position < tx.inputs.length
  · simp only [hmem position hposition]
  · rw [List.getElem?_eq_none (Nat.not_lt.1 hposition), Option.map_none, Option.map_none]

/-- Signing a transaction in place: calls change their own inputs, and may come in any order. -/
structure SignsInAnyOrder (tx : Transaction) : Prop where
  accepted : ∀ index signer, index < tx.inputs.length →
    ∃ signed, signing index signer tx = (.ok (), signed) ∧ tx.SameSpend signed ∧
      ∀ position, position ≠ index → signed.inputs[position]? = tx.inputs[position]?
  refused : ∀ index signer, tx.inputs.length ≤ index →
    signing index signer tx = (.error (.inputIndexOutOfBounds index tx.inputs.length), tx)
  /-- Each input that is signed carries the signature of its own signer. -/
  signed : ∀ signers order position,
    (tx.signAll signers order).inputs[position]? = tx.inputs[position]?.map fun input =>
      if position ∈ order then
        input.signedBy (signers position).pair
          (tx.signingMessage position (signers position).script (signers position).value)
      else input
  reordered : ∀ signers order other,
    (∀ position < tx.inputs.length, position ∈ order ↔ position ∈ other) →
      tx.signAll signers order = tx.signAll signers other
  /-- Signing other inputs changes nothing about whether an input verifies. -/
  verified : ∀ steps position, (∀ step ∈ steps, step.1 ≠ position) → ∀ script value,
    (tx.signEach steps).verifyInput position script value = tx.verifyInput position script value

theorem signsInAnyOrder (tx : Transaction) : tx.SignsInAnyOrder where
  accepted index signer hindex := by
    refine ⟨_, signing_of_lt hindex signer, sameSpend_signedAt tx index _ _ _, ?_⟩
    intro position hposition
    exact getElem?_signedAt_of_ne (Ne.symm hposition)
  refused _ signer hindex := signing_of_le hindex signer
  signed := getElem?_signAll tx
  reordered signers _ _ := signAll_congr tx signers
  verified steps _ hothers :=
    verifyInput_congr (sameSpend_signEach tx steps) (getElem?_signEach_of_ne tx hothers)

end Transaction

/-- A list with a bad entry has a first one. -/
theorem exists_first_of_not_forall {α : Type} {good : α → Prop} {entries : List α}
    (hbad : ¬ ∀ entry ∈ entries, good entry) :
    ∃ earlier entry later, entries = earlier ++ entry :: later ∧
      (∀ other ∈ earlier, good other) ∧ ¬ good entry := by
  classical
  push Not at hbad
  obtain ⟨bad, hmem, hrefused⟩ := hbad
  have hfound : (entries.find? fun entry => ¬ good entry).isSome :=
    List.find?_isSome.2 ⟨bad, hmem, decide_eq_true hrefused⟩
  obtain ⟨entry, hfirst⟩ := Option.isSome_iff_exists.1 hfound
  obtain ⟨hentry, earlier, later, hsplit, hearlier⟩ := List.find?_eq_some_iff_append.1 hfirst
  refine ⟨earlier, entry, later, hsplit, ?_, of_decide_eq_true hentry⟩
  intro other hother
  simpa using hearlier other hother

/-! ## Keys of a book -/

namespace AddressBook

variable {book : AddressBook σ} {script : Script}

theorem keyPairFor?_of_not_knows (hunknown : ¬ book.Knows script) :
    book.keyPairFor? script = none := by
  rwa [knows_iff_isSome, Bool.not_eq_true, Option.isSome_eq_false_iff, Option.isNone_iff_eq_none]
    at hunknown

theorem Coherent.knows_iff (hcoherent : book.Coherent) (script : Script) :
    book.Knows script ↔ ∃ path, book.Issued path ∧ book.digest path = script.pubkeyHash :=
  exists_congr fun path => hcoherent script.pubkeyHash path

/-- What the input at a position of an authored transaction is signed with: the script and value
that it spends, and the keys that the book has for the script. -/
def signers (book : AddressBook σ) (authored : AuthoredTransaction) (position : Nat) : Signer :=
  let script := authored.prevScripts[position]?.getD default
  ⟨script, authored.prevValues[position]?.getD 0, (book.keyPairFor? script).getD ⟨default⟩⟩

end AddressBook

namespace Wallet

open Transaction

variable {book : AddressBook σ} {authored : AuthoredTransaction}

/-- Signing stops at the first script that the book does not know. -/
theorem signInputs_of_unknown {earlier later : List (Script × Amount)} {script : Script}
    {value : Amount} (hearlier : ∀ spent ∈ earlier, book.Knows spent.1)
    (hunknown : ¬ book.Knows script) {tx : Transaction} {index : Nat}
    (hroom : index + earlier.length ≤ tx.inputs.length) :
    signInputs book tx index (earlier ++ (script, value) :: later) =
      .error (.keyNotFound (.found script)) := by
  induction earlier generalizing tx index with
  | nil =>
      rw [List.nil_append, signInputs, AddressBook.keyPairFor?_of_not_knows hunknown]
  | cons first rest ih =>
      obtain ⟨known, amount⟩ := first
      rw [List.forall_mem_cons, AddressBook.knows_iff_isSome, Option.isSome_iff_exists] at hearlier
      obtain ⟨⟨pair, hpair⟩, hrest⟩ := hearlier
      rw [List.length_cons] at hroom
      have hlength := (sameSpend_signedAt tx index known amount pair).length_eq
      rw [List.cons_append, signInputs, hpair]
      dsimp only
      rw [signInput_eq (by omega)]
      exact ih hrest (by omega)

section Authored

variable (hscripts : authored.prevScripts.length = authored.tx.inputs.length)
  (hvalues : authored.prevValues.length = authored.tx.inputs.length)
include hscripts hvalues

/-- Where there is a value for each input, signing fails with the first script that the book does
not know. -/
theorem sign_of_unknown {earlier later : List Script} {script : Script}
    (hsplit : authored.prevScripts = earlier ++ script :: later)
    (hearlier : ∀ known ∈ earlier, book.Knows known) (hunknown : ¬ book.Knows script) :
    sign book authored = .error (.keyNotFound (.found script)) := by
  have hinside : earlier.length < authored.prevValues.length := by
    rw [hvalues, ← hscripts, hsplit, List.length_append, List.length_cons]
    omega
  have hlength : earlier.length = (authored.prevValues.take earlier.length).length := by
    rw [List.length_take, Nat.min_eq_left (Nat.le_of_lt hinside)]
  have hzip : authored.prevScripts.zip authored.prevValues =
      earlier.zip (authored.prevValues.take earlier.length) ++
        (script, authored.prevValues[earlier.length]) ::
          later.zip (authored.prevValues.drop (earlier.length + 1)) := by
    conv_lhs => rw [hsplit, ← List.take_append_drop earlier.length authored.prevValues,
      List.drop_eq_getElem_cons hinside, List.zip_append hlength, List.zip_cons_cons]
  rw [sign, hzip]
  apply signInputs_of_unknown
  · intro spent hspent
    exact hearlier _ (List.of_mem_zip hspent).1
  · exact hunknown
  · rw [List.length_zip, ← hlength, Nat.min_self, Nat.zero_add, ← hvalues]
    exact Nat.le_of_lt hinside

/-- Where the book knows every script, signing is signing in any order with the book's keys. -/
theorem sign_of_known (hknown : ∀ script ∈ authored.prevScripts, book.Knows script)
    {order : List Nat} (horder : ∀ position < authored.tx.inputs.length, position ∈ order) :
    sign book authored = .ok (authored.tx.signAll (book.signers authored) order) := by
  have hkeys : ∀ script value, (script, value) ∈ authored.prevScripts.zip authored.prevValues →
      ∃ pair, book.keyPairFor? script = some pair := by
    intro script value hspent
    exact Option.isSome_iff_exists.1
      (AddressBook.knows_iff_isSome.1 (hknown script (List.of_mem_zip hspent).1))
  have hroom : 0 + (authored.prevScripts.zip authored.prevValues).length ≤
      authored.tx.inputs.length := by
    rw [List.length_zip, hscripts, hvalues, Nat.min_self, Nat.zero_add]
  obtain ⟨signed, hsigned, hsame, _, hresult⟩ := exists_signInputs_eq_ok book hkeys hroom
  rw [sign, hsigned]
  apply congrArg Except.ok
  apply hsame.eq_of_inputs (sameSpend_signEach authored.tx _)
  apply List.ext_getElem?
  intro position
  refine Eq.trans ?_ (getElem?_signAll authored.tx (book.signers authored) order position).symm
  by_cases hposition : position < authored.tx.inputs.length
  · obtain ⟨script, hscript⟩ : ∃ script, authored.prevScripts[position]? = some script :=
      ⟨_, List.getElem?_eq_getElem (hscripts ▸ hposition)⟩
    obtain ⟨value, hvalue⟩ : ∃ value, authored.prevValues[position]? = some value :=
      ⟨_, List.getElem?_eq_getElem (hvalues ▸ hposition)⟩
    obtain ⟨pair, input, hpair, hinput, hchanged⟩ :=
      hresult position script value (List.getElem?_zip_eq_some.2 ⟨hscript, hvalue⟩)
    have hsigner : book.signers authored position = ⟨script, value, pair⟩ := by
      rw [AddressBook.signers, hscript, hvalue, Option.getD_some, Option.getD_some, hpair,
        Option.getD_some]
    rw [Nat.zero_add] at hinput hchanged
    rw [hchanged, hinput, Option.map_some, if_pos (horder position hposition), hsigner]
  · rw [List.getElem?_eq_none (Nat.not_lt.1 hposition), Option.map_none, List.getElem?_eq_none]
    rw [hsame.length_eq]
    exact Nat.not_lt.1 hposition

/-- Signing fails with the first script that the book does not know. -/
theorem sign_eq_error_iff {fault : WalletError} :
    sign book authored = .error fault ↔
      ∃ earlier script later, authored.prevScripts = earlier ++ script :: later ∧
        (∀ known ∈ earlier, book.Knows known) ∧ ¬ book.Knows script ∧
        fault = .keyNotFound (.found script) := by
  constructor
  · intro hrefused
    by_cases hknown : ∀ script ∈ authored.prevScripts, book.Knows script
    · have horder : ∀ position < authored.tx.inputs.length,
          position ∈ List.range authored.tx.inputs.length := fun _ => List.mem_range.2
      rw [sign_of_known hscripts hvalues hknown horder] at hrefused
      cases hrefused
    · obtain ⟨earlier, script, later, hsplit, hearlier, hunknown⟩ :=
        exists_first_of_not_forall hknown
      rw [sign_of_unknown hscripts hvalues hsplit hearlier hunknown] at hrefused
      cases hrefused
      exact ⟨earlier, script, later, hsplit, hearlier, hunknown, rfl⟩
  · rintro ⟨earlier, script, later, hsplit, hearlier, hunknown, rfl⟩
    exact sign_of_unknown hscripts hvalues hsplit hearlier hunknown

/-- Inputs may be signed in any order.  A wallet fails to sign with the first script that its book
does not know, and otherwise signs as calls in any order do, with the keys of the book. -/
theorem sign_inAnyOrder :
    (∀ tx : Transaction, tx.SignsInAnyOrder) ∧
    (∀ fault, sign book authored = .error fault ↔
      ∃ earlier script later, authored.prevScripts = earlier ++ script :: later ∧
        (∀ known ∈ earlier, book.Knows known) ∧ ¬ book.Knows script ∧
        fault = .keyNotFound (.found script)) ∧
    ((∀ script ∈ authored.prevScripts, book.Knows script) →
      (∀ position script, authored.prevScripts[position]? = some script →
        book.keyPairFor? script = some (book.signers authored position).pair) ∧
      ∀ order, (∀ position < authored.tx.inputs.length, position ∈ order) →
        sign book authored = .ok (authored.tx.signAll (book.signers authored) order)) ∧
    (book.Coherent → ∀ script, book.Knows script ↔
      ∃ path, book.Issued path ∧ book.digest path = script.pubkeyHash) := by
  refine ⟨signsInAnyOrder, fun _ => sign_eq_error_iff hscripts hvalues, ?_,
    fun hcoherent => hcoherent.knows_iff⟩
  intro hknown
  refine ⟨?_, fun _ => sign_of_known hscripts hvalues hknown⟩
  intro position script hscript
  have hknows := hknown script (List.mem_of_getElem? hscript)
  obtain ⟨pair, hpair⟩ := Option.isSome_iff_exists.1 (AddressBook.knows_iff_isSome.1 hknows)
  rw [AddressBook.signers, hscript, Option.getD_some, hpair, Option.getD_some]

end Authored

/-! ## Two addresses spent at once -/

/-- A payment that spends an output of each of two scripts. -/
def spending (first second : Script) : AuthoredTransaction where
  tx := ⟨Transaction.currentVersion, [.unsigned ⟨Digest.zero, 0⟩, .unsigned ⟨Digest.zero, 1⟩],
    [⟨100, ⟨.p2wpkh, Digest.zero⟩⟩], 0⟩
  changeIndex := none
  totalInput := 300
  fee := 200
  prevScripts := [first, second]
  prevValues := [100, 200]

theorem knows_mixedWallet_iff {script : Script} :
    mixedWallet.book.Knows script ↔
      script.pubkeyHash = changeScript.pubkeyHash ∨ script.pubkeyHash = ownScript.pubkeyHash := by
  have howned : mixedWallet.book.owned =
      [(changeScript.pubkeyHash, ⟨.default, .internal, 0⟩),
        (ownScript.pubkeyHash, ⟨.default, .external, 0⟩)] := rfl
  simp only [AddressBook.Knows, howned, List.mem_cons, List.not_mem_nil, or_false, Prod.mk.injEq,
    exists_or, exists_and_left, exists_eq, and_true]

/-- The wallet signs two inputs of its own in either order, and fails with a script that it does not
know. -/
theorem sign_spending_inAnyOrder :
    (∀ script ∈ (spending ownScript changeScript).prevScripts, mixedWallet.book.Knows script) ∧
      sign mixedWallet.book (spending ownScript changeScript) =
        .ok ((spending ownScript changeScript).tx.signAll
          (mixedWallet.book.signers (spending ownScript changeScript)) [1, 0, 1]) ∧
      ¬ mixedWallet.book.Knows ⟨.p2wpkh, Digest.zero⟩ ∧
      sign mixedWallet.book (spending ownScript ⟨.p2wpkh, Digest.zero⟩) =
        .error (.keyNotFound (.found ⟨.p2wpkh, Digest.zero⟩)) := by
  obtain ⟨_, _, hsigns, _⟩ :=
    @sign_inAnyOrder _ mixedWallet.book (spending ownScript changeScript) rfl rfl
  obtain ⟨_, hrefuses, _, _⟩ :=
    @sign_inAnyOrder _ mixedWallet.book (spending ownScript ⟨.p2wpkh, Digest.zero⟩) rfl rfl
  have hown : mixedWallet.book.Knows ownScript := knows_mixedWallet_iff.2 (Or.inr rfl)
  have hknown : ∀ script ∈ (spending ownScript changeScript).prevScripts,
      mixedWallet.book.Knows script := by
    intro script hscript
    rcases List.mem_cons.1 hscript with rfl | hsecond
    · exact hown
    · cases List.mem_singleton.1 hsecond
      exact knows_mixedWallet_iff.2 (Or.inl rfl)
  have hunknown : ¬ mixedWallet.book.Knows ⟨.p2wpkh, Digest.zero⟩ := by
    rw [knows_mixedWallet_iff]
    rintro (hchange | hown)
    · exact signChecked_mixed.2.2.2 hchange.symm
    · exact ownScript_pubkeyHash_ne_zero hown.symm
  have horder : ∀ position < (spending ownScript changeScript).tx.inputs.length,
      position ∈ [1, 0, 1] := by
    have hall : ∀ position < 2, position ∈ [1, 0, 1] := by decide
    exact hall
  refine ⟨hknown, (hsigns hknown).2 _ horder, hunknown, (hrefuses _).2 ?_⟩
  refine ⟨[ownScript], ⟨.p2wpkh, Digest.zero⟩, [], rfl, ?_, hunknown, rfl⟩
  intro known hmem
  cases List.mem_singleton.1 hmem
  exact hown

end Wallet

end Purse
