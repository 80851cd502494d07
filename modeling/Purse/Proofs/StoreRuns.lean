import Mathlib
import Purse.Proofs.AtomicWrite
import Purse.Store.Memory

/-!
# A store in a file beside one in memory

Calls are made to a store in a file.  Those that it answers are made to a store in memory as well,
and those that it refuses are not.  The two stores then hold the same, and so does the file.
-/

namespace Purse

/-- A call to a store. Reopening forgets what is in memory. -/
inductive StoreCall where
  | replace (data : KeyChainData)
  | saveAccount (account : AccountId) (record : AccountRecord)
  | load
  | reopen

inductive StoreAnswer where
  | done
  | found (data : Option KeyChainData)
  deriving DecidableEq

/-- Opens the file again. The store stays as it is if that is refused. -/
def FileStore.reopen : Action FileStore.State StoreError Unit :=
  fun state =>
    match FileStore.openAt state.disk state.path with
    | .error fault => (.error fault, state)
    | .ok reopened => (.ok (), reopened)

namespace StoreCall

variable {σ : Type}

def perform (backend : AccountStore σ) (reopen : Action σ StoreError Unit) :
    StoreCall → Action σ StoreError StoreAnswer
  | .replace data => do
      let () ← backend.replace data
      return .done
  | .saveAccount account record => do
      let () ← backend.saveAccount account record
      return .done
  | .load => do return .found (← backend.load)
  | .reopen => do
      let () ← reopen
      return .done

def onFile : StoreCall → Action FileStore.State StoreError StoreAnswer :=
  perform FileStore.store FileStore.reopen

/-- A store in memory has nothing to read again. -/
def inMemory : StoreCall → Action MemoryStore.State StoreError StoreAnswer :=
  perform MemoryStore.store (pure ())

end StoreCall

namespace FileStore

variable {state after : State} {call : StoreCall} {answer : StoreAnswer} {fault : StoreError}

theorem openAt_of_fresh (hfresh : state.Fresh) : openAt state.disk state.path = .ok state := by
  rw [State.Fresh] at hfresh
  rw [openAt, hfresh]

theorem reopen_of_fresh (hfresh : state.Fresh) : reopen state = (.ok (), state) := by
  rw [reopen, openAt_of_fresh hfresh]

theorem saveAccount_eq_error {account : AccountId} {record : AccountRecord}
    (hsave : saveAccount account record state = (.error fault, after)) :
    state.SameButTemporary after := by
  cases hcopy : state.copy with
  | none =>
      rw [saveAccount_of_none hcopy] at hsave
      cases hsave
      exact .refl state
  | some data =>
      rw [saveAccount_of_some hcopy] at hsave
      exact write_eq_error hsave

/-- A refused call leaves the copy, and on the disk no more than a temporary file. -/
theorem onFile_eq_error (hfresh : state.Fresh) (hcall : call.onFile state = (.error fault, after)) :
    state.SameButTemporary after := by
  cases call with
  | replace data =>
      rcases Action.bind_eq_error_iff.1 hcall with hwrite | ⟨_, _, _, hdone⟩
      · exact write_eq_error hwrite
      · cases hdone
  | saveAccount account record =>
      rcases Action.bind_eq_error_iff.1 hcall with hsave | ⟨_, _, _, hdone⟩
      · exact saveAccount_eq_error hsave
      · cases hdone
  | load =>
      rcases Action.bind_eq_error_iff.1 hcall with hload | ⟨_, _, _, hdone⟩
      · cases hload
      · cases hdone
  | reopen =>
      rcases Action.bind_eq_error_iff.1 hcall with hreopen | ⟨_, _, _, hdone⟩
      · cases (reopen_of_fresh hfresh).symm.trans hreopen
      · cases hdone

/-- An answered call is answered by the store in memory too, and what it stores is at the path. -/
theorem onFile_eq_ok (hfresh : state.Fresh) (hcall : call.onFile state = (.ok answer, after)) :
    after.path = state.path ∧ after.Fresh ∧
      call.inMemory state.copy = (.ok answer, after.copy) := by
  cases call with
  | replace data =>
      obtain ⟨_, _, hwrite, hdone⟩ := Action.bind_eq_ok_iff.1 hcall
      cases hdone
      obtain ⟨hpath, hcopy, hafter⟩ := write_eq_ok hwrite
      refine ⟨hpath, hafter, ?_⟩
      rw [hcopy]
      rfl
  | saveAccount account record =>
      obtain ⟨_, _, hsave, hdone⟩ := Action.bind_eq_ok_iff.1 hcall
      cases hdone
      cases hdata : state.copy with
      | none => cases (saveAccount_of_none hdata account record).symm.trans hsave
      | some data =>
          obtain ⟨hpath, hcopy, hafter⟩ :=
            write_eq_ok ((saveAccount_of_some hdata account record).symm.trans hsave)
          refine ⟨hpath, hafter, ?_⟩
          rw [hcopy]
          rfl
  | load =>
      obtain ⟨_, _, hload, hdone⟩ := Action.bind_eq_ok_iff.1 hcall
      cases hload
      cases hdone
      exact ⟨rfl, hfresh, rfl⟩
  | reopen =>
      obtain ⟨_, _, hreopen, hdone⟩ := Action.bind_eq_ok_iff.1 hcall
      cases hdone
      cases (reopen_of_fresh hfresh).symm.trans hreopen
      exact ⟨rfl, hfresh, rfl⟩

/-- The store with something else in its temporary file, or with nothing there. -/
def State.withLeftover (state : State) (contents : Option ByteArray) : State :=
  match state.disk.newFile (state.path.withExtension "tmp") with
  | .error _ => state
  | .ok location =>
      match contents with
      | some contents => { state with disk := state.disk.put location (.file contents) }
      | none => { state with disk := state.disk.erase location }

theorem sameButTemporary_withLeftover (state : State) (contents : Option ByteArray) :
    state.SameButTemporary (state.withLeftover contents) := by
  cases hnew : state.disk.newFile (state.path.withExtension "tmp") with
  | error fault =>
      have hsame : state.withLeftover contents = state := by rw [State.withLeftover, hnew]
      rw [hsame]
      exact .refl state
  | ok location =>
      simp only [State.withLeftover, hnew]
      have htemporary : ∀ place, place = location → state.disk.IsTemporary state.path place := by
        rintro _ rfl
        exact hnew
      obtain ⟨_, _, _, _, _, hnode⟩ := Disk.newFile_eq_ok_iff.1 hnew
      cases contents with
      | none => exact ⟨rfl, rfl, (Disk.differsAt_erase hnode).mono htemporary⟩
      | some contents => exact ⟨rfl, rfl, (Disk.differsAt_put_file hnode contents).mono htemporary⟩

end FileStore

/-! ## Side by side -/

/-- A store in a file, and one in memory that is only asked what the first has answered. -/
structure StorePair where
  file : FileStore.State
  memory : MemoryStore.State

inductive StoreEvent where
  | call (call : StoreCall)
  /-- What refused writes have left in the temporary file turns out to be something else. -/
  | leftover (contents : Option ByteArray)

namespace StorePair

open FileStore

def step (pair : StorePair) : StoreEvent → StorePair
  | .call call =>
      match call.onFile pair.file with
      | (.ok _, file) => ⟨file, (call.inMemory pair.memory).2⟩
      | (.error _, file) => ⟨file, pair.memory⟩
  | .leftover contents => ⟨pair.file.withLeftover contents, pair.memory⟩

/-- The stores after the events have come in turn. -/
def reach (events : List StoreEvent) (pair : StorePair) : StorePair :=
  events.foldl step pair

/-- Both stores hold the same, and so does the file at the path. -/
structure Agrees (path : Path) (pair : StorePair) : Prop where
  path_eq : pair.file.path = path
  copy_eq : pair.file.copy = pair.memory
  fresh : pair.file.Fresh

variable {path : Path} {pair : StorePair}

theorem Agrees.of_sameButTemporary (hextension : path.extension? ≠ some "tmp")
    (hagrees : pair.Agrees path) {file : FileStore.State}
    (hsame : pair.file.SameButTemporary file) : Agrees path ⟨file, pair.memory⟩ :=
  ⟨hsame.path_eq.trans hagrees.path_eq, hsame.copy_eq.trans hagrees.copy_eq,
    hsame.fresh (hsame.stored_eq (hagrees.path_eq ▸ hextension)) hagrees.fresh⟩

theorem Agrees.of_ok (hagrees : pair.Agrees path) {call : StoreCall} {answer : StoreAnswer}
    {file : FileStore.State} (hcall : call.onFile pair.file = (.ok answer, file)) :
    call.inMemory pair.memory = (.ok answer, file.copy) ∧ Agrees path ⟨file, file.copy⟩ := by
  obtain ⟨hpath, hfresh, hmemory⟩ := onFile_eq_ok hagrees.fresh hcall
  exact ⟨hagrees.copy_eq ▸ hmemory, hpath.trans hagrees.path_eq, rfl, hfresh⟩

theorem Agrees.step (hextension : path.extension? ≠ some "tmp") (hagrees : pair.Agrees path)
    (event : StoreEvent) : (pair.step event).Agrees path := by
  cases event with
  | call call =>
      rw [StorePair.step]
      rcases hcall : call.onFile pair.file with ⟨fault | answer, file⟩
      · exact hagrees.of_sameButTemporary hextension (onFile_eq_error hagrees.fresh hcall)
      · obtain ⟨hmemory, hafter⟩ := hagrees.of_ok hcall
        simpa only [hmemory] using hafter
  | leftover contents =>
      have hsame := sameButTemporary_withLeftover pair.file contents
      exact hagrees.of_sameButTemporary hextension hsame

theorem Agrees.reach (hextension : path.extension? ≠ some "tmp") (hagrees : pair.Agrees path)
    (events : List StoreEvent) : (pair.reach events).Agrees path := by
  induction events generalizing pair with
  | nil => exact hagrees
  | cons event events ih => exact ih (hagrees.step hextension event)

/-- What the next call would find, and what it would leave. -/
structure AllOrNothing (pair : StorePair) : Prop where
  /-- The live store and a fresh one load what the store in memory holds. -/
  loads : StoreCall.load.onFile pair.file = (.ok (.found pair.memory), pair.file)
  reopens : openAt pair.file.disk pair.file.path = .ok pair.file
  /-- A refused call changes neither what the live store loads nor what a fresh one does. -/
  refused {call : StoreCall} {fault : StoreError} {file : FileStore.State}
    (hcall : call.onFile pair.file = (.error fault, file)) :
    StoreCall.load.onFile file = (.ok (.found pair.memory), file) ∧
      openAt file.disk pair.file.path = .ok file
  /-- An answered call is answered by the store in memory, which then holds the same. -/
  answered {call : StoreCall} {answer : StoreAnswer} {file : FileStore.State}
    (hcall : call.onFile pair.file = (.ok answer, file)) :
    call.inMemory pair.memory = (.ok answer, file.copy) ∧
      openAt file.disk pair.file.path = .ok file
  /-- Before anything has been stored, no record is saved and no file comes to be. -/
  uninitialized (hmemory : pair.memory = none) (account : AccountId) (record : AccountRecord) :
    (StoreCall.saveAccount account record).onFile pair.file =
        (.error .notInitialized, pair.file) ∧
      (StoreCall.saveAccount account record).inMemory pair.memory =
        (.error .notInitialized, pair.memory) ∧
      pair.file.disk.contains pair.file.path = false

theorem Agrees.loads (hagrees : pair.Agrees path) :
    StoreCall.load.onFile pair.file = (.ok (.found pair.memory), pair.file) := by
  rw [← hagrees.copy_eq]
  rfl

theorem Agrees.allOrNothing (hextension : path.extension? ≠ some "tmp")
    (hagrees : pair.Agrees path) : pair.AllOrNothing where
  loads := hagrees.loads
  reopens := openAt_of_fresh hagrees.fresh
  refused {_ _ file} hcall := by
    have hsame := onFile_eq_error hagrees.fresh hcall
    have hafter := hagrees.of_sameButTemporary hextension hsame
    exact ⟨hafter.loads, hsame.path_eq ▸ openAt_of_fresh hafter.fresh⟩
  answered {_ _ file} hcall := by
    obtain ⟨hmemory, hafter⟩ := hagrees.of_ok hcall
    have hpath : file.path = pair.file.path := hafter.path_eq.trans hagrees.path_eq.symm
    exact ⟨hmemory, hpath ▸ openAt_of_fresh hafter.fresh⟩
  uninitialized hmemory account record := by
    have hcopy : pair.file.copy = none := hagrees.copy_eq.trans hmemory
    have hstored : stored pair.file.disk pair.file.path = .ok none := hcopy ▸ hagrees.fresh
    refine ⟨Action.bind_of_error (saveAccount_of_none hcopy account record), ?_,
      contains_of_stored hstored⟩
    rw [hmemory]
    rfl

/-- A store that holds nothing goes on to hold nothing until something is stored. -/
theorem inMemory_none {call : StoreCall} (hcall : ∀ data, .replace data ≠ call) :
    (call.inMemory none).2 = none := by
  cases call with
  | replace data => exact absurd rfl (hcall data)
  | saveAccount account record => rfl
  | load => rfl
  | reopen => rfl

theorem memory_step_eq_none {event : StoreEvent}
    (hevent : ∀ data, .call (.replace data) ≠ event) (hmemory : pair.memory = none) :
    (pair.step event).memory = none := by
  cases event with
  | leftover contents =>
      rw [step]
      exact hmemory
  | call call =>
      rw [step]
      rcases call.onFile pair.file with ⟨fault | answer, file⟩
      · exact hmemory
      · have hcall : ∀ data, .replace data ≠ call :=
          fun data heq => hevent data (congrArg StoreEvent.call heq)
        simpa only [hmemory] using inMemory_none hcall

theorem memory_reach_eq_none {events : List StoreEvent}
    (hevents : ∀ data, .call (.replace data) ∉ events) (hmemory : pair.memory = none) :
    (pair.reach events).memory = none := by
  induction events generalizing pair with
  | nil => exact hmemory
  | cons event events ih =>
      refine ih (fun data hlater => hevents data (List.mem_cons_of_mem _ hlater)) ?_
      exact memory_step_eq_none (fun data heq => hevents data (heq ▸ List.mem_cons_self)) hmemory

/-- A store that is opened where there is no file is all or nothing at every moment. -/
theorem allOrNothing_reach {disk : Disk} (habsent : disk.contains path = false)
    (hextension : path.extension? ≠ some "tmp") (events : List StoreEvent) :
    ∃ opened, openAt disk path = .ok opened ∧
      let now := reach events ⟨opened, none⟩
      now.file.path = path ∧ now.AllOrNothing ∧
        ((∀ data, .call (.replace data) ∉ events) → now.memory = none) := by
  have hstored : stored disk path = .ok none := if_neg (Bool.eq_false_iff.1 habsent)
  have hfresh : State.Fresh ⟨path, none, disk⟩ := hstored
  have hopened := openAt_of_fresh hfresh
  have hstart : Agrees path ⟨⟨path, none, disk⟩, none⟩ := ⟨rfl, rfl, hfresh⟩
  have hnow := hstart.reach hextension events
  exact ⟨⟨path, none, disk⟩, hopened, hnow.path_eq, hnow.allOrNothing hextension,
    fun hevents => memory_reach_eq_none hevents rfl⟩

/-- The first write is stopped while it is moved into place, the second before anything is made, and
the fifth while it is written out. -/
def troubledDisk : Disk :=
  { Disk.empty ["home"] with
    faults := [none, none, none, some .inputOutput, some .noSpace, none, none, none, none,
      none, none, none, none, none, some .noSpace] }

/-- The last of the calls to replace the data is answered, and so are the two calls after it.  The
last call of all, which asks for another record, is refused. -/
def troubledEvents : List StoreEvent :=
  let data : KeyChainData := ⟨default, .empty⟩
  let record : AccountRecord := ⟨.p2tr, 0, 0⟩
  [.call (.saveAccount .default record), .call (.replace data), .leftover none,
    .call (.replace data), .call (.replace data), .call .load,
    .call (.saveAccount .default record), .call (.saveAccount .default ⟨.p2tr, 1, 0⟩)]

/-- What both stores are left with: the record that was saved, and not the one that was refused. -/
def troubledData : KeyChainData :=
  ⟨default, .insert .empty .default ⟨.p2tr, 0, 0⟩⟩

theorem allOrNothing_troubled :
    ∃ opened, openAt troubledDisk ⟨"wallet.json"⟩ = .ok opened ∧
      let now := reach troubledEvents ⟨opened, none⟩
      now.AllOrNothing ∧ now.memory = some troubledData ∧
        StoreCall.load.onFile now.file = (.ok (.found (some troubledData)), now.file) := by
  obtain ⟨opened, hopened, -, hall, -⟩ :=
    allOrNothing_reach (by decide : troubledDisk.contains ⟨"wallet.json"⟩ = false) (by decide)
      troubledEvents
  have hstart : openAt troubledDisk ⟨"wallet.json"⟩ =
      .ok ⟨⟨"wallet.json"⟩, none, troubledDisk⟩ := rfl
  cases hstart.symm.trans hopened
  have hmemory : (reach troubledEvents ⟨⟨⟨"wallet.json"⟩, none, troubledDisk⟩, none⟩).memory =
      some troubledData := rfl
  exact ⟨_, hopened, hall, hmemory, hmemory ▸ hall.loads⟩

end StorePair

end Purse
