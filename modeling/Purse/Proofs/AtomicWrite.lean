import Mathlib
import Purse.Proofs.DiskFile

/-!
# Whole writes or none

What a store keeps is read from one file, which a write replaces as a whole or leaves alone.  The
temporary file is another one as long as the path has an extension of its own.
-/

namespace Purse

namespace Disk

variable {disk other after : Disk} {path : Path} {location : Location}

/-- A walk that ends in a directory has not ended in a name. -/
theorem walk_eq_directory {start : Location} {steps : List String}
    (hwalk : disk.walk start steps = .ok (.directory location)) :
    (steps.getLast? = none ∨ steps.getLast? = some "..") ∨
      disk.node? location = some .directory := by
  induction steps generalizing start with
  | nil => exact .inl (.inl rfl)
  | cons step rest ih =>
      obtain ⟨hnode, hrest⟩ := walk_cons_eq_ok_iff.1 hwalk
      split_ifs at hrest with hdots hlast
      · cases rest with
        | nil =>
            cases hrest
            rcases hdots with rfl | rfl
            · exact .inr hnode
            · exact .inl (.inr rfl)
        | cons next rest =>
            rw [List.getLast?_cons_cons]
            exact (ih hrest).imp_left fun hlast => .inr (hlast.resolve_left (by simp))
      · obtain ⟨next, -, hnext⟩ := hrest
        cases rest with
        | nil => exact absurd rfl hlast
        | cons after rest =>
            rw [List.getLast?_cons_cons]
            exact (ih hnext).imp_left fun hlast => .inr (hlast.resolve_left (by simp))

theorem walk_eq_entry {start parent : Location} {steps : List String} {name : String}
    (hwalk : disk.walk start steps = .ok (.entry parent name)) :
    steps.getLast? = some name ∧ name ≠ "." ∧ name ≠ ".." := by
  induction steps generalizing start with
  | nil => cases hwalk
  | cons step rest ih =>
      obtain ⟨-, hrest⟩ := walk_cons_eq_ok_iff.1 hwalk
      rw [List.getLast?_cons]
      split_ifs at hrest with hdots hlast
      · obtain ⟨hname, hdot⟩ := ih hrest
        exact ⟨by rw [hname]; rfl, hdot⟩
      · cases hrest
        subst hlast
        exact ⟨rfl, not_or.1 hdots⟩
      · obtain ⟨next, -, hnext⟩ := hrest
        obtain ⟨hname, hdot⟩ := ih hnext
        exact ⟨by rw [hname]; rfl, hdot⟩

theorem walk_of_resolve {place : Place} (hresolve : disk.resolve path = .ok place) :
    disk.walk (disk.start path) path.steps = .ok place := by
  rw [resolve] at hresolve
  split at hresolve
  · cases hresolve
  · exact hresolve

theorem child_eq_ok {parent : Location} {name : String}
    (hchild : child parent name = .ok location) : location = parent ++ [name] := by
  rw [child] at hchild
  split_ifs at hchild
  exact (Except.ok.inj hchild).symm

/-- The temporary file of a write to the path is at the location, or would be. -/
def IsTemporary (disk : Disk) (path : Path) (location : Location) : Prop :=
  disk.newFile (path.withExtension "tmp") = .ok location

/-- A path with an extension of its own does not lead to its temporary file. -/
theorem not_isTemporary_of_locate (hextension : path.extension? ≠ some "tmp")
    (hlocate : disk.locate path = .ok location) : ¬ disk.IsTemporary path location := by
  intro htemporary
  obtain ⟨parent', name', hresolve', -, hchild', hnode⟩ := newFile_eq_ok_iff.1 htemporary
  obtain ⟨place, hresolve, hplace⟩ := locate_eq_ok_iff.1 hlocate
  cases place with
  | directory found =>
      cases hplace
      rcases walk_eq_directory (walk_of_resolve hresolve) with hlast | hdirectory
      · rw [Path.withExtension_of_getLast?_steps "tmp" hlast, hresolve] at hresolve'
        cases hresolve'
      · exact hnode hdirectory
  | entry parent name =>
      obtain ⟨hlast, hdot, hdots⟩ := walk_eq_entry (walk_of_resolve hresolve)
      obtain ⟨hlast', -, hdots'⟩ := walk_eq_entry (walk_of_resolve hresolve')
      have hname : name' = name := by
        have hlocation := (child_eq_ok hplace).symm.trans (child_eq_ok hchild')
        simpa using (List.append_inj' hlocation rfl).2.symm
      rcases Path.getLast?_steps_withExtension_ne (by decide) hextension hlast hdot hdots with
        htwo | hne
      · exact hdots' (Option.some.inj (hlast'.symm.trans htwo))
      · exact hne (hname ▸ hlast')

end Disk

namespace FileStore

open Disk

variable {disk other after : Disk} {path : Path} {contents : ByteArray} {data : KeyChainData}

/-! ## What is stored -/

theorem stored_of_find (hfind : disk.find path = .ok (.file contents)) :
    stored disk path = (WalletFile.parse contents).map some := by
  rw [stored, if_pos (contains_of_find hfind), readFile, read_of_find hfind]

/-- Nothing is stored just where nothing is. -/
theorem contains_of_stored {copy : Option KeyChainData} (hstored : stored disk path = .ok copy) :
    disk.contains path = copy.isSome := by
  rw [stored] at hstored
  split_ifs at hstored with hcontains
  · cases hread : readFile disk path with
    | error fault => simp [hread, Except.map] at hstored
    | ok data =>
        rw [hread] at hstored
        cases hstored
        exact hcontains
  · cases hstored
    exact Bool.eq_false_iff.2 hcontains

theorem stored_congr (hfind : ∀ node, disk.find path = .ok node ↔ other.find path = .ok node) :
    stored disk path = stored other path := by
  cases hnode : disk.find path with
  | ok node =>
      have hother := (hfind node).1 hnode
      simp only [stored, contains, readFile, Disk.read, hnode, hother]
  | error fault =>
      cases hnode' : other.find path with
      | ok node => cases hnode.symm.trans ((hfind node).2 hnode')
      | error fault' => simp only [stored, contains, hnode, hnode', Bool.false_eq_true, if_false]

theorem stored_of_differsAt {changed : Location → Prop} (hdiffers : DiffersAt changed disk other)
    (hkept : ∀ location, disk.locate path = .ok location → ¬ changed location) :
    stored other path = stored disk path := by
  refine stored_congr fun node => ⟨?_, find_eq_ok_of_differsAt hdiffers hkept⟩
  exact find_eq_ok_of_differsAt hdiffers.symm fun location hlocate =>
    hkept location (locate_eq_ok_of_differsAt hdiffers.symm hlocate)

/-- What happens to the temporary file is not seen at the path. -/
theorem stored_of_temporary (hextension : path.extension? ≠ some "tmp")
    (hdiffers : DiffersAt (disk.IsTemporary path) disk other) :
    stored other path = stored disk path :=
  stored_of_differsAt hdiffers fun _ => not_isTemporary_of_locate hextension

/-! ## A write -/

theorem writeFile_eq_error {fault : DiskFault}
    (hwrite : writeFile path contents disk = (.error fault, after)) :
    DiffersAt (disk.IsTemporary path) disk after := by
  rcases Action.bind_eq_error_iff.1 hwrite with hcreate | ⟨location, created, hcreate, hwrite⟩
  · exact createFile_eq_error hcreate
  obtain ⟨hnew, hdiffers, hnode⟩ := createFile_eq_ok hcreate
  have htemporary : ∀ place, place = location → disk.IsTemporary path place := by
    rintro _ rfl
    exact hnew
  have hcreated := hdiffers.mono htemporary
  rcases Action.bind_eq_error_iff.1 hwrite with hfill | ⟨_, filled, hfill, hwrite⟩
  · exact hcreated.trans (writeAll_eq_error hfill)
  have hfilled := hcreated.trans ((writeAll_eq_ok hnode hfill).1.mono htemporary)
  rcases Action.bind_eq_error_iff.1 hwrite with hsync | ⟨_, synced, hsync, hrename⟩
  · exact hfilled.trans (differsAt_sync hsync)
  · exact (hfilled.trans (differsAt_sync hsync)).trans (rename_eq_error hrename)

theorem writeFile_eq_ok (hwrite : writeFile path contents disk = (.ok (), after)) :
    after.find path = .ok (.file contents) := by
  obtain ⟨location, created, hcreate, hwrite⟩ := Action.bind_eq_ok_iff.1 hwrite
  obtain ⟨_, filled, hfill, hwrite⟩ := Action.bind_eq_ok_iff.1 hwrite
  obtain ⟨_, synced, hsync, hrename⟩ := Action.bind_eq_ok_iff.1 hwrite
  obtain ⟨-, -, hnode⟩ := createFile_eq_ok hcreate
  have hdiffers : DiffersAt (fun _ => False) filled synced := differsAt_sync hsync
  have hsynced : synced.node? location = filled.node? location := hdiffers.node?_eq id
  exact rename_eq_ok (hsynced.trans (writeAll_eq_ok hnode hfill).2) hrename

variable {state next : State}

/-- A fresh look at the path finds what the store has a copy of. -/
def State.Fresh (state : State) : Prop :=
  stored state.disk state.path = .ok state.copy

/-- The stores are the same, but for what is in the temporary file. -/
structure State.SameButTemporary (state next : State) : Prop where
  path_eq : next.path = state.path
  copy_eq : next.copy = state.copy
  differsAt : DiffersAt (state.disk.IsTemporary state.path) state.disk next.disk

namespace State.SameButTemporary

theorem refl (state : State) : state.SameButTemporary state :=
  ⟨rfl, rfl, .refl _ _⟩

theorem stored_eq (hsame : state.SameButTemporary next)
    (hextension : state.path.extension? ≠ some "tmp") :
    stored next.disk state.path = stored state.disk state.path :=
  stored_of_temporary hextension hsame.differsAt

theorem fresh (hsame : state.SameButTemporary next)
    (hstored : stored next.disk state.path = stored state.disk state.path)
    (hfresh : state.Fresh) : next.Fresh := by
  rw [State.Fresh, hsame.path_eq, hsame.copy_eq, hstored]
  exact hfresh

end State.SameButTemporary

/-- A write that is refused leaves the copy, and on the disk no more than a temporary file. -/
theorem write_eq_error {fault : StoreError} (hwrite : write data state = (.error fault, next)) :
    state.SameButTemporary next := by
  rw [write] at hwrite
  split at hwrite
  · rename_i hfile
    cases hwrite
    exact ⟨rfl, rfl, writeFile_eq_error hfile⟩
  · cases hwrite

/-- A write that succeeds is seen in the copy and at the path, whatever the path is. -/
theorem write_eq_ok (hwrite : write data state = (.ok (), next)) :
    next.path = state.path ∧ next.copy = some data ∧ next.Fresh := by
  rw [write] at hwrite
  split at hwrite
  · cases hwrite
  · rename_i hfile
    cases hwrite
    refine ⟨rfl, rfl, ?_⟩
    rw [State.Fresh, stored_of_find (writeFile_eq_ok hfile), WalletFile.parse_print]
    rfl

theorem saveAccount_of_none (hcopy : state.copy = none) (account : AccountId)
    (record : AccountRecord) :
    saveAccount account record state = (.error .notInitialized, state) := by
  rw [saveAccount, hcopy]

theorem saveAccount_of_some (hcopy : state.copy = some data) (account : AccountId)
    (record : AccountRecord) :
    saveAccount account record state = write (data.saveAccount account record) state := by
  rw [saveAccount, hcopy]

end FileStore

/-- A ledger that has been saved is the one that is loaded next. -/
theorem Command.loadLedger_of_saveLedger {disk after : Disk} {path : Path} {ledger : Ledger}
    (hsave : saveLedger path ledger disk = (.ok (), after)) :
    loadLedger after path = .ok ledger := by
  obtain ⟨location, created, hcreate, hsave⟩ := Action.bind_eq_ok_iff.1 hsave
  obtain ⟨_, filled, hfill, hrename⟩ := Action.bind_eq_ok_iff.1 hsave
  obtain ⟨-, -, hnode⟩ := Disk.createFile_eq_ok (Action.mapError_eq_ok_iff.1 hcreate)
  obtain ⟨-, hfile⟩ := Disk.writeAll_eq_ok hnode (Action.mapError_eq_ok_iff.1 hfill)
  have hfind : after.find path =
      .ok (.file (Json.Layout.pretty.print (Json.toJson ledger))) :=
    Disk.rename_eq_ok hfile (Action.mapError_eq_ok_iff.1 hrename)
  exact loadLedger_layout hfind

end Purse
