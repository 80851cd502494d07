import Mathlib
import Purse.Proofs.Persistence
import Purse.Proofs.TemporaryPath

/-!
# What a write leaves on a disk

The steps of a write change files, and never a directory, so paths lead where they led before.  A
write that is refused has touched the temporary file at most, and one that succeeds has put the
whole new contents in the place of the old.
-/

namespace Purse

namespace Disk

variable {disk other third : Disk} {location : Location} {path : Path}

/-! ## Nodes -/

theorem lookup_filter_ne {entries : List (Location × Node)} {removed : Location}
    (hne : location ≠ removed) :
    (entries.filter fun entry => entry.1 ≠ removed).lookup location = entries.lookup location := by
  induction entries with
  | nil => rfl
  | cons entry rest ih =>
      by_cases hremoved : entry.1 = removed
      · have hentry : (location == entry.1) = false := beq_false_of_ne (hremoved ▸ hne)
        rw [List.filter_cons, if_neg (by simpa using hremoved), ih, List.lookup_cons, hentry]
      · rw [List.filter_cons, if_pos (by simpa using hremoved), List.lookup_cons,
          List.lookup_cons, ih]

theorem node?_put_self (hlocation : location ≠ []) (node : Node) :
    (disk.put location node).node? location = some node := by
  rw [node?, if_neg hlocation, put, List.lookup_cons_self]

theorem node?_put_of_ne {changed : Location} (hne : location ≠ changed) (node : Node) :
    (disk.put changed node).node? location = disk.node? location := by
  rw [node?, node?, put, List.lookup_cons, beq_false_of_ne hne]
  simp only [lookup_filter_ne hne]

theorem node?_erase_of_ne {changed : Location} (hne : location ≠ changed) :
    (disk.erase changed).node? location = disk.node? location := by
  rw [node?, node?, erase, lookup_filter_ne hne]

theorem node?_erase_self (hlocation : location ≠ []) :
    (disk.erase location).node? location = none := by
  rw [node?, if_neg hlocation, erase, List.lookup_eq_none_iff]
  intro entry hentry
  exact bne_iff_ne.2 (Ne.symm (of_decide_eq_true (List.mem_filter.1 hentry).2))

/-! ## Files that change -/

/-- The disks differ in nothing but files, and in those at the changed locations only. -/
structure DiffersAt (changed : Location → Prop) (disk other : Disk) : Prop where
  workingDirectory_eq : other.workingDirectory = disk.workingDirectory
  node?_eq {location : Location} (hkept : ¬ changed location) :
    other.node? location = disk.node? location
  directory_iff (location : Location) :
    other.node? location = some .directory ↔ disk.node? location = some .directory

namespace DiffersAt

variable {changed wider : Location → Prop}

theorem refl (changed : Location → Prop) (disk : Disk) : DiffersAt changed disk disk :=
  ⟨rfl, fun _ => rfl, fun _ => Iff.rfl⟩

theorem symm (hdiffers : DiffersAt changed disk other) : DiffersAt changed other disk :=
  ⟨hdiffers.workingDirectory_eq.symm, fun hkept => (hdiffers.node?_eq hkept).symm,
    fun location => (hdiffers.directory_iff location).symm⟩

theorem trans (hfirst : DiffersAt changed disk other) (hsecond : DiffersAt changed other third) :
    DiffersAt changed disk third :=
  ⟨hsecond.workingDirectory_eq.trans hfirst.workingDirectory_eq,
    fun hkept => (hsecond.node?_eq hkept).trans (hfirst.node?_eq hkept),
    fun location => (hsecond.directory_iff location).trans (hfirst.directory_iff location)⟩

theorem mono (hdiffers : DiffersAt changed disk other)
    (hwider : ∀ location, changed location → wider location) : DiffersAt wider disk other :=
  ⟨hdiffers.workingDirectory_eq, fun hkept => hdiffers.node?_eq (mt (hwider _) hkept),
    hdiffers.directory_iff⟩

/-- The faults to come are not on the disk. -/
theorem of_step (changed : Location → Prop) {fault? : Option DiskFault}
    (hstep : disk.step = (fault?, other)) : DiffersAt changed disk other := by
  rw [step] at hstep
  split at hstep
  · cases hstep
    exact refl changed disk
  · cases hstep
    exact ⟨rfl, fun _ => rfl, fun _ => Iff.rfl⟩

/-- One node may change as long as no directory comes or goes. -/
theorem of_ne (hworking : other.workingDirectory = disk.workingDirectory)
    (hothers : ∀ place ≠ location, other.node? place = disk.node? place)
    (hbefore : disk.node? location ≠ some .directory)
    (hafter : other.node? location ≠ some .directory) : DiffersAt (· = location) disk other := by
  refine ⟨hworking, fun hkept => hothers _ hkept, fun place => ?_⟩
  by_cases hplace : place = location
  · subst hplace
    exact iff_of_false hafter hbefore
  · rw [hothers place hplace]

end DiffersAt

theorem location_ne_nil (hnode : disk.node? location ≠ some .directory) : location ≠ [] := by
  rintro rfl
  exact hnode rfl

theorem differsAt_put_file (hnode : disk.node? location ≠ some .directory)
    (contents : ByteArray) :
    DiffersAt (· = location) disk (disk.put location (.file contents)) := by
  refine .of_ne rfl (fun place hplace => node?_put_of_ne hplace _) hnode ?_
  rw [node?_put_self (location_ne_nil hnode)]
  exact nofun

theorem differsAt_erase (hnode : disk.node? location ≠ some .directory) :
    DiffersAt (· = location) disk (disk.erase location) := by
  refine .of_ne rfl (fun place hplace => node?_erase_of_ne hplace) hnode ?_
  rw [node?_erase_self (location_ne_nil hnode)]
  exact nofun

/-! ## Paths -/

section Paths

variable {changed : Location → Prop}

/-- Dots are followed at once, and a name only if steps are left. -/
theorem walk_cons_eq_ok_iff {step : String} {rest : List String} {place : Place} :
    disk.walk location (step :: rest) = .ok place ↔
      disk.node? location = some .directory ∧
        if step = "." ∨ step = ".." then disk.walk (follow location step) rest = .ok place
        else if rest = [] then place = .entry location step
        else ∃ next, child location step = .ok next ∧ disk.walk next rest = .ok place := by
  rw [walk]
  rcases disk.node? location with _ | contents | _
  · simp
  · simp
  · by_cases hdots : step = "." ∨ step = ".."
    · simp [hdots]
    · cases rest with
      | nil => simp [hdots, eq_comm]
      | cons next rest =>
          cases hchild : child location step with
          | error fault => simp [hdots]
          | ok found => simp [hdots]

theorem walk_eq_ok_of_differsAt (hdiffers : DiffersAt changed disk other) {steps : List String}
    {place : Place} (hwalk : disk.walk location steps = .ok place) :
    other.walk location steps = .ok place := by
  induction steps generalizing location with
  | nil => exact hwalk
  | cons step rest ih =>
      obtain ⟨hnode, hrest⟩ := walk_cons_eq_ok_iff.1 hwalk
      refine walk_cons_eq_ok_iff.2 ⟨(hdiffers.directory_iff location).2 hnode, ?_⟩
      split_ifs at hrest ⊢
      · exact ih hrest
      · exact hrest
      · obtain ⟨next, hchild, hnext⟩ := hrest
        exact ⟨next, hchild, ih hnext⟩

theorem resolve_eq_ok_of_differsAt (hdiffers : DiffersAt changed disk other) {place : Place}
    (hresolve : disk.resolve path = .ok place) : other.resolve path = .ok place := by
  have hstart : other.start path = disk.start path := by
    rw [start, start, hdiffers.workingDirectory_eq]
  rw [resolve] at hresolve ⊢
  cases hrefusal : refusal? path with
  | some fault => simp [hrefusal] at hresolve
  | none =>
      simp only [hrefusal, hstart] at hresolve ⊢
      exact walk_eq_ok_of_differsAt hdiffers hresolve

end Paths

end Disk

/-- The location of a place, if its name is not too long. -/
def Place.location : Place → Except DiskFault Location
  | .directory location => .ok location
  | .entry parent name => Disk.child parent name

namespace Disk

variable {disk other : Disk} {location : Location} {path : Path} {changed : Location → Prop}

theorem locate_eq (disk : Disk) (path : Path) :
    disk.locate path = (disk.resolve path).bind Place.location := by
  rw [locate, resolve]
  cases refusal? path with
  | some fault => rfl
  | none =>
      simp only [reach]
      rcases disk.walk (disk.start path) path.steps with fault | ⟨location⟩ | ⟨parent, name⟩
      · rfl
      · rfl
      · rfl

theorem locate_eq_ok_iff :
    disk.locate path = .ok location ↔
      ∃ place, disk.resolve path = .ok place ∧ place.location = .ok location := by
  rw [locate_eq]
  cases disk.resolve path with
  | error fault => simp [Except.bind]
  | ok place => simp [Except.bind]

theorem locate_eq_ok_of_differsAt (hdiffers : DiffersAt changed disk other)
    (hlocate : disk.locate path = .ok location) : other.locate path = .ok location := by
  obtain ⟨place, hresolve, hplace⟩ := locate_eq_ok_iff.1 hlocate
  exact locate_eq_ok_iff.2 ⟨place, resolve_eq_ok_of_differsAt hdiffers hresolve, hplace⟩

theorem find_eq_ok_iff {node : Node} :
    disk.find path = .ok node ↔ ∃ location, disk.locate path = .ok location ∧
      disk.node? location = some node ∧ (node = .directory ∨ path.endsInSlash = false) := by
  rw [find]
  cases disk.locate path with
  | error fault => simp
  | ok location =>
      simp only [Except.ok.injEq, exists_eq_left']
      rcases disk.node? location with _ | contents | _
      · simp
      · have hfile : Node.file contents ≠ .directory := by
          intro heq
          cases heq
        cases path.endsInSlash
        · simp
        · simpa using fun heq : Node.file contents = node => heq ▸ hfile
      · simpa using fun heq => .inl heq.symm

/-- A path whose own file is kept names what it named. -/
theorem find_eq_ok_of_differsAt (hdiffers : DiffersAt changed disk other)
    (hkept : ∀ location, disk.locate path = .ok location → ¬ changed location) {node : Node}
    (hfind : disk.find path = .ok node) : other.find path = .ok node := by
  obtain ⟨location, hlocate, hnode, hslash⟩ := find_eq_ok_iff.1 hfind
  exact find_eq_ok_iff.2 ⟨location, locate_eq_ok_of_differsAt hdiffers hlocate,
    (hdiffers.node?_eq (hkept location hlocate)).trans hnode, hslash⟩

/-! ## The steps of a write -/

theorem newFile_eq_ok_iff :
    disk.newFile path = .ok location ↔ ∃ parent name, disk.resolve path = .ok (.entry parent name) ∧
      path.endsInSlash = false ∧ child parent name = .ok location ∧
        disk.node? location ≠ some .directory := by
  rw [newFile]
  rcases disk.resolve path with fault | ⟨place⟩ | ⟨parent, name⟩
  · simp
  · simp
  · cases hslash : path.endsInSlash with
    | true => simp
    | false =>
        cases hchild : child parent name with
        | error fault => simp [hchild]
        | ok found =>
            by_cases hnode : disk.node? found = some .directory
            · simpa [hchild, hnode] using fun heq => heq ▸ hnode
            · simpa [hchild, hnode] using fun heq => heq ▸ hnode

theorem newFile_eq_ok_of_differsAt (hdiffers : DiffersAt changed disk other)
    (hnew : disk.newFile path = .ok location) : other.newFile path = .ok location := by
  obtain ⟨parent, name, hresolve, hslash, hchild, hnode⟩ := newFile_eq_ok_iff.1 hnew
  exact newFile_eq_ok_iff.2 ⟨parent, name, resolve_eq_ok_of_differsAt hdiffers hresolve, hslash,
    hchild, mt (hdiffers.directory_iff location).1 hnode⟩

theorem target_eq_ok (htarget : disk.target path = .ok location) :
    disk.locate path = .ok location ∧ path.endsInSlash = false ∧
      disk.node? location ≠ some .directory := by
  rw [target] at htarget
  rcases hresolve : disk.resolve path with fault | ⟨place⟩ | ⟨parent, name⟩
  · simp [hresolve] at htarget
  · simp [hresolve] at htarget
  · simp only [hresolve] at htarget
    cases hchild : child parent name with
    | error fault => simp [hchild] at htarget
    | ok found =>
        simp only [hchild] at htarget
        split_ifs at htarget with hslash hnode
        cases htarget
        exact ⟨locate_eq_ok_iff.2 ⟨_, hresolve, hchild⟩, Bool.eq_false_iff.2 hslash, hnode⟩

variable {after : Disk} {fault : DiskFault}

theorem createFile_eq_error (hcreate : disk.createFile path = (.error fault, after)) :
    DiffersAt changed disk after := by
  rw [createFile] at hcreate
  rcases hstep : disk.step with ⟨_ | stopped, stepped⟩
  · simp only [hstep] at hcreate
    cases hnew : stepped.newFile path with
    | error refused =>
        simp only [hnew] at hcreate
        cases hcreate
        exact .of_step changed hstep
    | ok location => simp [hnew] at hcreate
  · simp only [hstep] at hcreate
    cases hcreate
    exact .of_step changed hstep

theorem createFile_eq_ok (hcreate : disk.createFile path = (.ok location, after)) :
    disk.newFile path = .ok location ∧ DiffersAt (· = location) disk after ∧
      after.node? location ≠ some .directory := by
  rw [createFile] at hcreate
  rcases hstep : disk.step with ⟨_ | stopped, stepped⟩
  · simp only [hstep] at hcreate
    cases hnew : stepped.newFile path with
    | error refused => simp [hnew] at hcreate
    | ok found =>
        simp only [hnew] at hcreate
        cases hcreate
        obtain ⟨_, _, _, _, _, hnode⟩ := newFile_eq_ok_iff.1 hnew
        have hput := differsAt_put_file hnode ByteArray.empty
        exact ⟨newFile_eq_ok_of_differsAt (DiffersAt.of_step (fun _ => False) hstep).symm hnew,
          (DiffersAt.of_step _ hstep).trans hput, mt (hput.directory_iff location).1 hnode⟩
  · simp [hstep] at hcreate

theorem writeAll_eq_error {contents : ByteArray}
    (hwrite : disk.writeAll location contents = (.error fault, after)) :
    DiffersAt changed disk after := by
  rw [writeAll] at hwrite
  rcases hstep : disk.step with ⟨_ | stopped, stepped⟩
  · simp [hstep] at hwrite
  · simp only [hstep] at hwrite
    cases hwrite
    exact .of_step changed hstep

theorem writeAll_eq_ok {contents : ByteArray} (hnode : disk.node? location ≠ some .directory)
    (hwrite : disk.writeAll location contents = (.ok (), after)) :
    DiffersAt (· = location) disk after ∧ after.node? location = some (.file contents) := by
  rw [writeAll] at hwrite
  rcases hstep : disk.step with ⟨_ | stopped, stepped⟩
  · simp only [hstep] at hwrite
    cases hwrite
    have hstepped := DiffersAt.of_step (· = location) hstep
    have hnode' : stepped.node? location ≠ some .directory :=
      mt (hstepped.directory_iff location).1 hnode
    exact ⟨hstepped.trans (differsAt_put_file hnode' contents),
      node?_put_self (location_ne_nil hnode) _⟩
  · simp [hstep] at hwrite

theorem differsAt_sync {result : Except DiskFault Unit} (hsync : disk.sync = (result, after)) :
    DiffersAt changed disk after := by
  rw [sync] at hsync
  rcases hstep : disk.step with ⟨_ | stopped, stepped⟩
  · simp only [hstep] at hsync
    cases hsync
    exact .of_step changed hstep
  · simp only [hstep] at hsync
    cases hsync
    exact .of_step changed hstep

theorem rename_eq_error {source : Location}
    (hrename : disk.rename source path = (.error fault, after)) :
    DiffersAt changed disk after := by
  rw [rename] at hrename
  rcases hstep : disk.step with ⟨_ | stopped, stepped⟩
  · simp only [hstep] at hrename
    split at hrename
    · cases hrename
      exact .of_step changed hstep
    · cases hrename
      exact .of_step changed hstep
    · cases hrename
  · simp only [hstep] at hrename
    cases hrename
    exact .of_step changed hstep

theorem rename_eq_ok {source : Location} {contents : ByteArray}
    (hsource : disk.node? source = some (.file contents))
    (hrename : disk.rename source path = (.ok (), after)) :
    after.find path = .ok (.file contents) := by
  rw [rename] at hrename
  rcases hstep : disk.step with ⟨_ | stopped, stepped⟩
  · simp only [hstep] at hrename
    have hfile : stepped.node? source = some (.file contents) :=
      ((DiffersAt.of_step (fun _ => False) hstep).node?_eq id).trans hsource
    cases htarget : stepped.target path with
    | error refused => simp [htarget] at hrename
    | ok location =>
        simp only [htarget, hfile] at hrename
        cases hrename
        obtain ⟨hlocate, hslash, hnode⟩ := target_eq_ok htarget
        have herased : DiffersAt (· = source) stepped (stepped.erase source) :=
          differsAt_erase (by rw [hfile]; exact nofun)
        have hput := differsAt_put_file (mt (herased.directory_iff location).1 hnode) contents
        refine find_eq_ok_iff.2 ⟨location, locate_eq_ok_of_differsAt hput
          (locate_eq_ok_of_differsAt herased hlocate), ?_, .inr hslash⟩
        exact node?_put_self (location_ne_nil hnode) _
  · simp [hstep] at hrename

end Disk

end Purse
