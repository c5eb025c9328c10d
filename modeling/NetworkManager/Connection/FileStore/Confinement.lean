import NetworkManager.Connection.FileStore.Disk
import NetworkManager.Support.Tracing

/-!
# Connection — FileStore — Confinement

Which files the store touches.

* `accesses_eq`: the files that a call reads, writes and removes.
* `confined_iff`: they are profile files of the directory, unless `get` or `delete` is asked for
  another file that is there, or `list` comes to a file with another name.
-/

namespace NetworkManager

open Paths Effects

/-- An access to a file, or to the names in a directory. -/
inductive FileAccess where
  | read (path : OsStr)
  | write (path : OsStr)
  | remove (path : OsStr)
  | readDir (path : OsStr)

/-- The filesystem with a record of the accesses.  `is_file` opens nothing. -/
def FileSystem.traced {W : Type} (fs : FileSystem W) : FileSystem (Traced FileAccess W) where
  isFile path t := fs.isFile path t.state
  readToString path := record (.read path) (fs.readToString path)
  write path contents := record (.write path) (fs.write path contents)
  removeFile path := record (.remove path) (fs.removeFile path)
  readDir path := record (.readDir path) (fs.readDir path)

section

variable (toml : Toml) (directory : OsStr)

/-- The store over a disk that records what is accessed. -/
def tracedStore : FileProfileStore (Traced FileAccess Disk) :=
  ⟨Disk.fileSystem.traced, toml, directory⟩

/-- The accesses of a call. -/
def accesses (call : StoreCall) (d : Disk) : List FileAccess :=
  (after ((tracedStore toml directory).ops.call call) ⟨d, []⟩).calls

/-- A profile file of the directory, where files are accessed. -/
def Confined : FileAccess → Prop
  | .readDir _ => True
  | .read path | .write path | .remove path =>
    ∃ id, ConnectionProfile.ValidId id ∧
      components path = (components directory).child (fileName id)

/-- The entries that `list` comes to: up to the first that it cannot load. -/
def visited (d : Disk) : List OsStr → List OsStr
  | [] => []
  | name :: names =>
    if (toStr (fileStem name)).isNone then []
    else name :: if (d.loadEntry toml directory name).isOk then visited d names else []

/-- The profile is valid, and it has a text. -/
def writable (profile : ConnectionProfile) : Bool :=
  profile.validate.isOk && (toml.toString profile).isOk

/-- The accesses of a call, by what is on the disk. -/
def expectedAccesses (d : Disk) : StoreCall → List FileAccess
  | .list => .readDir directory ::
    (visited toml directory d (tomlNames (d.entries directory))).map fun name =>
      .read (join directory name)
  | .get id =>
    let path := (diskStore toml directory).pathFor id
    if (d.read path).isSome then [.read path] else []
  | .create profile =>
    let path := (diskStore toml directory).pathFor profile.id
    if (d.read path).isNone && writable toml profile then [.write path] else []
  | .update profile =>
    let path := (diskStore toml directory).pathFor profile.id
    if (d.read path).isSome && writable toml profile then [.write path] else []
  | .delete id =>
    let path := (diskStore toml directory).pathFor id
    if (d.read path).isSome then [.remove path] else []

end

/-! ### The accesses of a call -/

section

variable {toml : Toml} {directory : OsStr} {t : Traced FileAccess Disk}

/-- Reading a profile accesses its file. -/
theorem settle_readFile (path : OsStr) (id : ProfileId) :
    settle ((tracedStore toml directory).readFile path id) t =
      (t.state.load toml path id, ⟨t.state, t.calls ++ [.read path]⟩) := by
  have hread := reads_readToString path t.state
  rw [settle_adaptExcept] at hread
  obtain ⟨hresult, hstate⟩ := Prod.mk.inj hread
  rw [FileProfileStore.readFile, settle_bind, settle_adaptExcept]
  simp only [tracedStore, FileSystem.traced, settle_record, hresult, hstate]
  unfold Disk.load loadProfile
  cases t.state.read path with
  | none => rfl
  | some bytes =>
      cases h : toStr bytes with
      | none => simp only [h]
      | some contents =>
          simp only [h]
          cases parseProfile toml id contents <;> rfl

/-- Loading an entry accesses its file, unless its name is no text. -/
theorem settle_loadEntry (name : OsStr) :
    settle ((tracedStore toml directory).loadEntry name) t =
      (t.state.loadEntry toml directory name, ⟨t.state, t.calls ++
        if (toStr (fileStem name)).isNone then [] else [.read (join directory name)]⟩) := by
  unfold FileProfileStore.loadEntry Disk.loadEntry
  cases toStr (fileStem name) with
  | none => simp only [Option.isNone_none, if_true, List.append_nil]; rfl
  | some id => exact settle_readFile _ id

/-- Loading the entries stops at the first that fails. -/
theorem settle_entries (names : List OsStr) :
    settle (names.mapM (tracedStore toml directory).loadEntry) t =
      (names.mapM (t.state.loadEntry toml directory), ⟨t.state, t.calls ++
        (visited toml directory t.state names).map fun name => .read (join directory name)⟩) := by
  induction names generalizing t with
  | nil => simp [visited, settle]; rfl
  | cons name names ih =>
      rw [List.mapM_cons, settle_bind, settle_loadEntry, List.mapM_cons, visited]
      cases hload : t.state.loadEntry toml directory name with
      | error e =>
          cases (toStr (fileStem name)).isNone <;> rfl
      | ok profile =>
          have hstem : (toStr (fileStem name)).isNone = false := by
            unfold Disk.loadEntry at hload
            cases h : toStr (fileStem name) with
            | none => rw [h] at hload; cases hload
            | some id => rfl
          simp only [hstem, settle_bind, ih, Bool.false_eq_true, if_false]
          cases names.mapM (t.state.loadEntry toml directory) with
          | error e => simp [Except.isOk, Except.toBool]; rfl
          | ok profiles => simp [Except.isOk, Except.toBool]; rfl

@[simp]
theorem tracedStore_toml : (tracedStore toml directory).toml = toml := rfl

/-- Writing a profile accesses its file, if the profile is valid and has a text. -/
theorem calls_writeProfile (profile : ConnectionProfile) :
    (after ((tracedStore toml directory).writeProfile profile) t).calls = t.calls ++
      if writable toml profile then [.write ((diskStore toml directory).pathFor profile.id)]
      else [] := by
  rw [FileProfileStore.writeProfile_eq, tracedStore_toml, writable, ← settle_snd]
  cases profile.validate with
  | error e => exact (List.append_nil _).symm
  | ok u =>
      cases toml.toString profile with
      | error reason => exact (List.append_nil _).symm
      | ok text =>
          show (settle (EStateM.adaptExcept _ (record _ _)) t).2.calls = _
          rw [settle_adaptExcept, settle_record]
          rfl

/-- What `list` accesses. -/
theorem calls_list (d : Disk) :
    (after (tracedStore toml directory).list ⟨d, []⟩).calls =
      expectedAccesses toml directory d .list := by
  have hpaths : settle (tracedStore toml directory).profilePaths ⟨d, []⟩ =
      (.ok (tomlNames (d.entries directory)), ⟨d, [.readDir directory]⟩) := rfl
  rw [← settle_snd, FileProfileStore.list, settle_bind, hpaths]
  simp only [settle_bind, settle_entries]
  cases (tomlNames (d.entries directory)).mapM (d.loadEntry toml directory) <;> rfl

/-- What `get` accesses. -/
theorem calls_get (id : ProfileId) (d : Disk) :
    (after ((tracedStore toml directory).get id) ⟨d, []⟩).calls =
      expectedAccesses toml directory d (.get id) := by
  show (after (if (d.read ((diskStore toml directory).pathFor id)).isSome then
    (tracedStore toml directory).readProfile id else throw (.notFound id)) ⟨d, []⟩).calls = _
  simp only [expectedAccesses]
  split
  · rw [← settle_snd, FileProfileStore.readProfile, settle_readFile]
    rfl
  · rfl

/-- What `create` accesses. -/
theorem calls_create (profile : ConnectionProfile) (d : Disk) :
    (after ((tracedStore toml directory).create profile) ⟨d, []⟩).calls =
      expectedAccesses toml directory d (.create profile) := by
  show (after (if (d.read ((diskStore toml directory).pathFor profile.id)).isSome then
    throw (.alreadyExists profile.id) else (tracedStore toml directory).writeProfile profile)
      ⟨d, []⟩).calls = _
  simp only [expectedAccesses]
  cases d.read ((diskStore toml directory).pathFor profile.id) with
  | none => exact calls_writeProfile profile
  | some bytes => rfl

/-- What `update` accesses. -/
theorem calls_update (profile : ConnectionProfile) (d : Disk) :
    (after ((tracedStore toml directory).update profile) ⟨d, []⟩).calls =
      expectedAccesses toml directory d (.update profile) := by
  show (after (if (d.read ((diskStore toml directory).pathFor profile.id)).isSome then
    (tracedStore toml directory).writeProfile profile else throw (.notFound profile.id))
      ⟨d, []⟩).calls = _
  simp only [expectedAccesses]
  cases d.read ((diskStore toml directory).pathFor profile.id) with
  | none => rfl
  | some bytes => exact calls_writeProfile profile

/-- What `delete` accesses. -/
theorem calls_delete (id : ProfileId) (d : Disk) :
    (after ((tracedStore toml directory).delete id) ⟨d, []⟩).calls =
      expectedAccesses toml directory d (.delete id) := by
  show (after (if (d.read ((diskStore toml directory).pathFor id)).isSome then
    EStateM.adaptExcept StoreError.io (record _ _) else throw (StoreError.notFound id))
      ⟨d, []⟩).calls = _
  simp only [expectedAccesses]
  split
  · rw [← settle_snd, settle_adaptExcept, settle_record]
    rfl
  · rfl

/-- **The accesses** of a call are those expected from the disk. -/
theorem accesses_eq (call : StoreCall) (d : Disk) :
    accesses toml directory call d = expectedAccesses toml directory d call := by
  rw [accesses]
  cases call with
  | list => exact (congrArg Traced.calls (after_map _ _ _)).trans (calls_list d)
  | get id => exact (congrArg Traced.calls (after_map _ _ _)).trans (calls_get id d)
  | create profile => exact (congrArg Traced.calls (after_map _ _ _)).trans (calls_create profile d)
  | update profile => exact (congrArg Traced.calls (after_map _ _ _)).trans (calls_update profile d)
  | delete id => exact (congrArg Traced.calls (after_map _ _ _)).trans (calls_delete id d)

/-! ### Profile files -/

/-- Of the ids without slashes, the valid ones have a profile file. -/
theorem confined_pathFor_iff {id : ProfileId} (h : '/' ∉ id.toList) :
    Confined directory (.read ((diskStore toml directory).pathFor id)) ↔
      ConnectionProfile.ValidId id := by
  rw [Confined, components_pathFor h]
  constructor
  · rintro ⟨id', hvalid, hpath⟩
    exact fileName_injective (Components.child_inj.mp hpath) ▸ hvalid
  · intro hvalid
    exact ⟨id, hvalid, rfl⟩

/-- An entry is a profile file if its name is that of a valid id. -/
theorem confined_entry_iff {name : OsStr} (hslash : slash ∉ name) (hname : isName name) :
    Confined directory (.read (join directory name)) ↔
      ∃ id, ConnectionProfile.ValidId id ∧ name = fileName id := by
  rw [Confined, components_join_name directory hslash hname]
  simp only [Components.child_inj]

/-- Only entries of the list are visited. -/
theorem visited_subset {d : Disk} {names : List OsStr} :
    ∀ name ∈ visited toml directory d names, name ∈ names := by
  induction names with
  | nil => simp [visited]
  | cons name names ih =>
      intro name' h
      rw [visited] at h
      split at h
      · cases h
      · rcases List.mem_cons.mp h with rfl | h
        · exact List.mem_cons_self
        · split at h
          · exact List.mem_cons_of_mem name (ih name' h)
          · cases h

theorem mem_entries_of_mem_tomlNames {d : Disk} {name : OsStr}
    (h : name ∈ tomlNames (d.entries directory)) : name ∈ d.entries directory :=
  List.mem_of_mem_filter (List.mem_mergeSort.mp h)

/-- What is written is a profile file. -/
theorem confined_of_writable (toml : Toml) (profile : ConnectionProfile)
    {accessed : List FileAccess}
    (h : ∀ access ∈ accessed, access = .write ((diskStore toml directory).pathFor profile.id) ∧
      writable toml profile) : ∀ access ∈ accessed, Confined directory access := by
  intro access haccess
  obtain ⟨rfl, hwritable⟩ := h access haccess
  rw [writable, Bool.and_eq_true] at hwritable
  have hvalid : profile.validate = .ok () := by
    cases hv : profile.validate with
    | ok u => rfl
    | error e =>
        rw [hv] at hwritable
        cases hwritable.1
  exact (confined_pathFor_iff (slash_not_mem_of_validate hvalid)).mpr
    (ConnectionProfile.validate_eq_ok.mp hvalid).1

end

variable (toml : Toml) (directory : OsStr)

/-- The call does not come to a file that is no profile file: `get` and `delete` are not asked for
one that is there, and `list` does not come to an entry that is not named after a valid id. -/
def StaysInside (d : Disk) : StoreCall → Prop
  | .list => ∀ name ∈ visited toml directory d (tomlNames (d.entries directory)),
    ∃ id, ConnectionProfile.ValidId id ∧ name = fileName id
  | .get id | .delete id =>
    let path := (diskStore toml directory).pathFor id
    d.read path ≠ none → ∃ id', ConnectionProfile.ValidId id' ∧
      components path = (components directory).child (fileName id')
  | .create _ | .update _ => True

/-- **Confinement.**  A call accesses only profile files of its directory exactly if it stays
inside. -/
theorem confined_iff (call : StoreCall) (d : Disk) :
    (∀ access ∈ accesses toml directory call d, Confined directory access) ↔
      StaysInside toml directory d call := by
  rw [accesses_eq]
  cases call with
  | list =>
      rw [expectedAccesses, List.forall_mem_cons, List.forall_mem_map, StaysInside]
      -- reading the directory itself is allowed
      refine (and_iff_right trivial).trans (forall₂_congr fun name hname => ?_)
      obtain ⟨hslash, hproper⟩ := Disk.proper_of_mem_entries
        (mem_entries_of_mem_tomlNames (visited_subset name hname))
      exact confined_entry_iff hslash hproper
  | get id =>
      rw [expectedAccesses, StaysInside]
      cases d.read ((diskStore toml directory).pathFor id) with
      | none => simp
      | some bytes => simp [Confined]
  | delete id =>
      rw [expectedAccesses, StaysInside]
      cases d.read ((diskStore toml directory).pathFor id) with
      | none => simp
      | some bytes => simp [Confined]
  | create profile =>
      -- nothing is written under an id that `validate` refuses
      refine iff_of_true (confined_of_writable toml profile fun access h => ?_) trivial
      rw [expectedAccesses] at h
      split at h
      · next hw => exact ⟨List.mem_singleton.mp h, (Bool.and_eq_true_iff.mp hw).2⟩
      · cases h
  | update profile =>
      refine iff_of_true (confined_of_writable toml profile fun access h => ?_) trivial
      rw [expectedAccesses] at h
      split at h
      · next hw => exact ⟨List.mem_singleton.mp h, (Bool.and_eq_true_iff.mp hw).2⟩
      · cases h

/-- A disk with one file, next to the directory `/srv/profiles`. -/
def strayDisk : Disk where
  files := ⟨[⟨components (osStr "/srv/profiles/../x.toml"), []⟩], by simp [List.NodupKeys, List.keys]⟩
  proper := by
    intro path h
    rw [AList.mem_keys, AList.keys] at h
    exact List.mem_singleton.mp h ▸ proper_components _
  faults := fun _ => none

/-- **`delete` of `../x`** removes that file. -/
theorem delete_outside_directory :
    let directory := osStr "/srv/profiles"
    let toml : Toml := ⟨fun _ => .error "unsupported", fun _ => .error "expected a table"⟩
    .remove (osStr "/srv/profiles/../x.toml") ∈ accesses toml directory (.delete "../x") strayDisk ∧
      ¬ Confined directory (.remove (osStr "/srv/profiles/../x.toml")) := by
  constructor
  · rw [accesses_eq]
    exact List.mem_singleton_self _
  · rintro ⟨id, -, h⟩
    have hlength := congrArg (fun c => c.names.length) h
    rw [Components.child, List.length_append, List.length_singleton] at hlength
    exact absurd hlength (by decide)

end NetworkManager
