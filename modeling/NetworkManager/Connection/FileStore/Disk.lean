import NetworkManager.Connection.FileStore

/-!
# Connection — FileStore — Disk

The file store on a disk: files by the components of their paths, where writes and removals may
fail, and a failing write may leave a part of its bytes.

* `reads_get` and `reads_list`: what the store reads is a function of the files.
-/

namespace NetworkManager

open Paths Effects

/-- How a write or a removal fails.  A write that has got as far as opening the file leaves the
first `kept` bytes in it. -/
structure Fault where
  error : IoError
  kept : Option ℕ

/-- The files, and how the next writes and removals end. -/
structure Disk where
  files : AList fun _ : Components => List UInt8
  proper : ∀ path ∈ files, path.Proper
  faults : ℕ → Option Fault

namespace Disk

/-- The bytes of the file at the path. -/
def read (d : Disk) (path : OsStr) : Option (List UInt8) := d.files.lookup (components path)

/-- The file at the path has these bytes now. -/
def put (d : Disk) (path : OsStr) (bytes : List UInt8) : Disk where
  files := d.files.insert (components path) bytes
  proper := fun _ h => (AList.mem_insert d.files).mp h |>.elim (· ▸ proper_components path)
    (d.proper _)
  faults := fun n => d.faults (n + 1)

/-- The file at the path is gone. -/
def drop (d : Disk) (path : OsStr) : Disk where
  files := d.files.erase (components path)
  proper := fun _ h => d.proper _ (AList.mem_erase.mp h).2
  faults := fun n => d.faults (n + 1)

/-- Nothing happens to the files. -/
def skip (d : Disk) : Disk := ⟨d.files, d.proper, fun n => d.faults (n + 1)⟩

@[simp] theorem files_put (d : Disk) (path : OsStr) (bytes : List UInt8) :
    (d.put path bytes).files = d.files.insert (components path) bytes := rfl

@[simp] theorem files_drop (d : Disk) (path : OsStr) :
    (d.drop path).files = d.files.erase (components path) := rfl

/-- The name of an entry of the directory. -/
def entryOf (dir path : Components) : Option OsStr :=
  if path.absolute = dir.absolute then
    match path.names.dropPrefix? dir.names with
    | some [name] => some name
    | _ => none
  else none

/-- The names of the files in a directory. -/
def entries (d : Disk) (dir : OsStr) : List OsStr :=
  d.files.keys.filterMap (entryOf (components dir))

/-- The error of a file that is not there. -/
def notFound : IoError := ⟨.notFound, "No such file or directory (os error 2)"⟩

/-- The error of a file that is no text. -/
def invalidUtf8 : IoError := ⟨.invalidData, "stream did not contain valid UTF-8"⟩

/-- The file system of the disk.  A write may fail before it starts or after some bytes. -/
def fileSystem : FileSystem Disk where
  isFile path d := (d.read path).isSome
  readToString path d :=
    match d.read path with
    | none => .error notFound d
    | some bytes =>
      match toStr bytes with
      | none => .error invalidUtf8 d
      | some contents => .ok contents d
  write path contents d :=
    match d.faults 0 with
    | none => .ok () (d.put path (osStr contents))
    | some ⟨error, none⟩ => .error error d.skip
    | some ⟨error, some n⟩ => .error error (d.put path ((osStr contents).take n))
  removeFile path d :=
    match d.read path with
    | none => .error notFound d
    | some _ =>
      match d.faults 0 with
      | none => .ok () (d.drop path)
      | some fault => .error fault.error d.skip
  readDir dir d := .ok (d.entries dir) d

/-- An entry of a directory is a child of it. -/
theorem entryOf_eq_some {dir path : Components} {name : OsStr} :
    entryOf dir path = some name ↔ path = dir.child name := by
  obtain ⟨absolute, names⟩ := path
  rw [entryOf, Components.child, Components.mk.injEq]
  split
  · next h =>
      constructor
      · intro hname
        split at hname
        · next heq =>
            cases hname
            obtain ⟨pre, hnames, hpre⟩ := List.dropPrefix?_eq_some_iff.mp heq
            rw [beq_iff_eq] at hpre
            exact ⟨h, hpre ▸ hnames⟩
        · cases hname
      · rintro ⟨-, hnames⟩
        have heq : names.dropPrefix? dir.names = some [name] :=
          List.dropPrefix?_eq_some_iff.mpr ⟨dir.names, hnames, beq_self_eq_true _⟩
        simp only [heq]
  · next h => exact ⟨by rintro ⟨⟩, fun hpath => (h hpath.1).elim⟩

/-- The entries of a directory are the files that are its children. -/
theorem mem_entries {d : Disk} {dir name : OsStr} :
    name ∈ d.entries dir ↔ ((components dir).child name) ∈ d.files := by
  rw [entries, List.mem_filterMap]
  simp only [entryOf_eq_some]
  exact ⟨fun ⟨_, hmem, h⟩ => h ▸ hmem, fun h => ⟨_, h, rfl⟩⟩

/-- An entry is a proper name. -/
theorem proper_of_mem_entries {d : Disk} {dir name : OsStr} (h : name ∈ d.entries dir) :
    slash ∉ name ∧ isName name :=
  d.proper _ (mem_entries.mp h) name (List.mem_append_right _ List.mem_cons_self)

end Disk

/-! ### What the store reads -/

/-- The store on a disk. -/
def diskStore (toml : Toml) (directory : OsStr) : FileProfileStore Disk :=
  ⟨Disk.fileSystem, toml, directory⟩

/-- The profile of this id in a file with these bytes. -/
def loadProfile (toml : Toml) (id : ProfileId) (bytes : List UInt8) :
    Except StoreError ConnectionProfile :=
  match toStr bytes with
  | none => .error (.io Disk.invalidUtf8)
  | some contents => parseProfile toml id contents

namespace Disk

variable (toml : Toml) (directory : OsStr) (d : Disk)

/-- The profile of this id in the file at this path. -/
def load (path : OsStr) (id : ProfileId) : Except StoreError ConnectionProfile :=
  match d.read path with
  | none => .error (.io notFound)
  | some bytes => loadProfile toml id bytes

/-- The profile in the file of this name, under the id that the name says. -/
def loadEntry (name : OsStr) : Except StoreError ConnectionProfile :=
  let path := join directory name
  match toStr (fileStem name) with
  | none => .error (.malformed (String.ofList (Text.fromUtf8Lossy path)) "invalid file name")
  | some id => d.load toml path id

/-- What `list` answers. -/
def listing : Except StoreError (List ConnectionProfile) := do
  let profiles ← (tomlNames (d.entries directory)).mapM (d.loadEntry toml directory)
  return profiles.mergeSort fun a b => (compare a.id b.id).isLE

/-- What `get` answers. -/
def lookup (id : ProfileId) : Except StoreError ConnectionProfile :=
  match d.read ((diskStore toml directory).pathFor id) with
  | none => .error (.notFound id)
  | some bytes => loadProfile toml id bytes

end Disk

variable {toml : Toml} {directory : OsStr}

/-- What is looked up under an id is what its file loads. -/
theorem Disk.lookup_of_read {d : Disk} {id : ProfileId} {bytes : List UInt8}
    (h : d.read ((diskStore toml directory).pathFor id) = some bytes) :
    d.lookup toml directory id = loadProfile toml id bytes := by
  simp only [lookup, h]

/-- A file is read as text, if it is there and is text. -/
theorem reads_readToString (path : OsStr) :
    Reads (EStateM.adaptExcept StoreError.io (Disk.fileSystem.readToString path)) fun d =>
      match d.read path with
      | none => .error (.io Disk.notFound)
      | some bytes =>
        match toStr bytes with
        | none => .error (.io Disk.invalidUtf8)
        | some contents => .ok contents := by
  intro d
  simp only [Disk.fileSystem, EStateM.adaptExcept, settle]
  cases d.read path with
  | none => rfl
  | some bytes => cases h : toStr bytes <;> simp only [h]

/-- Reading a profile leaves the disk. -/
theorem reads_readFile (path : OsStr) (id : ProfileId) :
    Reads ((diskStore toml directory).readFile path id) fun d => d.load toml path id := by
  refine ((reads_readToString path).bind fun contents =>
    .ofExcept (parseProfile toml id contents)).congr fun d => ?_
  unfold Disk.load loadProfile
  cases d.read path with
  | none => rfl
  | some bytes =>
      cases h : toStr bytes with
      | none =>
          simp only [h]
          rfl
      | some contents =>
          simp only [h]
          rfl

/-- Loading an entry leaves the disk. -/
theorem reads_loadEntry (name : OsStr) :
    Reads ((diskStore toml directory).loadEntry name) fun d => d.loadEntry toml directory name := by
  unfold FileProfileStore.loadEntry Disk.loadEntry
  cases toStr (fileStem name) with
  | none => exact .throw _
  | some id => exact reads_readFile _ id

theorem reads_profilePaths : Reads (diskStore toml directory).profilePaths fun d =>
    .ok (tomlNames (d.entries directory)) := fun _ => rfl

/-- `list` leaves the disk. -/
theorem reads_list :
    Reads (diskStore toml directory).list fun d => d.listing toml directory :=
  reads_profilePaths.bind fun names => (Reads.mapM reads_loadEntry names).bind fun _ => .pure _

/-- `get` leaves the disk. -/
theorem reads_get (id : ProfileId) :
    Reads ((diskStore toml directory).get id) fun d => d.lookup toml directory id := by
  intro d
  have hread : settle ((diskStore toml directory).readProfile id) d =
      (d.load toml ((diskStore toml directory).pathFor id) id, d) := reads_readFile _ id d
  show settle (if (d.read ((diskStore toml directory).pathFor id)).isSome then
    (diskStore toml directory).readProfile id else throw (.notFound id)) d =
      (d.lookup toml directory id, d)
  unfold Disk.lookup
  unfold Disk.load at hread
  cases h : d.read ((diskStore toml directory).pathFor id) with
  | none => rfl
  | some bytes =>
      rw [h] at hread
      exact hread

/-! ### Profile files -/

/-- An id without slashes makes a file name without slashes. -/
theorem slash_not_mem_fileName {id : ProfileId} (h : '/' ∉ id.toList) :
    slash ∉ fileName id := by
  intro hmem
  rw [fileName, osStr_append, List.mem_append] at hmem
  rcases hmem with hmem | hmem
  · exact h (slash_mem_osStr hmem)
  · exact absurd (slash_mem_osStr hmem) (by decide)

theorem isName_fileName (id : ProfileId) : isName (fileName id) := by
  have hlength : 5 ≤ (fileName id).length := by
    rw [fileName, osStr_append, List.length_append]
    exact Nat.le_add_left 5 _
  rw [isName, Bool.and_eq_true, decide_eq_true_eq, decide_eq_true_eq]
  constructor <;> intro h <;> rw [h] at hlength <;> exact absurd hlength (by decide)

/-- An id without slashes stays in the directory. -/
theorem components_pathFor {id : ProfileId} (h : '/' ∉ id.toList) :
    components ((diskStore toml directory).pathFor id) =
      (components directory).child (fileName id) :=
  components_join_name directory (slash_not_mem_fileName h) (isName_fileName id)

/-- A valid id has no slash. -/
theorem slash_not_mem_of_validId {id : ProfileId} (h : ConnectionProfile.ValidId id) :
    '/' ∉ id.toList := by
  intro hmem
  exact absurd (List.all_eq_true.mp h.2 _ hmem) (by decide)

theorem slash_not_mem_of_validate {profile : ConnectionProfile} (h : profile.validate = .ok ()) :
    '/' ∉ profile.id.toList :=
  slash_not_mem_of_validId (ConnectionProfile.validate_eq_ok.mp h).1

/-- Ids with the same file name are the same. -/
theorem fileName_injective {id id' : ProfileId} (h : fileName id = fileName id') : id = id' := by
  rw [fileName, fileName, osStr_append, osStr_append] at h
  exact osStr_injective (List.append_cancel_right h)

/-- The file name of an id has the id as its stem and `toml` as its extension. -/
theorem splitName_fileName {id : ProfileId} (h : id ≠ "") :
    splitName (fileName id) = (osStr id, some (osStr "toml")) := by
  have hid : osStr id ≠ [] := fun hnil => h (osStr_injective hnil)
  rw [fileName, osStr_append]
  exact splitName_append hid (by decide) (by decide)

/-! ### A wired profile -/

/-- A wired profile. -/
def lanProfile : ConnectionProfile where
  id := "lan"
  name := "Lan"
  connectionType := .ethernet {}

/-- The file of this profile. -/
def lanText : String :=
  "id = \"lan\"\nname = \"Lan\"\npriority = 0\nautoconnect = true\nenabled = true\n\n" ++
  "[connection_type.Ethernet]\n\n[device_match]\n\n" ++
  "[ipv4]\nmethod = \"Automatic\"\ndns_servers = []\nroutes = []\n\n" ++
  "[ipv6]\nmethod = \"Automatic\"\ndns_servers = []\nroutes = []\n"

/-- `toml` on this profile; other texts are taken for texts without an id. -/
def lanToml : Toml where
  toString profile := if profile = lanProfile then .ok lanText else .error "unsupported rust type"
  fromStr text := if text = lanText then .ok lanProfile else
    .error "TOML parse error at line 1, column 1\n  |\n1 | \n  | ^\nmissing field `id`\n"

theorem fromStr_lanText : lanToml.fromStr lanText = .ok lanProfile := by
  simp only [lanToml, if_true]

theorem toString_lanProfile : lanToml.toString lanProfile = .ok lanText := by
  simp only [lanToml, if_true]

theorem validate_lanProfile : lanProfile.validate = .ok () := rfl

theorem loadProfile_lanText : loadProfile lanToml "lan" (osStr lanText) = .ok lanProfile := by
  rw [loadProfile, toStr_osStr]
  show parseProfile lanToml "lan" lanText = _
  rw [parseProfile, fromStr_lanText]
  rfl

end NetworkManager
