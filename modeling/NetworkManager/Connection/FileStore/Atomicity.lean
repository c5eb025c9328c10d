import NetworkManager.Connection.FileStore.Disk
import NetworkManager.Support.Results
import NetworkManager.Support.Sorting

/-!
# Connection — FileStore — Atomicity

What the stores answer after a call that failed.

* `of_call_error`: a failing call leaves the files, or what was written before its write failed.
* `failure_atomic_iff`: the answers are the ones from before exactly if that reads as before.
-/

namespace NetworkManager

open Paths Effects Sorting

/-- The stores answer every `get` and `list` in the same way. -/
def SameAnswers {S : Type} (ops : ProfileStoreOps S) (s s' : S) : Prop :=
  (∀ id, (settle (ops.get id) s').1 = (settle (ops.get id) s).1) ∧
    (settle ops.list s').1 = (settle ops.list s).1

variable {toml : Toml} {directory : OsStr} {d d' : Disk}

/-! ### The answers of a disk -/

/-- Two disks answer alike if every id is looked up alike and the lists are the same. -/
theorem sameAnswers_disk_iff : SameAnswers (diskStore toml directory).ops d d' ↔
    (∀ id, d'.lookup toml directory id = d.lookup toml directory id) ∧
      d'.listing toml directory = d.listing toml directory := by
  have hget (id : ProfileId) (d : Disk) :
      (settle ((diskStore toml directory).get id) d).1 = d.lookup toml directory id :=
    congrArg Prod.fst (reads_get id d)
  have hlist (d : Disk) : (settle (diskStore toml directory).list d).1 = d.listing toml directory :=
    congrArg Prod.fst (reads_list d)
  simp only [SameAnswers, FileProfileStore.ops, hget, hlist]

/-- The same files make the same answers. -/
theorem sameAnswers_of_files (h : d'.files = d.files) :
    SameAnswers (diskStore toml directory).ops d d' := by
  rw [sameAnswers_disk_iff]
  have hread : d'.read = d.read := by
    unfold Disk.read
    rw [h]
  constructor
  · intro id
    rw [Disk.lookup, Disk.lookup, hread]
  · have hload : d'.loadEntry toml directory = d.loadEntry toml directory := by
      unfold Disk.loadEntry Disk.load
      rw [hread]
    rw [Disk.listing, Disk.listing, Disk.entries, Disk.entries, hload, h]

namespace Disk

/-- What was put at a path is read at every spelling of it, and all else as before. -/
theorem read_put (d : Disk) (path path' : OsStr) (bytes : List UInt8) :
    (d.put path bytes).read path' =
      if components path' = components path then some bytes else d.read path' := by
  rw [read, put]
  split
  · next h => rw [h, AList.lookup_insert]
  · next h => exact AList.lookup_insert_ne h

/-- A file that is written over keeps its place among the profile files. -/
theorem tomlNames_entries_put {path : OsStr} (bytes : List UInt8) (h : d.read path ≠ none)
    (dir : OsStr) : tomlNames ((d.put path bytes).entries dir) = tomlNames (d.entries dir) := by
  have hmem : components path ∈ d.files.keys :=
    AList.lookup_isSome.mp (Option.isSome_iff_ne_none.mpr h)
  have hperm : List.Perm ((d.put path bytes).entries dir) (d.entries dir) := by
    rw [entries, entries, put, AList.keys_insert]
    exact (List.perm_cons_erase hmem).symm.filterMap _
  have hsorted : SortedBy id (tomlNames (d.entries dir)) := sortedBy_mergeSort _
  exact mergeSort_eq_of_perm hsorted
    ((hperm.filter _).trans (List.mergeSort_perm _ _).symm) fun _ _ _ _ => id

end Disk

/-! ### Failing calls -/

section

variable (toml : Toml) (directory : OsStr)

/-- A write of this profile fails after it has opened the file, and leaves this in it. -/
def CutShort (d : Disk) (profile : ConnectionProfile) (left : List UInt8) : Prop :=
  profile.validate = .ok () ∧ ∃ text error kept, toml.toString profile = .ok text ∧
    d.faults 0 = some ⟨error, some kept⟩ ∧ left = (osStr text).take kept

/-- The call gets as far as a write that is cut short. -/
def TornWrite (d : Disk) (call : StoreCall) (profile : ConnectionProfile) (left : List UInt8) :
    Prop :=
  let path := (diskStore toml directory).pathFor profile.id
  (call = .create profile ∧ d.read path = none ∨ call = .update profile ∧ d.read path ≠ none) ∧
    CutShort toml d profile left

/-- What a torn write leaves in a file reads, for the ids that have this file, as what was there
before. -/
def Harmless (d : Disk) (call : StoreCall) : Prop :=
  ∀ profile left, TornWrite toml directory d call profile left →
    ∃ old, d.read ((diskStore toml directory).pathFor profile.id) = some old ∧
      ∀ id, components ((diskStore toml directory).pathFor id) =
          components ((diskStore toml directory).pathFor profile.id) →
        loadProfile toml id left = loadProfile toml id old

end

/-- A torn write is one of one profile, and leaves one text. -/
theorem TornWrite.eq {call : StoreCall} {profile profile' : ConnectionProfile}
    {left left' : List UInt8} (h : TornWrite toml directory d call profile left)
    (h' : TornWrite toml directory d call profile' left') : profile' = profile ∧ left' = left := by
  obtain ⟨hcall, -, text, error, kept, htext, hfault, rfl⟩ := h
  obtain ⟨hcall', -, text', error', kept', htext', hfault', rfl⟩ := h'
  have hprofile : profile' = profile := by
    rcases hcall with ⟨rfl, -⟩ | ⟨rfl, -⟩ <;> rcases hcall' with ⟨h, -⟩ | ⟨h, -⟩ <;> cases h <;> rfl
  subst hprofile
  rw [htext] at htext'
  rw [hfault] at hfault'
  cases htext'
  cases hfault'
  exact ⟨rfl, rfl⟩

/-- A failed write leaves the disk as it was, or the file with the first bytes of the text. -/
theorem write_eq_error {path : OsStr} {contents : String} {e : IoError}
    (h : Disk.fileSystem.write path contents d = .error e d') :
    d.faults 0 = some ⟨e, none⟩ ∧ d' = d.skip ∨ ∃ kept, d.faults 0 = some ⟨e, some kept⟩ ∧
      d' = d.put path ((osStr contents).take kept) := by
  simp only [Disk.fileSystem] at h
  split at h
  · cases h
  · next hfault =>
      cases h
      exact .inl ⟨hfault, rfl⟩
  · next hfault =>
      cases h
      exact .inr ⟨_, hfault, rfl⟩

/-- A profile is not written, or its write is cut short. -/
theorem writeProfile_eq_error {profile : ConnectionProfile} {e : StoreError}
    (h : (diskStore toml directory).writeProfile profile d = .error e d') :
    (d'.files = d.files ∧ ∀ left, ¬ CutShort toml d profile left) ∨
      ∃ left, CutShort toml d profile left ∧
        d' = d.put ((diskStore toml directory).pathFor profile.id) left := by
  rw [FileProfileStore.writeProfile_eq] at h
  cases hvalid : profile.validate with
  | error reason =>
      rw [hvalid] at h
      cases h
      exact .inl ⟨rfl, fun left hcut => nomatch hvalid ▸ hcut.1⟩
  | ok u =>
      rw [hvalid] at h
      cases htext : toml.toString profile with
      | error reason =>
          simp only [diskStore, htext] at h
          cases h
          refine .inl ⟨rfl, ?_⟩
          rintro left ⟨-, text, error, kept, hok, -⟩
          rw [htext] at hok
          cases hok
      | ok text =>
          simp only [diskStore, htext] at h
          obtain ⟨error, hwrite, -⟩ := adaptExcept_eq_error.mp h
          rcases write_eq_error hwrite with ⟨hfault, rfl⟩ | ⟨kept, hfault, rfl⟩
          · refine .inl ⟨rfl, ?_⟩
            rintro left ⟨-, text, error, kept, -, hcut, -⟩
            rw [hfault] at hcut
            cases hcut
          · exact .inr ⟨_, ⟨hvalid, text, error, kept, htext, hfault, rfl⟩, rfl⟩

/-- **A failing call** leaves the files, or its write is torn. -/
theorem of_call_error {call : StoreCall} {e : StoreError}
    (h : (diskStore toml directory).ops.call call d = .error e d') :
    (d'.files = d.files ∧ ∀ profile left, ¬ TornWrite toml directory d call profile left) ∨
      ∃ profile left, TornWrite toml directory d call profile left ∧
        d' = d.put ((diskStore toml directory).pathFor profile.id) left := by
  cases call with
  | list =>
      have hlist : (diskStore toml directory).list d = .error e d' := map_eq_error.mp h
      have hread : settle (diskStore toml directory).list d = (d.listing toml directory, d) :=
        reads_list d
      rw [settle_of_error hlist] at hread
      -- only `create` and `update` write
      refine .inl ⟨congrArg Disk.files (Prod.mk.inj hread).2, ?_⟩
      rintro profile left ⟨⟨⟨⟩, -⟩ | ⟨⟨⟩, -⟩, -⟩
  | get id =>
      have hget : (diskStore toml directory).get id d = .error e d' := map_eq_error.mp h
      have hread : settle ((diskStore toml directory).get id) d = (d.lookup toml directory id, d) :=
        reads_get id d
      rw [settle_of_error hget] at hread
      refine .inl ⟨congrArg Disk.files (Prod.mk.inj hread).2, ?_⟩
      rintro profile left ⟨⟨⟨⟩, -⟩ | ⟨⟨⟩, -⟩, -⟩
  | create profile =>
      have hcreate : (if (d.read ((diskStore toml directory).pathFor profile.id)).isSome then
          throw (.alreadyExists profile.id)
        else (diskStore toml directory).writeProfile profile) d = .error e d' := map_eq_error.mp h
      cases hread : d.read ((diskStore toml directory).pathFor profile.id) with
      | some bytes =>
          rw [hread] at hcreate
          cases hcreate
          refine .inl ⟨rfl, ?_⟩
          rintro _ left ⟨⟨⟨⟩, hnone⟩ | ⟨⟨⟩, -⟩, -⟩
          rw [hread] at hnone
          cases hnone
      | none =>
          rw [hread] at hcreate
          -- the write fails before it truncates the file, or it is the torn one
          rcases writeProfile_eq_error hcreate with ⟨hfiles, hcut⟩ | ⟨left, hcut, hd⟩
          · refine .inl ⟨hfiles, ?_⟩
            rintro _ left ⟨⟨⟨⟩, -⟩ | ⟨⟨⟩, -⟩, h⟩
            exact hcut left h
          · exact .inr ⟨profile, left, ⟨.inl ⟨rfl, hread⟩, hcut⟩, hd⟩
  | update profile =>
      have hupdate : (if (d.read ((diskStore toml directory).pathFor profile.id)).isSome then
          (diskStore toml directory).writeProfile profile
        else throw (.notFound profile.id)) d = .error e d' := map_eq_error.mp h
      cases hread : d.read ((diskStore toml directory).pathFor profile.id) with
      | none =>
          rw [hread] at hupdate
          cases hupdate
          refine .inl ⟨rfl, ?_⟩
          rintro _ left ⟨⟨⟨⟩, -⟩ | ⟨⟨⟩, hsome⟩, -⟩
          exact hsome hread
      | some bytes =>
          rw [hread] at hupdate
          -- the write fails before it truncates the file, or it is the torn one
          rcases writeProfile_eq_error hupdate with ⟨hfiles, hcut⟩ | ⟨left, hcut, hd⟩
          · refine .inl ⟨hfiles, ?_⟩
            rintro _ left ⟨⟨⟨⟩, -⟩ | ⟨⟨⟩, -⟩, h⟩
            exact hcut left h
          · exact .inr ⟨profile, left, ⟨.inr ⟨rfl, hread ▸ Option.some_ne_none bytes⟩, hcut⟩, hd⟩
  | delete id =>
      have hdelete : (if (d.read ((diskStore toml directory).pathFor id)).isSome then
          EStateM.adaptExcept StoreError.io
            (Disk.fileSystem.removeFile ((diskStore toml directory).pathFor id))
        else throw (.notFound id)) d = .error e d' := map_eq_error.mp h
      refine .inl ⟨?_, by rintro profile left ⟨⟨⟨⟩, -⟩ | ⟨⟨⟩, -⟩, -⟩⟩
      split at hdelete
      -- a removal that fails leaves the file
      · obtain ⟨error, hremove, -⟩ := adaptExcept_eq_error.mp hdelete
        simp only [Disk.fileSystem] at hremove
        split at hremove
        · cases hremove
          rfl
        · split at hremove <;> cases hremove
          rfl
      · cases hdelete
        rfl

/-! ### What is answered after them -/

/-- A file that is there never makes a profile that is not found. -/
theorem loadProfile_ne_notFound {id id' : ProfileId} {bytes : List UInt8} :
    loadProfile toml id bytes ≠ .error (.notFound id') := by
  unfold loadProfile parseProfile
  intro h
  split at h
  · cases h
  · split at h
    · cases h
    · split at h
      · cases h
      · split at h <;> cases h

theorem Disk.read_congr {path path' : OsStr} (h : components path = components path') :
    d.read path = d.read path' := congrArg d.files.lookup h

section

variable {profile : ConnectionProfile} {old left : List UInt8}

/-- A file that reads, for the ids that have it, as before is listed as before. -/
theorem loadEntry_put (hold : d.read ((diskStore toml directory).pathFor profile.id) = some old)
    (hsame : ∀ id, components ((diskStore toml directory).pathFor id) =
        components ((diskStore toml directory).pathFor profile.id) →
      loadProfile toml id left = loadProfile toml id old)
    {name : OsStr} (hname : extension name = some (osStr "toml")) :
    (d.put ((diskStore toml directory).pathFor profile.id) left).loadEntry toml directory name =
      d.loadEntry toml directory name := by
  unfold Disk.loadEntry Disk.load
  simp only [Disk.read_put]
  cases hstem : toStr (fileStem name) with
  | none => rfl
  | some id =>
      have hfile : join directory name = (diskStore toml directory).pathFor id := by
        rw [FileProfileStore.pathFor, fileName, osStr_append, ← toStr_eq_some.mp hstem]
        exact congrArg (join directory) (eq_of_extension hname)
      rw [hfile]
      by_cases hpath : components ((diskStore toml directory).pathFor id) =
          components ((diskStore toml directory).pathFor profile.id)
      · simp only [hpath, if_true, Disk.read_congr hpath, hold]
        exact hsame id hpath
      · simp only [hpath, if_false]

/-- A file that loads alike keeps the list. -/
theorem listing_put (hold : d.read ((diskStore toml directory).pathFor profile.id) = some old)
    (hsame : ∀ id, components ((diskStore toml directory).pathFor id) =
        components ((diskStore toml directory).pathFor profile.id) →
      loadProfile toml id left = loadProfile toml id old) :
    (d.put ((diskStore toml directory).pathFor profile.id) left).listing toml directory =
      d.listing toml directory := by
  unfold Disk.listing
  rw [Disk.tomlNames_entries_put left (hold ▸ Option.some_ne_none old)]
  have hload : ∀ name ∈ tomlNames (d.entries directory),
      (d.put ((diskStore toml directory).pathFor profile.id) left).loadEntry toml directory name =
        d.loadEntry toml directory name := fun name hname =>
    loadEntry_put hold hsame
      (of_decide_eq_true (List.mem_filter.mp (List.mem_mergeSort.mp hname)).2)
  rw [Results.mapM_congr hload]

/-- A file that is overwritten goes unnoticed exactly if it loads alike under every id that leads to
it. -/
theorem sameAnswers_put_iff : SameAnswers (diskStore toml directory).ops d
        (d.put ((diskStore toml directory).pathFor profile.id) left) ↔
      ∃ old, d.read ((diskStore toml directory).pathFor profile.id) = some old ∧
        ∀ id, components ((diskStore toml directory).pathFor id) =
            components ((diskStore toml directory).pathFor profile.id) →
          loadProfile toml id left = loadProfile toml id old := by
  rw [sameAnswers_disk_iff]
  unfold Disk.lookup
  simp only [Disk.read_put]
  constructor
  · rintro ⟨hget, -⟩
    cases hold : d.read ((diskStore toml directory).pathFor profile.id) with
    | none =>
        have h := hget profile.id
        rw [if_pos rfl, hold] at h
        exact absurd h loadProfile_ne_notFound
    | some old =>
        refine ⟨old, rfl, fun id hpath => ?_⟩
        have h := hget id
        rwa [if_pos hpath, Disk.read_congr hpath, hold] at h
  · rintro ⟨old, hold, hsame⟩
    refine ⟨fun id => ?_, listing_put hold hsame⟩
    by_cases hpath : components ((diskStore toml directory).pathFor id) =
        components ((diskStore toml directory).pathFor profile.id)
    · simp only [hpath, if_true, Disk.read_congr hpath, hold]
      exact hsame id hpath
    · simp only [hpath, if_false]

end

/-- **The answers after a failing call** are those before it: for the store in memory always, for
the store on a disk exactly if the call leaves no torn write, or one that is harmless. -/
theorem failure_atomic_iff (toml : Toml) (directory : OsStr) (call : StoreCall) :
    (∀ profiles e profiles', InMemoryProfileStore.ops.call call profiles = .error e profiles' →
      SameAnswers InMemoryProfileStore.ops profiles profiles') ∧
    ∀ d e d', (diskStore toml directory).ops.call call d = .error e d' →
      (SameAnswers (diskStore toml directory).ops d d' ↔ Harmless toml directory d call) := by
  constructor
  · intro profiles e profiles' h
    rw [InMemoryProfileStore.unchanged_of_call_error h]
    exact ⟨fun _ => rfl, rfl⟩
  · intro d e d' h
    rcases of_call_error h with ⟨hfiles, htorn⟩ | ⟨profile, left, htorn, rfl⟩
    · exact iff_of_true (sameAnswers_of_files hfiles) fun profile left h => (htorn profile left h).elim
    · rw [sameAnswers_put_iff]
      constructor
      · intro h profile' left' htorn'
        obtain ⟨rfl, rfl⟩ := htorn.eq htorn'
        exact h
      · exact fun h => h profile left htorn

/-- The file of the wired profile, and a write to come that fails after it has truncated the file. -/
def fullDisk : Disk where
  files := (∅ : AList _).insert (components (osStr "/srv/profiles/lan.toml")) (osStr lanText)
  proper := fun _ h => (AList.mem_insert _).mp h |>.elim (· ▸ proper_components _)
    (AList.notMem_empty _ · |>.elim)
  faults := fun n => if n = 0 then some ⟨⟨.other, "No space left on device (os error 28)"⟩, some 0⟩
    else none

/-- What the failing update leaves. -/
theorem update_fullDisk : ∃ e d',
    (diskStore lanToml (osStr "/srv/profiles")).ops.call (.update lanProfile) fullDisk =
      .error e d' ∧
    d' = fullDisk.put (osStr "/srv/profiles/lan.toml") [] := by
  have hwrite : (diskStore lanToml (osStr "/srv/profiles")).writeProfile lanProfile fullDisk =
      .error (.io ⟨.other, "No space left on device (os error 28)"⟩)
        (fullDisk.put (osStr "/srv/profiles/lan.toml") []) := by
    rw [FileProfileStore.writeProfile_eq, validate_lanProfile]
    simp only [diskStore, toString_lanProfile]
    rfl
  exact ⟨_, _, map_eq_error.mpr hwrite, rfl⟩

/-- **The profile is lost** when its update fails. -/
theorem failed_update_loses_profile :
    let store := (diskStore lanToml (osStr "/srv/profiles")).ops
    ∃ e d', store.call (.update lanProfile) fullDisk = .error e d' ∧
      (settle (store.get "lan") fullDisk).1 = .ok lanProfile ∧
      (settle (store.get "lan") d').1 ≠ .ok lanProfile := by
  obtain ⟨e, d', h, rfl⟩ := update_fullDisk
  refine ⟨e, _, h, ?_, ?_⟩
  · have hread : fullDisk.read ((diskStore lanToml (osStr "/srv/profiles")).pathFor "lan") =
        some (osStr lanText) := AList.lookup_insert _
    have hget : settle ((diskStore lanToml (osStr "/srv/profiles")).get "lan") fullDisk =
        (fullDisk.lookup lanToml (osStr "/srv/profiles") "lan", fullDisk) := reads_get "lan" fullDisk
    have hlookup : fullDisk.lookup lanToml (osStr "/srv/profiles") "lan" =
        loadProfile lanToml "lan" (osStr lanText) := Disk.lookup_of_read hread
    rw [hlookup, loadProfile_lanText] at hget
    exact congrArg Prod.fst hget
  · intro h
    have hget : settle ((diskStore lanToml (osStr "/srv/profiles")).get "lan")
        (fullDisk.put (osStr "/srv/profiles/lan.toml") []) =
          (loadProfile lanToml "lan" [], _) := reads_get "lan" _
    cases (congrArg Prod.fst hget).symm.trans h

/-- A disk that is full before the first byte, and a profile that was there. -/
theorem failure_atomic_iff_lan : ∃ e d',
    (diskStore lanToml (osStr "/srv/profiles")).ops.call (.update lanProfile) fullDisk =
      .error e d' ∧
    (SameAnswers (diskStore lanToml (osStr "/srv/profiles")).ops fullDisk d' ↔
      Harmless lanToml (osStr "/srv/profiles") fullDisk (.update lanProfile)) := by
  obtain ⟨e, d', h, -⟩ := update_fullDisk
  exact ⟨e, d', h, (failure_atomic_iff lanToml _ (.update lanProfile)).2 fullDisk e d' h⟩

end NetworkManager
