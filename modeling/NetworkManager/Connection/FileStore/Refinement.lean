import NetworkManager.Connection.FileStore.Disk
import NetworkManager.Support.Results
import NetworkManager.Support.Simulation
import NetworkManager.Support.Sorting
import NetworkManager.Support.Tracing

/-!
# Connection — FileStore — Refinement

The store on a disk that works answers as the store in memory.

* `Mirrors`: the profile files of the directory are the profiles of the map.
* `Mirrors.step`: a call keeps that, and has the same answer in both.
* `file_store_refines_memory`: so have all the calls of a run.
-/

namespace NetworkManager

open Paths Effects Simulation Sorting

/-- The answer to a call, where errors are not told apart, and the state after it. -/
def ProfileStoreOps.answer {S : Type} (ops : ProfileStoreOps S) (call : StoreCall) (s : S) :
    Option StoreAnswer × S :=
  ((settle (ops.call call) s).1.toOption, (settle (ops.call call) s).2)

/-- The ids that are asked for are file names, and a valid profile reads back from its text. -/
def Admissible (toml : Toml) : StoreCall → Prop
  | .list => True
  | .get id | .delete id => '/' ∉ id.toList
  | .create profile | .update profile => profile.validate = .ok () →
    ∃ text, toml.toString profile = .ok text ∧ toml.fromStr text = .ok profile

/-- The files of the directory are those of the profiles, and no write fails. -/
structure Mirrors (toml : Toml) (directory : OsStr) (d : Disk) (profiles : InMemoryProfileStore) :
    Prop where
  faultless : ∀ n, d.faults n = none
  valid : ∀ {id : ProfileId} {profile : ConnectionProfile}, profiles[id]? = some profile →
    profile.id = id ∧ profile.validate = .ok ()
  stored : ∀ {id : ProfileId} {profile : ConnectionProfile}, profiles[id]? = some profile →
    ∃ text, d.files.lookup ((components directory).child (fileName id)) = some (osStr text) ∧
      toml.fromStr text = .ok profile
  named : ∀ {name : OsStr}, (components directory).child name ∈ d.files →
    ∃ id, name = fileName id ∧ id ∈ profiles

variable {toml : Toml} {directory : OsStr} {d : Disk} {profiles : InMemoryProfileStore}

/-- An empty directory mirrors an empty store. -/
theorem Mirrors.empty (hfaults : ∀ n, d.faults n = none) (hentries : d.entries directory = []) :
    Mirrors toml directory d ∅ where
  faultless := hfaults
  valid := fun h => by simp at h
  stored := fun h => by simp at h
  named := fun h => by
    rw [← Disk.mem_entries, hentries] at h
    cases h

/-! ### Reading -/

namespace Mirrors

variable (h : Mirrors toml directory d profiles)
include h

/-- The ids of a mirrored store are valid. -/
theorem validId {id : ProfileId} {profile : ConnectionProfile} (hget : profiles[id]? = some profile) :
    ConnectionProfile.ValidId id := by
  obtain ⟨rfl, hvalid⟩ := h.valid hget
  exact (ConnectionProfile.validate_eq_ok.mp hvalid).1

/-- A stored profile has a file that loads it. -/
theorem read_of_some {id : ProfileId} {profile : ConnectionProfile}
    (hget : profiles[id]? = some profile) :
    ∃ bytes, d.read ((diskStore toml directory).pathFor id) = some bytes ∧
      loadProfile toml id bytes = .ok profile := by
  obtain ⟨hid, hvalid⟩ := h.valid hget
  obtain ⟨text, hread, htext⟩ := h.stored hget
  refine ⟨osStr text, ?_, ?_⟩
  · rw [Disk.read, components_pathFor (slash_not_mem_of_validId (h.validId hget)), hread]
  · rw [loadProfile, toStr_osStr]
    show parseProfile toml id text = _
    simp only [parseProfile, htext, hid, hvalid, ne_eq, not_true_eq_false, if_false]

/-- A profile that is not stored has no file. -/
theorem read_of_none {id : ProfileId} (hid : '/' ∉ id.toList) (hget : profiles[id]? = none) :
    d.read ((diskStore toml directory).pathFor id) = none := by
  rw [Disk.read, components_pathFor hid]
  by_contra hread
  have hmem := AList.lookup_isSome.mp (Option.isSome_iff_ne_none.mpr hread)
  obtain ⟨id', hname, hmem'⟩ := h.named hmem
  rw [← fileName_injective hname, Std.TreeMap.mem_iff_isSome_getElem?, hget] at hmem'
  cases hmem'

/-- The disk looks up what the store has. -/
theorem lookup_eq {id : ProfileId} (hid : '/' ∉ id.toList) : d.lookup toml directory id =
    match profiles[id]? with
    | some profile => .ok profile
    | none => .error (.notFound id) := by
  cases hget : profiles[id]? with
  | none => simp only [Disk.lookup, h.read_of_none hid hget]
  | some profile =>
      obtain ⟨bytes, hread, hload⟩ := h.read_of_some hget
      rw [Disk.lookup_of_read hread, hload]

/-- The entries of the directory are the files of the profiles. -/
theorem entries_perm :
    List.Perm (d.entries directory) (profiles.toList.map fun entry => fileName entry.1) := by
  have hentries : (d.entries directory).Nodup := by
    refine List.Nodup.filterMap (fun path path' name hpath hpath' => ?_) d.files.keys_nodup
    rw [Disk.entryOf_eq_some.mp hpath, Disk.entryOf_eq_some.mp hpath']
  have hfiles : (profiles.toList.map fun entry => fileName entry.1).Nodup := by
    refine List.pairwise_map.mpr (Std.TreeMap.distinct_keys_toList.imp fun hne heq => ?_)
    exact hne (fileName_injective heq ▸ Std.ReflCmp.compare_self)
  rw [List.perm_ext_iff_of_nodup hentries hfiles]
  intro name
  rw [Disk.mem_entries, List.mem_map]
  constructor
  · intro hmem
    obtain ⟨id, rfl, hid⟩ := h.named hmem
    rw [Std.TreeMap.mem_iff_isSome_getElem?, Option.isSome_iff_exists] at hid
    obtain ⟨profile, hget⟩ := hid
    exact ⟨(id, profile), Std.TreeMap.mem_toList_iff_getElem?_eq_some.mpr hget, rfl⟩
  · rintro ⟨⟨id, profile⟩, hmem, rfl⟩
    obtain ⟨text, hlookup, -⟩ := h.stored (Std.TreeMap.mem_toList_iff_getElem?_eq_some.mp hmem)
    exact AList.lookup_isSome.mp (Option.isSome_iff_exists.mpr ⟨_, hlookup⟩)

/-- The profile files are those of the stored ids, in some order. -/
theorem tomlNames_perm : List.Perm (tomlNames (d.entries directory))
    (profiles.toList.map fun entry => fileName entry.1) := by
  have hext : ∀ name ∈ d.entries directory,
      (decide (extension name = some (osStr "toml"))) = true := by
    intro name hname
    obtain ⟨⟨id, profile⟩, hmem, rfl⟩ := List.mem_map.mp (h.entries_perm.mem_iff.mp hname)
    rw [Std.TreeMap.mem_toList_iff_getElem?_eq_some] at hmem
    rw [extension, splitName_fileName (h.validId hmem).1]
    exact decide_eq_true rfl
  rw [tomlNames, List.filter_eq_self.mpr hext]
  exact (List.mergeSort_perm _ _).trans h.entries_perm

/-- The file of a stored profile loads it. -/
theorem loadEntry_eq {id : ProfileId} {profile : ConnectionProfile}
    (hget : profiles[id]? = some profile) :
    d.loadEntry toml directory (fileName id) = .ok profile := by
  obtain ⟨bytes, hread, hload⟩ := h.read_of_some hget
  unfold Disk.loadEntry Disk.load
  rw [fileStem, splitName_fileName (h.validId hget).1]
  simp only [toStr_osStr]
  rw [show d.read (join directory (fileName id)) = some bytes from hread]
  exact hload

theorem getElem?_of_mem {profile : ConnectionProfile}
    (hmem : profile ∈ profiles.toList.map Prod.snd) : profiles[profile.id]? = some profile := by
  obtain ⟨⟨id, _⟩, hentry, rfl⟩ := List.mem_map.mp hmem
  rw [Std.TreeMap.mem_toList_iff_getElem?_eq_some] at hentry
  rw [(h.valid hentry).1, hentry]

/-- The store lists its profiles by rising ids. -/
theorem sorted : (profiles.toList.map Prod.snd).Pairwise fun a b => a.id < b.id := by
  refine List.pairwise_map.mpr (Std.TreeMap.ordered_keys_toList.imp_of_mem ?_)
  intro a b ha hb hlt
  rw [Std.TreeMap.mem_toList_iff_getElem?_eq_some] at ha hb
  rw [(h.valid ha).1, (h.valid hb).1]
  exact compare_lt_iff_lt.mp hlt

/-- The profiles are listed in the order of their ids. -/
theorem listing_eq : d.listing toml directory = .ok (profiles.toList.map Prod.snd) := by
  have hentries : List.Forall₂ (fun name profile => d.loadEntry toml directory name = .ok profile)
      (profiles.toList.map fun entry => fileName entry.1) (profiles.toList.map Prod.snd) := by
    rw [List.forall₂_map_left_iff, List.forall₂_map_right_iff, List.forall₂_same]
    intro entry hmem
    exact h.loadEntry_eq (Std.TreeMap.mem_toList_iff_getElem?_eq_some.mp hmem)
  obtain ⟨loaded, hloaded, hperm⟩ := List.perm_comp_forall₂ h.tomlNames_perm hentries
  rw [Disk.listing, Results.mapM_eq_ok.mpr hloaded]
  have hsorted : SortedBy ConnectionProfile.id (profiles.toList.map Prod.snd) :=
    h.sorted.imp fun hlt => by
      rw [compare_lt_iff_lt.mpr hlt]
      rfl
  refine congrArg Except.ok (mergeSort_eq_of_perm hsorted hperm fun a ha b hb hid => ?_)
  have hget := h.getElem?_of_mem ha
  rw [hid, h.getElem?_of_mem hb] at hget
  exact (Option.some.inj hget).symm

end Mirrors

/-! ### Writing -/

/-- A profile is checked, turned into text and written. -/
theorem settle_writeProfile (profile : ConnectionProfile) (hfault : d.faults 0 = none) :
    settle ((diskStore toml directory).writeProfile profile) d =
      match profile.validate, toml.toString profile with
      | .error reason, _ => (.error (.invalid reason), d)
      | .ok _, .error reason => (.error (.malformed profile.id reason), d)
      | .ok _, .ok text =>
        (.ok (), d.put ((diskStore toml directory).pathFor profile.id) (osStr text)) := by
  rw [FileProfileStore.writeProfile_eq]
  cases profile.validate with
  | error reason => rfl
  | ok u =>
      cases htext : toml.toString profile with
      | error reason =>
          simp only [diskStore, htext]
          rfl
      | ok text =>
          simp only [diskStore, htext]
          rw [settle_adaptExcept]
          simp only [Disk.fileSystem, settle, hfault]
          rfl

/-- `create` writes where no file is yet. -/
theorem settle_create (profile : ConnectionProfile) :
    settle ((diskStore toml directory).create profile) d =
      if (d.read ((diskStore toml directory).pathFor profile.id)).isSome then
        (.error (.alreadyExists profile.id), d)
      else settle ((diskStore toml directory).writeProfile profile) d := by
  show settle (if (d.read ((diskStore toml directory).pathFor profile.id)).isSome then
    throw (.alreadyExists profile.id) else (diskStore toml directory).writeProfile profile) d = _
  split <;> rfl

/-- `update` writes where a file is. -/
theorem settle_update (profile : ConnectionProfile) :
    settle ((diskStore toml directory).update profile) d =
      if (d.read ((diskStore toml directory).pathFor profile.id)).isSome then
        settle ((diskStore toml directory).writeProfile profile) d
      else (.error (.notFound profile.id), d) := by
  show settle (if (d.read ((diskStore toml directory).pathFor profile.id)).isSome then
    (diskStore toml directory).writeProfile profile else throw (.notFound profile.id)) d = _
  split <;> rfl

/-- `delete` drops a file that is there. -/
theorem settle_delete (id : ProfileId) (hfault : d.faults 0 = none) :
    settle ((diskStore toml directory).delete id) d =
      match d.read ((diskStore toml directory).pathFor id) with
      | some _ => (.ok (), d.drop ((diskStore toml directory).pathFor id))
      | none => (.error (.notFound id), d) := by
  show settle (if (d.read ((diskStore toml directory).pathFor id)).isSome then
    EStateM.adaptExcept StoreError.io
      (Disk.fileSystem.removeFile ((diskStore toml directory).pathFor id))
    else throw (StoreError.notFound id)) d = _
  cases hread : d.read ((diskStore toml directory).pathFor id) with
  | none => rfl
  | some bytes =>
      show settle (EStateM.adaptExcept StoreError.io _) d = _
      rw [settle_adaptExcept]
      simp only [Disk.fileSystem, settle, hread, hfault]
      rfl

namespace Mirrors

/-- A profile is written under its id. -/
theorem put (h : Mirrors toml directory d profiles) {profile : ConnectionProfile} {text : String}
    (hvalid : profile.validate = .ok ()) (htext : toml.fromStr text = .ok profile) :
    Mirrors toml directory (d.put ((diskStore toml directory).pathFor profile.id) (osStr text))
      (profiles.insert profile.id profile) := by
  have hpath : components ((diskStore toml directory).pathFor profile.id) = _ :=
    components_pathFor (slash_not_mem_of_validate hvalid)
  refine ⟨fun n => h.faultless (n + 1), fun {id found} hget => ?_, fun {id found} hget => ?_,
    fun {name} hmem => ?_⟩
  · rw [Std.TreeMap.getElem?_insert] at hget
    split at hget
    · next heq =>
        cases hget
        exact ⟨Std.LawfulEqCmp.eq_of_compare heq, hvalid⟩
    · exact h.valid hget
  · rw [Std.TreeMap.getElem?_insert] at hget
    rw [Disk.files_put, hpath]
    split at hget
    · next heq =>
        cases hget
        rw [Std.LawfulEqCmp.eq_of_compare heq]
        exact ⟨text, AList.lookup_insert _, htext⟩
    · next hne =>
        obtain ⟨text', hlookup, htext'⟩ := h.stored hget
        refine ⟨text', ?_, htext'⟩
        rw [AList.lookup_insert_ne, hlookup]
        intro hchild
        have hid := fileName_injective (Components.child_inj.mp hchild)
        exact hne (hid ▸ Std.ReflCmp.compare_self)
  · rw [Disk.files_put, hpath, AList.mem_insert, Components.child_inj] at hmem
    rcases hmem with rfl | hmem
    · exact ⟨profile.id, rfl, Std.TreeMap.mem_insert_self⟩
    · obtain ⟨id, rfl, hid⟩ := h.named hmem
      exact ⟨id, rfl, Std.TreeMap.mem_insert.mpr (.inr hid)⟩

/-- The file of an id is removed. -/
theorem drop (h : Mirrors toml directory d profiles) {id : ProfileId} (hid : '/' ∉ id.toList) :
    Mirrors toml directory (d.drop ((diskStore toml directory).pathFor id)) (profiles.erase id) := by
  have hpath : components ((diskStore toml directory).pathFor id) = _ := components_pathFor hid
  refine ⟨fun n => h.faultless (n + 1), fun {id' found} hget => ?_, fun {id' found} hget => ?_,
    fun {name} hmem => ?_⟩
  · rw [Std.TreeMap.getElem?_erase] at hget
    split at hget
    · cases hget
    · exact h.valid hget
  · rw [Std.TreeMap.getElem?_erase] at hget
    split at hget
    · cases hget
    · next hne =>
        obtain ⟨text, hlookup, htext⟩ := h.stored hget
        refine ⟨text, ?_, htext⟩
        rw [Disk.files_drop, hpath, AList.lookup_erase_ne, hlookup]
        intro hchild
        have heq := fileName_injective (Components.child_inj.mp hchild)
        exact hne (heq ▸ Std.ReflCmp.compare_self)
  · rw [Disk.files_drop, hpath, AList.mem_erase] at hmem
    obtain ⟨id', rfl, hid'⟩ := h.named hmem.2
    refine ⟨id', rfl, Std.TreeMap.mem_erase.mpr ⟨fun heq => hmem.1 ?_, hid'⟩⟩
    rw [Std.LawfulEqCmp.eq_of_compare heq]

/-- A call that both stores refuse leaves both as they are. -/
theorem step_of_error (h : Mirrors toml directory d profiles) {α : Type} {x : EStateM StoreError Disk α}
    {y : EStateM StoreError InMemoryProfileStore α} (f : α → StoreAnswer)
    (hx : ∃ e, settle x d = (.error e, d)) (hy : ∃ e, settle y profiles = (.error e, profiles)) :
    (settle (f <$> x) d).1.toOption = (settle (f <$> y) profiles).1.toOption ∧
      Mirrors toml directory (settle (f <$> x) d).2 (settle (f <$> y) profiles).2 := by
  obtain ⟨e, hx⟩ := hx
  obtain ⟨e', hy⟩ := hy
  rw [settle_map, settle_map, hx, hy]
  exact ⟨rfl, h⟩

/-- Calls that return the same keep the mirror. -/
theorem step_of_ok {d' : Disk} {profiles' : InMemoryProfileStore}
    (h : Mirrors toml directory d' profiles') {α : Type} {x : EStateM StoreError Disk α}
    {y : EStateM StoreError InMemoryProfileStore α} (f : α → StoreAnswer) {a : α}
    (hx : settle x d = (.ok a, d')) (hy : settle y profiles = (.ok a, profiles')) :
    (settle (f <$> x) d).1.toOption = (settle (f <$> y) profiles).1.toOption ∧
      Mirrors toml directory (settle (f <$> x) d).2 (settle (f <$> y) profiles).2 := by
  rw [settle_map, settle_map, hx, hy]
  exact ⟨rfl, h⟩

/-- **A call** has the same answer in both stores, and the files stay those of the profiles. -/
theorem step (h : Mirrors toml directory d profiles) {call : StoreCall} (hcall : Admissible toml call) :
    ((diskStore toml directory).ops.answer call d).1 =
      (InMemoryProfileStore.ops.answer call profiles).1 ∧
    Mirrors toml directory ((diskStore toml directory).ops.answer call d).2
      (InMemoryProfileStore.ops.answer call profiles).2 := by
  have hfault := h.faultless 0
  cases call with
  | list =>
      have hlist : settle (diskStore toml directory).list d = (d.listing toml directory, d) :=
        reads_list d
      rw [h.listing_eq] at hlist
      have hmemory : settle InMemoryProfileStore.ops.list profiles =
        (.ok (profiles.toList.map Prod.snd), profiles) := rfl
      exact step_of_ok h .profiles hlist hmemory
  | get id =>
      have hget : settle ((diskStore toml directory).get id) d = (d.lookup toml directory id, d) :=
        reads_get id d
      rw [h.lookup_eq hcall] at hget
      have hmemory := InMemoryProfileStore.settle_get id profiles
      cases hfound : profiles[id]? with
      | none =>
          rw [hfound] at hget hmemory
          exact h.step_of_error .profile ⟨_, hget⟩ ⟨_, hmemory⟩
      | some profile =>
          rw [hfound] at hget hmemory
          exact step_of_ok h .profile hget hmemory
  | create profile =>
      have hcreate : settle ((diskStore toml directory).create profile) d = _ :=
        settle_create profile
      have hmemory : settle (InMemoryProfileStore.ops.create profile) profiles = _ :=
        InMemoryProfileStore.settle_put _ profile profiles
      rw [settle_writeProfile profile hfault] at hcreate
      cases hvalid : profile.validate with
      | error reason =>
          rw [hvalid] at hcreate hmemory
          -- an invalid profile is refused by both, whether or not there is a file
          have hrefused : ∃ e,
              settle ((diskStore toml directory).create profile) d = (.error e, d) := by
            rw [hcreate]
            split <;> exact ⟨_, rfl⟩
          exact h.step_of_error _ hrefused ⟨_, hmemory⟩
      | ok u =>
          obtain ⟨text, htext, hfrom⟩ := hcall hvalid
          rw [hvalid, htext] at hcreate
          rw [hvalid, Std.TreeMap.contains_eq_isSome_getElem?] at hmemory
          -- a file stands for the profile exactly where the map has one
          cases hfound : profiles[profile.id]? with
          | none =>
              rw [h.read_of_none (slash_not_mem_of_validate hvalid) hfound] at hcreate
              rw [hfound] at hmemory
              exact step_of_ok (h.put hvalid hfrom) _ hcreate hmemory
          | some found =>
              obtain ⟨bytes, hread, -⟩ := h.read_of_some hfound
              rw [hread] at hcreate
              rw [hfound] at hmemory
              exact h.step_of_error _ ⟨_, hcreate⟩ ⟨_, hmemory⟩
  | update profile =>
      have hupdate : settle ((diskStore toml directory).update profile) d = _ :=
        settle_update profile
      have hmemory : settle (InMemoryProfileStore.ops.update profile) profiles = _ :=
        InMemoryProfileStore.settle_put _ profile profiles
      rw [settle_writeProfile profile hfault] at hupdate
      cases hvalid : profile.validate with
      | error reason =>
          rw [hvalid] at hupdate hmemory
          -- an invalid profile is refused by both, whether or not there is a file
          have hrefused : ∃ e,
              settle ((diskStore toml directory).update profile) d = (.error e, d) := by
            rw [hupdate]
            split <;> exact ⟨_, rfl⟩
          exact h.step_of_error _ hrefused ⟨_, hmemory⟩
      | ok u =>
          obtain ⟨text, htext, hfrom⟩ := hcall hvalid
          rw [hvalid, htext] at hupdate
          rw [hvalid, Std.TreeMap.contains_eq_isSome_getElem?] at hmemory
          cases hfound : profiles[profile.id]? with
          | none =>
              rw [h.read_of_none (slash_not_mem_of_validate hvalid) hfound] at hupdate
              rw [hfound] at hmemory
              exact h.step_of_error _ ⟨_, hupdate⟩ ⟨_, hmemory⟩
          | some found =>
              obtain ⟨bytes, hread, -⟩ := h.read_of_some hfound
              rw [hread] at hupdate
              rw [hfound] at hmemory
              exact step_of_ok (h.put hvalid hfrom) _ hupdate hmemory
  | delete id =>
      have hdelete : settle ((diskStore toml directory).delete id) d = _ := settle_delete id hfault
      have hmemory := InMemoryProfileStore.settle_delete id profiles
      cases hfound : profiles[id]? with
      | none =>
          rw [h.read_of_none hcall hfound] at hdelete
          rw [hfound] at hmemory
          exact h.step_of_error _ ⟨_, hdelete⟩ ⟨_, hmemory⟩
      | some profile =>
          obtain ⟨bytes, hread, -⟩ := h.read_of_some hfound
          rw [hread] at hdelete
          rw [hfound] at hmemory
          exact step_of_ok (h.drop hcall) _ hdelete hmemory

end Mirrors

/-! ### Runs -/

/-- A listing in the order of the ids. -/
def StoreAnswer.Sorted : StoreAnswer → Prop
  | .profiles listed => listed.Pairwise fun a b => a.id < b.id
  | .done | .profile _ => True

/-- The answers of a mirrored store are sorted by ids. -/
theorem Mirrors.sorted_answer (h : Mirrors toml directory d profiles) (call : StoreCall) :
    ∀ answer, (InMemoryProfileStore.ops.answer call profiles).1 = some answer → answer.Sorted := by
  intro answer hanswer
  have hmap {α : Type} (f : α → StoreAnswer) (hf : ∀ a, (f a).Sorted)
      {x : EStateM StoreError InMemoryProfileStore α}
      (hx : (settle (f <$> x) profiles).1.toOption = some answer) : answer.Sorted := by
    rw [settle_map] at hx
    cases hr : (settle x profiles).1 with
    | error e => rw [hr] at hx; cases hx
    | ok a => rw [hr] at hx; cases hx; exact hf a
  cases call with
  | list => cases hanswer; exact h.sorted
  | get id => exact hmap .profile (fun _ => trivial) hanswer
  | create profile => exact hmap (fun _ => .done) (fun _ => trivial) hanswer
  | update profile => exact hmap (fun _ => .done) (fun _ => trivial) hanswer
  | delete id => exact hmap (fun _ => .done) (fun _ => trivial) hanswer

/-- **Refinement.**  On a disk that works and has nothing in the directory, any run of calls has
the same answers as in memory, and what is listed is sorted. -/
theorem file_store_refines_memory (toml : Toml) (directory : OsStr) (d : Disk)
    (hfaults : ∀ n, d.faults n = none) (hentries : d.entries directory = [])
    (calls : List StoreCall) (hcalls : ∀ call ∈ calls, Admissible toml call) :
    answers (diskStore toml directory).ops.answer calls d =
        answers InMemoryProfileStore.ops.answer calls ∅ ∧
      ∀ answer, some answer ∈ answers InMemoryProfileStore.ops.answer calls ∅ → answer.Sorted := by
  have hstart : Mirrors toml directory d ∅ := .empty hfaults hentries
  refine ⟨answers_eq (fun _ _ _ hcall h => h.step hcall) hcalls hstart, fun answer hmem => ?_⟩
  have hrun := forall_answers (fun profiles => ∃ d, Mirrors toml directory d profiles)
    (P := fun answer => ∀ found, answer = some found → found.Sorted)
    (fun call profiles hcall ⟨_, h⟩ => ⟨h.sorted_answer call, _, (h.step hcall).2⟩) hcalls
    ⟨d, hstart⟩
  exact hrun _ hmem answer rfl

/-- A disk without files, where no write fails. -/
def emptyDisk : Disk where
  files := ∅
  proper := fun _ h => (AList.notMem_empty _ h).elim
  faults := fun _ => none

/-- A profile is created twice, read, deleted and listed. -/
theorem file_store_refines_memory_lan :
    let calls : List StoreCall := [.create lanProfile, .create lanProfile, .get "lan",
      .update { lanProfile with name := "" }, .list, .delete "lan", .get "lan"]
    answers (diskStore lanToml (osStr "/srv/profiles")).ops.answer calls emptyDisk =
        [some .done, none, some (.profile lanProfile), none, some (.profiles [lanProfile]),
          some .done, none] := by
  intro calls
  have hlan : Admissible lanToml (.create lanProfile) := fun _ =>
    ⟨lanText, toString_lanProfile, fromStr_lanText⟩
  have hunnamed : Admissible lanToml (.update { lanProfile with name := "" }) := by
    rintro ⟨⟩
  have hid : '/' ∉ ("lan" : ProfileId).toList := by decide
  refine (file_store_refines_memory lanToml _ emptyDisk (fun _ => rfl) rfl calls ?_).1.trans ?_
  · intro call hcall
    simp only [calls, List.mem_cons, List.not_mem_nil, or_false] at hcall
    rcases hcall with rfl | rfl | rfl | rfl | rfl | rfl | rfl
    · exact hlan
    · exact hlan
    · exact hid
    · exact hunnamed
    · exact trivial
    · exact hid
    · exact hid
  · rfl

end NetworkManager
