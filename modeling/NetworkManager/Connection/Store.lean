import NetworkManager.Connection.Profile
import NetworkManager.Support.Effects

/-!
# Connection — Store

`connection/store.rs`: the storage boundary for connection profiles, as its readers see it and as
a set of operations, and the store that is kept in memory.
-/

namespace NetworkManager

/-- What a profile store can fail with. -/
inductive StoreError where
  | notFound (id : ProfileId)
  | alreadyExists (id : ProfileId)
  | invalid (reason : ProfileValidationError)
  | malformed (id : ProfileId) (reason : String)
  | io (error : IoError)
  deriving DecidableEq

instance : ToString StoreError where
  toString
    | .notFound id => "connection profile " ++ Text.debug id ++ " not found"
    | .alreadyExists id => "connection profile " ++ Text.debug id ++ " already exists"
    | .invalid reason => "invalid connection profile: " ++ toString reason
    | .malformed id reason => "malformed persisted profile " ++ Text.debug id ++ ": " ++ reason
    | .io err => "profile store I/O failed: " ++ toString err

/-- The answers a profile store gives to its readers. -/
structure ProfileStore where
  list : Except StoreError (List ConnectionProfile)
  get : ProfileId → Except StoreError ConnectionProfile

/-- The store answers `get` with a profile of that id. -/
def ProfileStore.Keyed (store : ProfileStore) : Prop :=
  ∀ id profile, store.get id = .ok profile → profile.id = id

/-! ### The operations of a store -/

/-- The trait `ProfileStore`, for a store with this state. -/
structure ProfileStoreOps (S : Type) where
  list : EStateM StoreError S (List ConnectionProfile)
  get : ProfileId → EStateM StoreError S ConnectionProfile
  create : ConnectionProfile → EStateM StoreError S Unit
  update : ConnectionProfile → EStateM StoreError S Unit
  delete : ProfileId → EStateM StoreError S Unit

/-- A call of a profile store. -/
inductive StoreCall where
  | list
  | get (id : ProfileId)
  | create (profile : ConnectionProfile)
  | update (profile : ConnectionProfile)
  | delete (id : ProfileId)

/-- What a call answers. -/
inductive StoreAnswer where
  | done
  | profile (profile : ConnectionProfile)
  | profiles (profiles : List ConnectionProfile)

/-- Makes the call. -/
def ProfileStoreOps.call {S : Type} (ops : ProfileStoreOps S) :
    StoreCall → EStateM StoreError S StoreAnswer
  | .list => StoreAnswer.profiles <$> ops.list
  | .get id => StoreAnswer.profile <$> ops.get id
  | .create profile => (fun _ => .done) <$> ops.create profile
  | .update profile => (fun _ => .done) <$> ops.update profile
  | .delete id => (fun _ => .done) <$> ops.delete id

/-- The ids that are stored once the call has been served. -/
def StoreCall.serve (ids : Finset ProfileId) : StoreCall → Finset ProfileId
  | .create profile => insert profile.id ids
  | .delete id => ids.erase id
  | .list | .get _ | .update _ => ids

/-- The ids of the stored profiles, for a store that answers with the profiles it has been given as
long as it is in a valid state.  Nothing is said about the calls that it refuses. -/
structure ProfileStoreOps.Index {S : Type} (ops : ProfileStoreOps S) where
  ids : S → Finset ProfileId
  Valid : S → Prop
  keeps : ∀ call s, Valid s → Valid (Effects.after (ops.call call) s)
  list : ∀ {s t profiles}, Valid s → ops.list s = .ok profiles t →
    (profiles.map (·.id)).toFinset = ids s
  get : ∀ {s t id profile}, Valid s → ops.get id s = .ok profile t → profile.id ∈ ids s
  serves : ∀ {s t call answer}, Valid s → ops.call call s = .ok answer t → ids t = call.serve (ids s)

/-! ### The store in memory -/

/-- The `BTreeMap` of the profiles by their ids. -/
abbrev InMemoryProfileStore := Std.TreeMap ProfileId ConnectionProfile

namespace InMemoryProfileStore

open Effects

/-- Inserts a valid profile, where `refuses` says what is wrong with the ids that are taken. -/
def put (refuses : InMemoryProfileStore → Option StoreError) (profile : ConnectionProfile) :
    EStateM StoreError InMemoryProfileStore Unit := do
  EStateM.adaptExcept .invalid (MonadExcept.ofExcept profile.validate)
  match refuses (← get) with
  | some error => throw error
  | none => modify fun profiles => profiles.insert profile.id profile

/-- The calls of the store in memory. -/
def ops : ProfileStoreOps InMemoryProfileStore where
  list := do return (← get).toList.map Prod.snd
  get id := do
    match (← get)[id]? with
    | some profile => return profile
    | none => throw (.notFound id)
  create profile :=
    put (fun profiles => if profiles.contains profile.id then some (.alreadyExists profile.id)
      else none) profile
  update profile :=
    put (fun profiles => if profiles.contains profile.id then none
      else some (.notFound profile.id)) profile
  delete id := do
    match (← get)[id]? with
    | some _ => modify fun profiles => profiles.erase id
    | none => throw (.notFound id)

/-- A profile is checked first, and then whether it may be put. -/
theorem settle_put (refuses : InMemoryProfileStore → Option StoreError)
    (profile : ConnectionProfile) (profiles : InMemoryProfileStore) :
    settle (put refuses profile) profiles =
      match profile.validate, refuses profiles with
      | .error reason, _ => (.error (.invalid reason), profiles)
      | .ok _, some error => (.error error, profiles)
      | .ok _, none => (.ok (), profiles.insert profile.id profile) := by
  unfold put
  cases profile.validate with
  | error reason => rfl
  | ok u =>
      show settle (match refuses profiles with
        | some error => throw error
        | none => modify fun profiles => profiles.insert profile.id profile) profiles = _
      cases refuses profiles <;> rfl

/-- A profile is got by its id. -/
theorem settle_get (id : ProfileId) (profiles : InMemoryProfileStore) :
    settle (ops.get id) profiles = match profiles[id]? with
      | some profile => (.ok profile, profiles)
      | none => (.error (.notFound id), profiles) := by
  show settle (match profiles[id]? with
    | some profile => pure profile
    | none => throw (StoreError.notFound id)) profiles = _
  cases profiles[id]? <;> rfl

/-- A profile that is there is erased. -/
theorem settle_delete (id : ProfileId) (profiles : InMemoryProfileStore) :
    settle (ops.delete id) profiles = match profiles[id]? with
      | some _ => (.ok (), profiles.erase id)
      | none => (.error (.notFound id), profiles) := by
  show settle (match profiles[id]? with
    | some _ => modify fun profiles => profiles.erase id
    | none => throw (StoreError.notFound id)) profiles = _
  cases profiles[id]? <;> rfl

/-- A refused profile leaves the store as it was. -/
theorem unchanged_of_put_error {refuses : InMemoryProfileStore → Option StoreError}
    {profile : ConnectionProfile} {profiles profiles' : InMemoryProfileStore} {e : StoreError}
    (h : put refuses profile profiles = .error e profiles') : profiles' = profiles := by
  have hput := settle_put refuses profile profiles
  rw [settle_of_error h] at hput
  split at hput <;> cases hput <;> rfl

/-- A profile that is put was not refused. -/
theorem put_eq_ok {refuses : InMemoryProfileStore → Option StoreError}
    {profile : ConnectionProfile} {profiles profiles' : InMemoryProfileStore}
    (h : put refuses profile profiles = .ok () profiles') :
    refuses profiles = none ∧ profiles' = profiles.insert profile.id profile := by
  have hput := settle_put refuses profile profiles
  rw [settle_of_ok h] at hput
  split at hput
  · cases hput
  · cases hput
  · next hfresh =>
      cases hput
      exact ⟨hfresh, rfl⟩

/-- A profile that is created is a new one. -/
theorem create_ne {profile : ConnectionProfile} {profiles profiles' : InMemoryProfileStore}
    (h : ops.create profile profiles = .ok () profiles') : profiles' ≠ profiles := by
  obtain ⟨hfresh, rfl⟩ := put_eq_ok h
  intro heq
  have hmem : profile.id ∈ profiles := by
    rw [← heq]
    exact Std.TreeMap.mem_insert_self
  exact absurd hmem (by simpa using hfresh)

/-- A call that fails leaves the profiles. -/
theorem unchanged_of_call_error {call : StoreCall} {profiles profiles' : InMemoryProfileStore}
    {e : StoreError} (h : ops.call call profiles = .error e profiles') : profiles' = profiles := by
  cases call with
  | list => cases map_eq_error.mp h
  | get id =>
      have hget := settle_get id profiles
      rw [settle_of_error (map_eq_error.mp h)] at hget
      split at hget <;> cases hget
      rfl
  | create profile => exact unchanged_of_put_error (map_eq_error.mp h)
  | update profile => exact unchanged_of_put_error (map_eq_error.mp h)
  | delete id =>
      have hdelete := settle_delete id profiles
      rw [settle_of_error (map_eq_error.mp h)] at hdelete
      split at hdelete <;> cases hdelete
      rfl

/-- What is deleted is gone. -/
theorem delete_eq_ok {id : ProfileId} {profiles profiles' : InMemoryProfileStore}
    (h : ops.delete id profiles = .ok () profiles') : profiles' = profiles.erase id := by
  have hdelete := settle_delete id profiles
  rw [settle_of_ok h] at hdelete
  split at hdelete <;> cases hdelete
  rfl

/-- Every profile is kept under its own id. -/
def Keyed (profiles : InMemoryProfileStore) : Prop :=
  ∀ (id : ProfileId) (profile : ConnectionProfile), profiles[id]? = some profile → profile.id = id

/-- A profile is kept under its own id. -/
theorem Keyed.insert {profiles : InMemoryProfileStore} (h : Keyed profiles)
    (profile : ConnectionProfile) : Keyed (profiles.insert profile.id profile) := by
  intro id p hp
  rw [Std.TreeMap.getElem?_insert] at hp
  split at hp
  · next heq =>
      cases hp
      exact Std.LawfulEqCmp.eq_of_compare heq
  · exact h id p hp

/-- Erasing keeps the others under their own ids. -/
theorem Keyed.erase {profiles : InMemoryProfileStore} (h : Keyed profiles) (id : ProfileId) :
    Keyed (profiles.erase id) := by
  intro id' p hp
  rw [Std.TreeMap.getElem?_erase] at hp
  split at hp
  · cases hp
  · exact h id' p hp

/-- Every call keeps the profiles under their own ids. -/
theorem Keyed.call {profiles : InMemoryProfileStore} (h : Keyed profiles) (call : StoreCall) :
    Keyed (after (ops.call call) profiles) := by
  cases hcall : ops.call call profiles with
  | error e profiles' =>
      rw [after_of_error hcall, unchanged_of_call_error hcall]
      exact h
  | ok answer profiles' =>
      rw [after_of_ok hcall]
      cases call with
      | list =>
          obtain ⟨a, ⟨⟩, -⟩ := map_eq_ok.mp hcall
          exact h
      | get id =>
          obtain ⟨a, ha, -⟩ := map_eq_ok.mp hcall
          have hget := settle_get id profiles
          rw [settle_of_ok ha] at hget
          split at hget <;> cases hget
          exact h
      | create profile | update profile =>
          obtain ⟨a, ha, -⟩ := map_eq_ok.mp hcall
          rw [(put_eq_ok ha).2]
          exact h.insert profile
      | delete id =>
          obtain ⟨a, ha, -⟩ := map_eq_ok.mp hcall
          rw [delete_eq_ok ha]
          exact h.erase id

/-- The listed profiles have the ids of the store. -/
theorem ids_list {profiles : InMemoryProfileStore} (h : Keyed profiles) :
    ((profiles.toList.map Prod.snd).map (·.id)).toFinset = profiles.keys.toFinset := by
  have hids : (profiles.toList.map Prod.snd).map (·.id) = profiles.keys := by
    rw [← Std.TreeMap.map_fst_toList_eq_keys, List.map_map]
    refine List.map_congr_left fun entry hentry => ?_
    exact h entry.1 entry.2 (Std.TreeMap.mem_toList_iff_getElem?_eq_some.mp hentry)
  rw [hids]

/-- The ids of the store in memory are its keys. -/
def index : ops.Index where
  ids profiles := profiles.keys.toFinset
  Valid := Keyed
  keeps call _ h := h.call call
  list := by
    rintro s t _ h ⟨⟩
    exact ids_list h
  get := by
    intro s t id profile h hget
    have hsettle := settle_get id s
    rw [settle_of_ok hget] at hsettle
    split at hsettle
    · next p hp =>
        cases hsettle
        rw [List.mem_toFinset, Std.TreeMap.mem_keys, h id _ hp]
        exact Std.TreeMap.mem_iff_isSome_getElem?.mpr (by rw [hp]; rfl)
    · cases hsettle
  serves := by
    intro s t call answer h hserve
    cases call with
    | list =>
        obtain ⟨a, ⟨⟩, -⟩ := map_eq_ok.mp hserve
        rfl
    | get id =>
        obtain ⟨a, hget, -⟩ := map_eq_ok.mp hserve
        have hsettle := settle_get id s
        rw [settle_of_ok hget] at hsettle
        split at hsettle <;> cases hsettle
        rfl
    | create profile =>
        obtain ⟨a, hcreate, -⟩ := map_eq_ok.mp hserve
        rw [(put_eq_ok hcreate).2]
        ext id
        simp [StoreCall.serve, Std.LawfulEqCmp.compare_eq_iff_eq, eq_comm (a := id)]
    | update profile =>
        obtain ⟨a, hupdate, -⟩ := map_eq_ok.mp hserve
        obtain ⟨hfresh, rfl⟩ := put_eq_ok hupdate
        have hmem : profile.id ∈ s := by simpa using hfresh
        ext id
        rw [StoreCall.serve, List.mem_toFinset, List.mem_toFinset, Std.TreeMap.mem_keys,
          Std.TreeMap.mem_keys, Std.TreeMap.mem_insert]
        -- the id that is updated was a key before
        refine or_iff_right_of_imp fun heq => ?_
        rwa [← Std.LawfulEqCmp.eq_of_compare heq]
    | delete id =>
        obtain ⟨a, hdelete, -⟩ := map_eq_ok.mp hserve
        rw [delete_eq_ok hdelete]
        ext id'
        simp [StoreCall.serve, Std.LawfulEqCmp.compare_eq_iff_eq, eq_comm (a := id')]

end InMemoryProfileStore

end NetworkManager
