import NetworkManager.Dbus.Facade.Mirror

/-!
# Dbus — Facade — References

The `Connection` property of a tracked connection, which names the settings object of its profile.
The manager and the store do not know of each other: a profile is deleted whether or not a
connection of it is tracked, and then the reference dangles for as long as the connection stays.
-/

namespace NetworkManager

open Effects Shared ActivationManager

variable {S E V : Type}

section

variable {svc : Services S E V} {index : svc.store.Index} {s : Shared S E} {call : MethodCall V}

/-- Every tracked connection is of a stored profile, and names the object registered for it. -/
def Shared.Referenced (index : svc.store.Index) (s : Shared S E) : Prop :=
  ∀ a ∈ s.daemon.activeConnections, a.profile.id ∈ index.ids s.daemon.profiles ∧
    ∃ path, s.connections.lookup a.profile.id = some path ∧
      ∀ env : Environment, env.BusUp → ActiveConnectionIface.connection env a.id s = .ok path

/-- If the store serves the call by deleting a profile, it is none that is tracked. -/
def Shared.SparesTracked (svc : Services S E V) (s : Shared S E) (call : MethodCall V) : Prop :=
  ∀ id answer profiles, call.writes svc s = some (.delete id) →
    svc.store.call (.delete id) s.daemon.profiles = .ok answer profiles →
    ∀ a ∈ s.daemon.activeConnections, a.profile.id ≠ id

/-- Every tracked connection is of a stored profile. -/
def Shared.Stored (index : svc.store.Index) (s : Shared S E) : Prop :=
  ∀ a ∈ s.daemon.activation.active, a.profile.id ∈ index.ids s.daemon.profiles

/-- Where each profile has its object, the connections refer to objects if they refer to profiles.
-/
theorem referenced_iff (hsound : s.Sound index)
    (hids : objectIds s.connections = index.ids s.daemon.profiles) :
    s.Referenced index ↔ s.Stored index := by
  refine ⟨fun h a ha => (h a ha).1, fun h a ha => ⟨h a ha, ?_⟩⟩
  obtain ⟨path, hpath⟩ : ∃ path, s.connections.lookup a.profile.id = some path := by
    have hmem := h a ha
    rw [← hids, mem_objectIds] at hmem
    exact Option.isSome_iff_exists.mp (AList.lookup_isSome.mpr hmem)
  refine ⟨path, hpath, fun env hup => ?_⟩
  have hactive : s.activeById a.id = some a := find_tracked hsound.1.1 ha
  rw [ActiveConnectionIface.connection, ActiveConnectionIface.active, hactive,
    hsound.2.2 a.profile.id path hpath]
  show (env.ownedPath (settingsConnectionPath (stableUuid a.profile.id))).mapError _ = _
  rw [Environment.ownedPath, hup]
  rfl

/-! ### What a call tracks -/

/-- What is tracked after a move was tracked before, or is offered by the store of the call. -/
theorem ActivationManager.Moves.profiles {engine : ActivationEngine E}
    {m m' : ActivationManager E} {op : Operation}
    {r : Except ActivationError Reply} (hmove : Moves engine m op r m') :
    ∀ b ∈ m'.active, (∃ a ∈ m.active, a.profile = b.profile) ∨
      op.Offers b.profile b.device := by
  have hkept : ∀ b ∈ m.active, ∃ a ∈ m.active, a.profile = b.profile := fun b hb => ⟨b, hb, rfl⟩
  intro b hb
  cases hmove with
  | refused hown => exact .inl (hkept b hb)
  | drained => exact .inl (hkept b hb)
  | activated hfresh hcall hoffers | stillborn hfresh hcall hoffers =>
      obtain hb | hb := List.mem_append.mp hb
      · exact .inl (hkept b hb)
      · rw [List.mem_singleton.mp hb]
        exact .inr hoffers
  | @deactivated before after a e hsplit hstate hcall =>
      refine .inl (hkept b ?_)
      rw [hsplit]
      exact ((List.sublist_cons_self a after).append_left before).subset hb
  | @broken before after a err e hsplit hstate hcall =>
      left
      rw [hsplit]
      obtain hb | rfl | hb : b ∈ before ∨ b = { a with state := .failed } ∨ b ∈ after := by
        simpa using hb
      · exact ⟨b, by simp [hb], rfl⟩
      · exact ⟨a, by simp, rfl⟩
      · exact ⟨b, by simp [hb], rfl⟩

/-- A profile that is offered is stored. -/
theorem Operation.Offers.stored {op : Operation} {store : ProfileStore}
    {profile : ConnectionProfile} {device : DeviceInfo} (h : op.Offers profile device)
    (huses : op.Uses store) : ∃ id, store.get id = .ok profile := by
  cases op with
  | activate store' device' | activateProfile store' id device' =>
      obtain ⟨-, -, hget⟩ := h
      cases huses
      exact hget
  | deactivate id | drainEvents => exact h.elim

theorem Manages.profiles {engine : ActivationEngine E} {store : ProfileStore}
    {before later : ActivationManager E × Finset ActiveConnectionId}
    (h : Manages engine store before later) :
    ∀ b ∈ later.1.active, (∃ a ∈ before.1.active, a.profile = b.profile) ∨
      ∃ id, store.get id = .ok b.profile := by
  intro b hb
  cases h with
  | left => exact .inl ⟨b, hb, rfl⟩
  | failed huses hmove | connected huses hmove | disconnected huses hmove =>
      exact (hmove.profiles b hb).imp_right fun hoffers => hoffers.stored huses

/-- The profile that is got has an id of the store. -/
theorem mem_ids_of_view {profiles : S} {id : ProfileId} {profile : ConnectionProfile}
    (hvalid : index.Valid profiles) (h : (svc.store.view profiles).get id = .ok profile) :
    profile.id ∈ index.ids profiles := by
  change (settle (svc.store.get id) profiles).1 = .ok profile at h
  cases hrun : svc.store.get id profiles with
  | ok p t =>
      rw [settle_of_ok hrun] at h
      cases h
      exact index.get hvalid hrun
  | error err t =>
      rw [settle_of_error hrun] at h
      cases h

/-! ### Deletions -/

/-- A check leaves the manager. -/
theorem authorize_manager (env : Environment) (sender : Option String) (action : String) :
    Keeps (Same fun s : Shared S E => s.daemon.activation) (authorize env sender action) :=
  fun s => by
    by_cases hyes : (env.check sender action).answer = .ok .yes
    · rw [after_of_ok (authorize_of_yes s hyes)]
      rfl
    · rw [after_of_error (authorize_of_denial s hyes)]
      rfl

/-- A call of the store leaves the manager. -/
theorem onStore_manager {α : Type} (x : EStateM StoreError S α) :
    Keeps (Same fun s : Shared S E => s.daemon.activation) (onStore (Daemon.onProfiles x)) :=
  fun s => by
    rw [after_onStore]
    rfl

/-- What keeps the daemon keeps the manager. -/
theorem manager_of_domain {s t : Shared S E} (h : Same domain s t) :
    Same (fun s : Shared S E => s.daemon.activation) s t :=
  congrArg (fun d : Daemon S E × List Check => d.1.activation) h

/-- A call that has a profile deleted leaves the manager. -/
theorem manager_of_delete {id : ProfileId} (h : call.writes svc s = some (.delete id)) :
    (step svc s call).daemon.activation = s.daemon.activation := by
  obtain ⟨env, sender, m⟩ := call
  have hwrites : m.writes svc env s = some (.delete id) := by
    rw [MethodCall.writes] at h
    split at h
    · exact h
    · cases h
  cases m with
  | delete profileId =>
      refine Keeps.map ((authorize_manager env sender _).bind fun _ => (onStore_manager _).bind
        fun _ => ?_) _ s
      exact .mono (fun _ _ => manager_of_domain) ((emit_domain env _).bind fun _ =>
        unregisterConnection_keeps env profileId)
  | deviceDelete index =>
      refine Keeps.map ((authorize_manager env sender _).bind fun _ => Keeps.bind ?_ fun _ =>
        (onStore_manager _).bind fun _ => ?_) _ s
      · exact (Keeps.ofExcept _).bind fun _ => .get_bind fun _ => (Keeps.ofExcept _).bind
          fun _ => .ofExcept _
      · exact .mono (fun _ _ => manager_of_domain) ((unregisterConnection_keeps env _).bind
          fun _ => emit_domain env _)
  -- the other methods that write to the store never delete
  | addConnection settings | addConnectionUnsaved settings | addConnection2 settings
  | addAndActivateConnection settings device | addAndActivateConnection2 settings device =>
      rw [Method.writes] at hwrites
      cases hp : svc.profileOf settings <;> simp [hp, Except.toOption] at hwrites
  | update profileId settings | updateUnsaved profileId settings =>
      rw [Method.writes] at hwrites
      cases hp : svc.profileOf settings with
      | error err => simp [hp, Except.toOption] at hwrites
      | ok p =>
          simp only [hp, Except.toOption, Option.bind_some] at hwrites
          split at hwrites <;> cases hwrites
  | _ => cases hwrites

/-! ### Steps -/

/-- A profile stays unless the store serves its deletion. -/
theorem mem_ids_stored {w : Option StoreCall} {settings : S × AList fun _ : ProfileId => String}
    (hvalid : index.Valid settings.1) (hleaves : LeavesIds index w settings.1) {id : ProfileId}
    (hid : id ∈ index.ids settings.1)
    (hspared : ∀ answer profiles, w = some (.delete id) →
      svc.store.call (.delete id) settings.1 ≠ .ok answer profiles) :
    id ∈ index.ids (svc.stored w settings).1 := by
  cases w with
  | none => exact hid
  | some e =>
      rw [Services.stored]
      cases hcall : svc.store.call e settings.1 with
      | error err profiles =>
          dsimp only
          rwa [hleaves e rfl err profiles hcall]
      | ok answer profiles =>
          dsimp only
          rw [index.serves hvalid hcall]
          cases e with
          | list | get id' | update profile => exact hid
          | create profile => exact Finset.mem_insert_of_mem hid
          | delete id' =>
              refine Finset.mem_erase_of_ne_of_mem ?_ hid
              rintro rfl
              exact hspared answer profiles rfl hcall

/-- **A call keeps the profiles of all connections stored exactly if** it spares them. -/
theorem stored_step_iff (hup : call.env.BusUp) (hsound : s.Sound index)
    (hleaves : LeavesIds index (call.writes svc s) s.daemon.profiles) (h : s.Stored index) :
    (step svc s call).Stored index ↔ s.SparesTracked svc call := by
  have hprofiles : (step svc s call).daemon.profiles =
      (svc.stored (call.writes svc s) s.settings).1 :=
    congrArg Prod.fst (step_settings hup s)
  constructor
  · intro hlater id answer profiles hwrites hcall a ha heq
    have hmanager := manager_of_delete hwrites
    have hmem := hlater a (by rwa [hmanager])
    rw [hprofiles, hwrites] at hmem
    have hstored : (svc.stored (some (.delete id)) s.settings).1 = profiles := by
      rw [Services.stored]
      simp only [show svc.store.call (.delete id) s.settings.1 = _ from hcall]
    rw [hstored, index.serves hsound.2.1 hcall, heq] at hmem
    exact Finset.notMem_erase _ _ hmem
  · intro hspares b hb
    have hvalid : index.Valid (step svc s call).daemon.profiles := by
      rw [hprofiles]
      exact valid_stored index hsound.2.1
    have hactivity : Manages svc.engine (svc.store.view (step svc s call).daemon.profiles) s.activity
        (step svc s call).activity := step_activity hup s
    obtain ⟨a, ha, hprofile⟩ | ⟨id, hget⟩ := hactivity.profiles b hb
    · rw [hprofiles, ← hprofile]
      exact mem_ids_stored hsound.2.1 hleaves (h a ha)
        fun answer profiles hwrites hcall => hspares _ answer profiles hwrites hcall a ha rfl
    · exact mem_ids_of_view hvalid hget

/-- Nothing is tracked yet, so that whatever is tracked after the call is of a stored profile. -/
theorem stored_step_of_empty (hup : call.env.BusUp) (hsound : s.Sound index)
    (hleaves : LeavesIds index (call.writes svc s) s.daemon.profiles)
    (hempty : s.daemon.activation.active = []) : (step svc s call).Stored index := by
  have hstored : s.Stored index := by simp [Stored, hempty]
  refine (stored_step_iff hup hsound hleaves hstored).mpr fun _ _ _ _ _ a ha => ?_
  rw [Daemon.activeConnections, hempty] at ha
  cases ha

/-- The deletion of a tracked profile leaves its connection dangling. -/
theorem not_referenced_of_delete (hup : call.env.BusUp) (hsound : s.Sound index)
    (hleaves : LeavesIds index (call.writes svc s) s.daemon.profiles) (hstored : s.Stored index)
    {id : ProfileId} (hwrites : call.writes svc s = some (.delete id))
    (hserved : ∃ answer profiles,
      svc.store.call (.delete id) s.daemon.profiles = .ok answer profiles)
    (htracked : ∃ a ∈ s.daemon.activation.active, a.profile.id = id) :
    ¬ (step svc s call).Referenced index := by
  intro h
  obtain ⟨answer, profiles, hcall⟩ := hserved
  obtain ⟨a, ha, hid⟩ := htracked
  exact (stored_step_iff hup hsound hleaves hstored).mp (fun a ha => (h a ha).1) id answer profiles
    hwrites hcall a ha hid

/-- A call keeps an object for each profile. -/
theorem objects_step (hup : call.env.BusUp) (hsound : s.Sound index)
    (hids : objectIds s.connections = index.ids s.daemon.profiles)
    (hleaves : LeavesIds index (call.writes svc s) s.daemon.profiles) :
    objectIds (step svc s call).connections = index.ids (step svc s call).daemon.profiles := by
  have hsettings : (step svc s call).settings = svc.stored (call.writes svc s) s.settings :=
    step_settings hup s
  rw [show (step svc s call).connections = _ from congrArg Prod.snd hsettings,
    show (step svc s call).daemon.profiles = _ from congrArg Prod.fst hsettings]
  exact (objectIds_stored_iff index hsound.2.1 hids).mpr hleaves

/-- In a run whose refused store calls leave the ids, there is an object for every stored profile. -/
theorem always_objects (hregistered : s.Sound index ∧ s.Mirrors index) {calls : List (MethodCall V)}
    (hup : ∀ call ∈ calls, call.env.BusUp)
    (hleaves : Runs.Throughout (step svc)
      (fun s call => LeavesIds index (call.writes svc s) s.daemon.profiles) s calls) :
    Runs.Always (step svc) (fun s => s.Sound index ∧
      objectIds s.connections = index.ids s.daemon.profiles) s calls := by
  refine .of_throughout (always_sound index hregistered.1 hup)
    ⟨hregistered.1, hregistered.2.2⟩ hleaves fun s call hcall hsound hs hleaves => ?_
  exact ⟨sound_step index (hup call hcall) hsound, objects_step (hup call hcall) hsound hs.2 hleaves⟩

end

/-- **References.**  From an empty manager on, every tracked connection is of a stored profile and
names the object registered for it, after every call of a run, exactly if no call has a profile
deleted that is tracked; as long as the calls that the store refuses leave the ids that it has. -/
theorem Shared.connections_referenced_iff (svc : Services S E V) (index : svc.store.Index)
    (env : Environment) (profiles : S) (e : E) (hvalid : index.Valid profiles) (s : Shared S E)
    (hregister : registerAll env svc { daemon := .withComponents profiles e } = .ok () s)
    (calls : List (MethodCall V)) (hup : ∀ call ∈ calls, call.env.BusUp)
    (hleaves : Runs.Throughout (step svc)
      (fun s call => LeavesIds index (call.writes svc s) s.daemon.profiles) s calls) :
    Runs.Always (step svc) (Referenced index) s calls ↔
      Runs.Throughout (step svc) (SparesTracked svc) s calls := by
  have hregistered := mirrors_registered index
    (History.run_settled svc.engine e []) hvalid hregister
  have hobjects := always_objects hregistered hup hleaves
  have hempty : s.Stored index := by
    obtain ⟨-, -, hdaemon, -⟩ := registerAll_ok hregister
    rw [Stored, hdaemon]
    simp [Daemon.withComponents, ActivationManager.new]
  refine Runs.always_iff_of_throughout hobjects hleaves
    ((referenced_iff hregistered.1 hregistered.2.2).mpr hempty) ?_
  rintro s call hcall ⟨hsound, hids⟩ hleaves hs
  rw [referenced_iff (sound_step index (hup call hcall) hsound)
    (objects_step (hup call hcall) hsound hids hleaves)]
  exact stored_step_iff (hup call hcall) hsound hleaves ((referenced_iff hsound hids).mp hs)

/-! ### A dangling reference -/

namespace Sample

/-- The store in memory keeps its profiles when it refuses a call. -/
theorem leavesIds (w : Option StoreCall) (profiles : InMemoryProfileStore) :
    LeavesIds index w profiles := by
  intro e _ err profiles' hcall
  rw [InMemoryProfileStore.unchanged_of_call_error hcall]

/-- The call that deletes a profile. -/
def deleteCall (id : ProfileId) : MethodCall Value :=
  ⟨environment allowAllAuthorization, some ":1.7", .delete id⟩

theorem deleteCall_writes (id : ProfileId) (s : Shared InMemoryProfileStore
    (List (Except ActivationError Unit))) :
    (deleteCall id).writes services s = some (.delete id) := rfl

/-- The wired profile can be deleted. -/
theorem delete_desk : ∃ answer profiles, services.store.call (.delete "desk")
    ((∅ : InMemoryProfileStore).insert "desk" manualProfile) = .ok answer profiles := by
  have hdelete := InMemoryProfileStore.settle_delete "desk"
    ((∅ : InMemoryProfileStore).insert "desk" manualProfile)
  rw [Std.TreeMap.getElem?_insert_self] at hdelete
  exact ⟨_, _, map_eq_ok.mpr ⟨(), ok_of_settle hdelete, rfl⟩⟩

/-- After the call the wired profile is active. -/
theorem addDesk_tracked : ∃ a, a ∈ (step services (shared [])
      (addDesk allowAllAuthorization (devicePath 3))).daemon.activation.active ∧
    a.profile.id = "desk" := by
  obtain ⟨hactive, -⟩ := addDesk_manager []
  have haccepted : (after (activateMatching scripted manualProfile device)
      (ActivationManager.new [])).active = [⟨⟨1⟩, manualProfile, device, .activated, {}⟩] := rfl
  rw [hactive, haccepted]
  exact ⟨_, List.mem_cons_self, rfl⟩

end Sample

/-- A profile is added, activated and deleted. -/
theorem Shared.connections_referenced_iff_desk :
    let calls := [Sample.addDesk allowAllAuthorization (devicePath 3), Sample.deleteCall "desk"]
    Runs.Always (step Sample.services) (Referenced Sample.index) (Sample.shared []) calls ↔
      Runs.Throughout (step Sample.services) (SparesTracked Sample.services) (Sample.shared [])
        calls :=
  connections_referenced_iff Sample.services Sample.index Sample.bare ∅ [] Sample.valid_empty
    (Sample.shared []) (Sample.registerAll_bare []) _
    (by simp [Sample.addDesk, Sample.deleteCall, Sample.environment_up])
    fun _ _ _ => Sample.leavesIds _ _

/-- The profile of an activated connection is deleted, and the connection stays. -/
theorem Shared.deleted_profile_dangles :
    ¬ ∀ (S E V : Type) (svc : Services S E V) (index : svc.store.Index) (env : Environment)
      (profiles : S) (e : E) (s : Shared S E) (first second : MethodCall V), index.Valid profiles →
      registerAll env svc { daemon := .withComponents profiles e } = .ok () s →
      first.env.BusUp → second.env.BusUp → (step svc (step svc s first) second).Referenced index := by
  intro hall
  have hup := Sample.environment_up allowAllAuthorization
  have hsound := (Sample.mirrors_shared []).1
  -- the second call deletes the profile that the first one has activated
  refine not_referenced_of_delete hup
    (sound_step Sample.index hup hsound) (Sample.leavesIds _ _)
    (stored_step_of_empty hup hsound (Sample.leavesIds _ _) rfl)
    (Sample.deleteCall_writes "desk" _) ?_ Sample.addDesk_tracked
    (hall _ _ _ Sample.services Sample.index Sample.bare ∅ [] (Sample.shared [])
      (Sample.addDesk allowAllAuthorization (devicePath 3)) (Sample.deleteCall "desk")
      Sample.valid_empty (Sample.registerAll_bare []) hup hup)
  rw [Sample.addDesk_profiles (devicePath 3) [] rfl]
  exact Sample.delete_desk

end NetworkManager
