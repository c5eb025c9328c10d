import NetworkManager.Dbus.Facade.Steps

/-!
# Dbus — Facade — Atomicity

When `AddAndActivateConnection` fails it has changed nothing, unless the profile was already
created: what comes later undoes nothing.
-/

namespace NetworkManager

open Effects Shared

variable {S E V : Type}

/-! ### Activations that the manager accepts -/

namespace ActivationManager

/-- The profile is there, matches the device, has no tracked connection, and the engine brings it
up. -/
def Accepts (engine : ActivationEngine E) (m : ActivationManager E) (store : ProfileStore)
    (profileId : ProfileId) (device : DeviceInfo) : Prop :=
  ∃ profile outcome e, store.get profileId = .ok profile ∧ profile.matches device = true ∧
    m.isActive profileId = false ∧ engine.activate profile device m.engine = .ok outcome e

variable {engine : ActivationEngine E} {m : ActivationManager E} {store : ProfileStore}
  {profileId : ProfileId} {device : DeviceInfo}

/-- A stored profile that matches and is not active is activated. -/
theorem activateProfile_eq {profile : ConnectionProfile} (hget : store.get profileId = .ok profile)
    (hmatch : profile.matches device = true) (hfresh : m.isActive profileId = false) :
    activateProfile engine store profileId device m = activateMatching engine profile device m := by
  simp only [activateProfile, hget, hmatch]
  rw [if_neg (by simp), get_bind, if_neg (by simp [hfresh])]

/-- What the manager accepts, it activates. -/
theorem activateProfile_of_accepts (h : Accepts engine m store profileId device) :
    ∃ active m', activateProfile engine store profileId device m = .ok active m' := by
  obtain ⟨profile, outcome, e, hget, hmatch, hfresh, hengine⟩ := h
  exact ⟨_, _, (activateProfile_eq hget hmatch hfresh).trans (activateMatching_of_ok hengine)⟩

/-- What the manager does not accept fails. -/
theorem activateProfile_of_not_accepts (h : ¬ Accepts engine m store profileId device) :
    ∃ err m', activateProfile engine store profileId device m = .error err m' := by
  obtain ⟨err, -, herr⟩ | ⟨profile, hget, hmatch, hfresh, hmatching⟩ :=
    activateProfile_cases engine m store profileId device
  · exact ⟨err, m, herr⟩
  · cases hengine : engine.activate profile device m.engine with
    | ok outcome e => exact (h ⟨profile, outcome, e, hget, hmatch, hfresh, hengine⟩).elim
    | error err e => exact ⟨err, _, hmatching.trans (activateMatching_of_error hengine)⟩

end ActivationManager

/-- The device path names a device on which the manager accepts the profile. -/
def Services.Accepts (svc : Services S E V) (env : Environment) (daemon : Daemon S E)
    (profileId : ProfileId) (device : String) : Prop :=
  ∃ info, RootIface.deviceInfo env device = .ok info ∧
    ActivationManager.Accepts svc.engine daemon.activation (svc.store.view daemon.profiles)
      profileId info

/-! ### The calls -/

section

variable {svc : Services S E V} {env : Environment} {settings : SettingsDict V} {device : String}
  {p : ConnectionProfile} {s : Shared S E}

/-- No profile can be made from an empty dictionary. -/
theorem settings_ne_nil (hp : svc.profileOf settings = .ok p) : settings ≠ [] := by
  rintro rfl
  cases hp

/-- With a device, it is the profile of the dictionary that is activated. -/
theorem activate_of_device {info : DeviceInfo} (hp : svc.profileOf settings = .ok p)
    (hinfo : RootIface.deviceInfo env device = .ok info) :
    RootIface.activate svc env settings device s =
      onManager (Daemon.activateProfile svc.store svc.engine p.id info) s := by
  unfold RootIface.activate
  rw [hinfo, ofExcept_bind, if_neg (settings_ne_nil hp), hp]
  rfl

/-- What the daemon accepts is activated, and only the manager changes. -/
theorem activate_of_accepts (hp : svc.profileOf settings = .ok p)
    (h : svc.Accepts env s.daemon p.id device) :
    ∃ active m, RootIface.activate svc env settings device s = .ok active (s.withActivation m) := by
  obtain ⟨info, hinfo, haccepts⟩ := h
  obtain ⟨active, m, hm⟩ := ActivationManager.activateProfile_of_accepts haccepts
  rw [activate_of_device hp hinfo]
  exact ⟨active, m, onManager_of_ok hm⟩

/-- What the daemon does not accept fails, and only the manager changes. -/
theorem activate_of_not_accepts (hp : svc.profileOf settings = .ok p)
    (h : ¬ svc.Accepts env s.daemon p.id device) :
    ∃ err m, RootIface.activate svc env settings device s = .error err (s.withActivation m) := by
  cases hinfo : RootIface.deviceInfo env device with
  | error err =>
      refine ⟨err, s.daemon.activation, ?_⟩
      unfold RootIface.activate
      rw [hinfo]
      rfl
  | ok info =>
      obtain ⟨err, m, hm⟩ := ActivationManager.activateProfile_of_not_accepts
        fun haccepts => h ⟨info, hinfo, haccepts⟩
      rw [activate_of_device hp hinfo]
      exact ⟨_, m, onManager_of_error hm⟩

/-- What follows once the store has created the profile. -/
theorem addAndActivate_of_created {profiles : S} (hup : env.BusUp) (device : String)
    (hp : svc.profileOf settings = .ok p)
    (hcreate : svc.store.create p s.daemon.profiles = .ok () profiles) :
    ∃ t : Shared S E, t.core = ((s.withProfiles profiles).withConnections
        (s.connections.insert p.id (settingsConnectionPath (stableUuid p.id)))).core ∧
      RootIface.addAndActivate svc env settings device s = (do
        let active ← RootIface.activate svc env settings device
        let path ← RootIface.announce env active
        return (settingsConnectionPath (stableUuid p.id), path)) t := by
  obtain ⟨t, h, hcore⟩ := registerConnectionObject_up hup p (s.withProfiles profiles)
  refine ⟨t, hcore, ?_⟩
  have hstore : onStore (Daemon.createProfile svc.store p) s = _ := onStore_of_ok hcreate
  unfold RootIface.addAndActivate
  rw [hp, ofExcept_bind, bind_of_ok hstore]
  exact bind_of_ok (adaptExcept_of_ok h)

/-- A call fails after its profile was created exactly if the activation is not accepted. -/
theorem addAndActivate_cases (hup : env.BusUp) (hp : svc.profileOf settings = .ok p)
    (device : String) {profiles : S}
    (hcreate : svc.store.create p s.daemon.profiles = .ok () profiles) :
    (svc.Accepts env (s.withProfiles profiles).daemon p.id device ∧
      ∃ paths t, RootIface.addAndActivate svc env settings device s = .ok paths t) ∨
    ¬ svc.Accepts env (s.withProfiles profiles).daemon p.id device ∧
      ∃ err t, RootIface.addAndActivate svc env settings device s = .error err t ∧
        t.daemon.profiles = profiles := by
  obtain ⟨t, hcore, hrun⟩ := addAndActivate_of_created hup device hp hcreate
  have hdaemon : t.daemon = (s.withProfiles profiles).daemon := (core_eq.mp hcore).1
  rw [hrun, ← hdaemon]
  by_cases haccepts : svc.Accepts env t.daemon p.id device
  · obtain ⟨active, m, hactive⟩ := activate_of_accepts hp haccepts
    obtain ⟨path, u, hannounce, -⟩ := announce_up hup active (t.withActivation m)
    exact .inl ⟨haccepts, _, u, (bind_of_ok hactive).trans ((bind_of_ok hannounce).trans rfl)⟩
  · obtain ⟨err, m, herr⟩ := activate_of_not_accepts hp haccepts
    refine .inr ⟨haccepts, err, t.withActivation m, bind_of_error herr, ?_⟩
    show t.daemon.profiles = profiles
    rw [hdaemon]
    rfl

/-- When a call that may change the store leaves it if it fails. -/
def LeavesStore (svc : Services S E V) (env : Environment) (settings : SettingsDict V)
    (device : String) (s : Shared S E) : Prop :=
  ∀ p, svc.profileOf settings = .ok p →
    match svc.store.create p s.daemon.profiles with
    | .error _ profiles => profiles = s.daemon.profiles
    | .ok _ profiles => svc.Accepts env (s.withProfiles profiles).daemon p.id device

/-- The state's profiles and connection objects are those of `s`. -/
def SameSettings (s t : Shared S E) : Prop :=
  t.daemon.profiles = s.daemon.profiles ∧ t.connections = s.connections

/-- Adding and activating is atomic exactly if it fails before the store is changed, or not at all.
-/
theorem addAndActivate_atomic_iff (hup : env.BusUp)
    (hadds : ∀ {p profiles profiles'}, svc.store.create p profiles = .ok () profiles' →
      profiles' ≠ profiles) :
    (∀ e t, RootIface.addAndActivate svc env settings device s = .error e t → SameSettings s t) ↔
      LeavesStore svc env settings device s := by
  cases hp : svc.profileOf settings with
  | error err =>
      have hrun : RootIface.addAndActivate svc env settings device s = .error err s := by
        unfold RootIface.addAndActivate
        rw [hp]
        rfl
      rw [LeavesStore, hrun, hp]
      exact iff_of_true (by rintro e t ⟨⟩; exact ⟨rfl, rfl⟩) (by rintro p ⟨⟩)
  | ok p =>
      have hleaves : LeavesStore svc env settings device s ↔
          match svc.store.create p s.daemon.profiles with
          | .error _ profiles => profiles = s.daemon.profiles
          | .ok _ profiles => svc.Accepts env (s.withProfiles profiles).daemon p.id device := by
        rw [LeavesStore, hp]
        exact ⟨fun h => h p rfl, by rintro h _ ⟨⟩; exact h⟩
      rw [hleaves]
      cases hcreate : svc.store.create p s.daemon.profiles with
      | error err profiles =>
          have hstore : onStore (Daemon.createProfile svc.store p) s = _ := onStore_of_error hcreate
          have hrun : RootIface.addAndActivate svc env settings device s =
              .error (.ofStoreError err) (s.withProfiles profiles) := by
            unfold RootIface.addAndActivate
            rw [hp, ofExcept_bind]
            exact bind_of_error hstore
          rw [hrun]
          exact ⟨fun h => (h _ _ rfl).1, by rintro h e t ⟨⟩; exact ⟨h, rfl⟩⟩
      | ok u profiles =>
          obtain ⟨haccepts, paths, t, hok⟩ | ⟨hrejects, err, t, herr, hprofiles⟩ :=
            addAndActivate_cases hup hp device hcreate
          · rw [hok]
            exact iff_of_true (by rintro e t ⟨⟩) haccepts
          -- the profile that was created is not taken back when its activation fails
          · refine iff_of_false (fun h => hadds hcreate ?_) hrejects
            rw [← hprofiles]
            exact (h err t herr).1

/-- The method fails when its handler does, and a denial changes nothing it answers for. -/
theorem perform_error_iff {m : Method V} {sender : Option String} (hup : env.BusUp)
    (hm : m = .addAndActivateConnection settings device ∨
      m = .addAndActivateConnection2 settings device)
    (hyes : env.authorization (.fromSender sender) actionNetworkControl = .ok .yes)
    {e : FacadeError} {t : Shared S E} :
    m.perform svc env sender s = .error e t ↔ RootIface.addAndActivate svc env settings device
      (s.asked [env.check sender actionNetworkControl]) = .error e t := by
  have hperform : m.perform svc env sender s = ((fun paths => .addedPaths paths.1 paths.2) <$>
      RootIface.addAndActivateConnection svc env sender settings device) s := by
    obtain rfl | rfl := hm <;> rfl
  rw [hperform, map_eq_error, RootIface.addAndActivateConnection,
    bind_of_ok (authorize_of_yes s hyes), bind_eq_error]
  refine or_iff_left ?_
  rintro ⟨⟨connectionPath, path⟩, u, -, hpaths⟩
  have hok : (do return (← ownedPath env connectionPath, ← ownedPath env path) :
      Handler S E (String × String)) u = .ok (connectionPath, path) u :=
    (bind_of_ok (ownedPath_up hup connectionPath u)).trans
      ((bind_of_ok (ownedPath_up hup path u)).trans rfl)
  cases hpaths.symm.trans hok

end

/-- **Atomicity.**  `AddAndActivateConnection` and `AddAndActivateConnection2` leave the profiles and
the connection objects whenever they fail, exactly if, for a sender that may control the network
and a dictionary that makes a profile: the store either refuses it without a trace, or creates it
and the manager then accepts its activation. -/
theorem add_and_activate_atomic_iff (svc : Services S E V) (env : Environment)
    (sender : Option String) (settings : SettingsDict V) (device : String) (m : Method V)
    (hm : m = .addAndActivateConnection settings device ∨
      m = .addAndActivateConnection2 settings device)
    (s : Shared S E) (hup : env.BusUp)
    (hadds : ∀ p profiles profiles', svc.store.create p profiles = .ok () profiles' →
      profiles' ≠ profiles) :
    (∀ e t, m.perform svc env sender s = .error e t → SameSettings s t) ↔
      (env.authorization (.fromSender sender) actionNetworkControl = .ok .yes →
        LeavesStore svc env settings device s) := by
  by_cases hyes : env.authorization (.fromSender sender) actionNetworkControl = .ok .yes
  · simp only [perform_error_iff hup hm hyes, hyes, forall_const]
    exact addAndActivate_atomic_iff (s := s.asked [_]) hup fun h => hadds _ _ _ h
  · refine iff_of_true (fun e t h => ?_) fun hyes' => absurd hyes' hyes
    have hdenied : after (m.perform svc env sender) s =
        s.asked [env.check sender actionNetworkControl] := by
      obtain rfl | rfl := hm <;>
        exact ((addAndActivateConnection_gated svc env sender settings device).map _).denied s hyes
    rw [after_of_error h] at hdenied
    rw [hdenied]
    exact ⟨rfl, rfl⟩

/-! ### A profile left behind -/

namespace Sample

theorem environment_up (authorization : Authorization) : (environment authorization).BusUp :=
  fun _ => rfl

/-- The backend has one wired device. -/
theorem enumerateDevices_backend :
    backend.enumerateDevices = .ok [⟨3, "eth0", .ethernet, none, true⟩] :=
  congrArg Except.ok (List.mergeSort_singleton _)

/-- The device has index 3. -/
theorem deviceView_backend :
    backend.deviceView 3 = .ok ⟨3, "eth0", .ethernet, none, true⟩ := by
  rw [NetworkBackend.deviceView, enumerateDevices_backend]
  rfl

/-- The device is the one at its path. -/
theorem deviceInfo_desk (authorization : Authorization) :
    RootIface.deviceInfo (environment authorization) (devicePath 3) = .ok device := by
  have hindex : pathIndex (devicePath 3) devicesPrefix = some 3 :=
    (pathIndex_append _ _).trans (by decide)
  rw [RootIface.deviceInfo, hindex]
  show (do
    let view ← backend.deviceView 3
    return view.toDeviceInfo) = _
  rw [deviceView_backend]
  rfl

theorem deviceInfo_root (env : Environment) :
    RootIface.deviceInfo env "/" = .error (.unknownDevice "/") := by
  have hshort : ¬ devicesPrefix.toList <+: "/".toList := fun h =>
    absurd h.length_le (by simp [devicesPrefix])
  have hindex : pathIndex "/" devicesPrefix = none := by
    rw [pathIndex, Text.stripPrefix_eq_none.mpr hshort]
    rfl
  rw [RootIface.deviceInfo, hindex]
  rfl

/-- The wired profile can be created. -/
theorem create_desk : services.store.create manualProfile (∅ : InMemoryProfileStore) =
    .ok () ((∅ : InMemoryProfileStore).insert "desk" manualProfile) := by
  have hput := InMemoryProfileStore.settle_put (fun profiles =>
    if profiles.contains manualProfile.id then some (.alreadyExists manualProfile.id) else none)
    manualProfile ∅
  exact ok_of_settle hput

/-- The wired profile can be read back. -/
theorem get_desk : (services.store.view ((∅ : InMemoryProfileStore).insert "desk"
    manualProfile)).get "desk" = .ok manualProfile := by
  have hget := InMemoryProfileStore.settle_get "desk"
    ((∅ : InMemoryProfileStore).insert "desk" manualProfile)
  rw [Std.TreeMap.getElem?_insert_self] at hget
  exact congrArg Prod.fst hget

/-- A wired device for which the engine has no error in store. -/
theorem leavesStore_desk (authorization : Authorization) :
    LeavesStore services (environment authorization) (deskDict 24) (devicePath 3)
      (shared []) := by
  intro p hp
  cases hp.symm.trans profileOf_deskDict
  show match services.store.create manualProfile (∅ : InMemoryProfileStore) with
    | .error _ profiles => profiles = ∅
    | .ok _ profiles => services.Accepts (environment authorization)
        ((shared []).withProfiles profiles).daemon "desk" (devicePath 3)
  rw [create_desk]
  exact ⟨device, deviceInfo_desk authorization, manualProfile, {}, [], get_desk, by decide, rfl, rfl⟩

end Sample

/-- The profile is accepted, and nothing is left to undo. -/
theorem add_and_activate_atomic_iff_desk :
    ¬ ∃ e t, (Method.addAndActivateConnection (deskDict 24) (devicePath 3)).perform Sample.services
        (Sample.environment allowAllAuthorization) (some ":1.7") (Sample.shared []) = .error e t ∧
      ¬ SameSettings (Sample.shared []) t := by
  rintro ⟨e, t, hcall, hchanged⟩
  exact hchanged ((add_and_activate_atomic_iff Sample.services
    (Sample.environment allowAllAuthorization) _ _ _ _ (.inl rfl) (Sample.shared [])
    (Sample.environment_up _) fun _ _ _ h => InMemoryProfileStore.create_ne h).mpr
      (fun _ => Sample.leavesStore_desk _) e t hcall)

/-- The device of the call is unknown, and the profile stays. -/
theorem failed_call_leaves_profile :
    ¬ ∀ (S E V : Type) (svc : Services S E V) (env : Environment) (sender : Option String)
      (settings : SettingsDict V) (device : String) (s : Shared S E), env.BusUp →
      ∀ e t, (Method.addAndActivateConnection settings device).perform svc env sender s =
        .error e t → SameSettings s t := by
  intro hall
  obtain ⟨⟨info, hinfo, -⟩, -⟩ | ⟨-, err, t, herr, hprofiles⟩ :=
    addAndActivate_cases (s := (Sample.shared []).asked [_])
      (Sample.environment_up allowAllAuthorization) Sample.profileOf_deskDict "/" Sample.create_desk
  · cases hinfo.symm.trans (Sample.deviceInfo_root _)
  · have hsame := hall _ _ _ Sample.services (Sample.environment allowAllAuthorization)
      (some ":1.7") (deskDict 24) "/" (Sample.shared []) (Sample.environment_up _) err t
      ((perform_error_iff (Sample.environment_up _) (.inl rfl) rfl).mpr herr)
    exact Sample.insert_desk_ne (hprofiles.symm.trans hsame.1)

end NetworkManager
