import NetworkManager.Dbus.Facade.Access
import NetworkManager.Dbus.Locks

/-!
# Dbus — Locks — Nesting

The guards of the handlers are nested: the daemon is locked first, and no mutex twice.

* `FacadeRequest.does`: run alone a handler does what the facade does, and its guards are nested in
  the order of `Mutex.rank`.
* `handlers_never_deadlock`: handlers that are served together do not block each other.
-/

namespace NetworkManager

open Locks Locks.Thread Effects Shared

variable {S E V ε : Type}

namespace Locking

/-! ### Shared -/

section

variable {svc : Services S E V} {env : Environment} {held : List Mutex}

/-- A mutex that is taken alone, or under the guard of the daemon. -/
theorem rank_lt {mutex : Mutex} (hmutex : mutex ≠ .daemon) :
    ∀ l ∈ [Mutex.daemon], l.rank < mutex.rank := by
  cases mutex <;> simp_all [Mutex.rank]

/-- A guard that nothing is held above. -/
theorem guarded_does {α : Type} {p : Prog Mutex ε (Shared S E) α} {x : EStateM ε (Shared S E) α}
    (mutex : Mutex) (h : Thread.Does Mutex.rank [mutex] p x) :
    Thread.Does Mutex.rank [] (guarded mutex p) x :=
  h.guarded fun _ hl => absurd hl List.not_mem_nil

/-- Results in sequence are steps in sequence. -/
theorem ofExcept_bind_except {α β σ : Type} (r : Except ε α) (f : α → Except ε β) :
    (MonadExcept.ofExcept (r >>= f) : EStateM ε σ β) =
      MonadExcept.ofExcept r >>= fun a => MonadExcept.ofExcept (f a) := by
  cases r <;> rfl

theorem deviceView_does (index : Int32) :
    Thread.Does Mutex.rank [] (deviceView (S := S) (E := E) env index)
      (MonadExcept.ofExcept (env.backend.deviceView index)) :=
  guarded_does .daemon (.ofExcept _)

theorem deviceIndexByName_does (iface : String) :
    Thread.Does Mutex.rank [] (deviceIndexByName (S := S) (E := E) env iface)
      (pure (env.backend.deviceIndexByName iface)) :=
  guarded_does .daemon (.pure _)

theorem deviceActive_does (iface : String) :
    Thread.Does Mutex.rank [] (deviceActive iface)
      (looking fun s : Shared S E => s.deviceActive iface) :=
  guarded_does .daemon (.lift _)

theorem activeById_does (id : ActiveConnectionId) :
    Thread.Does Mutex.rank [] (activeById id) (looking fun s : Shared S E => s.activeById id) :=
  guarded_does .daemon (.lift _)

/-- The registry is locked while the daemon is. -/
theorem connectionPathLookup_does (profileId : ProfileId) :
    Thread.Does Mutex.rank [.daemon] (connectionPathLookup profileId)
      (looking fun s : Shared S E => s.connections.lookup profileId) :=
  (Thread.Does.lift _).guarded (rank_lt (by simp))

theorem registerConnectionObject_does (profile : ConnectionProfile) :
    Thread.Does Mutex.rank [] (registerConnectionObject env profile)
      (Shared.registerConnectionObject (S := S) (E := E) env profile) :=
  (Thread.Does.lift _).bind fun _ => guarded_does .connections (.lift _)

theorem registerActiveConnectionObject_does (active : ActiveConnection) :
    Thread.Does Mutex.rank [] (registerActiveConnectionObject env active)
      (Shared.registerActiveConnectionObject (S := S) (E := E) env active) :=
  (Thread.Does.lift _).bind fun _ => guarded_does .activeConnections (.lift _)

theorem unregisterActiveConnection_does (id : ActiveConnectionId) :
    Thread.Does Mutex.rank [] (unregisterActiveConnection env id)
      (Shared.unregisterActiveConnection (S := S) (E := E) env id) :=
  (Thread.Does.lift _).bind fun _ => guarded_does .activeConnections (.lift _)

/-- Unregistering, as taking the path and telling the bus. -/
theorem unregisterConnection_parts (profileId : ProfileId) :
    Shared.unregisterConnection (S := S) (E := E) env profileId =
      dropPath profileId >>= fun path => match path with
        | none => pure ()
        | some path => EStateM.adaptExcept
            (fun error => .internal ("failed to unregister " ++ path ++ ": " ++ error))
            (request env (.unregister path)) := by
  funext s
  rw [Shared.unregisterConnection, dropPath, bind_assoc, get_bind, get_bind]
  cases s.connections.lookup profileId <;> rfl

/-- The path is taken under the mutex, and the bus is told without it. -/
theorem unregisterConnection_does (profileId : ProfileId) :
    Thread.Does Mutex.rank [] (unregisterConnection env profileId)
      (Shared.unregisterConnection (S := S) (E := E) env profileId) := by
  rw [unregisterConnection_parts]
  refine (guarded_does .connections (.lift _)).bind fun path => ?_
  cases path with
  | none => exact .pure _
  | some path => exact .lift _

theorem emitDeviceState_does (index : Int32) (newState : UInt32) :
    Thread.Does Mutex.rank [] (emitDeviceState env index newState)
      (Shared.emitDeviceState (S := S) (E := E) env index newState) :=
  guarded_does .deviceStates (.lift _)

/-- The state is computed under one mutex, and compared under another. -/
theorem emitRootStateIfChanged_does :
    Thread.Does Mutex.rank [] (emitRootStateIfChanged env)
      (Shared.emitRootStateIfChanged (S := S) (E := E) env) := by
  have hparts : Shared.emitRootStateIfChanged (S := S) (E := E) env =
      (looking fun s => currentNmState s.daemon) >>= tellRootState env := rfl
  rw [hparts]
  exact (guarded_does .daemon (.lift _)).bind fun _ => guarded_does .rootState (.lift _)

/-- What is left of a state change once it was told: the device follows. -/
theorem followDevice_does (deviceByActive : DeviceByActive) (activeId : ActiveConnectionId)
    (current : ConnectionState) : Thread.Does Mutex.rank [] (do
      match ← activeById activeId with
      | none => return deviceByActive
      | some active =>
        match ← deviceIndexByName env active.device.interfaceName with
        | none => return deviceByActive
        | some index =>
          emitDeviceState env index (connectionToDeviceState current)
          return deviceByActive.insert activeId index) (do
      let index := ((← get : Shared S E).activeById activeId).bind fun active =>
        env.backend.deviceIndexByName active.device.interfaceName
      match index with
      | none => return deviceByActive
      | some index =>
        Shared.emitDeviceState env index (connectionToDeviceState current)
        return deviceByActive.insert activeId index) := by
  -- both looks are made under their own mutex, so the one expression is split in two
  have hparts : (do
      let index := ((← get : Shared S E).activeById activeId).bind fun active =>
        env.backend.deviceIndexByName active.device.interfaceName
      match index with
      | none => return deviceByActive
      | some index =>
        Shared.emitDeviceState env index (connectionToDeviceState current)
        return deviceByActive.insert activeId index : Handler S E DeviceByActive) = (do
      match ← looking fun s => s.activeById activeId with
      | none => return deviceByActive
      | some active =>
        match ← pure (env.backend.deviceIndexByName active.device.interfaceName) with
        | none => return deviceByActive
        | some index =>
          Shared.emitDeviceState env index (connectionToDeviceState current)
          return deviceByActive.insert activeId index) := by
    funext s
    rw [looking, bind_assoc, get_bind, get_bind, pure_bind]
    cases s.activeById activeId with
    | none => rfl
    | some active => rw [Option.bind_some]; rfl
  rw [hparts]
  refine (activeById_does activeId).bind fun active => ?_
  cases active with
  | none => exact .pure _
  | some active =>
      refine (deviceIndexByName_does _).bind fun index => ?_
      cases index with
      | none => exact .pure _
      | some index => exact (emitDeviceState_does _ _).bind fun _ => .pure _

/-- Mirroring an event takes the mutexes one after the other. -/
theorem mirrorEvent_does (deviceByActive : DeviceByActive) (event : ConnectionEvent) :
    Thread.Does Mutex.rank [] (mirrorEvent env deviceByActive event)
      (Shared.mirrorEvent (S := S) (E := E) env deviceByActive event) := by
  cases event with
  | stateChanged activeId profileId previous current =>
      exact (Thread.Does.lift _).bind fun _ => followDevice_does _ _ _
  | deactivated activeId profileId =>
      refine (unregisterActiveConnection_does _).bind fun _ => (Thread.Does.lift _).bind fun _ => ?_
      cases deviceByActive.lookup activeId with
      | none => exact .pure _
      | some index => exact (emitDeviceState_does _ _).bind fun _ => .pure _
  | activated activeId profileId | failed activeId profileId reason => exact .pure _

/-- Whatever events are pending. -/
theorem emitConnectionEvents_does :
    Thread.Does Mutex.rank [] (emitConnectionEvents env)
      (Shared.emitConnectionEvents (S := S) (E := E) env) :=
  (guarded_does .daemon (.lift _)).bind fun events =>
    (Thread.Does.foldlM mirrorEvent_does ∅ events).bind fun _ => emitRootStateIfChanged_does

/-! ### The root object -/

theorem deviceInfo_does (device : String) :
    Thread.Does Mutex.rank [] (deviceInfo (S := S) (E := E) env device)
      (MonadExcept.ofExcept (RootIface.deviceInfo env device)) := by
  have hparts : (MonadExcept.ofExcept (RootIface.deviceInfo env device) :
      Handler S E DeviceInfo) = (do
      let index ← MonadExcept.ofExcept
        (Results.okOr (.unknownDevice device) (pathIndex device devicesPrefix))
      let view ← MonadExcept.ofExcept (env.backend.deviceView (Int32.ofNat index))
      return view.toDeviceInfo) := by
    rw [RootIface.deviceInfo, ofExcept_bind_except]
    refine congrArg _ (funext fun index => ?_)
    rw [ofExcept_bind_except]
    rfl
  rw [hparts]
  exact (Thread.Does.ofExcept _).bind fun _ => (deviceView_does _).bind fun _ => .pure _

theorem activate_does (settings : SettingsDict V) (device : String) :
    Thread.Does Mutex.rank [] (activate svc env settings device)
      (RootIface.activate svc env settings device) := by
  refine (deviceInfo_does device).bind fun info => guarded_does .daemon ?_
  split
  · exact .lift _
  · exact (Thread.Does.ofExcept _).bind fun _ => .lift _

/-- Announcing takes the mutexes one after the other. -/
theorem announce_does (active : ActiveConnection) :
    Thread.Does Mutex.rank [] (announce env active) (RootIface.announce (S := S) (E := E) env active) :=
  ((registerActiveConnectionObject_does active).adaptExcept _).bind fun _ =>
    (Thread.Does.lift _).bind fun _ => emitConnectionEvents_does.bind fun _ => .pure _

theorem activateConnection_does (sender : Option String) (settings : SettingsDict V)
    (device : String) : Thread.Does Mutex.rank [] (activateConnection svc env sender settings device)
      (RootIface.activateConnection svc env sender settings device) :=
  (Thread.Does.lift _).bind fun _ => (activate_does settings device).bind fun active =>
    (announce_does active).bind fun _ => .lift _

theorem addAndActivate_does (settings : SettingsDict V) (device : String) :
    Thread.Does Mutex.rank [] (addAndActivate svc env settings device)
      (RootIface.addAndActivate svc env settings device) :=
  (Thread.Does.ofExcept _).bind fun profile => (guarded_does .daemon (.lift _)).bind fun _ =>
    ((registerConnectionObject_does profile).adaptExcept _).bind fun _ =>
      (activate_does settings device).bind fun active =>
        (announce_does active).bind fun _ => .pure _

theorem addAndActivateConnection_does (sender : Option String) (settings : SettingsDict V)
    (device : String) :
    Thread.Does Mutex.rank [] (addAndActivateConnection svc env sender settings device)
      (RootIface.addAndActivateConnection svc env sender settings device) :=
  (Thread.Does.lift _).bind fun _ => (addAndActivate_does settings device).bind fun _ =>
    (Thread.Does.lift _).bind fun _ => (Thread.Does.lift _).bind fun _ => .pure _

/-- Deactivating and mirroring take them one after the other. -/
theorem deactivateConnection_does (sender : Option String) (active : String) :
    Thread.Does Mutex.rank [] (deactivateConnection svc env sender active)
      (RootIface.deactivateConnection svc env sender active) := by
  have hparts : RootIface.deactivateConnection svc env sender active = (do
      authorize env sender actionNetworkControl
      (do
        let id ← MonadExcept.ofExcept (RootIface.activeId active)
        onManager (Daemon.deactivate svc.engine id))
      Shared.emitConnectionEvents env) := by
    simp only [RootIface.deactivateConnection, bind_assoc]
  rw [hparts]
  refine (Thread.Does.lift _).bind fun _ => (guarded_does .daemon ?_).bind fun _ =>
    emitConnectionEvents_does
  exact (Thread.Does.ofExcept _).bind fun _ => .lift _

/-- What is read in sequence is read in steps. -/
theorem reading_bind {α β : Type} (f : Shared S E → Except FacadeError α)
    (g : α → Shared S E → Except FacadeError β) :
    (reading fun s => f s >>= fun a => g a s) = reading f >>= fun a => reading (g a) := by
  funext s
  show (MonadExcept.ofExcept (f s >>= fun a => g a s) : Handler S E β) s =
    ((MonadExcept.ofExcept (f s) : Handler S E α) >>= fun a => reading (g a)) s
  cases f s <;> rfl

theorem getDevices_does : Thread.Does Mutex.rank [] (getDevices (S := S) (E := E) env)
    (reading fun _ => RootIface.getDevices env) := by
  have hparts : (reading fun _ => RootIface.getDevices env : Handler S E (List String)) = (do
      let devices ← MonadExcept.ofExcept env.backend.enumerateDevices
      return env.ownedPaths (devices.map fun device => devicePath device.index)) :=
    ofExcept_bind_except env.backend.enumerateDevices _
  rw [hparts]
  exact (guarded_does .daemon (.ofExcept _)).bind fun _ => .pure _

theorem getDeviceByIpIface_does (iface : String) :
    Thread.Does Mutex.rank [] (getDeviceByIpIface (S := S) (E := E) env iface)
      (reading fun _ => RootIface.getDeviceByIpIface env iface) := by
  have hparts : (reading fun _ => RootIface.getDeviceByIpIface env iface : Handler S E String) = (do
      let index ← pure (env.backend.deviceIndexByName iface)
      let index ← MonadExcept.ofExcept (Results.okOr (.unknownDevice iface) index)
      ownedPath env (devicePath index)) :=
    ofExcept_bind_except _ _
  rw [hparts]
  exact (deviceIndexByName_does iface).bind fun _ => (Thread.Does.ofExcept _).bind fun _ => .lift _

theorem checkConnectivity_does : Thread.Does Mutex.rank [] checkConnectivity
    (reading fun s : Shared S E => .ok (RootIface.checkConnectivity s)) :=
  guarded_does .daemon (.lift _)

/-! ### The settings object -/

/-- The paths are looked up one by one, each under the mutex of the registry. -/
theorem profilePaths_does (profiles : List ConnectionProfile) :
    Thread.Does Mutex.rank [.daemon] (profilePaths profiles) (looking fun s : Shared S E =>
      profiles.filterMap fun profile => s.connections.lookup profile.id) := by
  induction profiles with
  | nil => exact .pure _
  | cons profile profiles ih =>
      have hparts : (looking fun s : Shared S E =>
          (profile :: profiles).filterMap fun profile => s.connections.lookup profile.id :
            Handler S E (List String)) = (do
          let path ← looking fun s => s.connections.lookup profile.id
          let paths ← looking fun s =>
            profiles.filterMap fun profile => s.connections.lookup profile.id
          return path.toList ++ paths) := by
        funext s
        show EStateM.Result.ok ((profile :: profiles).filterMap fun profile =>
            s.connections.lookup profile.id) s =
          EStateM.Result.ok ((s.connections.lookup profile.id).toList ++
            profiles.filterMap fun profile => s.connections.lookup profile.id) s
        rw [List.filterMap_cons]
        cases s.connections.lookup profile.id <;> rfl
      rw [hparts]
      exact (connectionPathLookup_does profile.id).bind fun _ => ih.bind fun _ => .pure _

theorem listConnections_does : Thread.Does Mutex.rank [] (listConnections svc env)
    (reading (SettingsIface.listConnections svc env)) := by
  have hparts : reading (SettingsIface.listConnections svc env) = (do
      let paths ← (do
        let profiles ← listProfiles svc
        looking fun s => profiles.filterMap fun profile => s.connections.lookup profile.id)
      return env.ownedPaths paths : Handler S E (List String)) := by
    rw [bind_assoc]
    exact reading_bind _ fun (profiles : List ConnectionProfile) s => pure (env.ownedPaths
      (profiles.filterMap fun profile => s.connections.lookup profile.id))
  rw [hparts]
  refine (guarded_does .daemon ?_).bind fun _ => .pure _
  exact (Thread.Does.lift _).bind fun profiles => profilePaths_does profiles

/-- The path of a profile with the UUID is looked up before those of the others. -/
theorem looking_cons {uuid : String} {profile : ConnectionProfile}
    {profiles : List ConnectionProfile} (huuid : stableUuid profile.id = uuid) :
    (looking fun s : Shared S E =>
      ((profile :: profiles).filter fun profile => stableUuid profile.id = uuid).findSome?
        fun profile => s.connections.lookup profile.id : Handler S E (Option String)) = (do
      match ← looking fun s => s.connections.lookup profile.id with
      | some path => return some path
      | none =>
        looking fun s =>
          (profiles.filter fun profile => stableUuid profile.id = uuid).findSome?
            fun profile => s.connections.lookup profile.id) := by
  funext s
  rw [looking, looking, bind_assoc, get_bind, get_bind, pure_bind,
    List.filter_cons_of_pos (by simpa using huuid), List.findSome?_cons]
  cases s.connections.lookup profile.id <;> rfl

/-- The look-up ends at the first profile that has a path. -/
theorem pathOfUuid_does (uuid : String) (profiles : List ConnectionProfile) :
    Thread.Does Mutex.rank [.daemon] (pathOfUuid uuid profiles) (looking fun s : Shared S E =>
      (profiles.filter fun profile => stableUuid profile.id = uuid).findSome? fun profile =>
        s.connections.lookup profile.id) := by
  induction profiles with
  | nil => exact .pure _
  | cons profile profiles ih =>
      rw [pathOfUuid]
      by_cases huuid : stableUuid profile.id = uuid
      · rw [looking_cons huuid, if_pos huuid]
        refine (connectionPathLookup_does profile.id).bind fun path => ?_
        cases path with
        | some path => exact .pure _
        | none => exact ih
      · rw [if_neg huuid]
        have hskip : (profile :: profiles).filter (fun profile => stableUuid profile.id = uuid) =
            profiles.filter fun profile => stableUuid profile.id = uuid :=
          List.filter_cons_of_neg (by simpa using huuid)
        rw [hskip]
        exact ih

/-- `GetConnectionByUuid`, as its parts. -/
theorem getConnectionByUuid_parts (uuid : String) :
    (reading fun s => SettingsIface.getConnectionByUuid svc env s uuid) = (do
      let profiles ← listProfiles svc
      let path ← looking fun s : Shared S E => List.findSome?
        (fun profile => s.connections.lookup profile.id)
        (profiles.filter fun profile => stableUuid profile.id = uuid)
      match path with
      | some path => ownedPath env path
      | none => MonadExcept.ofExcept (.error (.unknownConnection uuid)) : Handler S E String) := by
  refine (reading_bind _ _).trans (congrArg _ (funext fun profiles => funext fun s => ?_))
  rw [reading, looking, bind_assoc, get_bind, get_bind, pure_bind]
  cases (profiles.filter fun profile => stableUuid profile.id = uuid).findSome? fun profile =>
    s.connections.lookup profile.id <;> rfl

theorem getConnectionByUuid_does (uuid : String) :
    Thread.Does Mutex.rank [] (getConnectionByUuid svc env uuid)
      (reading fun s => SettingsIface.getConnectionByUuid svc env s uuid) := by
  rw [getConnectionByUuid_parts]
  refine guarded_does .daemon ((Thread.Does.lift _).bind fun profiles =>
    (pathOfUuid_does uuid profiles).bind fun path => ?_)
  cases path with
  | some path => exact .lift _
  | none => exact .ofExcept _

/-- The handler that adds a connection. -/
theorem addConnectionWith_does (announced : Bool) (sender : Option String)
    (settings : SettingsDict V) :
    Thread.Does Mutex.rank [] (addConnectionWith svc env announced sender settings)
      (SettingsIface.addConnectionWith svc env announced sender settings) := by
  have htell (profile : ConnectionProfile) :
      (do
        if announced then emit env (.newConnection (settingsConnectionPath (stableUuid profile.id)))
        ownedPath env (settingsConnectionPath (stableUuid profile.id)) : Handler S E String) = (do
        (if announced then
          emit env (.newConnection (settingsConnectionPath (stableUuid profile.id)))
        else pure ())
        ownedPath env (settingsConnectionPath (stableUuid profile.id))) := by
    cases announced <;> rfl
  refine (Thread.Does.lift _).bind fun _ => (Thread.Does.ofExcept _).bind fun profile =>
    (guarded_does .daemon (.lift _)).bind fun _ =>
      ((registerConnectionObject_does profile).adaptExcept _).bind fun _ => ?_
  refine (htell profile) ▸ ?_
  exact (Thread.Does.lift _).bind fun _ => .lift _

/-! ### Connection objects -/

theorem profile_does (profileId : ProfileId) : Thread.Does Mutex.rank [] (profile svc profileId)
    (reading (SettingsConnectionIface.profile svc profileId)) :=
  guarded_does .daemon (.lift _)

theorem getSettings_does (profileId : ProfileId) : Thread.Does Mutex.rank [] (getSettings svc profileId)
    (reading (SettingsConnectionIface.getSettings svc profileId)) := by
  have hparts : reading (SettingsConnectionIface.getSettings svc profileId) = (do
      return svc.settingsOf (← reading (SettingsConnectionIface.profile svc profileId)) :
        Handler S E (SettingsDict V)) := reading_bind _ _
  rw [hparts]
  exact (profile_does profileId).bind fun _ => .pure _

/-- The handler that overwrites a connection. -/
theorem update_does (profileId : ProfileId) (sender : Option String) (settings : SettingsDict V) :
    Thread.Does Mutex.rank [] (update svc env profileId sender settings)
      (SettingsConnectionIface.update svc env profileId sender settings) := by
  refine (Thread.Does.lift _).bind fun _ => (Thread.Does.ofExcept _).bind fun profile => ?_
  by_cases hid : profile.id ≠ profileId
  · rw [if_pos hid, if_pos hid]
    exact .ofExcept _
  · rw [if_neg hid, if_neg hid]
    exact (guarded_does .daemon (.lift _)).bind fun _ => .lift _

theorem delete_does (profileId : ProfileId) (sender : Option String) :
    Thread.Does Mutex.rank [] (delete svc env profileId sender)
      (SettingsConnectionIface.delete svc env profileId sender) :=
  (Thread.Does.lift _).bind fun _ => (guarded_does .daemon (.lift _)).bind fun _ =>
    (Thread.Does.lift _).bind fun _ => unregisterConnection_does profileId

/-! ### Device objects -/

theorem active_does (index : Int32) : Thread.Does Mutex.rank [] (active env index)
    (reading (DeviceIface.active (S := S) (E := E) env index)) := by
  have hparts : reading (DeviceIface.active env index) = (do
      let view ← MonadExcept.ofExcept (env.backend.deviceView index)
      looking fun s => s.deviceActive view.interface :
        Handler S E (Option ActiveConnection)) :=
    reading_bind (fun _ => env.backend.deviceView index) _
  rw [hparts]
  exact (deviceView_does index).bind fun _ => deviceActive_does _

theorem currentState_does (index : Int32) : Thread.Does Mutex.rank [] (currentState env index)
    (reading (DeviceIface.currentState (S := S) (E := E) env index)) := by
  have hparts : reading (DeviceIface.currentState env index) = (do
      let view ← MonadExcept.ofExcept (env.backend.deviceView index)
      return view.stateWith (← reading (DeviceIface.active env index)) :
        Handler S E UInt32) := by
    refine (reading_bind (fun _ => env.backend.deviceView index) _).trans
      (congrArg _ (funext fun view => ?_))
    exact reading_bind (DeviceIface.active env index) _
  rw [hparts]
  exact (deviceView_does index).bind fun _ => (active_does index).bind fun _ => .pure _

theorem getAppliedConnection_does (index : Int32) :
    Thread.Does Mutex.rank [] (getAppliedConnection svc env index)
      (reading (DeviceIface.getAppliedConnection svc env index)) := by
  have hparts : reading (DeviceIface.getAppliedConnection svc env index) = (do
      let active ← reading (DeviceIface.active env index)
      return (active.map fun active => svc.settingsOf active.profile).getD [] :
        Handler S E (SettingsDict V)) := reading_bind _ _
  rw [hparts]
  exact (active_does index).bind fun _ => .pure _

theorem requireActive_does (index : Int32) : Thread.Does Mutex.rank [] (requireActive env index)
    (DeviceIface.requireActive (S := S) (E := E) env index) := by
  have hparts : DeviceIface.requireActive (S := S) (E := E) env index = (do
      let view ← MonadExcept.ofExcept (env.backend.deviceView index)
      let active ← reading (DeviceIface.active env index)
      MonadExcept.ofExcept (Results.okOr (.notActive view.interface) active)) := by
    rw [DeviceIface.requireActive, DeviceIface.interfaceName, ofExcept_bind_except, bind_assoc]
    refine congrArg _ (funext fun view => funext fun s => ?_)
    rw [reading, bind_assoc]
    rfl
  rw [hparts]
  exact (deviceView_does index).bind fun _ => (active_does index).bind fun _ => .ofExcept _

theorem disconnect_does (index : Int32) (sender : Option String) :
    Thread.Does Mutex.rank [] (disconnect svc env index sender)
      (DeviceIface.disconnect svc env index sender) :=
  (Thread.Does.lift _).bind fun _ => (requireActive_does index).bind fun _ =>
    (guarded_does .daemon (.lift _)).bind fun _ => emitConnectionEvents_does

theorem deviceDelete_does (index : Int32) (sender : Option String) :
    Thread.Does Mutex.rank [] (deviceDelete svc env index sender)
      (DeviceIface.delete svc env index sender) :=
  (Thread.Does.lift _).bind fun _ => (requireActive_does index).bind fun _ =>
    (guarded_does .daemon (.lift _)).bind fun _ =>
      (unregisterConnection_does _).bind fun _ => .lift _

theorem availableConnections_does (index : Int32) :
    Thread.Does Mutex.rank [] (availableConnections svc env index)
      (reading (DeviceIface.availableConnections svc env index)) := by
  have hparts : reading (DeviceIface.availableConnections svc env index) = (do
      let view ← MonadExcept.ofExcept (env.backend.deviceView index)
      let profiles ← listProfiles svc
      let paths ← looking fun s => (profiles.filter fun profile =>
        profile.matches view.toDeviceInfo).filterMap fun profile => s.connections.lookup profile.id
      return env.ownedPaths paths : Handler S E (List String)) := by
    refine (reading_bind (fun _ => env.backend.deviceView index) _).trans
      (congrArg _ (funext fun view => ?_))
    exact reading_bind _ fun (profiles : List ConnectionProfile) s => pure (env.ownedPaths
      ((profiles.filter fun profile => profile.matches view.toDeviceInfo).filterMap
        fun profile => s.connections.lookup profile.id))
  rw [hparts]
  exact guarded_does .daemon ((Thread.Does.ofExcept _).bind fun view =>
    (Thread.Does.lift _).bind fun profiles =>
    (profilePaths_does _).bind fun _ => .pure _)

/-! ### Wireless devices and access points -/

/-- The access points are looked at under the mutex of the daemon. -/
theorem allAccessPoints_does (index : Int32) :
    Thread.Does Mutex.rank [] (allAccessPoints (S := S) (E := E) env index)
      (reading fun _ => WirelessIface.allAccessPoints env index) := by
  have hparts : (reading fun _ => WirelessIface.allAccessPoints env index :
      Handler S E (List String)) = (do
      let primary ← MonadExcept.ofExcept env.backend.wifiIndex
      if primary ≠ some index then return []
      else do
        let paths ← pure (Shared.accessPointPaths env)
        return env.ownedPaths paths) := by
    refine (reading_bind (fun _ => env.backend.wifiIndex) _).trans
      (congrArg _ (funext fun primary => ?_))
    split <;> rfl
  rw [hparts]
  refine (guarded_does .daemon (.ofExcept _)).bind fun primary => ?_
  split
  · exact .pure _
  · exact (guarded_does .daemon (.pure _)).bind fun _ => .pure _

/-! ### Active connections -/

theorem activeConnection_does (id : ActiveConnectionId) :
    Thread.Does Mutex.rank [] (activeConnection id)
      (reading (ActiveConnectionIface.active (S := S) (E := E) id)) := by
  have hparts : reading (ActiveConnectionIface.active id) = (do
      let active ← looking fun s => s.activeById id
      MonadExcept.ofExcept (Results.okOr (.unknownActiveConnection (toString id)) active) :
        Handler S E ActiveConnection) := rfl
  rw [hparts]
  exact (activeById_does id).bind fun _ => .ofExcept _

theorem activeDevices_does (id : ActiveConnectionId) : Thread.Does Mutex.rank [] (activeDevices env id)
    (reading (ActiveConnectionIface.devices (S := S) (E := E) env id)) := by
  have hparts : reading (ActiveConnectionIface.devices env id) = (do
      let active ← reading (ActiveConnectionIface.active id)
      let index ← pure (env.backend.deviceIndexByName active.device.interfaceName)
      return env.ownedPaths (index.map devicePath).toList : Handler S E (List String)) :=
    reading_bind _ _
  rw [hparts]
  exact (activeConnection_does id).bind fun _ => (deviceIndexByName_does _).bind fun _ => .pure _

end

/-! ### Requests -/

section

variable {svc : Services S E V} {env : Environment}

/-- Every method does what the facade does, with nested guards. -/
theorem method_does (sender : Option String) (method : Method V) :
    Thread.Does Mutex.rank [] (Locking.method svc env sender method)
      (method.perform svc env sender) := by
  cases method with
  | getDevices | getAllDevices => exact getDevices_does.map _
  | getDeviceByIpIface iface => exact (getDeviceByIpIface_does iface).map _
  | activateConnection settings device => exact (activateConnection_does sender settings device).map _
  | addAndActivateConnection settings device | addAndActivateConnection2 settings device =>
      exact (addAndActivateConnection_does sender settings device).map _
  | deactivateConnection active => exact (deactivateConnection_does sender active).map _
  | sleep | enable | reload | getPermissions | loadConnections | reloadConnections
  | saveHostname => exact (Thread.Does.lift _).map _
  | setLogging | getLogging | deviceStateReasons | getDeviceStateReasons | getSecrets _
  | getSettingsFlags _ => exact .pure _
  | checkConnectivity | checkConnectivityFull | getConnectivity => exact checkConnectivity_does.map _
  | listConnections => exact listConnections_does.map _
  | getConnectionByUuid uuid => exact (getConnectionByUuid_does uuid).map _
  | addConnection settings | addConnectionUnsaved settings | addConnection2 settings =>
      exact (addConnectionWith_does _ sender settings).map _
  | getSettings profileId | getAppliedConnection profileId => exact (getSettings_does profileId).map _
  | update profileId settings | updateUnsaved profileId settings =>
      exact (update_does profileId sender settings).map _
  | delete profileId => exact (delete_does profileId sender).map _
  | deviceReapply _ | deviceSetManaged _ => exact .ofExcept _
  | deviceGetAppliedConnection index => exact (getAppliedConnection_does index).map _
  | deviceDisconnect index => exact (disconnect_does index sender).map _
  | deviceDelete index => exact (deviceDelete_does index sender).map _

/-- So does every getter. -/
theorem property_does (p : Property) :
    Thread.Does Mutex.rank [] (property svc env p) (reading fun s => p.get svc env s) := by
  have hmap {α : Type} (f : Shared S E → Except FacadeError α) (g : α → PropertyValue) :
      (reading fun s => g <$> f s) = g <$> reading f := by
    funext s
    show (MonadExcept.ofExcept (g <$> f s) : Handler S E PropertyValue) s =
      (g <$> (MonadExcept.ofExcept (f s) : Handler S E α)) s
    cases f s <;> rfl
  cases p with
  | constant => exact .pure _
  | devices => exact hmap (fun _ => env.backend.enumerateDevices) _ ▸
      (guarded_does .daemon (.ofExcept _)).map _
  | activeConnections => exact (guarded_does .daemon (.lift _)).map _
  | connections => exact hmap (SettingsIface.listConnections svc env) _ ▸
      listConnections_does.map _
  | deviceView index => exact hmap (fun _ => env.backend.deviceView index) _ ▸
      (deviceView_does index).map _
  | deviceState index => exact hmap (DeviceIface.currentState env index) _ ▸
      (currentState_does index).map _
  | deviceActive index => exact hmap (DeviceIface.active env index) _ ▸ (active_does index).map _
  | availableConnections index => exact hmap (DeviceIface.availableConnections svc env index) _ ▸
      (availableConnections_does index).map _
  | accessPoints index => exact hmap (fun _ => WirelessIface.allAccessPoints env index) _ ▸
      (allAccessPoints_does index).map _
  | accessPoint bssid => exact (guarded_does .daemon (.pure _)).map _
  | activeConnection id => exact hmap (ActiveConnectionIface.active id) _ ▸
      (activeConnection_does id).map _
  | activeDevices id => exact hmap (ActiveConnectionIface.devices env id) _ ▸
      (activeDevices_does id).map _
  | outcome id => exact (activeById_does id).map _

end

end Locking

/-- The handlers do what the facade does, with nested guards. -/
theorem FacadeRequest.does (svc : Services S E V) (request : FacadeRequest V) :
    Thread.Does Mutex.rank [] (request.locking svc) (request.handle svc) := by
  cases request with
  | method call => exact (Locking.method_does call.sender call.method).map _
  | property env p => exact (Locking.property_does p).map _
  | accessPoints env index => exact (Locking.allAccessPoints_does index).map _
  | requestScan answer => exact (Locking.guarded_does .daemon (.ofExcept _)).map _

/-! ### Handlers that are served together -/

/-- The requests, each with a thread of its own, none of which has moved yet. -/
def Shared.serving (svc : Services S E V) (s : Shared S E) (requests : List (FacadeRequest V)) :
    Config Mutex (Shared S E) (Except FacadeError (FacadeAnswer V)) :=
  ⟨s, requests.map fun request => .start (request.locking svc)⟩

/-- **No handler deadlocks.**  Whenever a handler asks for a mutex, it does not hold it already, and
all that it holds come before it; handlers that are served together never block each other, and all
of them end.  Alone, each does what the facade does. -/
theorem handlers_never_deadlock (svc : Services S E V) (s : Shared S E)
    (requests : List (FacadeRequest V))
    (c : Config Mutex (Shared S E) (Except FacadeError (FacadeAnswer V)))
    (h : Relation.ReflTransGen Step (s.serving svc requests) c) :
    (∀ t ∈ c.threads, ∀ mutex, t.Wants mutex →
        mutex ∉ t.held ∧ ∀ held ∈ t.held, held.rank < mutex.rank) ∧
      ¬ c.Deadlocked ∧ (¬ ∃ run : ℕ → _, run 0 = c ∧ ∀ n, Step (run n) (run (n + 1))) ∧
      ∀ request ∈ requests, ∀ s, exec (request.locking svc) s = settle (request.handle svc) s := by
  have hstart : ∀ t ∈ (s.serving svc requests).threads, t.Nested Mutex.rank := by
    intro t ht
    obtain ⟨request, -, rfl⟩ := List.mem_map.mp ht
    exact (FacadeRequest.does svc request).nested
  have hnested := nested_steps hstart h
  refine ⟨fun t ht mutex hwants => ⟨fun hheld => ?_, fun held hheld => ?_⟩, no_deadlock hnested, ?_,
    fun request _ s => (FacadeRequest.does svc request).exec_eq s⟩
  · exact absurd (rank_lt_of_wants (hnested t ht) hwants hheld) (Nat.lt_irrefl _)
  · exact rank_lt_of_wants (hnested t ht) hwants hheld
  · rintro ⟨run, -, hrun⟩
    exact (wellFounded_iff_isEmpty_descending_chain.mp step_wellFounded).false ⟨run, hrun⟩

/-- Method calls may be served one after another, and then do what the facade does in turn. -/
theorem Shared.serving_in_turn (svc : Services S E V) (s : Shared S E)
    (calls : List (MethodCall V)) :
    ∃ c, Relation.ReflTransGen Step (s.serving svc (calls.map .method)) c ∧
      (∀ t ∈ c.threads, t.Finished) ∧ c.state = run svc s calls := by
  have hexec (s : Shared S E) (call : MethodCall V) :
      (exec (FacadeRequest.locking svc (.method call)) s).2 = step svc s call := by
    rw [(FacadeRequest.does svc (.method call)).exec_eq, settle_snd]
    exact after_map _ _ _
  obtain ⟨ended, hsteps, hended⟩ := steps_in_turn
    (fun call : MethodCall V => (FacadeRequest.does svc (.method call)).nested) s calls [] (by simp)
  simp only [hexec] at hsteps
  refine ⟨⟨run svc s calls, ended⟩, ?_, hended, rfl⟩
  rw [serving, List.map_map]
  exact hsteps

/-- Two clients ask for the active connections; the first has the daemon already. -/
theorem handlers_never_deadlock_two :
    let request : FacadeRequest Value :=
      .property (Sample.environment allowAllAuthorization) .activeConnections
    ∃ c, Relation.ReflTransGen Step
        ((Sample.shared []).serving Sample.services [request, request]) c ∧
      (∃ t ∈ c.threads, Mutex.daemon ∈ t.held) ∧ ¬ c.Deadlocked := by
  intro request
  have hstep : Step ((Sample.shared []).serving Sample.services [request, request]) _ :=
    .acquire [] _ (by simp [Running.start])
  refine ⟨_, .single hstep, ⟨_, List.mem_cons_self, List.mem_cons_self⟩, ?_⟩
  exact (handlers_never_deadlock Sample.services (Sample.shared []) [request, request] _
    (.single hstep)).2.1

end NetworkManager
