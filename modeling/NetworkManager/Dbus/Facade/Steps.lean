import NetworkManager.Dbus.Facade.Access

/-!
# Dbus — Facade — Steps

What the handlers do while the bus library refuses nothing: one lemma per step, with the state it
ends in.  The registries of the connections follow the events that are mirrored, and nothing else.
-/

namespace NetworkManager

open Effects Shared

variable {S E V : Type}

namespace Shared

/-! ### The daemon -/

/-- The state with these profiles. -/
def withProfiles (s : Shared S E) (profiles : S) : Shared S E :=
  { s with daemon := { s.daemon with profiles } }

/-- The state with this manager. -/
def withActivation (s : Shared S E) (activation : ActivationManager E) : Shared S E :=
  { s with daemon := { s.daemon with activation } }

section

variable {α : Type} {s : Shared S E} {a : α}

/-- A store call that succeeds. -/
theorem onStore_of_ok {x : EStateM StoreError S α} {profiles : S}
    (h : x s.daemon.profiles = .ok a profiles) :
    onStore (Daemon.onProfiles x) s = .ok a (s.withProfiles profiles) :=
  adaptExcept_of_ok ((zoom_of_ok (zoom_of_ok h)))

/-- A store call that fails. -/
theorem onStore_of_error {x : EStateM StoreError S α} {profiles : S} {e : StoreError}
    (h : x s.daemon.profiles = .error e profiles) :
    onStore (Daemon.onProfiles x) s = .error (.ofStoreError e) (s.withProfiles profiles) :=
  adaptExcept_of_error ((zoom_of_error (zoom_of_error h)))

/-- A call of the manager that succeeds. -/
theorem onManager_of_ok {x : EStateM ActivationError (ActivationManager E) α}
    {m : ActivationManager E} (h : x s.daemon.activation = .ok a m) :
    onManager (Daemon.onActivation x) s = .ok a (s.withActivation m) :=
  adaptExcept_of_ok ((zoom_of_ok (zoom_of_ok h)))

/-- A call of the manager that fails. -/
theorem onManager_of_error {x : EStateM ActivationError (ActivationManager E) α}
    {m : ActivationManager E} {e : ActivationError} (h : x s.daemon.activation = .error e m) :
    onManager (Daemon.onActivation x) s = .error (.ofActivationError e) (s.withActivation m) :=
  adaptExcept_of_error ((zoom_of_error (zoom_of_error h)))

end

/-! ### The bus -/

/-- The state with these connection objects. -/
def withConnections (s : Shared S E) (connections : AList fun _ : ProfileId => String) :
    Shared S E := { s with connections }

/-- The state with objects for these active connections. -/
def withActiveConnections (s : Shared S E) (activeConnections : Finset ActiveConnectionId) :
    Shared S E := { s with activeConnections }

/-- The core is the daemon, the checks, and what is registered. -/
theorem core_eq {s t : Shared S E} : t.core = s.core ↔ t.daemon = s.daemon ∧
    t.checks = s.checks ∧ t.connections = s.connections ∧
      t.activeConnections = s.activeConnections := by
  simp only [core, Prod.mk.injEq]

variable {env : Environment}

/-- A bus that is up takes every request. -/
theorem request_total (hup : env.BusUp) (r : BusRequest) :
    Total (request (S := S) (E := E) env r) := by
  unfold request
  rw [hup r]
  refine Total.bind (.pure ()) fun _ => ?_
  cases r with
  | emit signal => exact .modify _
  | register path | unregister path | ownedPath path => exact .pure _

/-- What the library takes leaves the core. -/
theorem request_up (hup : env.BusUp) (r : BusRequest) (s : Shared S E) :
    ∃ t, request env r s = .ok () t ∧ t.core = s.core := by
  obtain ⟨u, t, h⟩ := request_total hup r s
  exact ⟨t, h, (request_keeps env r).of_ok h⟩

/-- A signal is emitted, and the core is left. -/
theorem emit_up (hup : env.BusUp) (signal : Signal) (s : Shared S E) :
    ∃ t, emit env signal s = .ok () t ∧ t.core = s.core := by
  obtain ⟨t, h, hcore⟩ := request_up hup (.emit signal) s
  exact ⟨t, adaptExcept_of_ok h, hcore⟩

/-- Objects are registered, and the core is left. -/
theorem register_up (hup : env.BusUp) (paths : List String) (s : Shared S E) :
    ∃ t, register env paths s = .ok () t ∧ t.core = s.core := by
  obtain ⟨u, t, h⟩ := Total.forM (fun path => request_total hup (.register path)) paths s
  exact ⟨t, h, (register_keeps env paths).of_ok h⟩

theorem ownedPath_up (hup : env.BusUp) (path : String) (s : Shared S E) :
    ownedPath env path s = .ok path s := by
  rw [ownedPath, Environment.ownedPath, hup]
  rfl

/-- A connection is registered and recorded. -/
theorem registerConnectionObject_up (hup : env.BusUp) (profile : ConnectionProfile)
    (s : Shared S E) : ∃ t, registerConnectionObject env profile s = .ok () t ∧
      t.core = (s.withConnections (s.connections.insert profile.id
        (settingsConnectionPath (stableUuid profile.id)))).core := by
  obtain ⟨t, h, hcore⟩ := register_up hup [settingsConnectionPath (stableUuid profile.id)] s
  refine ⟨_, bind_of_ok h, ?_⟩
  obtain ⟨hdaemon, hchecks, hconnections, hactive⟩ := core_eq.mp hcore
  exact core_eq.mpr ⟨hdaemon, hchecks, congrArg (AList.insert profile.id _) hconnections, hactive⟩

/-- An active connection is registered and recorded. -/
theorem registerActiveConnectionObject_up (hup : env.BusUp) (active : ActiveConnection)
    (s : Shared S E) : ∃ t, registerActiveConnectionObject env active s = .ok () t ∧
      t.core = (s.withActiveConnections (insert active.id s.activeConnections)).core := by
  obtain ⟨t, h, hcore⟩ := register_up hup (activeObjectPaths active.id) s
  refine ⟨_, bind_of_ok h, ?_⟩
  obtain ⟨hdaemon, hchecks, hconnections, hactive⟩ := core_eq.mp hcore
  exact core_eq.mpr ⟨hdaemon, hchecks, hconnections, congrArg (insert active.id) hactive⟩

/-- A connection is unregistered and forgotten. -/
theorem unregisterConnection_up (hup : env.BusUp) (profileId : ProfileId) (s : Shared S E) :
    ∃ t, unregisterConnection env profileId s = .ok () t ∧
      t.core = (s.withConnections (s.connections.erase profileId)).core := by
  rw [unregisterConnection, get_bind]
  cases hlookup : s.connections.lookup profileId with
  | none =>
      have hmissing : profileId ∉ s.connections.entries.keys := AList.lookup_eq_none.mp hlookup
      refine ⟨s, rfl, core_eq.mpr ⟨rfl, rfl, ?_, rfl⟩⟩
      exact AList.ext (List.kerase_of_notMem_keys hmissing).symm
  | some path =>
      obtain ⟨t, h, hcore⟩ := request_up hup (.unregister path)
        (s.withConnections (s.connections.erase profileId))
      exact ⟨t, adaptExcept_of_ok h, hcore⟩

/-- The bus library's answers to a removal are ignored. -/
theorem unregisterActiveConnection_up (env : Environment) (id : ActiveConnectionId)
    (s : Shared S E) : ∃ t, unregisterActiveConnection env id s = .ok () t ∧
      t.core = (s.withActiveConnections (s.activeConnections.erase id)).core := by
  have htotal : ∀ path, Total (do
      let _ ← attempt (request env (.unregister path)) : Handler S E Unit) :=
    fun path => (Total.attempt _).bind fun _ => .pure _
  have hkeeps : ∀ path, Keeps (Same core) (do
      let _ ← attempt (request env (.unregister path)) : Handler S E Unit) :=
    fun path => (request_keeps env _).attempt.bind fun _ => .pure _
  obtain ⟨u, t, h⟩ := Total.forM htotal (activeObjectPaths id) s
  have hcore : t.core = s.core := Keeps.of_ok (.forM fun path _ => hkeeps path) h
  refine ⟨_, bind_of_ok h, ?_⟩
  obtain ⟨hdaemon, hchecks, hconnections, hactive⟩ := core_eq.mp hcore
  exact core_eq.mpr ⟨hdaemon, hchecks, hconnections, congrArg (Finset.erase · id) hactive⟩

/-! ### Signals -/

/-- The state of a device is told, and the core is left. -/
theorem emitDeviceState_up (hup : env.BusUp) (index : Int32) (newState : UInt32)
    (s : Shared S E) : ∃ t, emitDeviceState env index newState s = .ok () t ∧
      t.core = s.core := by
  rw [emitDeviceState, get_bind]
  by_cases hsame : (s.deviceStates.lookup index).getD nmDeviceStateUnknown = newState
  · rw [if_pos hsame]
    exact ⟨s, rfl, rfl⟩
  · obtain ⟨t, h, hcore⟩ := emit_up hup (.deviceStateChanged index newState 0 _)
      { s with deviceStates := s.deviceStates.insert index newState }
    obtain ⟨u, h', hcore'⟩ := emit_up hup (.devicePropertiesChanged index newState) t
    rw [if_neg hsame, modify_bind, bind_of_ok h]
    exact ⟨u, h', hcore'.trans hcore⟩

/-- The state of the network is told, and the core is left. -/
theorem emitRootStateIfChanged_up (hup : env.BusUp) (s : Shared S E) :
    ∃ t, emitRootStateIfChanged env s = .ok () t ∧ t.core = s.core := by
  rw [emitRootStateIfChanged, get_bind]
  by_cases hsame : currentNmState s.daemon = s.rootState
  · rw [if_pos hsame]
    exact ⟨s, rfl, rfl⟩
  · obtain ⟨t, h, hcore⟩ := emit_up hup (.stateChanged (currentNmState s.daemon))
      { s with rootState := currentNmState s.daemon }
    rw [if_neg hsame, modify_bind]
    exact ⟨t, h, hcore⟩

/-- The connection whose end an event reports. -/
def endedBy : ConnectionEvent → Option ActiveConnectionId
  | .deactivated activeId _ => some activeId
  | .stateChanged _ _ _ _ | .activated _ _ | .failed _ _ _ => none

/-- Mirroring takes from the bus the objects of the connections that have ended. -/
theorem mirrorEvent_up (hup : env.BusUp) (deviceByActive : DeviceByActive)
    (event : ConnectionEvent) (s : Shared S E) :
    ∃ devices t, mirrorEvent env deviceByActive event s = .ok devices t ∧
      t.core = (s.withActiveConnections
        (s.activeConnections \ (endedBy event).toFinset)).core := by
  cases event with
  | stateChanged activeId profileId previous current =>
      obtain ⟨t, h, hcore⟩ := emit_up hup (.activeStateChanged activeId (activeNmState current) 0
        (activeNmState previous)) s
      -- a change of state ends no connection
      have hended : (s.withActiveConnections (s.activeConnections \
          (endedBy (.stateChanged activeId profileId previous current)).toFinset)).core = s.core := by
        simp [core, withActiveConnections, endedBy]
      rw [mirrorEvent, bind_of_ok h, get_bind, hended]
      obtain ⟨index, hindex⟩ : ∃ index, ((t.activeById activeId).bind fun active =>
        env.backend.deviceIndexByName active.device.interfaceName) = index := ⟨_, rfl⟩
      cases index with
      | none =>
          simp only [hindex]
          exact ⟨_, t, rfl, hcore⟩
      | some index =>
          obtain ⟨u, h', hcore'⟩ := emitDeviceState_up hup index (connectionToDeviceState current) t
          simp only [hindex]
          exact ⟨_, u, (bind_of_ok h').trans rfl, hcore'.trans hcore⟩
  | deactivated activeId profileId =>
      obtain ⟨t, h, hcore⟩ := unregisterActiveConnection_up env activeId s
      obtain ⟨u, h', hcore'⟩ := emit_up hup (.activeConnectionRemoved (activePath activeId)) t
      rw [mirrorEvent, bind_of_ok h, bind_of_ok h']
      have hended : s.activeConnections \ (endedBy (.deactivated activeId profileId)).toFinset =
          s.activeConnections.erase activeId := by simp [endedBy, Finset.sdiff_singleton_eq_erase]
      rw [hended]
      cases hindex : deviceByActive.lookup activeId with
      | none => exact ⟨_, u, rfl, hcore'.trans hcore⟩
      | some index =>
          obtain ⟨v, h'', hcore''⟩ := emitDeviceState_up hup index nmDeviceStateDisconnected u
          exact ⟨_, v, (bind_of_ok h'').trans rfl, hcore''.trans (hcore'.trans hcore)⟩
  | activated activeId profileId | failed activeId profileId reason =>
      exact ⟨_, s, rfl, by simp [withActiveConnections, endedBy]⟩

/-- The active connections whose objects the events take from the bus. -/
def ended (events : List ConnectionEvent) : Finset ActiveConnectionId :=
  (events.filterMap endedBy).toFinset

theorem ended_cons (event : ConnectionEvent) (events : List ConnectionEvent) :
    ended (event :: events) = (endedBy event).toFinset ∪ ended events := by
  rw [ended, List.filterMap_cons]
  cases endedBy event with
  | none => simp [ended]
  | some id => simp [ended]

/-- After mirroring, the connections that ended have no object. -/
theorem mirrorEvents_up (hup : env.BusUp) (events : List ConnectionEvent)
    (deviceByActive : DeviceByActive) (s : Shared S E) :
    ∃ devices t, events.foldlM (mirrorEvent env) deviceByActive s = .ok devices t ∧
      t.core = (s.withActiveConnections (s.activeConnections \ ended events)).core := by
  induction events generalizing deviceByActive s with
  | nil => exact ⟨_, s, rfl, by simp [core, withActiveConnections, ended]⟩
  | cons event events ih =>
      obtain ⟨devices, t, h, hcore⟩ := mirrorEvent_up hup deviceByActive event s
      obtain ⟨devices', u, h', hcore'⟩ := ih devices t
      obtain ⟨hdaemon, hchecks, hconnections, hactive⟩ := core_eq.mp hcore
      refine ⟨devices', u, (bind_of_ok h).trans h', hcore'.trans ?_⟩
      refine core_eq.mpr ⟨hdaemon, hchecks, hconnections, ?_⟩
      show t.activeConnections \ ended events = s.activeConnections \ ended (event :: events)
      rw [hactive, ended_cons]
      exact sdiff_sdiff_left

/-- The state with no pending events, and with the objects of the ended connections gone. -/
def mirrored (s : Shared S E) : Shared S E :=
  (s.withActivation { s.daemon.activation with events := [] }).withActiveConnections
    (s.activeConnections \ ended s.daemon.activation.events)

/-- The events are drained and mirrored. -/
theorem emitConnectionEvents_up (hup : env.BusUp) (s : Shared S E) :
    ∃ t, emitConnectionEvents env s = .ok () t ∧ t.core = s.mirrored.core := by
  have hdrain : onManager Daemon.connectionEvents s = .ok s.daemon.activation.events
    (s.withActivation { s.daemon.activation with events := [] }) := onManager_of_ok rfl
  obtain ⟨devices, t, h, hcore⟩ := mirrorEvents_up hup s.daemon.activation.events ∅
    (s.withActivation { s.daemon.activation with events := [] })
  obtain ⟨u, h', hcore'⟩ := emitRootStateIfChanged_up hup t
  exact ⟨u, (bind_of_ok hdrain).trans ((bind_of_ok h).trans h'), hcore'.trans hcore⟩

/-! ### Activations -/

/-- A new connection's object is registered, and then the events are mirrored. -/
theorem announce_up (hup : env.BusUp) (active : ActiveConnection) (s : Shared S E) :
    ∃ path t, RootIface.announce env active s = .ok path t ∧
      t.core = (s.withActiveConnections (insert active.id s.activeConnections)).mirrored.core := by
  obtain ⟨t, h, hcore⟩ := registerActiveConnectionObject_up hup active s
  obtain ⟨u, h', hcore'⟩ := emit_up hup (.activeConnectionAdded (activePath active.id)) t
  obtain ⟨v, h'', hcore''⟩ := emitConnectionEvents_up hup u
  refine ⟨activePath active.id, v, ?_, hcore''.trans ?_⟩
  · rw [RootIface.announce, bind_of_ok (adaptExcept_of_ok h)]
    exact (bind_of_ok h').trans (bind_of_ok h'')
  · obtain ⟨hdaemon, hchecks, hconnections, hactive⟩ := core_eq.mp (hcore'.trans hcore)
    refine core_eq.mpr ⟨?_, hchecks, hconnections, ?_⟩
    · exact congrArg (fun d : Daemon S E =>
        { d with activation := { d.activation with events := [] } }) hdaemon
    · exact congrArg₂ (fun ids (d : Daemon S E) => ids \ ended d.activation.events) hactive hdaemon

end Shared

/-! ### Devices -/

/-- The connection that a method of a device is about. -/
theorem requireActive_eq {env : Environment} {index : Int32} {view : DeviceView}
    (h : env.backend.deviceView index = .ok view) (s : Shared S E) :
    DeviceIface.requireActive env index s = (MonadExcept.ofExcept
      (Results.okOr (.notActive view.interface) (s.deviceActive view.interface)) :
        Handler S E ActiveConnection) s := by
  rw [DeviceIface.requireActive, DeviceIface.interfaceName, h]
  show (do
    let active ← MonadExcept.ofExcept (DeviceIface.active env index (← get))
    MonadExcept.ofExcept (Results.okOr (.notActive view.interface) active) :
      Handler S E ActiveConnection) s = _
  rw [get_bind, DeviceIface.active, h]
  rfl

end NetworkManager
