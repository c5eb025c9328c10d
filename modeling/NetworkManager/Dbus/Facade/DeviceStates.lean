import NetworkManager.Dbus.Facade.Mirror
import NetworkManager.Dbus.Facade.Reports

/-!
# Dbus — Facade — DeviceStates

The states that the bus is told of the devices.  The events of the manager are replayed once it has
gone on (`replay`): an activation is found among the tracked connections and is recorded step by
step, and a deactivation, which is no longer among them, is not recorded at all.

* `Shared.bus_tracks_domain_iff`: the runs after whose calls no event is pending, and every device
  is recorded as activated exactly if a connection on its interface is.
-/

namespace NetworkManager

open Effects Shared ActivationManager

variable {S E V : Type}

/-- The state that is recorded for each device. -/
abbrev DeviceStates := AList fun _ : Int32 => UInt32

/-! ### The replay -/

/-- The states once `newState` has been emitted for the device at `index`. -/
def DeviceStates.record (states : DeviceStates) (index : Int32) (newState : UInt32) : DeviceStates :=
  if (states.lookup index).getD nmDeviceStateUnknown = newState then states
  else states.insert index newState

/-- The states once an event has been mirrored, with the devices of the connections that were
found. -/
def replay (backend : NetworkBackend) (active : List ActiveConnection)
    (r : DeviceByActive × DeviceStates) : ConnectionEvent → DeviceByActive × DeviceStates
  | .stateChanged activeId _ _ current =>
    match (active.find? fun a => a.id == activeId).bind fun a =>
        backend.deviceIndexByName a.device.interfaceName with
    | none => r
    | some index =>
      (r.1.insert activeId index,
        DeviceStates.record r.2 index (connectionToDeviceState current))
  | .deactivated activeId _ =>
    match r.1.lookup activeId with
    | none => r
    | some index => (r.1.erase activeId, DeviceStates.record r.2 index nmDeviceStateDisconnected)
  | .activated _ _ | .failed _ _ _ => r

section

variable {states : DeviceStates} {index other : Int32} {newState : UInt32}

/-- A state is recorded, unless it is unknown. -/
theorem lookup_record (h : newState ≠ nmDeviceStateUnknown) :
    (DeviceStates.record states index newState).lookup index = some newState := by
  rw [DeviceStates.record]
  split
  · next heq =>
      cases hlookup : states.lookup index with
      | none =>
          rw [hlookup] at heq
          exact absurd heq.symm h
      | some state =>
          rw [hlookup] at heq
          exact congrArg some heq
  · exact AList.lookup_insert states

/-- The other devices keep theirs. -/
theorem lookup_record_ne (h : other ≠ index) :
    (DeviceStates.record states index newState).lookup other = states.lookup other := by
  rw [DeviceStates.record]
  split
  · rfl
  · exact AList.lookup_insert_ne h

variable {backend : NetworkBackend} {active : List ActiveConnection} {a : ActiveConnection}

variable (backend) in
/-- An event of a device records the state that the connection has reached. -/
theorem replay_of_device {r : DeviceByActive × DeviceStates} {activeId : ActiveConnectionId}
    (hindex : (active.find? fun a => a.id == activeId).bind
      (fun a => backend.deviceIndexByName a.device.interfaceName) = some index)
    (profileId : ProfileId) (previous current : ConnectionState) :
    replay backend active r (.stateChanged activeId profileId previous current) =
      (r.1.insert activeId index, DeviceStates.record r.2 index (connectionToDeviceState current)) := by
  simp only [replay, hindex]

variable (backend) in
/-- An event of no device records nothing. -/
theorem replay_of_no_device {r : DeviceByActive × DeviceStates} {activeId : ActiveConnectionId}
    (hindex : (active.find? fun a => a.id == activeId).bind
      (fun a => backend.deviceIndexByName a.device.interfaceName) = none)
    (profileId : ProfileId) (previous current : ConnectionState) :
    replay backend active r (.stateChanged activeId profileId previous current) = r := by
  simp only [replay, hindex]

/-- An activation that is found leaves the device activated. -/
theorem replay_upLog (backend : NetworkBackend)
    (hfind : active.find? (fun b => b.id == a.id) = some a)
    (profileId : ProfileId) (states : DeviceStates) (other : Int32) :
    ((ConnectionEvent.upLog a.id profileId).foldl (replay backend active) (∅, states)).2.lookup
      other = if backend.deviceIndexByName a.device.interfaceName = some other then
        some nmDeviceStateActivated else states.lookup other := by
  have hdone : ∀ r, replay backend active r (.activated a.id profileId) = r := fun _ => rfl
  cases hindex : backend.deviceIndexByName a.device.interfaceName with
  | none =>
      have hstep := fun r => replay_of_no_device backend (r := r) (by rw [hfind]; exact hindex)
        profileId
      simp only [ConnectionEvent.upLog, List.foldl_cons, List.foldl_nil, hstep, hdone]
      simp
  | some index =>
      have hstep := fun r => replay_of_device backend (r := r) (by rw [hfind]; exact hindex)
        profileId
      simp only [ConnectionEvent.upLog, List.foldl_cons, List.foldl_nil, hstep, hdone,
        connectionToDeviceState]
      by_cases hother : other = index
      · subst hother
        rw [if_pos rfl]
        exact lookup_record (by decide)
      · rw [if_neg fun heq => hother (Option.some.inj heq).symm]
        simp only [lookup_record_ne hother]

/-- A connection that is gone when its end is replayed leaves the states as they are. -/
theorem replay_downLog (backend : NetworkBackend) {activeId : ActiveConnectionId}
    (hfind : active.find? (fun b => b.id == activeId) = none) (profileId : ProfileId)
    (states : DeviceStates) :
    ((ConnectionEvent.downLog activeId profileId).foldl (replay backend active) (∅, states)).2 =
      states := by
  simp [ConnectionEvent.downLog, replay, hfind]

end

/-! ### What the handlers emit -/

/-- What the replay reads and writes. -/
def Shared.screen (s : Shared S E) :
    ActivationManager E × (AList fun _ : Int32 => String) × DeviceStates :=
  (s.daemon.activation, s.devices, s.deviceStates)

section

variable {env : Environment} {s t : Shared S E}

/-- The screen is the manager, the devices and their states. -/
theorem screen_eq : t.screen = s.screen ↔ t.daemon.activation = s.daemon.activation ∧
    t.devices = s.devices ∧ t.deviceStates = s.deviceStates := by
  simp only [screen, Prod.mk.injEq]

/-- The bus does not change the screen. -/
theorem request_screen (r : BusRequest) : Keeps (Same (screen (S := S) (E := E))) (request env r) := by
  refine (Keeps.ofExcept _).bind fun _ => ?_
  cases r with
  | emit signal => exact .modify fun _ => rfl
  | register path | unregister path | ownedPath path => exact .pure _

theorem emit_screen (signal : Signal) :
    Keeps (Same (screen (S := S) (E := E))) (emit env signal) := (request_screen _).adaptExcept

/-- What is asked, stored or told does not change the screen. -/
theorem steady_screen (env : Environment) : Steady env (Same (screen (S := S) (E := E))) where
  asked _ _ := rfl
  stored _ _ := rfl
  connected _ _ := rfl
  requested r _ := request_screen r

theorem registerActiveConnectionObject_screen (active : ActiveConnection) :
    Keeps (Same (screen (S := S) (E := E))) (registerActiveConnectionObject env active) :=
  ((steady_screen env).register _).bind fun _ => .modify fun _ => rfl

theorem unregisterActiveConnection_screen (id : ActiveConnectionId) :
    Keeps (Same (screen (S := S) (E := E))) (unregisterActiveConnection env id) :=
  Keeps.bind (.forM fun _ _ => (request_screen _).attempt.bind fun _ => .pure _) fun _ =>
    .modify fun _ => rfl

theorem emitRootStateIfChanged_screen :
    Keeps (Same (screen (S := S) (E := E))) (emitRootStateIfChanged env) := by
  refine .get_bind fun s => ?_
  dsimp only
  split
  · exact .pure _
  · exact Keeps.bind (.modify fun _ => rfl) fun _ => emit_screen _

/-- A state that is told is recorded. -/
theorem emitDeviceState_ok {index : Int32} {newState : UInt32}
    (h : emitDeviceState env index newState s = .ok () t) :
    t.screen = (s.daemon.activation, s.devices, DeviceStates.record s.deviceStates index newState) := by
  rw [emitDeviceState, get_bind] at h
  by_cases hsame : (s.deviceStates.lookup index).getD nmDeviceStateUnknown = newState
  · rw [if_pos hsame] at h
    cases h
    rw [DeviceStates.record, if_pos hsame]
    rfl
  · rw [if_neg hsame, modify_bind] at h
    obtain ⟨⟨⟩, u, hu, ht⟩ := bind_eq_ok.mp h
    rw [DeviceStates.record, if_neg hsame]
    exact ((emit_screen _).of_ok ht).trans ((emit_screen _).of_ok hu)

/-- Mirroring an event records what replaying it does. -/
theorem mirrorEvent_ok {deviceByActive devices : DeviceByActive} {event : ConnectionEvent}
    (h : mirrorEvent env deviceByActive event s = .ok devices t) :
    let r := replay env.backend s.daemon.activation.active (deviceByActive, s.deviceStates) event
    devices = r.1 ∧ t.screen = (s.daemon.activation, s.devices, r.2) := by
  cases event with
  | stateChanged activeId profileId previous current =>
      obtain ⟨⟨⟩, u, hu, h⟩ := bind_eq_ok.mp h
      obtain ⟨hmanager, hdevices, hstates⟩ := screen_eq.mp ((emit_screen _).of_ok hu)
      rw [get_bind] at h
      -- the signal leaves the manager, so the connection is looked up in the same list
      have hactive : u.activeById activeId =
          s.daemon.activation.active.find? fun a => a.id == activeId := by
        rw [← hmanager]
        rfl
      rw [hactive] at h
      cases hindex : (s.daemon.activation.active.find? fun a => a.id == activeId).bind fun a =>
          env.backend.deviceIndexByName a.device.interfaceName with
      | none =>
          simp only [hindex] at h
          cases h
          rw [replay_of_no_device _ hindex]
          exact ⟨rfl, screen_eq.mpr ⟨hmanager, hdevices, hstates⟩⟩
      | some index =>
          simp only [hindex] at h
          obtain ⟨⟨⟩, v, hv, h⟩ := bind_eq_ok.mp h
          cases h
          rw [replay_of_device _ hindex]
          refine ⟨rfl, (emitDeviceState_ok hv).trans ?_⟩
          rw [hmanager, hdevices, hstates]
  | deactivated activeId profileId =>
      obtain ⟨⟨⟩, u, hu, h⟩ := bind_eq_ok.mp h
      obtain ⟨⟨⟩, v, hv, h⟩ := bind_eq_ok.mp h
      obtain ⟨hmanager, hdevices, hstates⟩ := screen_eq.mp
        (((emit_screen _).of_ok hv).trans ((unregisterActiveConnection_screen _).of_ok hu))
      cases hindex : deviceByActive.lookup activeId with
      | none =>
          simp only [hindex] at h
          cases h
          simp only [replay, hindex]
          exact ⟨trivial, screen_eq.mpr ⟨hmanager, hdevices, hstates⟩⟩
      | some index =>
          simp only [hindex] at h
          obtain ⟨⟨⟩, w, hw, h⟩ := bind_eq_ok.mp h
          cases h
          simp only [replay, hindex]
          refine ⟨trivial, (emitDeviceState_ok hw).trans ?_⟩
          rw [hmanager, hdevices, hstates]
  | activated activeId profileId | failed activeId profileId reason =>
      cases h
      exact ⟨rfl, rfl⟩

/-- Mirroring the events records what replaying them does. -/
theorem mirrorEvents_ok {events : List ConnectionEvent} {deviceByActive devices : DeviceByActive}
    (h : events.foldlM (mirrorEvent env) deviceByActive s = .ok devices t) :
    t.screen = (s.daemon.activation, s.devices,
      (events.foldl (replay env.backend s.daemon.activation.active)
        (deviceByActive, s.deviceStates)).2) := by
  induction events generalizing deviceByActive s with
  | nil =>
      cases h
      rfl
  | cons event events ih =>
      obtain ⟨devices', u, hu, h⟩ := bind_eq_ok.mp h
      obtain ⟨rfl, hscreen⟩ := mirrorEvent_ok hu
      obtain ⟨hmanager, hdevices, hstates⟩ : u.daemon.activation = s.daemon.activation ∧
          u.devices = s.devices ∧ u.deviceStates = _ := by
        simpa only [screen, Prod.mk.injEq] using hscreen
      rw [ih h, hmanager, hdevices, hstates]
      rfl

/-- The manager's events are gone and replayed. -/
def Shared.replayed (env : Environment) (s : Shared S E) :
    ActivationManager E × (AList fun _ : Int32 => String) × DeviceStates :=
  let m := s.daemon.activation
  ({ m with events := [] }, s.devices,
    (m.events.foldl (replay env.backend m.active) (∅, s.deviceStates)).2)

theorem replayed_congr (h : t.screen = s.screen) : t.replayed env = s.replayed env := by
  obtain ⟨hmanager, hdevices, hstates⟩ := screen_eq.mp h
  rw [replayed, hmanager, hdevices, hstates]
  rfl

/-- After mirroring, the screen shows the events replayed. -/
theorem emitConnectionEvents_ok (h : emitConnectionEvents env s = .ok () t) :
    t.screen = s.replayed env := by
  have hdrain : onManager Daemon.connectionEvents s = .ok s.daemon.activation.events
    (s.withActivation { s.daemon.activation with events := [] }) := onManager_of_ok rfl
  rw [emitConnectionEvents, bind_of_ok hdrain] at h
  obtain ⟨devices, u, hu, h⟩ := bind_eq_ok.mp h
  exact (emitRootStateIfChanged_screen.of_ok h).trans (mirrorEvents_ok hu)

/-- After announcing, the screen shows the events replayed. -/
theorem announce_ok {active : ActiveConnection} {path : String}
    (h : RootIface.announce env active s = .ok path t) : t.screen = s.replayed env := by
  obtain ⟨⟨⟩, u, hu, h⟩ := bind_eq_ok.mp h
  obtain ⟨⟨⟩, v, hv, h⟩ := bind_eq_ok.mp h
  obtain ⟨⟨⟩, w, hw, h⟩ := bind_eq_ok.mp h
  cases h
  rw [emitConnectionEvents_ok hw]
  exact replayed_congr (((emit_screen _).of_ok hv).trans
    ((registerActiveConnectionObject_screen active).adaptExcept.of_ok hu))

end

/-! ### What a call emits -/

/-- The device that a method is to activate a connection on. -/
def Method.device? (env : Environment) : Method V → Option DeviceInfo
  | .activateConnection _ device | .addAndActivateConnection _ device
  | .addAndActivateConnection2 _ device => (RootIface.deviceInfo env device).toOption
  | _ => none

/-- What a call leaves to be seen: a move of the manager that fails is not replayed. -/
inductive Shows (engine : ActivationEngine E) (env : Environment) (device? : Option DeviceInfo)
    (s t : Shared S E) : Prop where
  | left (h : t.screen = s.screen)
  | failed {op : Operation} {err : ActivationError} {m : ActivationManager E}
      (hmove : Moves engine s.daemon.activation op (.error err) m)
      (h : t.screen = (s.withActivation m).screen)
  | replayed {op : Operation} {reply : Reply} {m : ActivationManager E}
      (hmove : Moves engine s.daemon.activation op (.ok reply) m)
      (hkept : ∀ events, reply ≠ .drained events) (hdevice : ∀ info ∈ op.device?, device? = some info)
      (h : t.screen = (s.withActivation m).replayed env)

section

variable {α β : Type} {engine : ActivationEngine E} {svc : Services S E V} {env : Environment}
  {device? : Option DeviceInfo} {s s' t t' : Shared S E}

/-- The states before and after are looked at through the screen only. -/
theorem Shows.congr (h : Shows engine env device? s' t) (hs : s'.screen = s.screen) :
    Shows engine env device? s t := by
  have hmanager : s'.daemon.activation = s.daemon.activation := (screen_eq.mp hs).1
  have hwith : ∀ m, (s'.withActivation m).screen = (s.withActivation m).screen := by
    obtain ⟨-, hdevices, hstates⟩ := screen_eq.mp hs
    exact fun m => screen_eq.mpr ⟨rfl, hdevices, hstates⟩
  cases h with
  | left h => exact .left (h.trans hs)
  | failed hmove h =>
      rw [hmanager] at hmove
      exact .failed hmove (h.trans (hwith _))
  | replayed hmove hkept hdevice h =>
      rw [hmanager] at hmove
      exact .replayed hmove hkept hdevice (h.trans (replayed_congr (hwith _)))

/-- A handler that attempts an activation and announces the connection. -/
theorem activate_shows (hup : env.BusUp) (settings : SettingsDict V) (device : String)
    {k : String → Handler S E α} (hk : ∀ path t, after (k path) t = t) :
    Shows svc.engine env (RootIface.deviceInfo env device).toOption s (after (do
      let active ← RootIface.activate svc env settings device
      let path ← RootIface.announce env active
      k path) s) := by
  obtain ⟨err, h⟩ | ⟨op, -, hdevice, ⟨a, m, hmove, h⟩ | ⟨err, m, hmove, h⟩⟩ :=
    activate_moves svc env settings device s
  · rw [after_of_error (bind_of_error h)]
    exact .left rfl
  · obtain ⟨path, t, hannounce, -⟩ := announce_up hup a (s.withActivation m)
    rw [after_bind_of_ok h, after_bind_of_ok hannounce, hk]
    exact .replayed hmove (by simp) (fun info hinfo => by rw [← hdevice]; exact hinfo)
      (announce_ok hannounce)
  · rw [after_of_error (bind_of_error h)]
    exact .failed hmove rfl

/-- A handler that deactivates a connection. -/
theorem deactivate_shows (hup : env.BusUp) (id : ActiveConnectionId) :
    Shows svc.engine env device? s (after (do
      onManager (Daemon.deactivate svc.engine id)
      emitConnectionEvents env) s) := by
  have hperform : (Operation.deactivate id).perform svc.engine =
      (fun _ => .done) <$> ActivationManager.deactivate svc.engine id :=
    (map_eq_pure_bind ..).symm
  obtain ⟨⟨⟩, m, hmove, h⟩ | ⟨err, m, hmove, h⟩ := onManager_moves hperform s
  · have hmanager : onManager (Daemon.deactivate svc.engine id) s = .ok () (s.withActivation m) := h
    obtain ⟨t, hevents, -⟩ := emitConnectionEvents_up hup (s.withActivation m)
    rw [after_bind_of_ok hmanager, after_of_ok hevents]
    exact .replayed hmove (by simp) (by simp [Operation.device?]) (emitConnectionEvents_ok hevents)
  · have hmanager : onManager (Daemon.deactivate svc.engine id) s =
      .error _ (s.withActivation m) := h
    rw [after_of_error (bind_of_error hmanager)]
    exact .failed hmove rfl

/-- Adding and activating shows what the manager did on the device. -/
theorem addAndActivate_shows (hup : env.BusUp) (settings : SettingsDict V) (device : String) :
    Shows svc.engine env (RootIface.deviceInfo env device).toOption s
      (after (RootIface.addAndActivate svc env settings device) s) := by
  unfold RootIface.addAndActivate
  cases hp : svc.profileOf settings with
  | error err => exact .left rfl
  | ok p =>
      rw [after_congr (ofExcept_bind ..)]
      cases hcreate : onStore (Daemon.createProfile svc.store p) s with
      | error err u =>
          rw [after_of_error (bind_of_error hcreate)]
          exact .left (((steady_screen env).store (svc.store.create p)).of_error hcreate)
      | ok c u =>
          have hu : u.screen = s.screen :=
            ((steady_screen env).store (svc.store.create p)).of_ok hcreate
          obtain ⟨v, hregister, -⟩ := registerConnectionObject_up hup p u
          have hregister' : EStateM.adaptExcept FacadeError.internal
              (registerConnectionObject env p) u = .ok () v := adaptExcept_of_ok hregister
          have hv : v.screen = u.screen := ((steady_screen env).registerConnection p).of_ok hregister'
          rw [after_bind_of_ok hcreate, after_bind_of_ok hregister']
          exact (activate_shows hup settings device fun _ _ => rfl).congr (hv.trans hu)

/-- A method that is held to an action before it calls the manager. -/
theorem Shows.gated {x : Handler S E α} {R : Shared S E → Shared S E → Prop}
    {sender : Option String} {action : String} (hgated : Gated env sender action R x)
    (hx : (env.check sender action).answer = .ok .yes →
      Shows engine env device? (s.asked [env.check sender action]) (after x s)) :
    Shows engine env device? s (after x s) := by
  by_cases hyes : (env.check sender action).answer = .ok .yes
  · exact (hx hyes).congr rfl
  · rw [hgated.denied s hyes]
    exact .left rfl

/-- What leaves the same state shows the same. -/
theorem Shows.of_after {x : Handler S E α} {y : Handler S E β} (h : after x s = after y s')
    (hy : Shows engine env device? s' (after y s')) : Shows engine env device? s' (after x s) := by
  rwa [h]

variable (svc) in
/-- Every call, by what it leaves to be seen. -/
theorem MethodCall.shows (call : MethodCall V) (hup : call.env.BusUp) (s : Shared S E) :
    Shows svc.engine call.env (call.method.device? call.env) s (step svc s call) := by
  obtain ⟨env, sender, m⟩ := call
  -- a method that does not touch the manager leaves the screen
  cases hmanages : m.manages with
  | false => exact .left (m.keeps_of_steady svc (steady_screen env) sender hmanages
      (fun _ _ => emit_screen _) s)
  | true =>
      cases m with
      | activateConnection settings device =>
          refine .gated ((activateConnection_gated svc env sender settings device).map _)
            fun hyes => .of_after ((after_map ..).trans
              (after_bind_of_ok (authorize_of_yes s hyes))) ?_
          exact activate_shows hup settings device fun path t => after_of_ok (ownedPath_up hup path t)
      | addAndActivateConnection settings device | addAndActivateConnection2 settings device =>
          refine .gated ((addAndActivateConnection_gated svc env sender settings device).map _)
            fun hyes => .of_after ((after_map ..).trans
              (addAndActivateConnection_of_yes svc env sender settings device s hyes)) ?_
          exact addAndActivate_shows hup settings device
      | deactivateConnection active =>
          refine .gated ((deactivateConnection_gated svc env sender active).map _)
            fun hyes => .of_after ((after_map ..).trans
              (after_bind_of_ok (authorize_of_yes s hyes))) ?_
          cases hid : RootIface.activeId active with
          | error err => exact .left rfl
          | ok id => exact deactivate_shows hup id
      | deviceDisconnect index =>
          refine .gated ((deviceDisconnect_gated svc env sender index).map _)
            fun hyes => .of_after ((after_map ..).trans
              (after_bind_of_ok (authorize_of_yes s hyes))) ?_
          obtain ⟨a, -, hrequire⟩ | ⟨-, err, hrequire⟩ :=
            requireActive_cases env index (s.asked [env.check sender actionNetworkControl])
          · rw [after_bind_of_ok hrequire]
            exact deactivate_shows hup a.id
          · rw [after_of_error (bind_of_error hrequire)]
            exact .left rfl
      | _ => cases hmanages

end

/-! ### Runs -/

/-- No event is pending, and every registered device is recorded as activated exactly if a
connection on its interface is. -/
def Shared.Synced (s : Shared S E) : Prop :=
  s.daemon.activation.events = [] ∧ ∀ index interface, s.devices.lookup index = some interface →
    (s.deviceStates.lookup index = some nmDeviceStateActivated ↔
      AnyUp (on interface s.daemon.activeConnections))

/-- When the record keeps up with an engine call.  The call is not refused; an activation is on an
interface by whose name the kernel knows the device that was registered with it, as far as that is
not activated already; and a deactivation leaves another activated connection on its interface, if
a device was registered with it. -/
def Shared.Relays (env : Environment) (device? : Option DeviceInfo) (s : Shared S E)
    (c : EngineCall) : Prop :=
  c.answer = .ok () ∧
    match c.op with
    | .activate => ∀ info, device? = some info → ∀ index interface,
        s.devices.lookup index = some interface →
        ¬ AnyUp (on interface s.daemon.activeConnections) →
        (env.backend.deviceIndexByName info.interfaceName = some index ↔
          interface = info.interfaceName)
    | .deactivate => ∀ a ∈ s.daemon.activeConnections, a.id = c.activeId → ∀ index,
        s.devices.lookup index = some a.device.interfaceName →
        ∃ b ∈ s.daemon.activeConnections, b.id ≠ a.id ∧ b.state = .activated ∧
          b.device.interfaceName = a.device.interfaceName

section

variable {engine : ActivationEngine E} {env : Environment} {device? : Option DeviceInfo}
  {s t : Shared S E}

/-- A connection is up on an interface if it is one of its connections. -/
theorem anyUp_on {interface : String} {active : List ActiveConnection} :
    AnyUp (on interface active) ↔
      ∃ a ∈ active, a.state = .activated ∧ a.device.interfaceName = interface := by
  simp only [AnyUp, on, List.mem_filter, beq_iff_eq]
  constructor
  · rintro ⟨a, ⟨ha, hon⟩, hup⟩
    exact ⟨a, ha, hup, hon⟩
  · rintro ⟨a, ha, hup, hon⟩
    exact ⟨a, ⟨ha, hon⟩, hup⟩

/-- What the screen shows decides whether it is in step. -/
theorem synced_of_screen {m : ActivationManager E} {devices : AList fun _ : Int32 => String}
    {states : DeviceStates} (h : t.screen = (m, devices, states)) :
    t.Synced ↔ m.events = [] ∧ ∀ index interface, devices.lookup index = some interface →
      (states.lookup index = some nmDeviceStateActivated ↔ AnyUp (on interface m.active)) := by
  obtain ⟨rfl, rfl, rfl⟩ : t.daemon.activation = m ∧ t.devices = devices ∧
      t.deviceStates = states := by simpa only [screen, Prod.mk.injEq] using h
  rfl

theorem calls_of_screen {m : ActivationManager E} {devices : AList fun _ : Int32 => String}
    {states : DeviceStates} (h : t.screen = (m, devices, states)) :
    t.daemon.activation.calls = m.calls := congrArg (ActivationManager.calls ·.1) h

/-- A connection that comes up is up on its own interface. -/
theorem anyUp_on_append {active : List ActiveConnection} {a : ActiveConnection}
    (ha : a.state = .activated) {interface : String} : AnyUp (on interface (active ++ [a])) ↔
      interface = a.device.interfaceName ∨ AnyUp (on interface active) := by
  rw [anyUp_on, anyUp_on]
  constructor
  · rintro ⟨b, hb, hup, hon⟩
    obtain hb | hb := List.mem_append.mp hb
    · exact .inr ⟨b, hb, hup, hon⟩
    · exact .inl (by rw [← hon, List.mem_singleton.mp hb])
  · rintro (hon | ⟨b, hb, hup, hon⟩)
    · exact ⟨a, by simp, ha, hon.symm⟩
    · exact ⟨b, List.mem_append_left _ hb, hup, hon⟩

/-- An activated connection that leaves its interface activated leaves another one there. -/
theorem anyUp_on_remove {before after : List ActiveConnection} {a : ActiveConnection}
    (hdistinct : ((before ++ a :: after).map (·.id)).Nodup) (ha : a.state = .activated)
    {interface : String} :
    (AnyUp (on interface (before ++ a :: after)) ↔ AnyUp (on interface (before ++ after))) ↔
      (interface = a.device.interfaceName → ∃ b ∈ before ++ a :: after, b.id ≠ a.id ∧
        b.state = .activated ∧ b.device.interfaceName = a.device.interfaceName) := by
  have hother : ∀ b, b ∈ before ++ after ↔ b ∈ before ++ a :: after ∧ b.id ≠ a.id := by
    refine fun b => ⟨fun hb => ⟨?_, id_ne_of_split hdistinct b hb⟩, fun ⟨hb, hne⟩ => ?_⟩
    · exact List.mem_append.mpr ((List.mem_append.mp hb).imp_right (List.mem_cons_of_mem a))
    · obtain hb | rfl | hb : b ∈ before ∨ b = a ∨ b ∈ after := by simpa using hb
      · exact List.mem_append_left _ hb
      · exact absurd rfl hne
      · exact List.mem_append_right _ hb
  rw [anyUp_on, anyUp_on]
  constructor
  · rintro h rfl
    obtain ⟨b, hb, hup, hon⟩ := h.mp ⟨a, by simp, ha, rfl⟩
    obtain ⟨hmem, hne⟩ := (hother b).mp hb
    exact ⟨b, hmem, hne, hup, hon⟩
  · refine fun h => ⟨fun ⟨b, hb, hup, hon⟩ => ?_, fun ⟨b, hb, hup, hon⟩ =>
      ⟨b, ((hother b).mp hb).1, hup, hon⟩⟩
    by_cases hid : b.id = a.id
    · rw [List.inj_on_of_nodup_map hdistinct hb (by simp) hid] at hon
      obtain ⟨c, hc, hne, hup, honc⟩ := h hon.symm
      exact ⟨c, (hother c).mpr ⟨hc, hne⟩, hup, honc.trans hon⟩
    · exact ⟨b, (hother b).mpr ⟨hb, hid⟩, hup, hon⟩

/-- The handlers register no devices. -/
theorem Shows.devices_eq (h : Shows engine env device? s t) : t.devices = s.devices := by
  cases h with
  | left h => exact (screen_eq.mp h).2.1
  | failed hmove h => exact (screen_eq.mp h).2.1
  | replayed hmove hkept hdevice h => exact congrArg (·.2.1) h

/-- A call keeps the record in step exactly if the engine calls it makes do. -/
theorem Shows.synced_iff (h : Shows engine env device? s t) (hm : s.daemon.activation.Tracks)
    (hs : s.Synced) : t.Synced ↔
      ∀ c ∈ t.daemon.activation.calls.drop s.daemon.activation.calls.length,
        Relays env device? s c := by
  cases h with
  | left h =>
      rw [calls_of_screen h, synced_of_screen h]
      exact iff_of_true hs (by simp)
  | failed hmove h =>
      rw [calls_of_screen h, synced_of_screen h]
      -- a call that failed left no event to replay
      cases hmove with
      | refused hown => exact iff_of_true hs (by simp [withActivation])
      | stillborn hfresh hcall hoffers =>
          exact iff_of_false (by simp [withActivation, ConnectionEvent.stillbornLog])
            (by simp [withActivation, Relays])
      | broken hsplit hstate hcall =>
          exact iff_of_false (by simp [withActivation, ConnectionEvent.brokenLog])
            (by simp [withActivation, Relays])
  | replayed hmove hkept hdevice h =>
      have hnext := hm.moves hmove
      rw [calls_of_screen h, synced_of_screen h]
      cases hmove with
      | drained => exact absurd rfl (hkept _)
      | @activated profile info outcome e hfresh hcall hoffers =>
          have hinfo := hdevice info hoffers.device_eq
          have hfind := find_tracked hnext (List.mem_append_right _ (List.mem_singleton_self _))
          -- the replayed log ends in `activated`, and the device is found by the name of its
          -- interface
          have hreplay := replay_upLog env.backend hfind profile.id s.deviceStates
          simp only [withActivation, hs.1, List.nil_append, hreplay, true_and, List.drop_left,
            List.forall_mem_singleton, Relays, hinfo, Option.some.injEq, forall_eq']
          refine forall₃_congr fun index interface hregistered => ?_
          have hbefore := hs.2 index interface hregistered
          rw [anyUp_on_append rfl, ← hbefore]
          by_cases hindex : env.backend.deviceIndexByName info.interfaceName = some index
          · simp only [hindex, if_true, true_iff]
            tauto
          · simp only [hindex, if_false, false_iff]
            tauto
      | @deactivated before after a e hsplit hstate hcall =>
          have hdistinct := hm.distinct
          rw [hsplit] at hdistinct
          -- the connection is gone when the log is replayed, so nothing is recorded for it
          have hgone : (before ++ after).find? (fun b => b.id == a.id) = none := by
            refine List.find?_eq_none.mpr fun b hb => ?_
            simpa using id_ne_of_split hdistinct b hb
          have hreplay := replay_downLog env.backend hgone a.profile.id s.deviceStates
          have hown : ∀ b ∈ before ++ a :: after, b.id = a.id → b = a := fun b hb hid =>
            List.inj_on_of_nodup_map hdistinct hb (by simp) hid
          simp only [withActivation, hs.1, List.nil_append, hreplay, true_and, List.drop_left,
            List.forall_mem_singleton, Relays, Daemon.activeConnections, hsplit]
          have hbefore := hs.2
          simp only [Daemon.activeConnections, hsplit] at hbefore
          constructor
          · rintro hafter b hb hid index hregistered
            rw [hown b hb hid] at hregistered ⊢
            have hiff := (hbefore index _ hregistered).symm.trans (hafter index _ hregistered)
            exact (anyUp_on_remove hdistinct hstate).mp hiff rfl
          · intro hcalls index interface hregistered
            refine (hbefore index interface hregistered).trans
              ((anyUp_on_remove hdistinct hstate).mpr ?_)
            rintro rfl
            exact hcalls a (by simp) rfl index hregistered

/-- A step keeps the screen in step exactly if it relays each of its calls. -/
theorem synced_step_iff {svc : Services S E V} {call : MethodCall V} (hup : call.env.BusUp)
    (hm : s.daemon.activation.Tracks) (hs : s.Synced) : (step svc s call).Synced ↔
      ∀ c ∈ Shared.engineCalls svc s call, Relays call.env (call.method.device? call.env) s c :=
  (call.shows svc hup s).synced_iff hm hs

end

/-- A step leaves the manager settled. -/
theorem settled_step (svc : Services S E V) {call : MethodCall V} (hup : call.env.BusUp)
    {s : Shared S E} (h : s.daemon.activation.Settled) :
    (step svc s call).daemon.activation.Settled := (step_activity hup s).settled h

/-- **Record and domain.**  From the registration of a daemon on, after every call of a run no event
is pending and the record of the devices is in step with the connections, exactly if it is so at
registration and every engine call of the run lets the record keep up. -/
theorem Shared.bus_tracks_domain_iff (svc : Services S E V) (env : Environment) (e : E)
    (ops : List Operation) (d : Daemon S E)
    (hd : d.activation = (History.run svc.engine e ops).manager) (s : Shared S E)
    (hregister : registerAll env svc { daemon := d } = .ok () s) (calls : List (MethodCall V))
    (hup : ∀ call ∈ calls, call.env.BusUp) :
    Runs.Always (step svc) Synced s calls ↔ s.Synced ∧
      Runs.Throughout (step svc) (fun s call => ∀ c ∈ Shared.engineCalls svc s call,
        Relays call.env (call.method.device? call.env) s c) s calls := by
  obtain ⟨-, -, hdaemon, -⟩ := registerAll_ok hregister
  have hsettled : Runs.Always (step svc) (fun s => s.daemon.activation.Settled) s calls :=
    .of_invariant (by rw [hdaemon, hd]; exact History.run_settled svc.engine e ops)
      fun s call hcall h => settled_step svc (hup call hcall) h
  constructor
  · intro h
    exact ⟨h.head, (Runs.always_iff hsettled h.head fun s call hcall hm hs =>
      synced_step_iff (hup call hcall) hm.1 hs).mp h⟩
  · rintro ⟨hs, h⟩
    exact (Runs.always_iff hsettled hs fun s call hcall hm hs =>
      synced_step_iff (hup call hcall) hm.1 hs).mpr h

/-- Once the only connection of a registered device has been disconnected, the device stays recorded
as activated, or an event is left. -/
theorem not_synced_of_disconnect {svc : Services S E V} {env : Environment} {t : Shared S E}
    {a : ActiveConnection} {index : Int32} {view : DeviceView} (hup : env.BusUp)
    (hsettled : t.daemon.activation.Settled) (ht : t.Synced)
    (hactive : t.daemon.activation.active = [a]) (hstate : a.state = .activated)
    (hview : env.backend.deviceView index = .ok view) (hon : a.device.interfaceName = view.interface)
    {registered : Int32} (hregistered : t.devices.lookup registered = some view.interface)
    (sender : Option String)
    (hyes : env.authorization (.fromSender sender) actionNetworkControl = .ok .yes) :
    ¬ (step svc t ⟨env, sender, .deviceDisconnect index⟩).Synced := by
  intro hlast
  have hfirst : (on view.interface t.daemon.activeConnections).head? = some a := by
    rw [Daemon.activeConnections, hactive, on, List.filter_cons_of_pos (by simpa using hon)]
    rfl
  have hdeactivates : DeviceIface.Deactivates svc env index sender t a.id :=
    disconnect_deactivates hup hsettled.1 hview hfirst hstate sender hyes
  obtain ⟨answer, hcalls, -⟩ := hdeactivates
  -- the one engine call is the deactivation, and no other connection is left on the device
  have hcalled : Shared.engineCalls svc t ⟨env, sender, .deviceDisconnect index⟩ =
      [⟨a.id, .deactivate, answer⟩] := by
    rw [Shared.engineCalls, step, MethodCall.perform, Method.perform, after_map, hcalls,
      List.drop_left]
  obtain ⟨-, hother⟩ := (synced_step_iff hup hsettled.1 ht).mp hlast ⟨a.id, .deactivate, answer⟩
    (by rw [hcalled]; exact List.mem_cons_self)
  have hmem : ∀ b ∈ t.daemon.activeConnections, b = a := by
    intro b hb
    rwa [Daemon.activeConnections, hactive, List.mem_singleton] at hb
  obtain ⟨b, hb, hne, -⟩ := hother a (by rw [Daemon.activeConnections, hactive]; simp) rfl registered
    (by rw [hon, hregistered])
  exact hne (congrArg _ (hmem b hb))

/-! ### A new daemon -/

/-- No connection, no event and no device that is recorded as activated. -/
def Shared.Dark (s : Shared S E) : Prop :=
  s.daemon.activation.active = [] ∧ s.daemon.activation.events = [] ∧
    ∀ index, s.deviceStates.lookup index ≠ some nmDeviceStateActivated

/-- Where nothing is up and nothing is recorded as activated, the screen is in step. -/
theorem Shared.Dark.synced {s : Shared S E} (h : s.Dark) : s.Synced := by
  obtain ⟨hactive, hevents, hstates⟩ := h
  refine ⟨hevents, fun index interface _ => iff_of_false (hstates index) ?_⟩
  rw [Daemon.activeConnections, hactive]
  simp [AnyUp, on]

/-- What was dark stays dark. -/
def Shared.StaysDark (s t : Shared S E) : Prop := s.Dark → t.Dark

instance : Std.Refl (Shared.StaysDark (S := S) (E := E)) := ⟨fun _ h => h⟩

instance : IsTrans (Shared S E) Shared.StaysDark := ⟨fun _ _ _ h h' => h' ∘ h⟩

/-- What keeps the screen keeps it dark. -/
theorem staysDark_of_screen {s t : Shared S E} (h : Same screen s t) : s.StaysDark t := by
  obtain ⟨hmanager, -, hstates⟩ := screen_eq.mp h
  intro hs
  rwa [Dark, hmanager, hstates]

/-- Registering a device keeps it dark: no connection is tracked yet. -/
theorem registerDeviceObject_staysDark (env : Environment) (view : DeviceView) :
    Keeps (StaysDark (S := S) (E := E)) (registerDeviceObject env view) := by
  refine Keeps.bind (.mono (fun _ _ => staysDark_of_screen) ((steady_screen env).register _))
    fun _ => Keeps.bind (.modify fun s hs => hs) fun _ => .modify fun s hs => ?_
  refine ⟨hs.1, hs.2.1, fun index => ?_⟩
  by_cases hindex : index = view.index
  · have hnone : ∀ interface, s.deviceActive interface = none := by
      intro interface
      rw [deviceActive, Daemon.activeConnections, hs.1]
      rfl
    rw [hindex, AList.lookup_insert, deviceState]
    cases env.backend.deviceView view.index with
    | error err =>
        simp only [Except.toOption, Option.map_none, Option.getD_none]
        decide
    | ok found =>
        simp only [Except.toOption, Option.map_some, Option.getD_some, hnone, DeviceView.stateWith,
          Option.any_none, Bool.false_eq_true, if_false]
        split <;> decide
  · rw [AList.lookup_insert_ne hindex]
    exact hs.2.2 index

/-- The record of a new daemon is in step. -/
theorem synced_registered {svc : Services S E V} {env : Environment} {profiles : S} {e : E}
    {s : Shared S E}
    (h : registerAll env svc { daemon := .withComponents profiles e } = .ok () s) : s.Synced := by
  have hregister : Keeps (StaysDark (S := S) (E := E)) (registerAll env svc) := by
    have hpaths : ∀ paths, Keeps (StaysDark (S := S) (E := E)) (register env paths) := fun _ =>
      .mono (fun _ _ => staysDark_of_screen) ((steady_screen env).register _)
    refine .get_bind fun s => (Keeps.ofExcept _).bind fun _ => (Keeps.ofExcept _).bind fun _ =>
      (Keeps.ofExcept _).bind fun _ => ?_
    refine (Keeps.forM fun view _ => registerDeviceObject_staysDark env view).bind fun _ =>
      (Keeps.forM fun profile _ => ?_).bind fun _ => (Keeps.forM fun active _ => ?_).bind fun _ =>
        Keeps.forM fun bssid _ => ?_
    · exact (hpaths _).bind fun _ => .modify fun _ hs => hs
    · exact (hpaths _).bind fun _ => .modify fun _ hs => hs
    · exact (Keeps.ofExcept _).bind fun _ => (hpaths _).bind fun _ => .modify fun _ hs => hs
  exact (hregister.of_ok h ⟨rfl, rfl, by simp⟩).synced

/-- A device is registered with the state it is in. -/
theorem registerDeviceObject_of_state {env : Environment} {s t : Shared S E} {view : DeviceView}
    {state : UInt32}
    (hpaths : register env [devicePath view.index, devicePath view.index, devicePath view.index] s =
      .ok () t)
    (hstate : deviceState env { t with devices := t.devices.insert view.index view.interface }
      view.index = some state) :
    registerDeviceObject env view s = .ok () { t with
      devices := t.devices.insert view.index view.interface
      deviceStates := t.deviceStates.insert view.index state } := by
  rw [registerDeviceObject, bind_of_ok hpaths, modify_bind, modify_apply, hstate]
  rfl

namespace Sample

/-- The wired link is registered. -/
def plugged (answers : List (Except ActivationError Unit)) :
    Shared InMemoryProfileStore (List (Except ActivationError Unit)) :=
  { shared answers with
    devices := (∅ : AList fun _ : Int32 => String).insert 3 "eth0"
    deviceStates := (∅ : DeviceStates).insert 3 nmDeviceStateDisconnected }

/-- At the start the device is registered as disconnected. -/
theorem registerAll_plugged (answers : List (Except ActivationError Unit)) :
    registerAll (environment allowAllAuthorization) services (shared answers) =
      .ok () (plugged answers) := by
  have hstate : ∀ s : Shared InMemoryProfileStore (List (Except ActivationError Unit)),
      s.daemon = (shared answers).daemon →
      deviceState (environment allowAllAuthorization) s 3 = some nmDeviceStateDisconnected := by
    intro s hs
    have hactive : s.deviceActive "eth0" = none := by
      rw [deviceActive, hs]
      rfl
    rw [deviceState, show (environment allowAllAuthorization).backend.deviceView 3 = _ from
      deviceView_backend]
    simp [Except.toOption, hactive, DeviceView.stateWith]
  have hregister : registerDeviceObject (environment allowAllAuthorization)
      ⟨3, "eth0", .ethernet, none, true⟩ (shared answers) = .ok () (plugged answers) :=
    registerDeviceObject_of_state rfl (hstate _ rfl)
  have hdevices : [(⟨3, "eth0", .ethernet, none, true⟩ : DeviceView)].forM
      (registerDeviceObject (environment allowAllAuthorization)) (shared answers) =
        .ok () (plugged answers) := bind_of_ok hregister
  have hpoints : (environment allowAllAuthorization).backend.accessPoints = .ok [] := rfl
  rw [registerAll, get_bind, listProfiles_shared, hpoints,
    show (environment allowAllAuthorization).backend.enumerateDevices = _ from
      enumerateDevices_backend]
  simp only [Except.mapError]
  rw [ofExcept_bind, ofExcept_bind, ofExcept_bind]
  exact bind_of_ok hdevices

/-- The call that disconnects the device. -/
def disconnectDesk : MethodCall Value :=
  ⟨environment allowAllAuthorization, some ":1.7", .deviceDisconnect 3⟩

/-- The profile is activated as the engine answers. -/
theorem addDesk_plugged (answers : List (Except ActivationError Unit)) :
    (step services (plugged answers)
        (addDesk allowAllAuthorization (devicePath 3))).daemon.activation.active =
      (after (activateMatching scripted manualProfile device)
        (ActivationManager.new answers)).active := by
  have hyes : ((environment allowAllAuthorization).check (some ":1.7")
    actionNetworkControl).answer = .ok .yes := rfl
  rw [step, MethodCall.perform, addDesk, Method.perform, after_map,
    addAndActivateConnection_of_yes services _ _ _ _ _ hyes]
  exact (addAndActivate_manager (environment_up allowAllAuthorization) profileOf_deskDict
    create_desk (deviceInfo_desk allowAllAuthorization) get_desk (by decide) rfl).1

end Sample

/-- A profile is added and activated. -/
theorem Shared.bus_tracks_domain_iff_desk :
    let calls := [Sample.addDesk allowAllAuthorization (devicePath 3)]
    Runs.Always (step Sample.services) Synced (Sample.plugged []) calls ↔
      (Sample.plugged []).Synced ∧
      Runs.Throughout (step Sample.services) (fun s call =>
        ∀ c ∈ Shared.engineCalls Sample.services s call,
          Relays call.env (call.method.device? call.env) s c) (Sample.plugged []) calls :=
  bus_tracks_domain_iff Sample.services (Sample.environment allowAllAuthorization) [] []
    (.withComponents ∅ []) rfl (Sample.plugged []) (Sample.registerAll_plugged []) _
    (by simp [Sample.addDesk, Sample.environment_up])

/-- A connection is activated and disconnected, and its device stays recorded as activated. -/
theorem Shared.disconnected_device_recorded_activated :
    ¬ ∀ (S E V : Type) (svc : Services S E V) (env : Environment) (profiles : S) (e : E)
      (s : Shared S E) (calls : List (MethodCall V)),
      registerAll env svc { daemon := .withComponents profiles e } = .ok () s →
      (∀ call ∈ calls, call.env.BusUp) → Runs.Always (step svc) Synced s calls := by
  intro hall
  have hup := Sample.environment_up allowAllAuthorization
  have hsynced := hall _ _ _ Sample.services _ ∅ [] (Sample.plugged [])
    [Sample.addDesk allowAllAuthorization (devicePath 3), Sample.disconnectDesk]
    (Sample.registerAll_plugged []) (by simp [Sample.addDesk, Sample.disconnectDesk, hup])
  have hregistered : (step Sample.services (Sample.plugged [])
      (Sample.addDesk allowAllAuthorization (devicePath 3))).devices.lookup 3 = some "eth0" := by
    rw [(MethodCall.shows Sample.services _ hup (Sample.plugged [])).devices_eq]
    exact AList.lookup_insert _
  have hsettled : (step Sample.services (Sample.plugged [])
      (Sample.addDesk allowAllAuthorization (devicePath 3))).daemon.activation.Settled :=
    settled_step Sample.services hup (History.run_settled Sample.scripted [] [])
  have hactive := Sample.addDesk_plugged []
  have hbefore := hsynced.tail.head
  have hlast := hsynced.tail.tail.head
  generalize step Sample.services (Sample.plugged [])
    (Sample.addDesk allowAllAuthorization (devicePath 3)) = t at *
  exact not_synced_of_disconnect (a := ⟨⟨1⟩, manualProfile, Sample.device, .activated, {}⟩) hup
    hsettled hbefore hactive rfl Sample.deviceView_backend rfl hregistered (some ":1.7") rfl hlast

end NetworkManager
