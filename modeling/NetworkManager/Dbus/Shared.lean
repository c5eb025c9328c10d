import NetworkManager.Dbus.Objects
import NetworkManager.Support.Tracing

/-!
# Dbus — Shared

`dbus/shared.rs`: the daemon behind the facade, with the registries of its objects on the bus.

The state keeps, besides what the source keeps, the signals it emitted (`signals`) and what it
asked the policy backend (`checks`).  Nothing reads them.
-/

namespace NetworkManager

/-- The implementations behind the traits of the daemon. -/
structure Services (S E V : Type) where
  zvariant : Zvariant V
  ipText : IpText
  store : ProfileStoreOps S
  engine : ActivationEngine E

/-- `Shared`. -/
structure Shared (S E : Type) where
  daemon : Daemon S E
  /-- The paths of the registered connection objects, by profile id. -/
  connections : AList fun _ : ProfileId => String := ∅
  devices : AList fun _ : Int32 => String := ∅
  /-- The last state emitted per device. -/
  deviceStates : AList fun _ : Int32 => UInt32 := ∅
  accessPoints : Finset Bssid := ∅
  activeConnections : Finset ActiveConnectionId := ∅
  /-- The last root state emitted. -/
  rootState : UInt32 := nmStateDisconnected
  signals : List Signal := []
  checks : List Check := []

/-- A computation on the shared state, as a handler of a method runs it. -/
abbrev Handler (S E α : Type) := EStateM FacadeError (Shared S E) α

namespace Shared

open Effects

variable {S E V α ε : Type}

/-! ### The daemon -/

/-- A call of the daemon. -/
def onDaemon (x : EStateM ε (Daemon S E) α) : EStateM ε (Shared S E) α :=
  zoom Shared.daemon (fun daemon s => { s with daemon }) x

/-- A call of the store, with the error that clients hear. -/
def onStore (x : EStateM StoreError (Daemon S E) α) : Handler S E α :=
  EStateM.adaptExcept .ofStoreError (onDaemon x)

/-- A call of the manager, with the error that clients hear. -/
def onManager (x : EStateM ActivationError (Daemon S E) α) : Handler S E α :=
  EStateM.adaptExcept .ofActivationError (onDaemon x)

/-- The first tracked connection on an interface. -/
def deviceActive (s : Shared S E) (interface : String) : Option ActiveConnection :=
  s.daemon.activeConnections.find? fun active => active.device.interfaceName == interface

/-- The tracked connection with this id. -/
def activeById (s : Shared S E) (id : ActiveConnectionId) : Option ActiveConnection :=
  s.daemon.activeConnections.find? fun active => active.id == id

section

variable (env : Environment)

/-! ### Authorization -/

/-- Asks the policy backend. -/
def check (sender : Option String) (action : String) : Handler S E AuthorizationAnswer := do
  let caller := CallerIdentity.fromSender sender
  let answer := env.authorization caller action
  modify fun s => { s with checks := s.checks ++ [⟨caller, action, answer⟩] }
  return answer

/-- Asks whether the sender may perform `action`, and takes anything but a yes for a denial. -/
def authorize (sender : Option String) (action : String) : Handler S E Unit := do
  match ← check env sender action with
  | .ok .yes => return
  | .ok .no | .ok .unknown | .error .unidentifiableCaller | .error (.backend _) =>
    throw (.permissionDenied action)

/-- The sender's standing for `action`, as `GetPermissions` renders it. -/
def permission (sender : Option String) (action : String) : Handler S E String := do
  match ← check env sender action with
  | .ok .yes => return "yes"
  | .ok .no => return "no"
  | .ok .unknown | .error .unidentifiableCaller | .error (.backend _) => return "unknown"

/-! ### The bus -/

/-- Asks the bus library; a signal that it takes is emitted. -/
def request (r : BusRequest) : EStateM String (Shared S E) Unit := do
  MonadExcept.ofExcept (env.bus r)
  match r with
  | .emit signal => modify fun s => { s with signals := s.signals ++ [signal] }
  | .register _ | .unregister _ | .ownedPath _ => return

/-- Emits the signal. -/
def emit (signal : Signal) : Handler S E Unit :=
  EStateM.adaptExcept .internal (request env (.emit signal))

/-- The path, if it is one. -/
def ownedPath (path : String) : Handler S E String :=
  MonadExcept.ofExcept ((env.ownedPath path).mapError .internal)

/-- `server.at`, for several objects one after the other. -/
def register (paths : List String) : EStateM String (Shared S E) Unit :=
  paths.forM fun path => request env (.register path)

/-! ### Registration -/

/-- The object of an active connection, and its IP and DHCP configurations. -/
def activeObjectPaths (id : ActiveConnectionId) : List String :=
  [activePath id, ip4Path id, ip6Path id, dhcp4Path id, dhcp6Path id]

/-- `device::device_state`. -/
def deviceState (s : Shared S E) (index : Int32) : Option UInt32 :=
  (env.backend.deviceView index).toOption.map fun view =>
    view.stateWith (s.deviceActive view.interface)

/-- The three interfaces of a device's object. -/
def registerDeviceObject (view : DeviceView) : EStateM String (Shared S E) Unit := do
  let path := devicePath view.index
  register env [path, path, path]
  modify fun s => { s with devices := s.devices.insert view.index view.interface }
  modify fun s => { s with
    deviceStates := s.deviceStates.insert view.index
      ((deviceState env s view.index).getD nmDeviceStateUnknown) }

/-- Registers the object, and records its path. -/
def registerConnectionObject (profile : ConnectionProfile) : EStateM String (Shared S E) Unit := do
  let path := settingsConnectionPath (stableUuid profile.id)
  register env [path]
  modify fun s => { s with connections := s.connections.insert profile.id path }

/-- Registers the objects of the connection, and records it. -/
def registerActiveConnectionObject (active : ActiveConnection) :
    EStateM String (Shared S E) Unit := do
  register env (activeObjectPaths active.id)
  modify fun s => { s with activeConnections := insert active.id s.activeConnections }

/-- Registers the access point under the first wireless device, and records it. -/
def registerAccessPointObject (bssid : Bssid) : EStateM String (Shared S E) Unit := do
  let primaryWifi ← MonadExcept.ofExcept (env.backend.primaryWifi.mapError toString)
  register env [accessPointPath primaryWifi bssid]
  modify fun s => { s with accessPoints := insert bssid s.accessPoints }

/-- Removes the objects of an active connection, whatever the bus library answers. -/
def unregisterActiveConnection (id : ActiveConnectionId) : Handler S E Unit := do
  (activeObjectPaths id).forM fun path => do
    let _ ← attempt (request env (.unregister path))
  modify fun s => { s with activeConnections := s.activeConnections.erase id }

/-- Forgets the path of the profile, and unregisters the object there. -/
def unregisterConnection (profileId : ProfileId) : Handler S E Unit := do
  match (← get).connections.lookup profileId with
  | none => return
  | some path =>
    modify fun s => { s with connections := s.connections.erase profileId }
    EStateM.adaptExcept
      (fun error => .internal ("failed to unregister " ++ path ++ ": " ++ error))
      (request env (.unregister path))

/-- Registers every object that the state of the daemon requires. -/
def registerAll (svc : Services S E V) : EStateM String (Shared S E) Unit := do
  let daemon := (← get).daemon
  let devices ← MonadExcept.ofExcept (env.backend.enumerateDevices.mapError toString)
  let profiles ← MonadExcept.ofExcept ((daemon.listProfiles svc.store).mapError fun error =>
    "failed to list profiles: " ++ toString error)
  let accessPoints ← MonadExcept.ofExcept (env.backend.accessPoints.mapError fun error =>
    "failed to list access points: " ++ toString error)
  devices.forM (registerDeviceObject env)
  profiles.forM (registerConnectionObject env)
  daemon.activeConnections.forM (registerActiveConnectionObject env)
  (accessPoints.filterMap (·.bssid)).forM (registerAccessPointObject env)

/-! ### Signals -/

/-- Emits the state of a device, if it is not the last one that was emitted. -/
def emitDeviceState (index : Int32) (newState : UInt32) : Handler S E Unit := do
  let s ← get
  let previous := (s.deviceStates.lookup index).getD nmDeviceStateUnknown
  if previous = newState then return
  modify fun s => { s with deviceStates := s.deviceStates.insert index newState }
  emit env (.deviceStateChanged index newState 0 previous)
  emit env (.devicePropertiesChanged index newState)

/-- `root::current_nm_state`. -/
def currentNmState (d : Daemon S E) : UInt32 :=
  if d.activeConnections = [] then nmStateDisconnected else nmStateConnectedGlobal

/-- Emits `StateChanged` if the state is not the one that was told last. -/
def emitRootStateIfChanged : Handler S E Unit := do
  let s ← get
  let newState := currentNmState s.daemon
  if newState = s.rootState then return
  modify fun s => { s with rootState := newState }
  emit env (.stateChanged newState)

/-- The devices of the connections whose events are being mirrored. -/
abbrev DeviceByActive := AList fun _ : ActiveConnectionId => Int32

/-- Mirrors one event onto the bus. -/
def mirrorEvent (deviceByActive : DeviceByActive) : ConnectionEvent → Handler S E DeviceByActive
  | .stateChanged activeId _ previous current => do
    emit env (.activeStateChanged activeId (activeNmState current) 0 (activeNmState previous))
    let index := ((← get).activeById activeId).bind fun active =>
      env.backend.deviceIndexByName active.device.interfaceName
    match index with
    | none => return deviceByActive
    | some index =>
      emitDeviceState env index (connectionToDeviceState current)
      return deviceByActive.insert activeId index
  | .deactivated activeId _ => do
    unregisterActiveConnection env activeId
    emit env (.activeConnectionRemoved (activePath activeId))
    match deviceByActive.lookup activeId with
    | none => return deviceByActive
    | some index =>
      emitDeviceState env index nmDeviceStateDisconnected
      return deviceByActive.erase activeId
  -- a failure is mirrored by the `stateChanged` before it
  | .activated _ _ | .failed _ _ _ => return deviceByActive

/-- Drains the pending connection events and mirrors them onto the bus. -/
def emitConnectionEvents : Handler S E Unit := do
  let events ← onManager Daemon.connectionEvents
  let _ ← events.foldlM (mirrorEvent env) ∅
  emitRootStateIfChanged env

end

end Shared

end NetworkManager
