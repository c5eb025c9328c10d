import NetworkManager.Dbus.Properties
import NetworkManager.Support.Locks

/-!
# Dbus — Locks

The guards that the handlers of the facade take of the mutexes of `Shared`, and where they drop
them.

* `Locking S E α`: a handler as a thread that takes these mutexes.  Between them it does what the
  handlers of the facade do.
* `FacadeRequest.locking`: the handler of a method, or the getter of a property.
-/

namespace NetworkManager

open Locks Locks.Thread Effects Shared

variable {S E V ε : Type}

/-- The mutexes of `Shared`. -/
inductive Mutex where
  | daemon | connections | devices | deviceStates | accessPoints | activeConnections | rootState
  deriving DecidableEq

/-- The daemon is locked before anything else. -/
def Mutex.rank : Mutex → ℕ
  | .daemon => 0
  | .connections | .devices | .deviceStates | .accessPoints | .activeConnections | .rootState => 1

/-- A handler that takes the mutexes of the facade. -/
abbrev Locking (S E α : Type) := Prog Mutex FacadeError (Shared S E) α

namespace Locking

section

variable (svc : Services S E V) (env : Environment)

/-! ### Shared -/

/-- Looks at the state. -/
def looking {α : Type} (f : Shared S E → α) : EStateM ε (Shared S E) α := do return f (← get)

/-- Looks at a device under the daemon's mutex. -/
def deviceView (index : Int32) : Locking S E DeviceView :=
  guarded .daemon (ofExcept (env.backend.deviceView index))

/-- Looks up an interface under the daemon's mutex. -/
def deviceIndexByName (iface : String) : Locking S E (Option Int32) :=
  guarded .daemon (pure (env.backend.deviceIndexByName iface))

/-- Looks for the device's connection under the daemon's mutex. -/
def deviceActive (iface : String) : Locking S E (Option ActiveConnection) :=
  guarded .daemon (lift (looking fun s => s.deviceActive iface))

/-- Looks for a tracked connection under the daemon's mutex. -/
def activeById (id : ActiveConnectionId) : Locking S E (Option ActiveConnection) :=
  guarded .daemon (lift (looking fun s => s.activeById id))

/-- Looks up the path of a profile. -/
def connectionPathLookup (profileId : ProfileId) : Locking S E (Option String) :=
  guarded .connections (lift (looking fun s => s.connections.lookup profileId))

/-- Registers the object, and then records its path. -/
def registerConnectionObject (profile : ConnectionProfile) :
    Prog Mutex String (Shared S E) Unit := do
  let path := settingsConnectionPath (stableUuid profile.id)
  lift (register env [path])
  guarded .connections (lift (modify fun s => { s with
    connections := s.connections.insert profile.id path }))

/-- Registers the objects, and then records the connection. -/
def registerActiveConnectionObject (active : ActiveConnection) :
    Prog Mutex String (Shared S E) Unit := do
  lift (register env (activeObjectPaths active.id))
  guarded .activeConnections (lift (modify fun s => { s with
    activeConnections := insert active.id s.activeConnections }))

/-- Unregisters the objects, whether they are there or not, and then forgets the connection. -/
def unregisterActiveConnection (id : ActiveConnectionId) : Locking S E Unit := do
  lift ((activeObjectPaths id).forM fun path => do
    let _ ← attempt (request env (.unregister path)))
  guarded .activeConnections (lift (modify fun s => { s with
    activeConnections := s.activeConnections.erase id }))

/-- `take_connection_path`, once the registry is locked. -/
def dropPath (profileId : ProfileId) : Handler S E (Option String) := do
  match (← get).connections.lookup profileId with
  | none => return none
  | some path =>
    modify fun s => { s with connections := s.connections.erase profileId }
    return some path

/-- Takes the path of a profile out of the registry. -/
def takeConnectionPath (profileId : ProfileId) : Locking S E (Option String) :=
  guarded .connections (lift (dropPath profileId))

/-- Takes the path, gives the mutex back, and unregisters the object. -/
def unregisterConnection (profileId : ProfileId) : Locking S E Unit := do
  match ← takeConnectionPath profileId with
  | none => return
  | some path =>
    lift (EStateM.adaptExcept
      (fun error => .internal ("failed to unregister " ++ path ++ ": " ++ error))
      (request env (.unregister path)))

/-- The guard lives until the signals are out. -/
def emitDeviceState (index : Int32) (newState : UInt32) : Locking S E Unit :=
  guarded .deviceStates (lift (Shared.emitDeviceState env index newState))

/-- The end of `emit_root_state_if_changed`, once the state of the daemon is known. -/
def tellRootState (newState : UInt32) : Handler S E Unit := do
  let s ← get
  if newState = s.rootState then return
  modify fun s => { s with rootState := newState }
  emit env (.stateChanged newState)

/-- The state is computed under one mutex and compared under another. -/
def emitRootStateIfChanged : Locking S E Unit := do
  let newState ← guarded .daemon (lift (looking fun s => currentNmState s.daemon))
  guarded .rootState (lift (tellRootState env newState))

/-- The signals of one event.  The daemon's mutex is taken anew for each look. -/
def mirrorEvent (deviceByActive : DeviceByActive) : ConnectionEvent → Locking S E DeviceByActive
  | .stateChanged activeId _ previous current => do
    lift (emit env (.activeStateChanged activeId (activeNmState current) 0
      (activeNmState previous)))
    match ← activeById activeId with
    | none => return deviceByActive
    | some active =>
      match ← deviceIndexByName env active.device.interfaceName with
      | none => return deviceByActive
      | some index =>
        emitDeviceState env index (connectionToDeviceState current)
        return deviceByActive.insert activeId index
  | .deactivated activeId _ => do
    unregisterActiveConnection env activeId
    lift (emit env (.activeConnectionRemoved (activePath activeId)))
    match deviceByActive.lookup activeId with
    | none => return deviceByActive
    | some index =>
      emitDeviceState env index nmDeviceStateDisconnected
      return deviceByActive.erase activeId
  | .activated _ _ | .failed _ _ _ => return deviceByActive

/-- The events are drained under the daemon's mutex, and mirrored after it is given back. -/
def emitConnectionEvents : Locking S E Unit := do
  let events ← guarded .daemon (lift (onManager Daemon.connectionEvents))
  let _ ← events.foldlM (mirrorEvent env) ∅
  emitRootStateIfChanged env

/-! ### The root object -/

/-- The device at the path. -/
def deviceInfo (device : String) : Locking S E DeviceInfo := do
  let index ← ofExcept (Results.okOr (.unknownDevice device) (pathIndex device devicesPrefix))
  let view ← deviceView env (Int32.ofNat index)
  return view.toDeviceInfo

/-- The guard is taken before the dictionary is looked at, and lives to the end. -/
def activate (settings : SettingsDict V) (device : String) : Locking S E ActiveConnection := do
  let info ← deviceInfo env device
  guarded .daemon (if settings = [] then
      lift (onManager (Daemon.activate svc.store svc.engine info))
    else do
      let profile ← ofExcept (svc.profileOf settings)
      lift (onManager (Daemon.activateProfile svc.store svc.engine profile.id info)))

/-- Registers and announces the connection, and mirrors the events. -/
def announce (active : ActiveConnection) : Locking S E String := do
  adaptExcept .internal (registerActiveConnectionObject env active)
  let path := activePath active.id
  lift (emit env (.activeConnectionAdded path))
  emitConnectionEvents env
  return path

/-- `ActivateConnection`. -/
def activateConnection (sender : Option String) (settings : SettingsDict V) (device : String) :
    Locking S E String := do
  lift (authorize env sender actionNetworkControl)
  let active ← activate svc env settings device
  let path ← announce env active
  lift (ownedPath env path)

/-- Creates the profile, registers it, activates it and announces the connection, each under mutexes
of its own. -/
def addAndActivate (settings : SettingsDict V) (device : String) :
    Locking S E (String × String) := do
  let profile ← ofExcept (svc.profileOf settings)
  guarded .daemon (lift (onStore (Daemon.createProfile svc.store profile)))
  adaptExcept .internal (registerConnectionObject env profile)
  let connectionPath := settingsConnectionPath (stableUuid profile.id)
  let active ← activate svc env settings device
  let path ← announce env active
  return (connectionPath, path)

/-- `AddAndActivateConnection`. -/
def addAndActivateConnection (sender : Option String) (settings : SettingsDict V)
    (device : String) : Locking S E (String × String) := do
  lift (authorize env sender actionNetworkControl)
  let (connectionPath, activeConnectionPath) ← addAndActivate svc env settings device
  return (← lift (ownedPath env connectionPath), ← lift (ownedPath env activeConnectionPath))

/-- The path is parsed under the guard. -/
def deactivateConnection (sender : Option String) (active : String) : Locking S E Unit := do
  lift (authorize env sender actionNetworkControl)
  guarded .daemon do
    let id ← ofExcept (RootIface.activeId active)
    lift (onManager (Daemon.deactivate svc.engine id))
  emitConnectionEvents env

/-- `GetDevices`. -/
def getDevices : Locking S E (List String) := do
  let devices ← guarded .daemon (ofExcept env.backend.enumerateDevices)
  return env.ownedPaths (devices.map fun device => devicePath device.index)

/-- `GetDeviceByIpIface`. -/
def getDeviceByIpIface (iface : String) : Locking S E String := do
  let index ← deviceIndexByName env iface
  let index ← ofExcept (Results.okOr (.unknownDevice iface) index)
  lift (ownedPath env (devicePath index))

/-- `CheckConnectivity`. -/
def checkConnectivity : Locking S E UInt32 :=
  guarded .daemon (lift (looking RootIface.checkConnectivity))

/-! ### The settings object -/

/-- The registered paths of the profiles, each looked up under the guard of the daemon. -/
def profilePaths : List ConnectionProfile → Locking S E (List String)
  | [] => return []
  | profile :: profiles => do
    let path ← connectionPathLookup profile.id
    let paths ← profilePaths profiles
    return path.toList ++ paths

/-- The profiles of the store. -/
def listProfiles : Handler S E (List ConnectionProfile) :=
  reading fun s => (s.daemon.listProfiles svc.store).mapError .ofStoreError

/-- The paths of all profiles: the registry is locked while the daemon is. -/
def connectionPaths : Locking S E (List String) :=
  guarded .daemon do
    let profiles ← lift (listProfiles svc)
    profilePaths profiles

/-- `ListConnections`. -/
def listConnections : Locking S E (List String) := do
  let paths ← connectionPaths svc
  return env.ownedPaths paths

/-- The registered path of the first profile with this UUID that has one. -/
def pathOfUuid (uuid : String) : List ConnectionProfile → Locking S E (Option String)
  | [] => return none
  | profile :: profiles =>
    if stableUuid profile.id = uuid then do
      match ← connectionPathLookup profile.id with
      | some path => return some path
      | none => pathOfUuid uuid profiles
    else pathOfUuid uuid profiles

/-- `GetConnectionByUuid`: the daemon stays locked until the path is made. -/
def getConnectionByUuid (uuid : String) : Locking S E String :=
  guarded .daemon do
    let profiles ← lift (listProfiles svc)
    match ← pathOfUuid uuid profiles with
    | some path => lift (ownedPath env path)
    | none => ofExcept (.error (.unknownConnection uuid))

/-- `AddConnection` and its variants; the unsaved one is not announced. -/
def addConnectionWith (announced : Bool) (sender : Option String) (settings : SettingsDict V) :
    Locking S E String := do
  lift (authorize env sender actionSettingsModifySystem)
  let profile ← ofExcept (svc.profileOf settings)
  guarded .daemon (lift (onStore (Daemon.createProfile svc.store profile)))
  adaptExcept (fun error => .internal ("failed to register connection object: " ++ error))
    (registerConnectionObject env profile)
  let path := settingsConnectionPath (stableUuid profile.id)
  lift (if announced then emit env (.newConnection path) else pure ())
  lift (ownedPath env path)

/-! ### Connection objects -/

/-- The profile behind the object. -/
def profile (profileId : ProfileId) : Locking S E ConnectionProfile :=
  guarded .daemon (lift (reading (SettingsConnectionIface.profile svc profileId)))

/-- `GetSettings`. -/
def getSettings (profileId : ProfileId) : Locking S E (SettingsDict V) := do
  return svc.settingsOf (← profile svc profileId)

/-- `Update`. -/
def update (profileId : ProfileId) (sender : Option String) (settings : SettingsDict V) :
    Locking S E Unit := do
  lift (authorize env sender actionSettingsModifySystem)
  let profile ← ofExcept (svc.profileOf settings)
  if profile.id ≠ profileId then
    ofExcept (.error (.invalidProperty "connection.id cannot change on update"))
  else do
    guarded .daemon (lift (onStore (Daemon.updateProfile svc.store profile)))
    lift (emit env (.updated (settingsConnectionPath (stableUuid profileId))))

/-- `Delete`, of a connection. -/
def delete (profileId : ProfileId) (sender : Option String) : Locking S E Unit := do
  lift (authorize env sender actionSettingsModifySystem)
  guarded .daemon (lift (onStore (Daemon.deleteProfile svc.store profileId)))
  lift (emit env (.removed (settingsConnectionPath (stableUuid profileId))))
  unregisterConnection env profileId

/-! ### Device objects -/

/-- `DeviceIface::active`: two guards, one after the other. -/
def active (index : Int32) : Locking S E (Option ActiveConnection) := do
  let view ← deviceView env index
  deviceActive view.interface

/-- The state of a device, by two looks at the daemon. -/
def currentState (index : Int32) : Locking S E UInt32 := do
  let view ← deviceView env index
  return view.stateWith (← active env index)

/-- `GetAppliedConnection`. -/
def getAppliedConnection (index : Int32) : Locking S E (SettingsDict V) := do
  return ((← active env index).map fun active => svc.settingsOf active.profile).getD []

/-- The connection that is active on the device, or an error that names its interface. -/
def requireActive (index : Int32) : Locking S E ActiveConnection := do
  let view ← deviceView env index
  let active ← active env index
  ofExcept (Results.okOr (.notActive view.interface) active)

/-- `Disconnect`. -/
def disconnect (index : Int32) (sender : Option String) : Locking S E Unit := do
  lift (authorize env sender actionNetworkControl)
  let active ← requireActive env index
  guarded .daemon (lift (onManager (Daemon.deactivate svc.engine active.id)))
  emitConnectionEvents env

/-- `Delete`, of a device. -/
def deviceDelete (index : Int32) (sender : Option String) : Locking S E Unit := do
  lift (authorize env sender actionSettingsModifySystem)
  let active ← requireActive env index
  guarded .daemon (lift (onStore (Daemon.deleteProfile svc.store active.profile.id)))
  unregisterConnection env active.profile.id
  lift (emit env (.deviceStateChanged index nmDeviceStateDisconnected nmDeviceStateActivated 0))

/-- The paths are looked up under the guard that the device was found under. -/
def availableConnections (index : Int32) : Locking S E (List String) :=
  guarded .daemon do
    let view ← ofExcept (env.backend.deviceView index)
    let profiles ← lift (listProfiles svc)
    let paths ← profilePaths (profiles.filter fun profile => profile.matches view.toDeviceInfo)
    return env.ownedPaths paths

/-! ### Wireless devices and access points -/

/-- The paths of the access points of the last scan. -/
def accessPointPaths : Locking S E (List String) :=
  guarded .daemon (pure (Shared.accessPointPaths env))

/-- The access points, if the device is the first wireless one. -/
def allAccessPoints (index : Int32) : Locking S E (List String) := do
  let primary ← guarded .daemon (ofExcept env.backend.wifiIndex)
  if primary ≠ some index then return []
  else do
    let paths ← accessPointPaths env
    return env.ownedPaths paths

/-! ### Active connections -/

/-- The tracked connection behind the object. -/
def activeConnection (id : ActiveConnectionId) : Locking S E ActiveConnection := do
  ofExcept (Results.okOr (.unknownActiveConnection (toString id)) (← activeById id))

/-- The devices of a connection. -/
def activeDevices (id : ActiveConnectionId) : Locking S E (List String) := do
  let active ← activeConnection id
  let index ← deviceIndexByName env active.device.interfaceName
  return env.ownedPaths (index.map devicePath).toList

end

end Locking

/-! ### Requests -/

/-- What the bus asks of the facade: a method, or the value of a property.  Of the wireless
interface, `GetAccessPoints` and `GetAllAccessPoints` are `accessPoints`, and `RequestScan` comes
with what the backend answers. -/
inductive FacadeRequest (V : Type) where
  | method (call : MethodCall V)
  | property (env : Environment) (p : Property)
  | accessPoints (env : Environment) (index : Int32)
  | requestScan (answer : Except FacadeError Unit)

/-- What the facade answers. -/
inductive FacadeAnswer (V : Type) where
  | reply (reply : MethodReply V)
  | value (value : PropertyValue)
  | paths (paths : List String)
  | scanned

namespace Locking

section

variable (svc : Services S E V) (env : Environment)

/-- The handler of a method. -/
def method (sender : Option String) : Method V → Locking S E (MethodReply V)
  | .getDevices | .getAllDevices => .paths <$> getDevices env
  | .getDeviceByIpIface iface => .path <$> getDeviceByIpIface env iface
  | .activateConnection settings device =>
    .path <$> activateConnection svc env sender settings device
  | .addAndActivateConnection settings device | .addAndActivateConnection2 settings device =>
    (fun paths => .addedPaths paths.1 paths.2) <$>
      addAndActivateConnection svc env sender settings device
  | .deactivateConnection active => (fun _ => .done) <$> deactivateConnection svc env sender active
  | .sleep | .enable => (fun _ => .done) <$> lift (authorize env sender actionEnableDisableNetwork)
  | .reload => (fun _ => .done) <$> lift (authorize env sender actionReload)
  | .setLogging => return .done
  | .getLogging => return .logging "INFO" ""
  | .getPermissions => .permissions <$> lift (RootIface.getPermissions env sender)
  | .checkConnectivity | .checkConnectivityFull | .getConnectivity => .number <$> checkConnectivity
  | .deviceStateReasons => return .deviceReasons []
  | .getDeviceStateReasons => return .numbers []
  | .listConnections => .paths <$> listConnections svc env
  | .getConnectionByUuid uuid => .path <$> getConnectionByUuid svc env uuid
  | .addConnection settings => .path <$> addConnectionWith svc env true sender settings
  | .addConnectionUnsaved settings => .path <$> addConnectionWith svc env false sender settings
  | .addConnection2 settings => .path <$> addConnectionWith svc env true sender settings
  | .loadConnections =>
    (fun r => .loaded r.1 r.2) <$> lift (SettingsIface.loadConnections env sender)
  | .reloadConnections => .flag <$> lift (SettingsIface.reloadConnections env sender)
  | .saveHostname => (fun _ => .done) <$> lift (SettingsIface.saveHostname env sender)
  | .getSettings profileId => .settings <$> getSettings svc profileId
  | .getSecrets _ => return .settings []
  | .update profileId settings | .updateUnsaved profileId settings =>
    (fun _ => .done) <$> update svc env profileId sender settings
  | .delete profileId => (fun _ => .done) <$> delete svc env profileId sender
  | .getSettingsFlags _ => return .number nmSettingConnectionFlagNone
  | .getAppliedConnection profileId => (.applied · 0) <$> getSettings svc profileId
  | .deviceReapply _ => ofExcept (.error (.ofUnimplemented "Reapply"))
  | .deviceGetAppliedConnection index => (.applied · 0) <$> getAppliedConnection svc env index
  | .deviceSetManaged _ => ofExcept (.error (.ofUnimplemented "SetManaged"))
  | .deviceDisconnect index => (fun _ => .done) <$> disconnect svc env index sender
  | .deviceDelete index => (fun _ => .done) <$> deviceDelete svc env index sender

/-- The getter of a property. -/
def property : Property → Locking S E PropertyValue
  | .constant => return .constant
  | .devices => .devices <$> guarded .daemon (ofExcept env.backend.enumerateDevices)
  | .activeConnections => .actives <$>
    guarded .daemon (lift (looking fun s => s.daemon.activeConnections))
  | .connections => .paths <$> listConnections svc env
  | .deviceView index => .device <$> deviceView env index
  | .deviceState index => .number <$> currentState env index
  | .deviceActive index => .active <$> active env index
  | .availableConnections index => .paths <$> availableConnections svc env index
  | .accessPoints index => .paths <$> allAccessPoints env index
  | .accessPoint bssid => .accessPoint <$> guarded .daemon (pure (AccessPointIface.ap env bssid))
  | .activeConnection id => (fun active => .active (some active)) <$> activeConnection id
  | .activeDevices id => .paths <$> activeDevices env id
  | .outcome id => (fun active => .outcome (active.map (·.outcome))) <$> activeById id

end

end Locking

namespace FacadeRequest

/-- What the facade does on a request. -/
def handle (svc : Services S E V) : FacadeRequest V → Handler S E (FacadeAnswer V)
  | .method call => .reply <$> call.perform svc
  | .property env p => .value <$> reading fun s => p.get svc env s
  | .accessPoints env index => .paths <$> reading fun _ => WirelessIface.allAccessPoints env index
  | .requestScan answer => (fun _ => .scanned) <$> MonadExcept.ofExcept answer

/-- How it locks meanwhile. -/
def locking (svc : Services S E V) : FacadeRequest V → Locking S E (FacadeAnswer V)
  | .method call => .reply <$> Locking.method svc call.env call.sender call.method
  | .property env p => .value <$> Locking.property svc env p
  | .accessPoints env index => .paths <$> Locking.allAccessPoints env index
  | .requestScan answer => (fun _ => .scanned) <$> guarded .daemon (ofExcept answer)

end FacadeRequest

end NetworkManager
