import NetworkManager.Dbus.Shared

/-!
# Dbus — Facade

The D-Bus interfaces of `dbus/root.rs`, `dbus/settings.rs`, `dbus/device.rs` and
`dbus/active_connection.rs`: their methods, and the properties that render the state of the
daemon.  Arguments that a method ignores are left out.

* `Method`: a method call that reaches an object, with the profile or the device of the object.
* `MethodCall`: a method call with its sender and what answers from outside while it is served.
* `Shared.run`: the calls of a list, served one after the other.
-/

namespace NetworkManager

open Effects Shared

variable {S E V : Type}

section

variable (svc : Services S E V) (env : Environment)

/-- `settings_to_profile`, with the values and the addresses of the bus at hand. -/
def Services.profileOf (settings : SettingsDict V) : Except FacadeError ConnectionProfile :=
  settingsToProfile svc.zvariant svc.ipText settings

/-- The dictionary of a profile. -/
def Services.settingsOf (profile : ConnectionProfile) : SettingsDict V :=
  profileToSettings svc.zvariant svc.ipText profile

/-- The paths that are object paths. -/
def Environment.ownedPaths (paths : List String) : List String :=
  paths.filterMap fun path => (env.ownedPath path).toOption

/-! ### The root object -/

namespace RootIface

/-- The device at the path, as the domain knows it. -/
def deviceInfo (device : String) : Except FacadeError DeviceInfo := do
  let index ← Results.okOr (.unknownDevice device) (pathIndex device devicesPrefix)
  let view ← env.backend.deviceView (Int32.ofNat index)
  return view.toDeviceInfo

/-- The id in the path of an active connection. -/
def activeId (path : String) : Except FacadeError ActiveConnectionId :=
  Results.okOr (.unknownActiveConnection path)
    ((pathIndex path activePrefix).map ActiveConnectionId.mk)

/-- The best profile for the device if the dictionary is empty, and its own one otherwise. -/
def activate (settings : SettingsDict V) (device : String) : Handler S E ActiveConnection := do
  let info ← MonadExcept.ofExcept (deviceInfo env device)
  if settings = [] then
    onManager (Daemon.activate svc.store svc.engine info)
  else
    let profile ← MonadExcept.ofExcept (svc.profileOf settings)
    onManager (Daemon.activateProfile svc.store svc.engine profile.id info)

/-- Registers the object of a new connection and tells of it. -/
def announce (active : ActiveConnection) : Handler S E String := do
  EStateM.adaptExcept .internal (registerActiveConnectionObject env active)
  let path := activePath active.id
  emit env (.activeConnectionAdded path)
  emitConnectionEvents env
  return path

/-- `ActivateConnection`: asks for leave, activates the profile or the best one, and announces it.
-/
def activateConnection (sender : Option String) (settings : SettingsDict V) (device : String) :
    Handler S E String := do
  authorize env sender actionNetworkControl
  let active ← activate svc env settings device
  let path ← announce env active
  ownedPath env path

/-- Adds the profile, with its object, and activates it.  The profile stays if the activation fails.
-/
def addAndActivate (settings : SettingsDict V) (device : String) :
    Handler S E (String × String) := do
  let profile ← MonadExcept.ofExcept (svc.profileOf settings)
  onStore (Daemon.createProfile svc.store profile)
  EStateM.adaptExcept .internal (registerConnectionObject env profile)
  let connectionPath := settingsConnectionPath (stableUuid profile.id)
  let active ← activate svc env settings device
  let path ← announce env active
  return (connectionPath, path)

/-- `AddAndActivateConnection`: asks for the control of the network, not for leave to change
settings. -/
def addAndActivateConnection (sender : Option String) (settings : SettingsDict V)
    (device : String) : Handler S E (String × String) := do
  authorize env sender actionNetworkControl
  let (connectionPath, activeConnectionPath) ← addAndActivate svc env settings device
  return (← ownedPath env connectionPath, ← ownedPath env activeConnectionPath)

/-- `DeactivateConnection`. -/
def deactivateConnection (sender : Option String) (active : String) : Handler S E Unit := do
  authorize env sender actionNetworkControl
  let id ← MonadExcept.ofExcept (activeId active)
  onManager (Daemon.deactivate svc.engine id)
  emitConnectionEvents env

/-- `GetDevices`. -/
def getDevices : Except FacadeError (List String) := do
  let devices ← env.backend.enumerateDevices
  return env.ownedPaths (devices.map fun device => devicePath device.index)

/-- `GetDeviceByIpIface`. -/
def getDeviceByIpIface (iface : String) : Except FacadeError String := do
  let index ← Results.okOr (.unknownDevice iface) (env.backend.deviceIndexByName iface)
  (env.ownedPath (devicePath index)).mapError .internal

/-- `GetPermissions`: asks about each action. -/
def getPermissions (sender : Option String) : Handler S E (List (String × String)) :=
  permissionActions.mapM fun action => do
    return (action, ← permission env sender action)

/-- `CheckConnectivity`: full as soon as any connection is tracked. -/
def checkConnectivity (s : Shared S E) : UInt32 :=
  if s.daemon.activeConnections = [] then nmConnectivityNone else nmConnectivityFull

/-- The property `State`. -/
def nmState (s : Shared S E) : UInt32 :=
  if s.daemon.activeConnections = [] then nmStateDisconnected else nmStateConnectedGlobal

/-- The property `ActiveConnections`. -/
def activeConnections (s : Shared S E) : List String :=
  env.ownedPaths (s.daemon.activeConnections.map fun active => activePath active.id)

/-- The property `PrimaryConnection`. -/
def primaryConnection (s : Shared S E) : String :=
  (s.daemon.activeConnections.head?.map fun active =>
    ((env.ownedPath (activePath active.id)).toOption).getD rootObjectPath).getD rootObjectPath

end RootIface

/-! ### The settings object -/

namespace SettingsIface

/-- `ListConnections`: the paths of the profiles that have an object. -/
def listConnections (s : Shared S E) : Except FacadeError (List String) := do
  let profiles ← (s.daemon.listProfiles svc.store).mapError .ofStoreError
  return env.ownedPaths (profiles.filterMap fun profile => s.connections.lookup profile.id)

/-- `GetConnectionByUuid`. -/
def getConnectionByUuid (s : Shared S E) (uuid : String) : Except FacadeError String := do
  let profiles ← (s.daemon.listProfiles svc.store).mapError .ofStoreError
  let path := (profiles.filter fun profile => stableUuid profile.id = uuid).findSome? fun profile =>
    s.connections.lookup profile.id
  match path with
  | some path => (env.ownedPath path).mapError .internal
  | none => throw (.unknownConnection uuid)

/-- The body that the methods adding a connection share; all but `AddConnectionUnsaved` emit. -/
def addConnectionWith (announced : Bool) (sender : Option String) (settings : SettingsDict V) :
    Handler S E String := do
  authorize env sender actionSettingsModifySystem
  let profile ← MonadExcept.ofExcept (svc.profileOf settings)
  onStore (Daemon.createProfile svc.store profile)
  EStateM.adaptExcept (fun error => .internal ("failed to register connection object: " ++ error))
    (registerConnectionObject env profile)
  let path := settingsConnectionPath (stableUuid profile.id)
  if announced then emit env (.newConnection path)
  ownedPath env path

/-- `AddConnection`. -/
def addConnection (sender : Option String) (settings : SettingsDict V) : Handler S E String :=
  addConnectionWith svc env true sender settings

/-- `AddConnectionUnsaved`: the profile is persisted all the same. -/
def addConnectionUnsaved (sender : Option String) (settings : SettingsDict V) :
    Handler S E String :=
  addConnectionWith svc env false sender settings

/-- `AddConnection2`. -/
def addConnection2 (sender : Option String) (settings : SettingsDict V) : Handler S E String :=
  addConnectionWith svc env true sender settings

/-- `LoadConnections`: asks for leave, and loads nothing. -/
def loadConnections (sender : Option String) : Handler S E (Bool × List String) := do
  authorize env sender actionSettingsModifySystem
  return (true, [])

/-- `ReloadConnections`: asks for leave, and reloads nothing. -/
def reloadConnections (sender : Option String) : Handler S E Bool := do
  authorize env sender actionSettingsModifySystem
  return true

/-- `SaveHostname`: asks for leave, and saves nothing. -/
def saveHostname (sender : Option String) : Handler S E Unit :=
  authorize env sender actionSettingsModifySystem

end SettingsIface

/-! ### Connection objects -/

namespace SettingsConnectionIface

variable (profileId : ProfileId)

/-- The profile behind the object, as it is stored now. -/
def profile (s : Shared S E) : Except FacadeError ConnectionProfile :=
  (s.daemon.getProfile svc.store profileId).mapError .ofStoreError

/-- Overwrites the stored profile with the one of the dictionary, which has to have the same id. -/
def updateInner (settings : SettingsDict V) : Handler S E Unit := do
  let profile ← MonadExcept.ofExcept (svc.profileOf settings)
  if profile.id ≠ profileId then
    throw (.invalidProperty "connection.id cannot change on update")
  onStore (Daemon.updateProfile svc.store profile)
  emit env (.updated (settingsConnectionPath (stableUuid profileId)))

/-- Deletes the profile, and then its object. -/
def deleteInner : Handler S E Unit := do
  onStore (Daemon.deleteProfile svc.store profileId)
  emit env (.removed (settingsConnectionPath (stableUuid profileId)))
  unregisterConnection env profileId

/-- `GetSettings`. -/
def getSettings (s : Shared S E) : Except FacadeError (SettingsDict V) := do
  return svc.settingsOf (← profile svc profileId s)

/-- `Update` and `UpdateUnsaved`. -/
def update (sender : Option String) (settings : SettingsDict V) : Handler S E Unit := do
  authorize env sender actionSettingsModifySystem
  updateInner svc env profileId settings

/-- `Delete`, of a connection. -/
def delete (sender : Option String) : Handler S E Unit := do
  authorize env sender actionSettingsModifySystem
  deleteInner svc env profileId

end SettingsConnectionIface

/-! ### Device objects -/

namespace DeviceIface

variable (index : Int32)

/-- The connection that is active on the device. -/
def active (s : Shared S E) : Except FacadeError (Option ActiveConnection) := do
  let view ← env.backend.deviceView index
  return s.deviceActive view.interface

/-- The property `State`. -/
def currentState (s : Shared S E) : Except FacadeError UInt32 := do
  let view ← env.backend.deviceView index
  return view.stateWith (← active env index s)

/-- The name of the device's interface. -/
def interfaceName : Except FacadeError String := do
  return (← env.backend.deviceView index).interface

/-- `GetAppliedConnection`: the profile that was activated, or nothing. -/
def getAppliedConnection (s : Shared S E) : Except FacadeError (SettingsDict V) := do
  return ((← active env index s).map fun active => svc.settingsOf active.profile).getD []

/-- The connection found on the interface of the device. -/
def requireActive : Handler S E ActiveConnection := do
  let iface ← MonadExcept.ofExcept (interfaceName env index)
  let active ← MonadExcept.ofExcept (active env index (← get))
  MonadExcept.ofExcept (Results.okOr (.notActive iface) active)

/-- `Disconnect`. -/
def disconnect (sender : Option String) : Handler S E Unit := do
  authorize env sender actionNetworkControl
  let active ← requireActive env index
  onManager (Daemon.deactivate svc.engine active.id)
  emitConnectionEvents env

/-- `Delete`, of a device: deletes the profile of its active connection. -/
def delete (sender : Option String) : Handler S E Unit := do
  authorize env sender actionSettingsModifySystem
  let active ← requireActive env index
  onStore (Daemon.deleteProfile svc.store active.profile.id)
  unregisterConnection env active.profile.id
  -- the arguments are the state, the reason and the previous state
  emit env (.deviceStateChanged index nmDeviceStateDisconnected nmDeviceStateActivated 0)

/-- The property `ActiveConnection`. -/
def activeConnection (s : Shared S E) : Except FacadeError String := do
  return ((← active env index s).map fun active =>
    ((env.ownedPath (activePath active.id)).toOption).getD rootObjectPath).getD rootObjectPath

end DeviceIface

/-! ### Objects of active connections -/

namespace ActiveConnectionIface

variable (id : ActiveConnectionId)

/-- The tracked connection behind the object. -/
def active (s : Shared S E) : Except FacadeError ActiveConnection :=
  Results.okOr (.unknownActiveConnection (toString id)) (s.activeById id)

/-- The property `Connection`. -/
def connection (s : Shared S E) : Except FacadeError String := do
  let profileId := (← active id s).profile.id
  (env.ownedPath (settingsConnectionPath (stableUuid profileId))).mapError .internal

end ActiveConnectionIface

end

/-! ### Calls -/

/-- The methods of the root, the settings, the connection and the device objects. -/
inductive Method (V : Type) where
  | getDevices
  | getAllDevices
  | getDeviceByIpIface (iface : String)
  | activateConnection (settings : SettingsDict V) (device : String)
  | addAndActivateConnection (settings : SettingsDict V) (device : String)
  | addAndActivateConnection2 (settings : SettingsDict V) (device : String)
  | deactivateConnection (active : String)
  | sleep
  | enable
  | reload
  | setLogging
  | getLogging
  | getPermissions
  | checkConnectivity
  | checkConnectivityFull
  | getConnectivity
  | deviceStateReasons
  | getDeviceStateReasons
  | listConnections
  | getConnectionByUuid (uuid : String)
  | addConnection (settings : SettingsDict V)
  | addConnectionUnsaved (settings : SettingsDict V)
  | addConnection2 (settings : SettingsDict V)
  | loadConnections
  | reloadConnections
  | saveHostname
  | getSettings (profileId : ProfileId)
  | getSecrets (profileId : ProfileId)
  | update (profileId : ProfileId) (settings : SettingsDict V)
  | updateUnsaved (profileId : ProfileId) (settings : SettingsDict V)
  | delete (profileId : ProfileId)
  | getSettingsFlags (profileId : ProfileId)
  | getAppliedConnection (profileId : ProfileId)
  | deviceReapply (index : Int32)
  | deviceGetAppliedConnection (index : Int32)
  | deviceSetManaged (index : Int32)
  | deviceDisconnect (index : Int32)
  | deviceDelete (index : Int32)

/-- What a method returns. -/
inductive MethodReply (V : Type) where
  | done
  | flag (value : Bool)
  | number (value : UInt32)
  | numbers (values : List UInt32)
  | path (path : String)
  | paths (paths : List String)
  | addedPaths (connection active : String)
  | logging (level domains : String)
  | permissions (permissions : List (String × String))
  | deviceReasons (reasons : List (String × UInt32))
  | loaded (status : Bool) (failures : List String)
  | settings (settings : SettingsDict V)
  | applied (settings : SettingsDict V) (versionId : UInt64)

/-- A handler that only looks at the state. -/
def Shared.reading {α : Type} (f : Shared S E → Except FacadeError α) : Handler S E α := do
  MonadExcept.ofExcept (f (← get))

/-- Serves a method. -/
def Method.perform (svc : Services S E V) (env : Environment) (sender : Option String) :
    Method V → Handler S E (MethodReply V)
  | .getDevices | .getAllDevices => .paths <$> reading fun _ => RootIface.getDevices env
  | .getDeviceByIpIface iface =>
    .path <$> reading fun _ => RootIface.getDeviceByIpIface env iface
  | .activateConnection settings device =>
    .path <$> RootIface.activateConnection svc env sender settings device
  | .addAndActivateConnection settings device | .addAndActivateConnection2 settings device =>
    (fun paths => .addedPaths paths.1 paths.2) <$>
      RootIface.addAndActivateConnection svc env sender settings device
  | .deactivateConnection active =>
    (fun _ => .done) <$> RootIface.deactivateConnection svc env sender active
  | .sleep | .enable => (fun _ => .done) <$> authorize env sender actionEnableDisableNetwork
  | .reload => (fun _ => .done) <$> authorize env sender actionReload
  | .setLogging => return .done
  | .getLogging => return .logging "INFO" ""
  | .getPermissions => .permissions <$> RootIface.getPermissions env sender
  | .checkConnectivity | .checkConnectivityFull | .getConnectivity =>
    .number <$> reading fun s => .ok (RootIface.checkConnectivity s)
  | .deviceStateReasons => return .deviceReasons []
  | .getDeviceStateReasons => return .numbers []
  | .listConnections => .paths <$> reading (SettingsIface.listConnections svc env)
  | .getConnectionByUuid uuid =>
    .path <$> reading fun s => SettingsIface.getConnectionByUuid svc env s uuid
  | .addConnection settings => .path <$> SettingsIface.addConnection svc env sender settings
  | .addConnectionUnsaved settings =>
    .path <$> SettingsIface.addConnectionUnsaved svc env sender settings
  | .addConnection2 settings => .path <$> SettingsIface.addConnection2 svc env sender settings
  | .loadConnections =>
    (fun loaded => .loaded loaded.1 loaded.2) <$> SettingsIface.loadConnections env sender
  | .reloadConnections => .flag <$> SettingsIface.reloadConnections env sender
  | .saveHostname => (fun _ => .done) <$> SettingsIface.saveHostname env sender
  | .getSettings profileId =>
    .settings <$> reading (SettingsConnectionIface.getSettings svc profileId)
  | .getSecrets _ => return .settings []
  | .update profileId settings | .updateUnsaved profileId settings =>
    (fun _ => .done) <$> SettingsConnectionIface.update svc env profileId sender settings
  | .delete profileId =>
    (fun _ => .done) <$> SettingsConnectionIface.delete svc env profileId sender
  | .getSettingsFlags _ => return .number nmSettingConnectionFlagNone
  | .getAppliedConnection profileId =>
    (.applied · 0) <$> reading (SettingsConnectionIface.getSettings svc profileId)
  | .deviceReapply _ => throw (.ofUnimplemented "Reapply")
  | .deviceGetAppliedConnection index =>
    (.applied · 0) <$> reading (DeviceIface.getAppliedConnection svc env index)
  | .deviceSetManaged _ => throw (.ofUnimplemented "SetManaged")
  | .deviceDisconnect index =>
    (fun _ => .done) <$> DeviceIface.disconnect svc env index sender
  | .deviceDelete index => (fun _ => .done) <$> DeviceIface.delete svc env index sender

/-- A method call, with its sender and what answers from outside while it is served. -/
structure MethodCall (V : Type) where
  env : Environment
  sender : Option String
  method : Method V

namespace MethodCall

/-- What the facade does on a method call. -/
def perform (svc : Services S E V) (call : MethodCall V) : Handler S E (MethodReply V) :=
  call.method.perform svc call.env call.sender

end MethodCall

namespace Shared

variable (svc : Services S E V)

/-- The state after a call, whether it returned or failed. -/
def step (s : Shared S E) (call : MethodCall V) : Shared S E := after (call.perform svc) s

/-- The state after the calls, from `s`. -/
def run (s : Shared S E) (calls : List (MethodCall V)) : Shared S E := calls.foldl (step svc) s

end Shared

end NetworkManager
