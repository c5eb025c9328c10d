import NetworkManager.Dbus.Facade

/-!
# Dbus — Properties

The properties of the facade's objects: what their getters look up.  A getter renders what it
finds, and looks at nothing else; how it renders it is left out.
-/

namespace NetworkManager

variable {S E V : Type}

/-- The index of the first wireless device, if there is one. -/
def NetworkBackend.wifiIndex (backend : NetworkBackend) : Except FacadeError (Option Int32) := do
  let devices ← backend.enumerateDevices
  return ((devices.filter fun device => device.kind = .wifi).map (·.index)).min?

/-- `Shared::access_point_paths`: what cannot be read counts as empty. -/
def Shared.accessPointPaths (env : Environment) : List String :=
  match (env.backend.wifiIndex.toOption).join with
  | none => []
  | some primaryWifi => ((env.backend.accessPoints.toOption).getD []).filterMap fun ap =>
    ap.bssid.map (accessPointPath primaryWifi)

namespace WirelessIface

/-- `all_access_points`: those of the first wireless device. -/
def allAccessPoints (env : Environment) (index : Int32) : Except FacadeError (List String) := do
  if (← env.backend.wifiIndex) ≠ some index then return []
  return env.ownedPaths (Shared.accessPointPaths env)

end WirelessIface

/-- The access point with this address, if there is one. -/
def AccessPointIface.ap (env : Environment) (bssid : Bssid) : Option AccessPoint :=
  ((env.backend.accessPoints.toOption).getD []).find? fun ap => ap.bssid == some bssid

/-- The paths of the profiles that match the device. -/
def DeviceIface.availableConnections (svc : Services S E V) (env : Environment) (index : Int32)
    (s : Shared S E) : Except FacadeError (List String) := do
  let view ← env.backend.deviceView index
  let profiles ← (s.daemon.listProfiles svc.store).mapError .ofStoreError
  return env.ownedPaths ((profiles.filter fun profile => profile.matches view.toDeviceInfo).filterMap
    fun profile => s.connections.lookup profile.id)

/-- The device of an active connection, if its path is an object path. -/
def ActiveConnectionIface.devices (env : Environment) (id : ActiveConnectionId) (s : Shared S E) :
    Except FacadeError (List String) := do
  let active ← ActiveConnectionIface.active id s
  return env.ownedPaths ((env.backend.deviceIndexByName active.device.interfaceName).map
    devicePath).toList

/-- The properties, by what their getters look up. -/
inductive Property where
  /-- The properties that look nothing up, like `Version` and `Managed`. -/
  | constant
  /-- `Devices`, `AllDevices` and `WirelessHardwareEnabled` of the root object. -/
  | devices
  /-- `ActiveConnections`, `Connectivity`, `State`, `PrimaryConnection`, `ActivatingConnection`,
  `PrimaryConnectionType`, `Ip4Config`, `Dhcp4Config` and `Ip6Config` of the root object. -/
  | activeConnections
  /-- `Connections` of the settings object. -/
  | connections
  /-- `Interface`, `IpInterface`, `Driver`, `DeviceType`, `InterfaceFlags`, `HwAddress` and
  `Carrier` of a device. -/
  | deviceView (index : Int32)
  /-- `State` and `StateReason` of a device. -/
  | deviceState (index : Int32)
  /-- `ActiveConnection`, `Ip4Config`, `Dhcp4Config`, `Ip6Config` and `Ip4Connectivity` of a
  device. -/
  | deviceActive (index : Int32)
  /-- `AvailableConnections` of a device. -/
  | availableConnections (index : Int32)
  /-- `AccessPoints` of a wireless device. -/
  | accessPoints (index : Int32)
  /-- `Flags`, `WpaFlags`, `RsnFlags`, `Ssid`, `Frequency`, `Channel`, `Strength` and `LastSeen` of an
  access point. -/
  | accessPoint (bssid : Bssid)
  /-- `Connection`, `Id`, `Uuid`, `Type`, `State`, `Default` and `ConnectionType` of an active
  connection. -/
  | activeConnection (id : ActiveConnectionId)
  /-- `Devices` of an active connection. -/
  | activeDevices (id : ActiveConnectionId)
  /-- The properties of its IP and DHCP configurations. -/
  | outcome (id : ActiveConnectionId)

/-- What a getter looks up. -/
inductive PropertyValue where
  | constant
  | devices (devices : List DeviceView)
  | actives (actives : List ActiveConnection)
  | active (active : Option ActiveConnection)
  | device (view : DeviceView)
  | number (value : UInt32)
  | paths (paths : List String)
  | accessPoint (ap : Option AccessPoint)
  | outcome (outcome : Option ActivationOutcome)

/-- Reads a property. -/
def Property.get (svc : Services S E V) (env : Environment) (s : Shared S E) :
    Property → Except FacadeError PropertyValue
  | .constant => .ok .constant
  | .devices => .devices <$> env.backend.enumerateDevices
  | .activeConnections => .ok (.actives s.daemon.activeConnections)
  | .connections => .paths <$> SettingsIface.listConnections svc env s
  | .deviceView index => .device <$> env.backend.deviceView index
  | .deviceState index => .number <$> DeviceIface.currentState env index s
  | .deviceActive index => .active <$> DeviceIface.active env index s
  | .availableConnections index => .paths <$> DeviceIface.availableConnections svc env index s
  | .accessPoints index => .paths <$> WirelessIface.allAccessPoints env index
  | .accessPoint bssid => .ok (.accessPoint (AccessPointIface.ap env bssid))
  | .activeConnection id => (fun active => .active (some active)) <$>
    ActiveConnectionIface.active id s
  | .activeDevices id => .paths <$> ActiveConnectionIface.devices env id s
  | .outcome id => .ok (.outcome ((s.activeById id).map (·.outcome)))

end NetworkManager
