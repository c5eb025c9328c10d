import NetworkManager.Authorization
import NetworkManager.Daemon
import NetworkManager.Dbus.Convert
import NetworkManager.Dbus.Error

/-!
# Dbus — Objects

The object paths and the enumerations of `dbus/mod.rs`, the devices of `dbus/device.rs`, and what
the facade asks of the bus library: to register and to remove objects, to emit signals, and to
take a text for an object path.
-/

namespace NetworkManager

/-! ### Object paths -/

/-- The path of an object that is not there. -/
def rootObjectPath : String := "/"

/-- Where the devices are. -/
def devicesPrefix : String := "/org/freedesktop/NetworkManager/Devices/"

/-- Where the active connections are. -/
def activePrefix : String := "/org/freedesktop/NetworkManager/ActiveConnection/"

/-- The path of a device: its index. -/
def devicePath (index : Int32) : String := devicesPrefix ++ toString index

/-- The path of an active connection: its id. -/
def activePath (id : ActiveConnectionId) : String := activePrefix ++ toString id

/-- The path of the IPv4 configuration of a connection. -/
def ip4Path (id : ActiveConnectionId) : String :=
  "/org/freedesktop/NetworkManager/IP4Config/" ++ toString id

/-- The path of the IPv6 configuration of a connection. -/
def ip6Path (id : ActiveConnectionId) : String :=
  "/org/freedesktop/NetworkManager/IP6Config/" ++ toString id

/-- The path of the DHCPv4 configuration of a connection. -/
def dhcp4Path (id : ActiveConnectionId) : String :=
  "/org/freedesktop/NetworkManager/DHCP4Config/" ++ toString id

/-- The path of the DHCPv6 configuration of a connection. -/
def dhcp6Path (id : ActiveConnectionId) : String :=
  "/org/freedesktop/NetworkManager/DHCP6Config/" ++ toString id

/-- Path elements have no hyphens, so those of the UUID are left out. -/
def settingsConnectionPath (uuid : String) : String :=
  "/org/freedesktop/NetworkManager/Settings/" ++ String.ofList (uuid.toList.filter (· != '-'))

/-- The path of an access point: the index of the device and the hardware address. -/
def accessPointPath (deviceIndex : Int32) (bssid : Bssid) : String :=
  "/org/freedesktop/NetworkManager/AccessPoint/" ++ toString deviceIndex ++ "_" ++
    String.ofList (bssid.octets.toList.flatMap fun byte =>
      [Nat.digitChar (byte.toNat / 16), Nat.digitChar (byte.toNat % 16)])

/-- The integer after the prefix of a path, up to the next slash. -/
def pathIndex (path pathPrefix : String) : Option ℕ :=
  (Text.stripPrefix pathPrefix.toList path.toList).bind fun rest =>
    Text.parseU64 (rest.takeWhile (· != '/'))

/-- The id in a path is read up to the next slash. -/
theorem pathIndex_append (pathPrefix s : String) :
    pathIndex (pathPrefix ++ s) pathPrefix = Text.parseU64 (s.toList.takeWhile (· != '/')) := by
  rw [pathIndex, String.toList_append, Text.stripPrefix_append]
  rfl

/-! ### Enumerations -/

/-- The device is in a state nobody knows. -/
def nmDeviceStateUnknown : UInt32 := 0

/-- The device cannot be used. -/
def nmDeviceStateUnavailable : UInt32 := 20

/-- The device can be used, and is not. -/
def nmDeviceStateDisconnected : UInt32 := 30

/-- The activation is being prepared. -/
def nmDeviceStatePrepare : UInt32 := 40

/-- The device is being configured. -/
def nmDeviceStateConfig : UInt32 := 50

/-- The addresses are being configured. -/
def nmDeviceStateIpConfig : UInt32 := 70

/-- The device has a connection. -/
def nmDeviceStateActivated : UInt32 := 100

/-- The connection is being taken down. -/
def nmDeviceStateDeactivating : UInt32 := 110

/-- The activation failed. -/
def nmDeviceStateFailed : UInt32 := 120

/-- There is no connection. -/
def nmConnectivityNone : UInt32 := 1

/-- There is a connection. -/
def nmConnectivityFull : UInt32 := 4

/-- No connection is tracked. -/
def nmStateDisconnected : UInt32 := 20

/-- A connection is tracked. -/
def nmStateConnectedGlobal : UInt32 := 70

/-- The connection is on its way up. -/
def nmActiveConnectionStateActivating : UInt32 := 1

/-- The connection is up. -/
def nmActiveConnectionStateActivated : UInt32 := 2

/-- The connection is on its way down. -/
def nmActiveConnectionStateDeactivating : UInt32 := 3

/-- The connection is down. -/
def nmActiveConnectionStateDeactivated : UInt32 := 4

/-- A profile that is on disk, and not of any special kind. -/
def nmSettingConnectionFlagNone : UInt32 := 0

/-- `active_connection::nm_state`. -/
def activeNmState : ConnectionState → UInt32
  | .activated => nmActiveConnectionStateActivated
  | .preparing | .configuring | .activating => nmActiveConnectionStateActivating
  | .deactivating => nmActiveConnectionStateDeactivating
  | .unknown | .disconnected | .failed => nmActiveConnectionStateDeactivated

/-- The device state for the duration of a step of the connection's lifecycle. -/
def connectionToDeviceState : ConnectionState → UInt32
  | .preparing => nmDeviceStatePrepare
  | .configuring => nmDeviceStateConfig
  | .activating => nmDeviceStateIpConfig
  | .activated => nmDeviceStateActivated
  | .deactivating => nmDeviceStateDeactivating
  | .failed => nmDeviceStateFailed
  | .unknown | .disconnected => nmDeviceStateDisconnected

/-! ### Devices -/

/-- The device types the facade can render. -/
inductive DeviceView.Kind where
  | wifi | ethernet | loopback
  deriving DecidableEq

/-- The domain has no loopback devices: they are wired ones. -/
def DeviceView.Kind.domainKind : DeviceView.Kind → DeviceKind
  | .wifi => .wifi
  | .ethernet | .loopback => .ethernet

/-- A projection of one kernel interface. -/
structure DeviceView where
  index : Int32
  interface : String
  kind : DeviceView.Kind
  mac : Option MacAddress
  up : Bool
  deriving DecidableEq

namespace DeviceView

/-- What the domain knows of the device. -/
def toDeviceInfo (view : DeviceView) : DeviceInfo :=
  ⟨view.kind.domainKind, view.interface, view.mac⟩

/-- A wireless interface, as a device. -/
def ofWireless (interface : WirelessInterface) : DeviceView :=
  ⟨interface.index, interface.name, .wifi, interface.mac, interface.up⟩

/-- A link, as a device. -/
def ofLink (link : Link) : DeviceView :=
  ⟨link.index, link.name, if link.isLoopback then .loopback else .ethernet, none, link.isUp⟩

/-- A link is a device of its own, unless its index has one already. -/
def addLink (devices : List DeviceView) (link : Link) : List DeviceView :=
  if devices.any fun device => device.index == link.index then devices
  else devices ++ [ofLink link]

/-- The state of a device, given the connection that is found on its interface. -/
def stateWith (view : DeviceView) (active : Option ActiveConnection) : UInt32 :=
  if active.any fun active =>
      active.device.interfaceName == view.interface && active.state == .activated then
    nmDeviceStateActivated
  else if view.up then nmDeviceStateDisconnected
  else nmDeviceStateUnavailable

end DeviceView

namespace NetworkBackend

variable (backend : NetworkBackend)

/-- The devices, sorted by index. -/
def enumerateDevices : Except FacadeError (List DeviceView) := do
  let interfaces ← backend.wifiInterfaces.mapError .ofNetlinkError
  let links ← backend.links.mapError .ofNetlinkError
  return (links.foldl DeviceView.addLink (interfaces.map .ofWireless)).mergeSort
    fun a b => a.index ≤ b.index

/-- The device with this index. -/
def deviceView (index : Int32) : Except FacadeError DeviceView := do
  let devices ← backend.enumerateDevices
  Results.okOr (.unknownDevice ("device " ++ toString index))
    (devices.find? fun device => device.index == index)

/-- The index of the first device with this name; an error is none. -/
def deviceIndexByName (interface : String) : Option Int32 :=
  (backend.enumerateDevices.toOption.bind fun devices =>
    devices.find? fun device => device.interface == interface).map (·.index)

/-- The index of the first wireless device. -/
def primaryWifi : Except FacadeError Int32 := do
  let devices ← backend.enumerateDevices
  return ((devices.filter fun device => device.kind = .wifi).map (·.index)).min?.getD 0

end NetworkBackend

/-! ### The bus -/

/-- The signals of the facade, with the objects that emit them. -/
inductive Signal where
  | newConnection (connection : String)
  | updated (path : String)
  | removed (path : String)
  | activeConnectionAdded (active : String)
  | activeConnectionRemoved (active : String)
  | stateChanged (state : UInt32)
  | activeStateChanged (id : ActiveConnectionId) (state reason prevState : UInt32)
  | deviceStateChanged (index : Int32) (state reason prevState : UInt32)
  | devicePropertiesChanged (index : Int32) (state : UInt32)
  deriving DecidableEq

/-- What the facade asks of the bus library. -/
inductive BusRequest where
  | register (path : String)
  | unregister (path : String)
  | emit (signal : Signal)
  | ownedPath (path : String)

/-- What answers from outside of the daemon during one call. -/
structure Environment where
  backend : NetworkBackend
  authorization : Authorization
  bus : BusRequest → Except String Unit

namespace Environment

variable (env : Environment)

/-- `OwnedObjectPath::try_from`. -/
def ownedPath (path : String) : Except String String :=
  (env.bus (.ownedPath path)).map fun _ => path

/-- The bus library refuses nothing. -/
def BusUp : Prop := ∀ request, env.bus request = .ok ()

end Environment

end NetworkManager
