import NetworkManager.Connection.Activation

/-!
# Daemon

`daemon.rs`: the coordinator of a network backend, a profile store and the activation manager.
The store and the engine keep states of their own; the backend is what the kernel answers while a
call is served (`NetworkBackend`).
-/

namespace NetworkManager

/-! ### The network backend -/

/-- A wireless interface, as far as the device objects render it. -/
structure WirelessInterface where
  index : Int32
  name : String
  mac : Option MacAddress
  up : Bool
  deriving DecidableEq

/-- An access point, as far as its registration reads it. -/
structure AccessPoint where
  bssid : Option Bssid
  deriving DecidableEq

/-- The answers of the kernel. -/
structure NetworkBackend where
  links : Except NetlinkError (List Link)
  wifiInterfaces : Except NetlinkError (List WirelessInterface)
  accessPoints : Except NetlinkError (List AccessPoint)

/-- `IFF_UP` is set. -/
def Link.isUp (link : Link) : Bool := link.flags &&& 0x1 != 0

/-- `IFF_LOOPBACK` is set. -/
def Link.isLoopback (link : Link) : Bool := link.flags &&& 0x8 != 0

/-! ### The daemon -/

/-- What the readers of a store in this state are answered; they leave it. -/
def ProfileStoreOps.view {S : Type} (ops : ProfileStoreOps S) (s : S) : ProfileStore where
  list := (Effects.settle ops.list s).1
  get id := (Effects.settle (ops.get id) s).1

/-- The profile store and the activation manager. -/
structure Daemon (S E : Type) where
  profiles : S
  activation : ActivationManager E

namespace Daemon

variable {S E : Type}

/-- A daemon with these components. -/
def withComponents (profiles : S) (engine : E) : Daemon S E := ⟨profiles, .new engine⟩

/-- The connections that are tracked. -/
def activeConnections (d : Daemon S E) : List ActiveConnection := d.activation.active

section

variable {ε α : Type}

/-- A call of the store. -/
def onProfiles (x : EStateM ε S α) : EStateM ε (Daemon S E) α :=
  Effects.zoom Daemon.profiles (fun profiles d => { d with profiles }) x

/-- A call of the manager. -/
def onActivation (x : EStateM ε (ActivationManager E) α) : EStateM ε (Daemon S E) α :=
  Effects.zoom Daemon.activation (fun activation d => { d with activation }) x

end

variable (ops : ProfileStoreOps S) (engine : ActivationEngine E)

/-- `list_profiles`. -/
def listProfiles (d : Daemon S E) : Except StoreError (List ConnectionProfile) :=
  (ops.view d.profiles).list

/-- `get_profile`. -/
def getProfile (d : Daemon S E) (id : ProfileId) : Except StoreError ConnectionProfile :=
  (ops.view d.profiles).get id

/-- `create_profile`. -/
def createProfile (profile : ConnectionProfile) : EStateM StoreError (Daemon S E) Unit :=
  onProfiles (ops.create profile)

/-- `update_profile`. -/
def updateProfile (profile : ConnectionProfile) : EStateM StoreError (Daemon S E) Unit :=
  onProfiles (ops.update profile)

/-- `delete_profile`. -/
def deleteProfile (id : ProfileId) : EStateM StoreError (Daemon S E) Unit :=
  onProfiles (ops.delete id)

/-- Activates the best profile of the store for the device. -/
def activate (device : DeviceInfo) : EStateM ActivationError (Daemon S E) ActiveConnection := do
  let d ← get
  onActivation (ActivationManager.activate engine (ops.view d.profiles) device)

/-- Activates the profile with this id on the device. -/
def activateProfile (profileId : ProfileId) (device : DeviceInfo) :
    EStateM ActivationError (Daemon S E) ActiveConnection := do
  let d ← get
  onActivation (ActivationManager.activateProfile engine (ops.view d.profiles) profileId device)

/-- Ends an active connection. -/
def deactivate (activeId : ActiveConnectionId) : EStateM ActivationError (Daemon S E) Unit :=
  onActivation (ActivationManager.deactivate engine activeId)

/-- Takes the events that are queued. -/
def connectionEvents : EStateM ActivationError (Daemon S E) (List ConnectionEvent) :=
  onActivation ActivationManager.drainEvents

end Daemon

end NetworkManager
