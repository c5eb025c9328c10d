import NetworkManager.Linux.Model
import NetworkManager.Support.Results
import NetworkManager.Support.Text

/-!
# Connection — Profile

`connection/device.rs`, `connection/secrets.rs` and `connection/profile.rs`: what a connection
profile says, which devices it applies to, and when it is valid.
-/

namespace NetworkManager

/-! ### Devices -/

/-- The kinds of devices that profiles are for. -/
inductive DeviceKind where
  | wifi | ethernet
  deriving DecidableEq, Repr

instance : ToString DeviceKind where
  toString
    | .wifi => "wifi"
    | .ethernet => "ethernet"

/-- A hardware address. -/
abbrev MacAddress := Octets 6

/-- A device, as a profile is matched against it. -/
structure DeviceInfo where
  kind : DeviceKind
  interfaceName : String
  macAddress : Option MacAddress
  deriving DecidableEq

/-! ### Secrets -/

/-- A reference to a secret that is managed outside of the profile store. -/
inductive SecretReference where
  | keyring (identifier : String)
  | agent (identifier : String)
  deriving DecidableEq

/-- Why a secret provider gives no secret. -/
inductive SecretError where
  | notFound | unavailable
  deriving DecidableEq

/-! ### Profiles -/

/-- The name of a profile in its store. -/
abbrev ProfileId := String

/-- How an address family is configured. -/
inductive IpMethod where
  | automatic | manual | disabled
  deriving DecidableEq, Repr

/-- IP configuration intent. -/
structure IpConfig where
  method : IpMethod := .automatic
  address : Option IpAddr := none
  prefixLength : Option UInt8 := none
  gateway : Option IpAddr := none
  dnsServers : List IpAddr := []
  routes : List Route := []
  deriving DecidableEq

/-- How a Wi-Fi network authenticates. -/
inductive KeyManagement where
  | open | wpaPsk | wpaEap | sae | owe
  deriving DecidableEq, Repr

/-- The security of a Wi-Fi profile.  The secret itself stays with its provider. -/
structure WifiSecurity where
  keyManagement : KeyManagement := .open
  secret : Option SecretReference := none
  identity : Option String := none
  deriving DecidableEq

namespace WifiSecurity

/-- A network without security. -/
def openNetwork : WifiSecurity := {}

/-- A network with a pre-shared key. -/
def psk (secret : SecretReference) : WifiSecurity := { keyManagement := .wpaPsk, secret := some secret }

/-- A network with SAE. -/
def sae (secret : SecretReference) : WifiSecurity := { keyManagement := .sae, secret := some secret }

/-- A network with opportunistic encryption. -/
def owe : WifiSecurity := { keyManagement := .owe }

/-- A network with an enterprise login. -/
def enterprise (identity : String) : WifiSecurity :=
  { keyManagement := .wpaEap, identity := some identity }

end WifiSecurity

/-- The Wi-Fi part of a profile. -/
structure WifiSettings where
  ssid : Ssid
  bssid : Option Bssid := none
  hidden : Bool := false
  security : WifiSecurity := {}
  deriving DecidableEq

/-- Half or full duplex. -/
inductive EthernetDuplex where
  | half | full
  deriving DecidableEq

/-- The wired part of a profile. -/
structure EthernetSettings where
  autonegotiation : Option Bool := none
  speedMbit : Option UInt32 := none
  duplex : Option EthernetDuplex := none
  deriving DecidableEq

/-- What a profile connects to. -/
inductive ConnectionType where
  | wifi (settings : WifiSettings)
  | ethernet (settings : EthernetSettings)
  deriving DecidableEq

/-- Constraints used to select the device a profile applies to. -/
structure DeviceMatch where
  interfaceName : Option String := none
  macAddress : Option MacAddress := none
  deriving DecidableEq

/-- A connection profile. -/
structure ConnectionProfile where
  id : ProfileId
  name : String
  connectionType : ConnectionType
  deviceMatch : DeviceMatch := {}
  priority : Int32 := 0
  autoconnect : Bool := true
  enabled : Bool := true
  ipv4 : IpConfig := {}
  ipv6 : IpConfig := {}
  deriving DecidableEq

/-- What is wrong with a profile. -/
inductive ProfileValidationError where
  | emptyId
  | invalidIdChars (id : String)
  | emptyName
  | emptySsid
  | ssidTooLong (length : ℕ)
  | missingSecret
  | secretNotAllowed
  | missingIdentity
  | invalidSpeed
  | manualAddressRequired
  | manualPrefixRequired
  | prefixOutOfRange (prefixLength : UInt8)
  | addressFamilyMismatch
  deriving DecidableEq

instance : ToString ProfileValidationError where
  toString
    | .emptyId => "profile id must not be empty"
    | .invalidIdChars id =>
      "profile id " ++ Text.debug id ++ " may only contain ASCII alphanumerics, '-' and '_'"
    | .emptyName => "profile name must not be empty"
    | .emptySsid => "wifi ssid must not be empty"
    | .ssidTooLong length => "wifi ssid exceeds 32 octets (" ++ toString length ++ ")"
    | .missingSecret => "wifi security requires a secret reference"
    | .secretNotAllowed => "open or OWE wifi security must not carry a secret"
    | .missingIdentity => "enterprise wifi security requires an identity"
    | .invalidSpeed => "ethernet link speed must be non-zero"
    | .manualAddressRequired => "manual IP configuration requires an address"
    | .manualPrefixRequired => "manual IP configuration requires a prefix length"
    | .prefixOutOfRange prefixLength =>
      "IP prefix length " ++ toString prefixLength ++ " is out of range for the configured family"
    | .addressFamilyMismatch =>
      "IPv4/IPv6 configuration holds an address of the wrong family"

namespace ConnectionProfile

/-- The kind of device that the profile is for. -/
def deviceKind (p : ConnectionProfile) : DeviceKind :=
  match p.connectionType with
  | .wifi _ => .wifi
  | .ethernet _ => .ethernet

/-- Whether the profile can be applied to `device`: the kinds agree, and so do the interface name
and the MAC address where the profile asks for one. -/
def «matches» (p : ConnectionProfile) (device : DeviceInfo) : Bool :=
  p.deviceKind == device.kind &&
    (p.deviceMatch.interfaceName.all fun expected => expected == device.interfaceName) &&
    (p.deviceMatch.macAddress.all fun expected => device.macAddress == some expected)

/-- A manual section needs an address of its family and a prefix in range. -/
def validateIpConfig (config : IpConfig) (expectV4 : Bool) : Except ProfileValidationError Unit :=
  if config.method ≠ .manual then .ok ()
  else match config.address with
    | none => .error .manualAddressRequired
    | some address =>
      if address.isIpv4 ≠ expectV4 then .error .addressFamilyMismatch
      else match config.prefixLength with
        | none => .error .manualPrefixRequired
        | some prefixLength =>
          if prefixLength > (if expectV4 then 32 else 128) then
            .error (.prefixOutOfRange prefixLength)
          else .ok ()

/-- A valid section is not manual, or it has an address of its family with a prefix in range. -/
theorem validateIpConfig_eq_ok {config : IpConfig} {expectV4 : Bool} :
    validateIpConfig config expectV4 = .ok () ↔ (config.method = .manual →
      ∃ address prefixLength, config.address = some address ∧ address.isIpv4 = expectV4 ∧
        config.prefixLength = some prefixLength ∧
        prefixLength ≤ if expectV4 then 32 else 128) := by
  obtain ⟨method, address, prefixLength, gateway, dnsServers, routes⟩ := config
  by_cases hmethod : method = .manual
  · cases address with
    | none => simp [validateIpConfig, hmethod]
    | some address =>
        by_cases hfamily : address.isIpv4 = expectV4
        · cases prefixLength with
          | none => simp [validateIpConfig, hmethod, hfamily]
          | some prefixLength => simp [validateIpConfig, hmethod, hfamily]
        · simp [validateIpConfig, hmethod, hfamily]
  · simp [validateIpConfig, hmethod]

/-- A key needs a secret, an enterprise login an identity, and the others must have no secret. -/
def validateSecurity (security : WifiSecurity) : Except ProfileValidationError Unit :=
  match security.keyManagement with
  | .wpaPsk | .sae => if security.secret.isNone then .error .missingSecret else .ok ()
  | .wpaEap =>
    if security.identity.any (· ≠ "") then .ok () else .error .missingIdentity
  | .open | .owe => if security.secret.isSome then .error .secretNotAllowed else .ok ()

/-- An SSID has 1 to 32 bytes; a speed is not zero. -/
def validateConnectionType : ConnectionType → Except ProfileValidationError Unit
  | .wifi settings =>
    let length := settings.ssid.bytes.length
    if length = 0 then .error .emptySsid
    else if length > 32 then .error (.ssidTooLong length)
    else validateSecurity settings.security
  | .ethernet settings => if settings.speedMbit = some 0 then .error .invalidSpeed else .ok ()

/-- Validates the profile and reports the first problem found. -/
def validate (p : ConnectionProfile) : Except ProfileValidationError Unit := do
  if p.id = "" then throw .emptyId
  if ¬ p.id.toList.all fun c => Text.isAsciiAlphanumeric c || c == '-' || c == '_' then
    throw (.invalidIdChars p.id)
  if p.name = "" then throw .emptyName
  validateConnectionType p.connectionType
  validateIpConfig p.ipv4 true
  validateIpConfig p.ipv6 false

/-- The characters an id is made of. -/
def ValidId (id : ProfileId) : Prop :=
  id ≠ "" ∧ id.toList.all fun c => Text.isAsciiAlphanumeric c || c == '-' || c == '_'

open Results in
/-- A profile is valid if its id, its name and all its sections are. -/
theorem validate_eq_ok {p : ConnectionProfile} :
    p.validate = .ok () ↔ ValidId p.id ∧ p.name ≠ "" ∧
      validateConnectionType p.connectionType = .ok () ∧ validateIpConfig p.ipv4 true = .ok () ∧
      validateIpConfig p.ipv6 false = .ok () := by
  rw [validate]
  dsimp only
  rw [guard_eq_ok, guard_eq_ok, guard_eq_ok, seq_eq_ok, seq_eq_ok, not_not, ValidId, and_assoc]

/-- `ConnectionProfile::wifi`: a validated Wi-Fi profile with default settings. -/
def wifi (id : ProfileId) (name : String) (ssid : Ssid) (security : WifiSecurity) :
    Except ProfileValidationError ConnectionProfile := do
  let profile : ConnectionProfile := { id, name, connectionType := .wifi { ssid, security } }
  profile.validate
  return profile

/-- `ConnectionProfile::ethernet`: a validated Ethernet profile with default settings. -/
def ethernet (id : ProfileId) (name : String) :
    Except ProfileValidationError ConnectionProfile := do
  let profile : ConnectionProfile := { id, name, connectionType := .ethernet {} }
  profile.validate
  return profile

end ConnectionProfile

end NetworkManager
