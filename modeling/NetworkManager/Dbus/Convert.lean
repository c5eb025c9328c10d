import NetworkManager.Dbus.Settings

/-!
# Dbus — Convert

`dbus/convert.rs`: between connection profiles and settings dictionaries.
-/

namespace NetworkManager

open Results (okOr)

/-! ### Routes -/

namespace Ipv4Addr

/-- `Ipv4Addr::from(word.to_le_bytes())`. -/
def ofLeBytes (word : UInt32) : Ipv4Addr :=
  .ofOctets ⟨Octets.littleEndian 4 word.toNat, by simp [Octets.littleEndian]⟩

/-- `u32::from_le_bytes(a.octets())`. -/
def toLeBytes (a : Ipv4Addr) : UInt32 := UInt32.ofNat (Octets.ofLittleEndian a.octets.toList)

/-- The octets of an address on the wire are the little-endian ones of the word. -/
theorem octets_ofLeBytes (word : UInt32) :
    (ofLeBytes word).octets.toList = Octets.littleEndian 4 word.toNat :=
  congrArg List.Vector.toList (octets_ofOctets _)

theorem ofLittleEndian_octets_lt (a : Ipv4Addr) :
    Octets.ofLittleEndian a.octets.toList < 2 ^ 32 := by
  have h := Octets.ofBigEndian_lt a.octets.toList.reverse
  rwa [List.length_reverse, List.Vector.toList_length] at h

/-- A word becomes the address and the address becomes the word again. -/
theorem toLeBytes_ofLeBytes (word : UInt32) : (ofLeBytes word).toLeBytes = word := by
  rw [toLeBytes, octets_ofLeBytes, Octets.ofLittleEndian_littleEndian word.toNat_lt,
    UInt32.ofNat_toNat]

/-- An address becomes the word and the word becomes the address again. -/
theorem ofLeBytes_toLeBytes (a : Ipv4Addr) : ofLeBytes a.toLeBytes = a := by
  refine Eq.trans (congrArg ofOctets (Subtype.ext ?_)) (ofOctets_octets a)
  show Octets.littleEndian 4 a.toLeBytes.toNat = a.octets.toList
  rw [toLeBytes, UInt32.toNat_ofNat', Nat.mod_eq_of_lt (ofLittleEndian_octets_lt a)]
  exact Octets.littleEndian_ofLittleEndian a.octets

/-- The word 0 is that of the unspecified address. -/
theorem toLeBytes_eq_zero {a : Ipv4Addr} : a.toLeBytes = 0 ↔ a = .unspecified := by
  constructor
  · intro h
    rw [← ofLeBytes_toLeBytes a, h]
    rfl
  · rintro rfl
    rfl

end Ipv4Addr

/-- The scope that a route without one is given. -/
def scopeOf (prefixLength : UInt32) : RouteScope := if prefixLength = 0 then .universe else .link

/-- `(metric != 0).then_some(metric)`. -/
def routeMetric (metric : UInt32) : Option UInt32 := if metric ≠ 0 then some metric else none

/-- A route of `ipv4.routes`: destination, prefix, next hop, metric. -/
def parseRouteV4 : List UInt32 → Except FacadeError Route
  | [destination, prefixLength, nextHop, metric] =>
    if prefixLength > 32 then .error (.invalidProperty "ipv4.routes prefix exceeds 32")
    else .ok {
      family := .v4
      destination := .v4 (.ofLeBytes destination)
      prefixLength := prefixLength.toUInt8
      gateway := if nextHop ≠ 0 then some (.v4 (.ofLeBytes nextHop)) else none
      outputInterface := none
      metric := routeMetric metric
      kind := .unicast
      scope := scopeOf prefixLength }
  | _ => .error (.invalidProperty "ipv4.routes entry is not [dest, prefix, next-hop, metric]")

/-- `(!gateway.is_unspecified()).then_some(gateway)`. -/
def specifiedGateway (gateway : Ipv6Addr) : Option IpAddr :=
  if gateway ≠ .unspecified then some (.v6 gateway) else none

/-- A route of `ipv6.routes`. -/
def parseRouteV6 : RouteV6Entry → Except FacadeError Route
  | (destination, prefixLength, nextHop, metric) =>
    if h : destination.length = 16 ∧ nextHop.length = 16 then
      if prefixLength > 128 then .error (.invalidProperty "ipv6.routes prefix exceeds 128")
      else .ok {
        family := .v6
        destination := .v6 (.ofOctets ⟨destination, h.1⟩)
        prefixLength := prefixLength.toUInt8
        gateway := specifiedGateway (.ofOctets ⟨nextHop, h.2⟩)
        outputInterface := none
        metric := routeMetric metric
        kind := .unicast
        scope := scopeOf prefixLength }
    else .error (.invalidProperty "ipv6.routes addresses are not 16 octets")

/-- Serializes a route as the `ipv4.routes` tuple. -/
def routeV4Entry (route : Route) : List UInt32 :=
  let destination := (route.destination.toV4).getD .unspecified
  let nextHop := (route.gateway.bind IpAddr.toV4).getD .unspecified
  [destination.toLeBytes, route.prefixLength.toUInt32, nextHop.toLeBytes, route.metric.getD 0]

/-- Serializes a route as the `ipv6.routes` tuple. -/
def routeV6Entry (route : Route) : RouteV6Entry :=
  let destination := (route.destination.toV6).getD .unspecified
  let nextHop := (route.gateway.bind IpAddr.toV6).getD .unspecified
  (destination.octets.toList, route.prefixLength.toUInt32, nextHop.octets.toList,
    route.metric.getD 0)

/-! ### Types and security -/

/-- The `type` of the connection section. -/
def connectionTypeString (profile : ConnectionProfile) : String :=
  match profile.connectionType with
  | .wifi _ => "802-11-wireless"
  | .ethernet _ => "802-3-ethernet"

/-- The `key-mgmt` of the security section. -/
def keyManagementString : KeyManagement → String
  | .open => "none"
  | .wpaPsk => "wpa-psk"
  | .wpaEap => "wpa-eap"
  | .sae => "sae"
  | .owe => "owe"

/-- The security that a `key-mgmt` stands for; the secrets and the identity are placeholders. -/
def parseKeyManagement (value : String) : Except FacadeError WifiSecurity :=
  match value with
  | "none" | "" => .ok .openNetwork
  | "owe" => .ok .owe
  | "wpa-psk" => .ok (.psk (.keyring "nmd/wifi-psk"))
  | "sae" => .ok (.sae (.keyring "nmd/wifi-sae"))
  | "wpa-eap" => .ok (.enterprise "nmd-enterprise")
  | other => .error (.invalidSetting ("unsupported key management " ++ Text.debug other))

/-- The `method` of an IP section. -/
def methodString : IpMethod → String
  | .automatic => "auto"
  | .manual => "manual"
  | .disabled => "disabled"

/-- The method that its name stands for. -/
def parseMethod (value : String) : Except FacadeError IpMethod :=
  match value with
  | "auto" | "" => .ok .automatic
  | "manual" => .ok .manual
  | "disabled" => .ok .disabled
  | other => .error (.invalidSetting ("unsupported IP method " ++ Text.debug other))

/-! ### Stable identifiers -/

/-- One pass of FNV-1a over the bytes. -/
def fnv1a (bytes : List UInt8) (hash : UInt64) : UInt64 :=
  bytes.foldl (fun hash byte => (hash ^^^ byte.toUInt64) * 0x100000001b3) hash

/-- `{:0width$x}`. -/
def hexPadded (width n : ℕ) : List Char :=
  List.replicate (width - (Text.hex n).length) '0' ++ Text.hex n

/-- A v5-style UUID of a profile id. -/
def stableUuid (id : String) : String :=
  let first := (fnv1a id.toUTF8.data.toList 0xcbf29ce484222325).toNat
  let second := (fnv1a id.toUTF8.data.toList 0x84222325cbf29ce4).toNat
  String.ofList (hexPadded 8 (first / 2 ^ 32) ++ '-' :: hexPadded 4 (first % 2 ^ 16) ++
    '-' :: '5' :: hexPadded 3 (first / 2 ^ 16 % 2 ^ 12) ++
    '-' :: '8' :: hexPadded 3 (second % 2 ^ 12) ++
    '-' :: hexPadded 12 (second / 2 ^ 16 % 2 ^ 48))

section

variable {V : Type} (z : Zvariant V) (ip : IpText)

/-! ### Profile to dictionary -/

open SettingsSection (optional)

/-- The family of a section. -/
def sectionFamily (expectV4 : Bool) : IpFamily := if expectV4 then .v4 else .v6

/-- The routes of the family of the section. -/
def IpConfig.ownRoutes (config : IpConfig) (expectV4 : Bool) : List Route :=
  config.routes.filter fun route => route.family = sectionFamily expectV4

/-- The addresses of a manual section. -/
def manualSection (config : IpConfig) : SettingsSection V :=
  optional "address-data" (config.address.map fun address =>
    z.valDictArray [("address", z.valStr (ip.display address)) ::
      optional "prefix" (config.prefixLength.map fun n => z.valU32 n.toUInt32)]) ++
  optional "gateway" (config.gateway.map fun gateway => z.valStr (ip.display gateway)) ++
  optional "dns" (if config.dnsServers = [] then none
    else some (z.valStrArray (config.dnsServers.map ip.display)))

/-- The `routes` of an IP section: those of its own family. -/
def routesValue (config : IpConfig) (expectV4 : Bool) : V :=
  if expectV4 then z.valV4Routes ((config.ownRoutes true).map routeV4Entry)
  else z.valV6Routes ((config.ownRoutes false).map routeV6Entry)

/-- An IP section.  Addresses are written for a manual one only. -/
def ipConfigSection (config : IpConfig) (expectV4 : Bool) : SettingsSection V :=
  ("method", z.valStr (methodString config.method)) ::
    ((if config.method = .manual then manualSection z ip config else []) ++
      optional "routes" (if config.routes = [] then none
        else some (routesValue z config expectV4)))

/-- The `connection` section. -/
def connectionSection (profile : ConnectionProfile) : SettingsSection V :=
  [("id", z.valStr profile.id), ("uuid", z.valStr (stableUuid profile.id)),
    ("type", z.valStr (connectionTypeString profile))] ++
  optional "interface-name" (profile.deviceMatch.interfaceName.map z.valStr) ++
  [("autoconnect", z.valBool profile.autoconnect), ("priority", z.valI32 profile.priority)]

/-- The `802-11-wireless` section. -/
def wifiSection (settings : WifiSettings) : SettingsSection V :=
  [("ssid", z.valBytes settings.ssid.bytes), ("mode", z.valStr "infrastructure")] ++
  optional "hidden" (if settings.hidden then some (z.valBool true) else none) ++
  optional "security" (if settings.security.keyManagement = .open then none
    else some (z.valStr "802-11-wireless-security"))

/-- The `802-11-wireless-security` section. -/
def securitySection (keyManagement : KeyManagement) : SettingsSection V :=
  [("key-mgmt", z.valStr (keyManagementString keyManagement))]

/-- The sections of the connection type. -/
def typeSections : ConnectionType → SettingsDict V
  | .wifi settings => ("802-11-wireless", wifiSection z settings) ::
      SettingsSection.optional "802-11-wireless-security"
        (if settings.security.keyManagement = .open then none
          else some (securitySection z settings.security.keyManagement))
  | .ethernet _ => []

/-- Renders a profile as a settings dictionary.  Secrets are never included. -/
def profileToSettings (profile : ConnectionProfile) : SettingsDict V :=
  ("connection", connectionSection z profile) :: (typeSections z profile.connectionType ++
    [("ipv4", ipConfigSection z ip profile.ipv4 true),
      ("ipv6", ipConfigSection z ip profile.ipv6 false)])

/-! ### Dictionary to profile -/

/-- The `routes` of an IP section, if it has any. -/
def parseRoutes (sec : SettingsSection V) (expectV4 : Bool) : Except FacadeError (List Route) :=
  match sec.lookup "routes" with
  | none => .ok []
  | some value =>
    if expectV4 then do
      let entries ← okOr (.invalidProperty "ipv4.routes is not an array of u32 tuples")
        (z.toV4Routes value)
      entries.mapM parseRouteV4
    else do
      let entries ← okOr (.invalidProperty "ipv6.routes is not a(ayuayu)") (z.toV6Routes value)
      entries.mapM parseRouteV6

/-- The address of a manual section: the first one of `address-data`. -/
def parseAddress (sec : SettingsSection V) (expectV4 : Bool) :
    Except FacadeError (IpAddr × UInt8) := do
  let addressData ← okOr (.missingSetting "ip method requires address-data")
    (z.getDictArray sec "address-data")
  let first ← okOr (.missingSetting "manual IP configuration requires an address")
    addressData.head?
  let address ← okOr (.invalidProperty "address missing") (z.getStr first "address")
  let address ← okOr (.invalidProperty "address is not a valid IP address") (ip.parse address)
  if address.isIpv4 ≠ expectV4 then
    throw (.invalidProperty "address family does not match the setting")
  let prefixLength ← okOr (.missingSetting "address prefix required") (z.getU32 first "prefix")
  return (address, prefixLength.toUInt8)

/-- The gateway of a manual section, if its text is that of an address. -/
def parseGateway (sec : SettingsSection V) : Option IpAddr :=
  (z.getStr sec "gateway").bind ip.parse

/-- The servers of a manual section whose text is that of an address. -/
def parseDns (sec : SettingsSection V) : List IpAddr :=
  ((z.getStrArray sec "dns").getD []).filterMap ip.parse

/-- What a section of this method configures besides its routes. -/
def parseSettings (sec : SettingsSection V) (expectV4 : Bool) (method : IpMethod) :
    Except FacadeError IpConfig :=
  if method = .manual then do
    let (address, prefixLength) ← parseAddress z ip sec expectV4
    return { method, address := some address, prefixLength := some prefixLength,
             gateway := parseGateway z ip sec, dnsServers := parseDns z ip sec }
  else .ok { method }

/-- An IP section without a method is an automatic one. -/
def parseIpConfig (sec : SettingsSection V) (expectV4 : Bool) : Except FacadeError IpConfig := do
  let method ← parseMethod ((z.getStr sec "method").getD "auto")
  let config ← parseSettings z ip sec expectV4 method
  let routes ← parseRoutes z sec expectV4
  return { config with routes }

/-- The section of a dictionary, or `default` if it has none. -/
def parseIpSection (dict : SettingsDict V) (key : String) (expectV4 : Bool) (default : IpConfig) :
    Except FacadeError IpConfig :=
  match dict.lookup key with
  | some sec => parseIpConfig z ip sec expectV4
  | none => .ok default

/-- The profile of a dictionary's connection type, with default settings. -/
def typedProfile (dict : SettingsDict V) (typeName : String) (id name : String) :
    Except FacadeError ConnectionProfile :=
  match typeName with
  | "802-11-wireless" => do
    let wifi ← okOr (.missingSetting "802-11-wireless") (dict.lookup "802-11-wireless")
    let ssidBytes ← okOr (.invalidProperty "802-11-wireless.ssid is required")
      (z.getBytes wifi "ssid")
    let ssid ← okOr (.invalidProperty "802-11-wireless.ssid exceeds 32 octets")
      (Ssid.fromBytes ssidBytes)
    let security ← parseKeyManagement (((dict.lookup "802-11-wireless-security").bind
      fun security => z.getStr security "key-mgmt").getD "none")
    (ConnectionProfile.wifi id name ssid security).mapError .ofProfileValidationError
  | "802-3-ethernet" => (ConnectionProfile.ethernet id name).mapError .ofProfileValidationError
  | other => .error (.invalidSetting ("unsupported connection type " ++ Text.debug other))

/-- Builds a validated profile from a settings dictionary. -/
def settingsToProfile (dict : SettingsDict V) : Except FacadeError ConnectionProfile := do
  let connection ← okOr (.missingSetting "connection") (dict.lookup "connection")
  let id ← okOr (.invalidProperty "connection.id is required") (z.getStr connection "id")
  let name := (z.getStr connection "id").getD ""
  let typeName ← okOr (.missingSetting "connection.type") (z.getStr connection "type")
  let profile ← typedProfile z dict typeName id name
  let ipv4 ← parseIpSection z ip dict "ipv4" true profile.ipv4
  let ipv6 ← parseIpSection z ip dict "ipv6" false profile.ipv6
  let profile := { profile with
    deviceMatch := { profile.deviceMatch with
      interfaceName := (z.getStr connection "interface-name").or
        profile.deviceMatch.interfaceName }
    autoconnect := (z.getBool connection "autoconnect").getD profile.autoconnect
    priority := (z.getI32 connection "priority").getD profile.priority
    ipv4, ipv6 }
  profile.validate.mapError .ofProfileValidationError
  return profile

end

end NetworkManager
