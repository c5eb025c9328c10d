import NetworkManager.Connection.Ip
import NetworkManager.Support.Effects

/-!
# Linux — IpConfig

`linux/ipconfig.rs`: the rtnetlink-backed `IpConfigurator`.  A message is what it asks for
(`RtnetlinkRequest`); `transact` sends one and waits for the kernel's acknowledgement
(`netlink::transact_rtnetlink`).
-/

namespace NetworkManager

/-- An address on an interface: what `RTM_NEWADDR` and `RTM_DELADDR` name. -/
structure IfAddr where
  interfaceIndex : Int32
  address : IpAddr
  prefixLength : UInt8
  deriving DecidableEq

/-- The requests the configurator sends.  Additions are exclusive for addresses (`NLM_F_EXCL`)
and replacing for routes (`NLM_F_REPLACE`). -/
inductive RtnetlinkRequest where
  | newAddr (address : IfAddr)
  | delAddr (address : IfAddr)
  | newRoute (route : Route)
  | delRoute (route : Route)
  deriving DecidableEq

namespace LinuxIpConfigurator

variable {W : Type} (transact : RtnetlinkRequest → EStateM NetlinkError W Unit)

/-- `add_address`. -/
def addAddress (interfaceIndex : Int32) (address : IpAddr) (prefixLength : UInt8) :
    EStateM IpConfigError W Unit :=
  EStateM.adaptExcept .netlink (transact (.newAddr { interfaceIndex, address, prefixLength }))

/-- `remove_address`. -/
def removeAddress (interfaceIndex : Int32) (address : IpAddr) (prefixLength : UInt8) :
    EStateM IpConfigError W Unit :=
  EStateM.adaptExcept .netlink (transact (.delAddr { interfaceIndex, address, prefixLength }))

/-- `add_route`. -/
def addRoute (route : Route) : EStateM IpConfigError W Unit :=
  EStateM.adaptExcept .netlink (transact (.newRoute route))

/-- `remove_route`. -/
def removeRoute (route : Route) : EStateM IpConfigError W Unit :=
  EStateM.adaptExcept .netlink (transact (.delRoute route))

/-- The default route the configurator installs for a gateway. -/
def gatewayRoute (interfaceIndex : Int32) (family : IpFamily) (destination gateway : IpAddr) :
    Route where
  family := family
  destination := destination
  prefixLength := 0
  gateway := some gateway
  outputInterface := some interfaceIndex
  metric := none
  kind := .unicast
  scope := .universe

/-- The IPv4 default route through the gateway. -/
def gatewayRouteV4 (interfaceIndex : Int32) (gateway : Ipv4Addr) : Route :=
  gatewayRoute interfaceIndex .v4 (.v4 .unspecified) (.v4 gateway)

/-- The IPv6 default route through the gateway. -/
def gatewayRouteV6 (interfaceIndex : Int32) (gateway : Ipv6Addr) : Route :=
  gatewayRoute interfaceIndex .v6 (.v6 .unspecified) (.v6 gateway)

/-- Adds an address, then the default route if there is one. -/
def configure (interfaceIndex : Int32) (address : IpAddr) (prefixLength : UInt8)
    (default : Option Route) : EStateM IpConfigError W Unit := do
  addAddress transact interfaceIndex address prefixLength
  default.toList.forM (addRoute transact)

/-- Removes the default route if there is one, whatever comes of it, then the address. -/
def remove (interfaceIndex : Int32) (address : IpAddr) (prefixLength : UInt8)
    (default : Option Route) : EStateM IpConfigError W Unit := do
  default.toList.forM fun route => do let _ ← Effects.attempt (removeRoute transact route)
  removeAddress transact interfaceIndex address prefixLength

/-- Adds the IPv4 address, and then the default route through its gateway. -/
def configureIpv4 (interfaceIndex : Int32) (config : Ipv4Config) :
    EStateM IpConfigError W Unit := do
  if config.prefixLength > 32 then throw (.invalidConfig "ipv4 prefix length exceeds 32")
  configure transact interfaceIndex (.v4 config.address) config.prefixLength
    (config.gateway.map (gatewayRouteV4 interfaceIndex))

/-- Removes the route through the gateway, and then the IPv4 address. -/
def removeIpv4 (interfaceIndex : Int32) (config : Ipv4Config) : EStateM IpConfigError W Unit :=
  remove transact interfaceIndex (.v4 config.address) config.prefixLength
    (config.gateway.map (gatewayRouteV4 interfaceIndex))

/-- Adds the IPv6 address, and then the default route through its gateway. -/
def configureIpv6 (interfaceIndex : Int32) (config : Ipv6Config) :
    EStateM IpConfigError W Unit := do
  if config.prefixLength > 128 then throw (.invalidConfig "ipv6 prefix length exceeds 128")
  configure transact interfaceIndex (.v6 config.address) config.prefixLength
    (config.gateway.map (gatewayRouteV6 interfaceIndex))

/-- Removes the route through the gateway, and then the IPv6 address. -/
def removeIpv6 (interfaceIndex : Int32) (config : Ipv6Config) : EStateM IpConfigError W Unit :=
  remove transact interfaceIndex (.v6 config.address) config.prefixLength
    (config.gateway.map (gatewayRouteV6 interfaceIndex))

end LinuxIpConfigurator

/-- The configurator over a way to send requests. -/
def linuxIpConfigurator {W : Type} (transact : RtnetlinkRequest → EStateM NetlinkError W Unit) :
    IpConfigurator W where
  configureIpv4 := LinuxIpConfigurator.configureIpv4 transact
  removeIpv4 := LinuxIpConfigurator.removeIpv4 transact
  configureIpv6 := LinuxIpConfigurator.configureIpv6 transact
  removeIpv6 := LinuxIpConfigurator.removeIpv6 transact
  addRoute := LinuxIpConfigurator.addRoute transact
  removeRoute := LinuxIpConfigurator.removeRoute transact

end NetworkManager
