import NetworkManager.Connection.Ip
import NetworkManager.Support.Effects

/-!
# Linux — IpEngine

`linux/ip_engine.rs`: bringing the IP configuration of one activation up and down.  The engine is
generic over its three backends, here records over a world `W`.

`activate_ipv4` and `activate_ipv6` write through `&mut` to the state and the outcome that
`activate` holds, and what they wrote stays when they fail: the state of a phase is a `Call`, the
world next to these two.
-/

namespace NetworkManager

/-- What the engine can fail with. -/
inductive IpEngineError where
  | netlink (error : NetlinkError)
  | ipConfig (error : IpConfigError)
  | dhcp (error : DhcpError)
  | dns (error : DnsError)
  | invalidConfig (message : String)
  | interfaceNotFound (name : String)
  deriving DecidableEq

instance : ToString IpEngineError where
  toString
    | .netlink err => "netlink: " ++ toString err
    | .ipConfig err => toString err
    | .dhcp err => "dhcp: " ++ toString err
    | .dns err => toString err
    | .invalidConfig msg => "invalid IP configuration: " ++ msg
    | .interfaceNotFound name =>
      "no network interface named " ++ Text.debug name ++ " is present"

/-! ### Routes -/

/-- The network address of `address` for the given prefix. -/
def networkAddressV4 (address : Ipv4Addr) (prefixLength : UInt8) : Ipv4Addr :=
  let mask : BitVec 32 :=
    if prefixLength = 0 then 0 else BitVec.allOnes 32 <<< (32 - min prefixLength.toNat 32)
  address &&& mask

/-- The network address of `address` for the given prefix. -/
def networkAddressV6 (address : Ipv6Addr) (prefixLength : UInt8) : Ipv6Addr :=
  let mask : BitVec 128 :=
    if prefixLength = 0 then 0 else BitVec.allOnes 128 <<< (128 - min prefixLength.toNat 128)
  address &&& mask

/-- The connected route of an address: `net/prefix dev`. -/
def connectedRouteV4 (interfaceIndex : Int32) (address : Ipv4Addr) (prefixLength : UInt8) :
    Route where
  family := .v4
  destination := .v4 (networkAddressV4 address prefixLength)
  prefixLength := prefixLength
  gateway := none
  outputInterface := some interfaceIndex
  metric := none
  kind := .unicast
  scope := .link

/-- The route to the network of the address. -/
def connectedRouteV6 (interfaceIndex : Int32) (address : Ipv6Addr) (prefixLength : UInt8) :
    Route where
  family := .v6
  destination := .v6 (networkAddressV6 address prefixLength)
  prefixLength := prefixLength
  gateway := none
  outputInterface := some interfaceIndex
  metric := none
  kind := .unicast
  scope := .link

/-- The default route through `gateway`. -/
def defaultRouteV4 (interfaceIndex : Int32) (gateway : Ipv4Addr) : Route where
  family := .v4
  destination := .v4 .unspecified
  prefixLength := 0
  gateway := some (.v4 gateway)
  outputInterface := some interfaceIndex
  metric := none
  kind := .unicast
  scope := .universe

/-- The IPv6 default route through the gateway. -/
def defaultRouteV6 (interfaceIndex : Int32) (gateway : Ipv6Addr) : Route where
  family := .v6
  destination := .v6 .unspecified
  prefixLength := 0
  gateway := some (.v6 gateway)
  outputInterface := some interfaceIndex
  metric := none
  kind := .unicast
  scope := .universe

/-- The connected and default routes a configuration implies. -/
def ipv4RoutesFor (interfaceIndex : Int32) (address : Ipv4Addr) (prefixLength : UInt8)
    (gateway : Option Ipv4Addr) : List Route :=
  connectedRouteV4 interfaceIndex address prefixLength ::
    (gateway.map (defaultRouteV4 interfaceIndex)).toList

/-- The IPv6 routes of an address and its gateway. -/
def ipv6RoutesFor (interfaceIndex : Int32) (address : Ipv6Addr) (prefixLength : UInt8)
    (gateway : Option Ipv6Addr) : List Route :=
  connectedRouteV6 interfaceIndex address prefixLength ::
    (gateway.map (defaultRouteV6 interfaceIndex)).toList

/-- The static routes an IPv4 configuration installs: those of its own family. -/
def ipv4StaticRoutes (config : IpConfig) : List Route := config.routes.filter (·.family = .v4)

/-- The static IPv6 routes of the section. -/
def ipv6StaticRoutes (config : IpConfig) : List Route := config.routes.filter (·.family = .v6)

/-! ### The engine -/

/-- The engine's backends.  `getAddresses` is `netlink::get_addresses`, which the code calls
directly. -/
structure LinuxIpEngine (W : Type) where
  ip : IpConfigurator W
  dhcp : DhcpClient W
  dns : DnsManager W
  getAddresses : EStateM NetlinkError W (List Address)

/-- The world, with the state and the outcome of the call in progress. -/
structure Call (W : Type) where
  world : W
  state : ActiveIpState
  outcome : ActivationOutcome

variable {W : Type}

/-- Runs a backend's computation in the world of the call. -/
def Call.run {ε α : Type} (x : EStateM ε W α) : EStateM ε (Call W) α :=
  Effects.zoom Call.world (fun w c => { c with world := w }) x

namespace Call

variable {ε α : Type} {x : EStateM ε W α} {c : Call W} {w : W}

theorem run_of_ok {a : α} (h : x c.world = .ok a w) :
    Call.run x c = .ok a { c with world := w } := Effects.zoom_of_ok h

theorem run_of_error {e : ε} (h : x c.world = .error e w) :
    Call.run x c = .error e { c with world := w } := Effects.zoom_of_error h

end Call

namespace LinuxIpEngine

variable (engine : LinuxIpEngine W)

/-- Installs each route the caller's profile requested, one at a time. -/
def installRoutes (routes : List Route) : EStateM IpEngineError W Unit :=
  routes.forM fun route => EStateM.adaptExcept .ipConfig (engine.ip.addRoute route)

/-- Applies a DNS configuration if it says anything. -/
def applyDns (dnsOwner : String) (config : DnsConfig) :
    EStateM IpEngineError W (Option DnsOwnership) :=
  if config.servers.isEmpty && config.searchDomains.isEmpty then pure none
  else do return some (← EStateM.adaptExcept .dns (engine.dns.apply dnsOwner config))

/-- The link-local IPv6 address the kernel assigned to an interface, if any. -/
def linkLocalAddress (interfaceIndex : Int32) : EStateM IpEngineError W (Option Ipv6Addr) := do
  match ← Effects.attempt engine.getAddresses with
  | .error _ => return none
  | .ok addresses =>
    return (addresses.find? fun a =>
      a.interfaceIndex == interfaceIndex.toUInt32 &&
        (a.address.toV6.any Ipv6Addr.isUnicastLinkLocal)).bind fun a => a.address.toV6

/-- `activate_ipv4` once the address is known: records what is about to be installed, installs
it, and reports it. -/
def installIpv4 (interfaceIndex : Int32) (dnsOwner : String) (config : Ipv4Config)
    (staticRoutes : List Route) (dnsConfig : DnsConfig) (source : Ipv4Source)
    (lease : Option DhcpLease) : EStateM IpEngineError (Call W) Unit := do
  let routes := ipv4RoutesFor interfaceIndex config.address config.prefixLength config.gateway ++
    staticRoutes
  modify fun c => { c with state.ipv4 := some {
    interfaceIndex, address := config.address, prefixLength := config.prefixLength, lease, routes,
    source } }
  let dnsOwnership ← Call.run (do
    EStateM.adaptExcept .ipConfig (engine.ip.configureIpv4 interfaceIndex config)
    engine.installRoutes staticRoutes
    engine.applyDns dnsOwner dnsConfig)
  modify fun c => { c with
    state.dnsOwner := dnsOwnership
    outcome.ipv4 := some {
      address := config.address, prefixLength := config.prefixLength, gateway := config.gateway,
      dnsServers := dnsConfig.servers, searchDomains := dnsConfig.searchDomains, source, routes,
      lease } }

/-- `activate_ipv4`: by DHCP, by hand, or not at all. -/
def activateIpv4 (interfaceIndex : Int32) (interfaceName : String) (ipv4 : IpConfig)
    (dnsOwner : String) : EStateM IpEngineError (Call W) Unit := do
  match ipv4.method with
  | .disabled => return
  | .automatic =>
    let lease ← Call.run (EStateM.adaptExcept .dhcp (engine.dhcp.acquire {
      interfaceIndex, interfaceName, hostname := none, requestedAddress := none, timeout := 0 }))
    engine.installIpv4 interfaceIndex dnsOwner
      { address := lease.address, prefixLength := lease.prefixLength, gateway := lease.gateway }
      (ipv4StaticRoutes ipv4)
      { searchDomains := lease.searchDomains, servers := lease.dnsServers.map .v4 }
      .automaticDhcp (some lease)
  | .manual =>
    match ipv4.address.bind IpAddr.toV4, ipv4.prefixLength with
    | none, _ => throw (.invalidConfig "manual IPv4 needs a valid IPv4 address")
    | some _, none => throw (.invalidConfig "manual IPv4 needs a prefix length")
    | some address, some prefixLength =>
      engine.installIpv4 interfaceIndex dnsOwner
        { address, prefixLength, gateway := ipv4.gateway.bind IpAddr.toV4 }
        (ipv4StaticRoutes ipv4) { servers := ipv4.dnsServers } .manual none

/-- `activate_ipv6` with a manual configuration, once the address is known. -/
def installIpv6 (interfaceIndex : Int32) (config : Ipv6Config) (staticRoutes : List Route)
    (dnsServers : List IpAddr) : EStateM IpEngineError (Call W) Unit := do
  let routes := ipv6RoutesFor interfaceIndex config.address config.prefixLength config.gateway ++
    staticRoutes
  modify fun c => { c with state.ipv6 := some {
    interfaceIndex, linkLocal := some config.address, prefixLength := config.prefixLength, routes,
    source := .manual } }
  Call.run (do
    EStateM.adaptExcept .ipConfig (engine.ip.configureIpv6 interfaceIndex config)
    engine.installRoutes staticRoutes)
  modify fun c => { c with outcome.ipv6 := some {
    address := some config.address, prefixLength := config.prefixLength,
    gateway := config.gateway, dnsServers, searchDomains := [], routes, linkLocal := none,
    source := .manual } }

/-- `activate_ipv6`: by hand, or the link-local address alone. -/
def activateIpv6 (interfaceIndex : Int32) (ipv6 : IpConfig) :
    EStateM IpEngineError (Call W) Unit := do
  match ipv6.method with
  | .disabled => modify fun c => { c with outcome.ipv6 := none }
  | .automatic =>
    let linkLocal ← Call.run (engine.linkLocalAddress interfaceIndex)
    modify fun c => { c with outcome.ipv6 := some {
      address := none, prefixLength := 64, gateway := none, dnsServers := [],
      searchDomains := [], routes := [], linkLocal, source := .automaticLinkLocal } }
  | .manual =>
    match ipv6.address.bind IpAddr.toV6, ipv6.prefixLength with
    | none, _ => throw (.invalidConfig "manual IPv6 needs a valid IPv6 address")
    | some _, none => throw (.invalidConfig "manual IPv6 needs a prefix length")
    | some address, some prefixLength =>
      engine.installIpv6 interfaceIndex
        { address, prefixLength, gateway := ipv6.gateway.bind IpAddr.toV6 }
        (ipv6StaticRoutes ipv6) ipv6.dnsServers

/-! ### Teardown -/

/-- Runs a removal step and hands its error over, if any. -/
def removal {ε : Type} (wrap : ε → IpEngineError) (x : EStateM ε W Unit) :
    EStateM IpEngineError W (Option IpEngineError) := do
  match ← Effects.attempt x with
  | .ok _ => return none
  | .error e => return some (wrap e)

/-- Removes each route; a route may already be gone, so errors are dropped. -/
def removeRoutes (routes : List Route) : EStateM IpEngineError W Unit :=
  routes.forM fun route => do let _ ← Effects.attempt (engine.ip.removeRoute route)

/-- Gives the lease back, if there is one; an error is dropped. -/
def releaseLease : Option DhcpLease → EStateM IpEngineError W Unit
  | none => return
  | some lease => do let _ ← Effects.attempt (engine.dhcp.release lease)

/-- Takes down the ownership of resolv.conf. -/
def teardownDns (ownership : DnsOwnership) : EStateM IpEngineError W (Option IpEngineError) :=
  removal .dns (engine.dns.remove ownership)

/-- The gateway of the first route through an IPv4 gateway: what `teardown` takes for the default
gateway. -/
def teardownGateway (routes : List Route) : Option Ipv4Addr :=
  routes.findSome? fun route => route.gateway.bind IpAddr.toV4

/-- Takes down IPv4: the routes, the lease and the address. -/
def teardownIpv4 (ipv4 : ActiveIpv4) : EStateM IpEngineError W (Option IpEngineError) := do
  engine.removeRoutes ipv4.routes
  engine.releaseLease ipv4.lease
  removal .ipConfig (engine.ip.removeIpv4 ipv4.interfaceIndex {
    address := ipv4.address, prefixLength := ipv4.prefixLength,
    gateway := teardownGateway ipv4.routes })

/-- Takes down IPv6: the routes, and an address that was set by hand. -/
def teardownIpv6 (ipv6 : ActiveIpv6) : EStateM IpEngineError W (Option IpEngineError) := do
  engine.removeRoutes ipv6.routes
  match ipv6.source, ipv6.linkLocal with
  | .manual, some address =>
    removal .ipConfig (engine.ip.removeIpv6 ipv6.interfaceIndex {
      address, prefixLength := ipv6.prefixLength, gateway := none })
  | _, _ => return none

/-- A teardown step on a part of the state that may not be there. -/
def teardownPart {α : Type} (f : α → EStateM IpEngineError W (Option IpEngineError)) :
    Option α → EStateM IpEngineError W (Option IpEngineError)
  | none => pure none
  | some a => f a

/-- Removes every piece of state in `state`; every step is attempted, and the first error is
reported once all steps have run. -/
def teardown (state : ActiveIpState) : EStateM IpEngineError W Unit := do
  let dnsError ← teardownPart engine.teardownDns state.dnsOwner
  let ipv4Error ← teardownPart engine.teardownIpv4 state.ipv4
  let ipv6Error ← teardownPart engine.teardownIpv6 state.ipv6
  match dnsError <|> ipv4Error <|> ipv6Error with
  | some error => throw error
  | none => return

/-- Brings the configuration up.  When a phase fails, what it recorded is torn down and the error
of the phase is returned. -/
def activate (interfaceIndex : Int32) (interfaceName : String) (ipv4 ipv6 : IpConfig)
    (dnsOwner : String) : EStateM IpEngineError W (ActivationOutcome × ActiveIpState) := fun w =>
  let phases := do
    engine.activateIpv4 interfaceIndex interfaceName ipv4 dnsOwner
    engine.activateIpv6 interfaceIndex ipv6
  match phases { world := w, state := {}, outcome := {} } with
  | .ok _ c => .ok (c.outcome, c.state) c.world
  | .error error c => .error error (Effects.after (engine.teardown c.state) c.world)

end LinuxIpEngine

/-- `resolve_interface_index`, over `netlink::get_links`. -/
def resolveInterfaceIndex (getLinks : EStateM NetlinkError W (List Link)) (interfaceName : String) :
    EStateM IpEngineError W Int32 := do
  let links ← EStateM.adaptExcept .netlink getLinks
  match links.find? fun link => link.name == interfaceName with
  | some link => return link.index
  | none => throw (.interfaceNotFound interfaceName)

end NetworkManager
