import NetworkManager.Connection.Profile

/-!
# Connection — Ip

`connection/ip.rs`: the boundary between activation and the Linux networking stack.  The three
traits are records of computations over a world `W`, which holds whatever the backends share: a
trait object with its own state is a record over that state.
-/

namespace NetworkManager

/-- An IPv4 address to configure, and the gateway behind it. -/
structure Ipv4Config where
  address : Ipv4Addr
  prefixLength : UInt8
  gateway : Option Ipv4Addr
  deriving DecidableEq

/-- An IPv6 address to configure, and the gateway behind it. -/
structure Ipv6Config where
  address : Ipv6Addr
  prefixLength : UInt8
  gateway : Option Ipv6Addr
  deriving DecidableEq

/-- A request to acquire a DHCPv4 lease; the timeout is in milliseconds. -/
structure DhcpRequest where
  interfaceIndex : Int32
  interfaceName : String
  hostname : Option String
  requestedAddress : Option Ipv4Addr
  timeout : ℕ
  deriving DecidableEq

/-- What a DHCP server leased, and on which interface. -/
structure DhcpLease where
  interfaceIndex : Int32
  interfaceName : String
  address : Ipv4Addr
  prefixLength : UInt8
  netmask : Ipv4Addr
  gateway : Option Ipv4Addr
  dnsServers : List Ipv4Addr
  searchDomains : List String
  serverIdentifier : Option Ipv4Addr
  leaseSeconds : Option UInt32
  t1Seconds : Option UInt32
  t2Seconds : Option UInt32
  deriving DecidableEq

/-- What goes into resolv.conf. -/
structure DnsConfig where
  searchDomains : List String := []
  servers : List IpAddr := []
  deriving DecidableEq

/-- The handle `DnsManager::apply` returns. -/
structure DnsOwnership where
  owner : String
  path : String
  deriving DecidableEq

/-- Where the IPv4 address came from. -/
inductive Ipv4Source where
  | automaticDhcp | manual
  deriving DecidableEq

/-- Where the IPv6 address came from. -/
inductive Ipv6Source where
  | automaticLinkLocal | manual | disabled
  deriving DecidableEq

/-- The IPv4 configuration that an activation reports. -/
structure Ipv4Outcome where
  address : Ipv4Addr
  prefixLength : UInt8
  gateway : Option Ipv4Addr
  dnsServers : List IpAddr
  searchDomains : List String
  source : Ipv4Source
  routes : List Route
  lease : Option DhcpLease
  deriving DecidableEq

/-- The IPv6 configuration that an activation reports. -/
structure Ipv6Outcome where
  address : Option Ipv6Addr
  prefixLength : UInt8
  gateway : Option Ipv6Addr
  dnsServers : List IpAddr
  searchDomains : List String
  routes : List Route
  linkLocal : Option Ipv6Addr
  source : Ipv6Source
  deriving DecidableEq

/-- Everything an engine managed to configure for an activation.  `degradation` is the reason of
a non-fatal degradation. -/
structure ActivationOutcome where
  ipv4 : Option Ipv4Outcome := none
  ipv6 : Option Ipv6Outcome := none
  degradation : Option String := none
  deriving DecidableEq

/-- What the engine has to take down of IPv4. -/
structure ActiveIpv4 where
  interfaceIndex : Int32
  address : Ipv4Addr
  prefixLength : UInt8
  lease : Option DhcpLease
  routes : List Route
  source : Ipv4Source
  deriving DecidableEq

/-- What the engine has to take down of IPv6. -/
structure ActiveIpv6 where
  interfaceIndex : Int32
  linkLocal : Option Ipv6Addr
  prefixLength : UInt8
  routes : List Route
  source : Ipv6Source
  deriving DecidableEq

/-- What the engine has recorded for one active connection, to tear it down again. -/
structure ActiveIpState where
  ipv4 : Option ActiveIpv4 := none
  ipv6 : Option ActiveIpv6 := none
  dnsOwner : Option DnsOwnership := none
  deriving DecidableEq

/-! ### Errors -/

/-- What configuring addresses and routes can fail with. -/
inductive IpConfigError where
  | netlink (error : NetlinkError)
  | invalidConfig (message : String)
  | io (error : IoError)
  deriving DecidableEq

instance : ToString IpConfigError where
  toString
    | .netlink err => "IP configuration failed: " ++ toString err
    | .invalidConfig msg => "invalid IP configuration: " ++ msg
    | .io err => "IP configuration I/O failed: " ++ toString err

/-- What the DHCP client can fail with. -/
inductive DhcpError where
  | io (error : IoError)
  | malformedPacket (message : String)
  | timeout (interface : String)
  | invalidConfig (message : String)
  deriving DecidableEq

instance : ToString DhcpError where
  toString
    | .io err => "DHCP I/O failed: " ++ toString err
    | .malformedPacket msg => "malformed DHCP packet: " ++ msg
    | .timeout interface => "DHCP timed out on " ++ interface
    | .invalidConfig msg => "invalid DHCP configuration: " ++ msg

/-- What writing resolv.conf can fail with. -/
inductive DnsError where
  | foreignManaged (path : String)
  | io (error : IoError)
  | invalidConfig (message : String)
  deriving DecidableEq

instance : ToString DnsError where
  toString
    | .foreignManaged path =>
      "refusing to manage DNS: " ++ path ++ " is managed by another component"
    | .io err => "DNS I/O failed: " ++ toString err
    | .invalidConfig msg => "invalid DNS configuration: " ++ msg

/-! ### The backends -/

/-- Installs and removes addresses and routes on an interface. -/
structure IpConfigurator (W : Type) where
  configureIpv4 : Int32 → Ipv4Config → EStateM IpConfigError W Unit
  removeIpv4 : Int32 → Ipv4Config → EStateM IpConfigError W Unit
  configureIpv6 : Int32 → Ipv6Config → EStateM IpConfigError W Unit
  removeIpv6 : Int32 → Ipv6Config → EStateM IpConfigError W Unit
  addRoute : Route → EStateM IpConfigError W Unit
  removeRoute : Route → EStateM IpConfigError W Unit

/-- Acquires and releases DHCPv4 leases. -/
structure DhcpClient (W : Type) where
  acquire : DhcpRequest → EStateM DhcpError W DhcpLease
  release : DhcpLease → EStateM DhcpError W Unit

/-- Applies and removes a system DNS configuration. -/
structure DnsManager (W : Type) where
  apply : String → DnsConfig → EStateM DnsError W DnsOwnership
  remove : DnsOwnership → EStateM DnsError W Unit

end NetworkManager
