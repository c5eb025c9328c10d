import NetworkManager.Linux.IpEngine.Calls
import NetworkManager.Connection.Profile

/-!
# Linux — IpEngine — Willing

An engine whose backends never fail: it activates every valid profile (`willing_activate`), so that
what a run that returns asks for is asked for.
-/

namespace NetworkManager

open Effects LinuxIpEngine BackendCall

/-- An engine whose backends do what they are asked. -/
def willingEngine : LinuxIpEngine Unit where
  ip := {
    configureIpv4 := fun _ _ => pure ()
    removeIpv4 := fun _ _ => pure ()
    configureIpv6 := fun _ _ => pure ()
    removeIpv6 := fun _ _ => pure ()
    addRoute := fun _ => pure ()
    removeRoute := fun _ => pure () }
  dhcp := {
    acquire := fun request => pure {
      interfaceIndex := request.interfaceIndex, interfaceName := request.interfaceName
      address := .new 192 168 1 10, prefixLength := 24, netmask := .new 255 255 255 0
      gateway := none, dnsServers := [], searchDomains := [], serverIdentifier := none
      leaseSeconds := none, t1Seconds := none, t2Seconds := none }
    release := fun _ => pure () }
  dns := {
    apply := fun owner _ => pure ⟨owner, "/etc/resolv.conf"⟩
    remove := fun _ => pure () }
  getAddresses := pure []

theorem total_installRoutes (routes : List Route) :
    Total (willingEngine.traced.installRoutes routes) :=
  Total.forM (fun _ => ((Total.pure ()).record _).adaptExcept) routes

/-- Willing backends let every IPv4 install through. -/
theorem total_installIpv4 (interfaceIndex : Int32) (dnsOwner : String) (config : Ipv4Config)
    (staticRoutes : List Route) (dnsConfig : DnsConfig) (source : Ipv4Source)
    (lease : Option DhcpLease) :
    Total (willingEngine.traced.installIpv4 interfaceIndex dnsOwner config staticRoutes dnsConfig
      source lease) := by
  refine (Total.modify _).bind fun _ => Total.bind (Total.zoom ?_) fun _ => .modify _
  refine Total.bind ((Total.pure ()).record _).adaptExcept fun _ =>
    (total_installRoutes staticRoutes).bind fun _ => ?_
  unfold LinuxIpEngine.applyDns
  split
  · exact .pure none
  · exact Total.bind ((Total.pure _).record _).adaptExcept fun _ => .pure _

/-- Willing backends bring up every IPv4 section that `validate` accepts. -/
theorem total_activateIpv4 {ipv4 : IpConfig}
    (hvalid : ConnectionProfile.validateIpConfig ipv4 true = .ok ()) (interfaceIndex : Int32)
    (interfaceName dnsOwner : String) :
    Total (willingEngine.traced.activateIpv4 interfaceIndex interfaceName ipv4 dnsOwner) := by
  unfold activateIpv4
  cases hmethod : ipv4.method with
  | disabled => exact .pure _
  | automatic =>
      exact Total.bind (Total.zoom ((Total.pure _).record _).adaptExcept) fun _ =>
        total_installIpv4 _ _ _ _ _ _ _
  | manual =>
      obtain ⟨address, prefixLength, haddress, hfamily, hprefix, -⟩ :=
        ConnectionProfile.validateIpConfig_eq_ok.mp hvalid hmethod
      cases address with
      | v6 address => cases hfamily
      | v4 address =>
          rw [haddress, hprefix]
          exact total_installIpv4 _ _ _ _ _ _ _

/-- Willing backends bring up every IPv6 section that `validate` accepts. -/
theorem total_activateIpv6 {ipv6 : IpConfig}
    (hvalid : ConnectionProfile.validateIpConfig ipv6 false = .ok ()) (interfaceIndex : Int32) :
    Total (willingEngine.traced.activateIpv6 interfaceIndex ipv6) := by
  unfold activateIpv6
  cases hmethod : ipv6.method with
  | disabled => exact .modify _
  | automatic =>
      refine Total.bind (Total.zoom ((Total.attempt _).bind fun r => ?_)) fun _ => .modify _
      cases r with
      | ok addresses => exact .pure _
      | error e => exact .pure none
  | manual =>
      obtain ⟨address, prefixLength, haddress, hfamily, hprefix, -⟩ :=
        ConnectionProfile.validateIpConfig_eq_ok.mp hvalid hmethod
      cases address with
      | v4 address => cases hfamily
      | v6 address =>
          rw [haddress, hprefix]
          refine (Total.modify _).bind fun _ => Total.bind (Total.zoom ?_) fun _ => .modify _
          exact Total.bind ((Total.pure ()).record _).adaptExcept fun _ => total_installRoutes _

/-- A valid profile is activated on willing backends. -/
theorem willing_activate {p : ConnectionProfile} (hvalid : p.validate = .ok ())
    (interfaceIndex : Int32) (interfaceName dnsOwner : String) :
    ∃ outcome state t, willingEngine.traced.activate interfaceIndex interfaceName p.ipv4 p.ipv6
      dnsOwner ⟨(), []⟩ = .ok (outcome, state) t := by
  obtain ⟨-, -, -, hipv4, hipv6⟩ := ConnectionProfile.validate_eq_ok.mp hvalid
  obtain ⟨_, c, hphases⟩ := (total_activateIpv4 hipv4 interfaceIndex interfaceName dnsOwner).bind
    (fun _ => total_activateIpv6 hipv6 interfaceIndex) ⟨⟨(), []⟩, {}, {}⟩
  refine ⟨c.outcome, c.state, c.world, ?_⟩
  rw [activate]
  simp only [hphases]

end NetworkManager
