import NetworkManager.Linux.IpEngine.Willing

/-!
# Linux — IpEngine — Report

What an outcome says was installed, against what the engine recorded and asked for, and what it
asked for against what the profile requests.

* `Faithful`: the outcome has the recorded routes, and the servers that were applied.
* `outcome_faithful_iff`: it is, unless IPv6 is manual and has servers.
* `static_routes_installed_iff`: the requested routes are added, unless IPv6 is automatic and has
  some.
-/

namespace NetworkManager

open Effects LinuxIpEngine BackendCall

namespace ActivationOutcome

variable (outcome : ActivationOutcome)

/-- The IPv4 routes of the report. -/
def routesV4 : List Route := (outcome.ipv4.map Ipv4Outcome.routes).getD []

/-- The IPv6 routes of the report. -/
def routesV6 : List Route := (outcome.ipv6.map Ipv6Outcome.routes).getD []

/-- The DNS servers that the IPv4 report lists. -/
def serversV4 : List IpAddr := (outcome.ipv4.map Ipv4Outcome.dnsServers).getD []

/-- The DNS servers that the IPv6 report lists. -/
def serversV6 : List IpAddr := (outcome.ipv6.map Ipv6Outcome.dnsServers).getD []

/-- The search domains of both families. -/
def domains : List String :=
  (outcome.ipv4.map Ipv4Outcome.searchDomains).getD [] ++
    (outcome.ipv6.map Ipv6Outcome.searchDomains).getD []

/-- The outcome says what was recorded and asked for. -/
structure Faithful (state : ActiveIpState) (calls : List BackendCall) : Prop where
  routesV4 : outcome.routesV4 = (state.ipv4.map ActiveIpv4.routes).getD []
  routesV6 : outcome.routesV6 = (state.ipv6.map ActiveIpv6.routes).getD []
  servers : (dnsConfigs calls).flatMap DnsConfig.servers = outcome.serversV4 ++ outcome.serversV6
  quiet : dnsConfigs calls = [] ↔
    outcome.serversV4 ++ outcome.serversV6 = [] ∧ outcome.domains = []

end ActivationOutcome

/-- The calls of the backends in an activation from `w`. -/
def LinuxIpEngine.activationCalls {W : Type} (engine : LinuxIpEngine W) (interfaceIndex : Int32)
    (interfaceName : String) (ipv4 ipv6 : IpConfig) (dnsOwner : String) (w : W) :
    List BackendCall :=
  (after (engine.traced.activate interfaceIndex interfaceName ipv4 ipv6 dnsOwner) ⟨w, []⟩).calls

/-! ### The applied configuration -/

/-- Nothing is applied exactly if there is neither a server nor a search domain. -/
theorem DnsConfig.said_eq_nil {config : DnsConfig} :
    config.said = [] ↔ config.servers = [] ∧ config.searchDomains = [] := by
  rw [said]
  split
  · next h => simpa using h
  · next h => simpa using h

/-- What is applied has the servers of the configuration. -/
theorem DnsConfig.said_servers (config : DnsConfig) :
    config.said.flatMap DnsConfig.servers = config.servers := by
  rw [said]
  split
  · next h =>
      rw [Bool.and_eq_true, List.isEmpty_iff] at h
      rw [h.1, List.flatMap_nil]
  · exact List.append_nil _

theorem reportedDns_servers (outcome : ActivationOutcome) :
    (reportedDns outcome.ipv4).servers = outcome.serversV4 := by
  rw [reportedDns, ActivationOutcome.serversV4]
  cases outcome.ipv4 with
  | none => rfl
  | some ipv4 => rfl

theorem reportedDns_searchDomains (outcome : ActivationOutcome) :
    (reportedDns outcome.ipv4).searchDomains =
      (outcome.ipv4.map Ipv4Outcome.searchDomains).getD [] := by
  rw [reportedDns]
  cases outcome.ipv4 with
  | none => rfl
  | some ipv4 => rfl

/-! ### Faithful outcomes -/

section

variable {W : Type} {engine : LinuxIpEngine W} {interfaceIndex : Int32} {interfaceName : String}
  {ipv4 ipv6 : IpConfig} {dnsOwner : String} {w w' : W} {outcome : ActivationOutcome}
  {state : ActiveIpState}

/-- What an activation that returns reports and asks for: of the servers it reports, those of IPv6
are left out. -/
theorem reported_of_activate
    (h : engine.activate interfaceIndex interfaceName ipv4 ipv6 dnsOwner w =
      .ok (outcome, state) w') :
    (outcome.routesV4 = (state.ipv4.map ActiveIpv4.routes).getD [] ∧
      outcome.routesV6 = (state.ipv6.map ActiveIpv6.routes).getD []) ∧
    dnsConfigs (engine.activationCalls interfaceIndex interfaceName ipv4 ipv6 dnsOwner w) =
      (reportedDns outcome.ipv4).said ∧
    outcome.serversV6 = (if ipv6.method = .manual then ipv6.dnsServers else []) ∧
    outcome.domains = (reportedDns outcome.ipv4).searchDomains := by
  obtain ⟨t, ht, -⟩ :=
    (traced_activate interfaceIndex interfaceName ipv4 ipv6 dnsOwner).eq_ok
      (show engine.activate interfaceIndex interfaceName ipv4 ipv6 dnsOwner
        (Traced.state ⟨w, []⟩) = _ from h)
  obtain ⟨⟨calls, hcalls, -, hdns⟩, hroutes₄, hroutes₆, hservers, hdomains⟩ := activate_emits ht
  refine ⟨⟨congrArg (Option.getD · []) hroutes₄, hroutes₆⟩, ?_, hservers, ?_⟩
  · rw [activationCalls, after_of_ok ht, hcalls, List.nil_append, hdns]
  · rw [ActivationOutcome.domains, hdomains, List.append_nil, reportedDns_searchDomains]

/-- **The report.**  An outcome is faithful exactly if no manual IPv6 servers were asked for. -/
theorem outcome_faithful_iff (engine : LinuxIpEngine W) (interfaceIndex : Int32)
    (interfaceName : String) (ipv4 ipv6 : IpConfig) (dnsOwner : String) (w w' : W)
    (outcome : ActivationOutcome) (state : ActiveIpState)
    (h : engine.activate interfaceIndex interfaceName ipv4 ipv6 dnsOwner w =
      .ok (outcome, state) w') :
    outcome.Faithful state
        (engine.activationCalls interfaceIndex interfaceName ipv4 ipv6 dnsOwner w) ↔
      (ipv6.method = .manual → ipv6.dnsServers = []) := by
  obtain ⟨⟨hroutes₄, hroutes₆⟩, hdns, hservers, hdomains⟩ := reported_of_activate h
  have hnil : (ipv6.method = .manual → ipv6.dnsServers = []) ↔ outcome.serversV6 = [] := by
    rw [hservers]
    split
    · next hmanual => exact ⟨fun h => h hmanual, fun h _ => h⟩
    · next hmanual => exact ⟨fun _ => rfl, fun _ h => (hmanual h).elim⟩
  rw [hnil]
  constructor
  · intro hfaithful
    have happlied := hfaithful.servers
    rw [hdns, DnsConfig.said_servers, reportedDns_servers] at happlied
    exact List.append_right_eq_self.mp happlied.symm
  · intro hnone
    refine ⟨hroutes₄, hroutes₆, ?_, ?_⟩
    · rw [hdns, DnsConfig.said_servers, reportedDns_servers, hnone, List.append_nil]
    · rw [hdns, DnsConfig.said_eq_nil, reportedDns_servers, hnone, List.append_nil, hdomains]

end

/-! ### Manual servers -/

/-- Manual IPv4 settings with the server `192.168.1.1`. -/
def manualIpv4 : IpConfig where
  method := .manual
  address := some (.v4 (.new 192 168 1 10))
  prefixLength := some 24
  dnsServers := [.v4 (.new 192 168 1 1)]

/-- Manual IPv6 settings with these servers. -/
def manualIpv6 (dnsServers : List IpAddr) : IpConfig where
  method := .manual
  address := some (.v6 0x20010db8000000000000000000000005#128)
  prefixLength := some 64
  dnsServers := dnsServers

/-- Two manual sections without IPv6 servers are reported faithfully. -/
theorem outcome_faithful_iff_manual :
    ∃ outcome state, willingEngine.activate 2 "eth0" manualIpv4 (manualIpv6 []) "nmd" () =
        .ok (outcome, state) () ∧
      outcome.Faithful state
        (willingEngine.activationCalls 2 "eth0" manualIpv4 (manualIpv6 []) "nmd" ()) :=
  ⟨_, _, rfl, (outcome_faithful_iff willingEngine 2 "eth0" manualIpv4 (manualIpv6 []) "nmd" () () _ _
    rfl).mpr fun _ => rfl⟩

/-- The reported server of manual IPv6 settings is not applied. -/
theorem ipv6_server_reported_not_applied :
    ConnectionProfile.validateIpConfig { method := .disabled } true = .ok () ∧
      ConnectionProfile.validateIpConfig (manualIpv6 [.v6 1]) false = .ok () ∧
      ∃ outcome state, willingEngine.activate 2 "eth0" { method := .disabled }
          (manualIpv6 [.v6 1]) "nmd" () = .ok (outcome, state) () ∧
        outcome.serversV6 = [.v6 1] ∧
        willingEngine.activationCalls 2 "eth0" { method := .disabled } (manualIpv6 [.v6 1]) "nmd" ()
          = [.configureIpv6 2 ⟨0x20010db8000000000000000000000005#128, 64, none⟩] ∧
        ¬ outcome.Faithful state (willingEngine.activationCalls 2 "eth0" { method := .disabled }
          (manualIpv6 [.v6 1]) "nmd" ()) := by
  refine ⟨rfl, rfl, _, _, rfl, rfl, rfl, fun h => ?_⟩
  exact absurd h.servers (List.cons_ne_nil _ _).symm

/-! ### Requested routes -/

/-- The routes that the sections ask for: those of its family, where it is not disabled. -/
def requestedRoutes (ipv4 ipv6 : IpConfig) : List Route :=
  (if ipv4.method = .disabled then [] else ipv4.routes.filter (·.family = .v4)) ++
    if ipv6.method = .disabled then [] else ipv6.routes.filter (·.family = .v6)

/-- The installable IPv6 routes are the requested ones unless an automatic section has some. -/
theorem installableV6_eq_iff {ipv6 : IpConfig} :
    installableV6 ipv6 =
        (if ipv6.method = .disabled then [] else ipv6.routes.filter (·.family = .v6)) ↔
      (ipv6.method = .automatic → ∀ r ∈ ipv6.routes, r.family ≠ .v6) := by
  rw [installableV6]
  cases ipv6.method with
  | disabled => exact iff_of_true rfl (by rintro ⟨⟩)
  | manual => exact iff_of_true rfl (by rintro ⟨⟩)
  | automatic =>
      show [] = ipv6.routes.filter (·.family = .v6) ↔ _
      rw [eq_comm, List.filter_eq_nil_iff]
      simp

/-- **Static routes.**  The routes that an activation adds are those requested, in order, exactly
if no IPv6 routes are left to automatic settings. -/
theorem static_routes_installed_iff {W : Type} (engine : LinuxIpEngine W) (interfaceIndex : Int32)
    (interfaceName : String) (ipv4 ipv6 : IpConfig) (dnsOwner : String) (w w' : W)
    (outcome : ActivationOutcome) (state : ActiveIpState)
    (h : engine.activate interfaceIndex interfaceName ipv4 ipv6 dnsOwner w =
      .ok (outcome, state) w') :
    addedRoutes (engine.activationCalls interfaceIndex interfaceName ipv4 ipv6 dnsOwner w) =
        requestedRoutes ipv4 ipv6 ↔
      (ipv6.method = .automatic → ∀ r ∈ ipv6.routes, r.family ≠ .v6) := by
  obtain ⟨t, ht, -⟩ :=
    (traced_activate interfaceIndex interfaceName ipv4 ipv6 dnsOwner).eq_ok
      (show engine.activate interfaceIndex interfaceName ipv4 ipv6 dnsOwner
        (Traced.state ⟨w, []⟩) = _ from h)
  obtain ⟨⟨calls, hcalls, hadded, -⟩, -⟩ := activate_emits ht
  rw [activationCalls, after_of_ok ht, hcalls, List.nil_append, hadded, requestedRoutes,
    installableV4, ipv4StaticRoutes, List.append_cancel_left_eq]
  exact installableV6_eq_iff

/-- `2001:db8:10::/64` through `fe80::1`. -/
def labRoute : Route :=
  ⟨.v6, .v6 0x20010db8001000000000000000000000#128, 64,
    some (.v6 0xfe800000000000000000000000000001#128), none, none, .unicast, .universe⟩

/-- A manual IPv6 section gets the route that it asks for. -/
theorem static_routes_installed_iff_manual :
    ∃ outcome state, willingEngine.activate 2 "eth0" { method := .disabled }
        { manualIpv6 [] with routes := [labRoute] } "nmd" () = .ok (outcome, state) () ∧
      addedRoutes (willingEngine.activationCalls 2 "eth0" { method := .disabled }
        { manualIpv6 [] with routes := [labRoute] } "nmd" ()) = [labRoute] :=
  ⟨_, _, rfl, (static_routes_installed_iff willingEngine 2 "eth0" { method := .disabled }
    { manualIpv6 [] with routes := [labRoute] } "nmd" () () _ _ rfl).mpr (by rintro ⟨⟩)⟩

/-- An IPv6 route of automatic settings is not added. -/
theorem automatic_ipv6_route_dropped :
    ConnectionProfile.validateIpConfig {} true = .ok () ∧
      ConnectionProfile.validateIpConfig { routes := [labRoute] } false = .ok () ∧
      (∃ outcome state, willingEngine.activate 2 "eth0" {} { routes := [labRoute] } "nmd" () =
        .ok (outcome, state) ()) ∧
      addedRoutes (willingEngine.activationCalls 2 "eth0" {} { routes := [labRoute] } "nmd" ()) = [] ∧
      requestedRoutes {} { routes := [labRoute] } = [labRoute] :=
  ⟨rfl, rfl, ⟨_, _, rfl⟩, rfl, rfl⟩

end NetworkManager
