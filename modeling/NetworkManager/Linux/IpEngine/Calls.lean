import NetworkManager.Linux.IpEngine
import NetworkManager.Support.Tracing

/-!
# Linux — IpEngine — Calls

What the engine asks of its backends.  `traced` is the engine over backends that record their
calls; `traced_activate` says that it does what the engine does.

* `activate_adds`: every route passed to `add_route`, in any run, is a static route of the request.
* `activate_emits`: a run that returns adds all of them, and applies the reported IPv4 servers.
-/

namespace NetworkManager

open Effects

/-- A call of a backend. -/
inductive BackendCall where
  | configureIpv4 (interfaceIndex : Int32) (config : Ipv4Config)
  | removeIpv4 (interfaceIndex : Int32) (config : Ipv4Config)
  | configureIpv6 (interfaceIndex : Int32) (config : Ipv6Config)
  | removeIpv6 (interfaceIndex : Int32) (config : Ipv6Config)
  | addRoute (route : Route)
  | removeRoute (route : Route)
  | acquire (request : DhcpRequest)
  | release (lease : DhcpLease)
  | applyDns (owner : String) (config : DnsConfig)
  | removeDns (ownership : DnsOwnership)
  | getAddresses
  deriving DecidableEq

namespace BackendCall

/-- The routes passed to `add_route`. -/
def addedRoutes (calls : List BackendCall) : List Route :=
  calls.filterMap fun
    | addRoute route => some route
    | _ => none

/-- The configurations passed to `DnsManager::apply`. -/
def dnsConfigs (calls : List BackendCall) : List DnsConfig :=
  calls.filterMap fun
    | applyDns _ config => some config
    | _ => none

end BackendCall

/-- A world with the calls that the backends have been asked for so far. -/
abbrev TracedWorld (W : Type) := Traced BackendCall W

variable {W : Type}

namespace LinuxIpEngine

variable (engine : LinuxIpEngine W)

/-- The engine over backends that record their calls. -/
def traced : LinuxIpEngine (TracedWorld W) where
  ip := {
    configureIpv4 := fun i config => record (.configureIpv4 i config) (engine.ip.configureIpv4 i config)
    removeIpv4 := fun i config => record (.removeIpv4 i config) (engine.ip.removeIpv4 i config)
    configureIpv6 := fun i config => record (.configureIpv6 i config) (engine.ip.configureIpv6 i config)
    removeIpv6 := fun i config => record (.removeIpv6 i config) (engine.ip.removeIpv6 i config)
    addRoute := fun route => record (.addRoute route) (engine.ip.addRoute route)
    removeRoute := fun route => record (.removeRoute route) (engine.ip.removeRoute route) }
  dhcp := {
    acquire := fun request => record (.acquire request) (engine.dhcp.acquire request)
    release := fun lease => record (.release lease) (engine.dhcp.release lease) }
  dns := {
    apply := fun owner config => record (.applyDns owner config) (engine.dns.apply owner config)
    remove := fun ownership => record (.removeDns ownership) (engine.dns.remove ownership) }
  getAddresses := record .getAddresses engine.getAddresses

/-! ### The traced engine does what the engine does -/

/-- The call in progress, without the record. -/
def forget (c : Call (TracedWorld W)) : Call W := ⟨c.world.state, c.state, c.outcome⟩

variable {engine}

/-- A recorded call inside an activation tracks the plain one. -/
theorem tracks_run {ε α : Type} {y : EStateM ε (TracedWorld W) α} {x : EStateM ε W α}
    (h : Tracks Traced.state y x) : Tracks forget (Call.run y) (Call.run x) :=
  h.zoom (fun _ => rfl) fun _ _ => rfl

/-- Installing routes over recording backends does what it does over the plain ones. -/
theorem tracks_installRoutes (routes : List Route) :
    Tracks Traced.state (engine.traced.installRoutes routes) (engine.installRoutes routes) :=
  Tracks.forM (fun _ => (Tracks.record _ _).adaptExcept) routes

/-- DNS is applied over recording backends as over the plain ones. -/
theorem tracks_applyDns (dnsOwner : String) (config : DnsConfig) :
    Tracks Traced.state (engine.traced.applyDns dnsOwner config)
      (engine.applyDns dnsOwner config) := by
  unfold applyDns
  split
  · exact .pure none
  · exact (Tracks.record _ _).adaptExcept.bind fun _ => .pure _

theorem tracks_linkLocalAddress (interfaceIndex : Int32) :
    Tracks Traced.state (engine.traced.linkLocalAddress interfaceIndex)
      (engine.linkLocalAddress interfaceIndex) := by
  refine (Tracks.record _ _).attempt.bind fun r => ?_
  cases r with
  | ok addresses => exact .pure _
  | error e => exact .pure none

/-- The IPv4 install over recording backends leaves the same world, state and report. -/
theorem tracks_installIpv4 (interfaceIndex : Int32) (dnsOwner : String) (config : Ipv4Config)
    (staticRoutes : List Route) (dnsConfig : DnsConfig) (source : Ipv4Source)
    (lease : Option DhcpLease) :
    Tracks forget
      (engine.traced.installIpv4 interfaceIndex dnsOwner config staticRoutes dnsConfig source lease)
      (engine.installIpv4 interfaceIndex dnsOwner config staticRoutes dnsConfig source lease) := by
  refine Tracks.bind (Tracks.modify fun _ => rfl) fun _ => Tracks.bind (tracks_run ?_) fun _ =>
    Tracks.modify fun _ => rfl
  exact Tracks.bind (Tracks.record _ _).adaptExcept fun _ =>
    (tracks_installRoutes staticRoutes).bind fun _ => tracks_applyDns dnsOwner dnsConfig

/-- The IPv6 install over recording backends leaves the same world, state and report. -/
theorem tracks_installIpv6 (interfaceIndex : Int32) (config : Ipv6Config)
    (staticRoutes : List Route) (dnsServers : List IpAddr) :
    Tracks forget (engine.traced.installIpv6 interfaceIndex config staticRoutes dnsServers)
      (engine.installIpv6 interfaceIndex config staticRoutes dnsServers) := by
  refine Tracks.bind (Tracks.modify fun _ => rfl) fun _ => Tracks.bind (tracks_run ?_) fun _ =>
    Tracks.modify fun _ => rfl
  exact Tracks.bind (Tracks.record _ _).adaptExcept fun _ => tracks_installRoutes staticRoutes

/-- The IPv4 activation over recording backends does what the plain one does. -/
theorem tracks_activateIpv4 (interfaceIndex : Int32) (interfaceName : String) (ipv4 : IpConfig)
    (dnsOwner : String) :
    Tracks forget (engine.traced.activateIpv4 interfaceIndex interfaceName ipv4 dnsOwner)
      (engine.activateIpv4 interfaceIndex interfaceName ipv4 dnsOwner) := by
  unfold activateIpv4
  cases ipv4.method with
  | disabled => exact .pure _
  | automatic =>
      exact (tracks_run (Tracks.record _ _).adaptExcept).bind fun _ =>
        tracks_installIpv4 _ _ _ _ _ _ _
  | manual =>
      cases ipv4.address.bind IpAddr.toV4 with
      | none => exact .throw _
      | some address =>
          cases ipv4.prefixLength with
          | none => exact .throw _
          | some prefixLength => exact tracks_installIpv4 _ _ _ _ _ _ _

/-- The IPv6 activation over recording backends does what the plain one does. -/
theorem tracks_activateIpv6 (interfaceIndex : Int32) (ipv6 : IpConfig) :
    Tracks forget (engine.traced.activateIpv6 interfaceIndex ipv6)
      (engine.activateIpv6 interfaceIndex ipv6) := by
  unfold activateIpv6
  cases ipv6.method with
  | disabled => exact Tracks.modify fun _ => rfl
  | automatic =>
      exact (tracks_run (tracks_linkLocalAddress interfaceIndex)).bind fun _ =>
        Tracks.modify fun _ => rfl
  | manual =>
      cases ipv6.address.bind IpAddr.toV6 with
      | none => exact .throw _
      | some address =>
          cases ipv6.prefixLength with
          | none => exact .throw _
          | some prefixLength => exact tracks_installIpv6 _ _ _ _

/-- A removal that goes on after an error tracks the plain one. -/
theorem tracks_removal {ε : Type} (wrap : ε → IpEngineError) {y : EStateM ε (TracedWorld W) Unit}
    {x : EStateM ε W Unit} (h : Tracks Traced.state y x) :
    Tracks Traced.state (removal wrap y) (removal wrap x) := by
  refine h.attempt.bind fun r => ?_
  cases r with
  | ok _ => exact .pure none
  | error e => exact .pure _

theorem tracks_removeRoutes (routes : List Route) :
    Tracks Traced.state (engine.traced.removeRoutes routes) (engine.removeRoutes routes) :=
  Tracks.forM (fun _ => (Tracks.record _ _).attempt.bind fun _ => .pure _) routes

theorem tracks_teardownPart {α : Type}
    {g : α → EStateM IpEngineError (TracedWorld W) (Option IpEngineError)}
    {f : α → EStateM IpEngineError W (Option IpEngineError)}
    (h : ∀ a, Tracks Traced.state (g a) (f a)) (part : Option α) :
    Tracks Traced.state (teardownPart g part) (teardownPart f part) := by
  cases part with
  | none => exact .pure none
  | some a => exact h a

/-- The teardown over recording backends does what the plain one does. -/
theorem tracks_teardown (state : ActiveIpState) :
    Tracks Traced.state (engine.traced.teardown state) (engine.teardown state) := by
  refine (tracks_teardownPart (fun _ => tracks_removal _ (.record _ _)) _).bind fun _ =>
    (tracks_teardownPart (fun ipv4 => ?_) _).bind fun _ =>
    (tracks_teardownPart (fun ipv6 => ?_) _).bind fun _ => ?_
  · refine (tracks_removeRoutes _).bind fun _ => Tracks.bind ?_ fun _ =>
      tracks_removal _ (.record _ _)
    cases ipv4.lease with
    | none => exact .pure _
    | some lease => exact (Tracks.record _ _).attempt.bind fun _ => .pure _
  · refine (tracks_removeRoutes _).bind fun _ => ?_
    split
    · exact tracks_removal _ (.record _ _)
    · exact .pure none
  · split
    · exact .throw _
    · exact .pure _

variable (engine) in
/-- The two phases of an activation. -/
def phases (interfaceIndex : Int32) (interfaceName : String) (ipv4 ipv6 : IpConfig)
    (dnsOwner : String) : EStateM IpEngineError (Call W) Unit := do
  engine.activateIpv4 interfaceIndex interfaceName ipv4 dnsOwner
  engine.activateIpv6 interfaceIndex ipv6

/-- Both activations in turn, recorded, do what the plain ones do. -/
theorem tracks_phases (engine : LinuxIpEngine W) (interfaceIndex : Int32) (interfaceName : String)
    (ipv4 ipv6 : IpConfig) (dnsOwner : String) :
    Tracks forget (engine.traced.phases interfaceIndex interfaceName ipv4 ipv6 dnsOwner)
      (engine.phases interfaceIndex interfaceName ipv4 ipv6 dnsOwner) :=
  (tracks_activateIpv4 interfaceIndex interfaceName ipv4 dnsOwner).bind fun _ =>
    tracks_activateIpv6 interfaceIndex ipv6

/-- An activation returns what its phases recorded and reported, or tears down what they
recorded. -/
theorem settle_activate (engine : LinuxIpEngine W) (interfaceIndex : Int32)
    (interfaceName : String) (ipv4 ipv6 : IpConfig) (dnsOwner : String) (w : W) :
    settle (engine.activate interfaceIndex interfaceName ipv4 ipv6 dnsOwner) w =
      match settle (engine.phases interfaceIndex interfaceName ipv4 ipv6 dnsOwner) ⟨w, {}, {}⟩ with
      | (.ok _, c) => (.ok (c.outcome, c.state), c.world)
      | (.error e, c) => (.error e, after (engine.teardown c.state) c.world) := by
  cases h : engine.phases interfaceIndex interfaceName ipv4 ipv6 dnsOwner ⟨w, {}, {}⟩ with
  | ok a c =>
      rw [settle_of_ok h, settle, activate]
      simp only [show (do
        engine.activateIpv4 interfaceIndex interfaceName ipv4 dnsOwner
        engine.activateIpv6 interfaceIndex ipv6) ⟨w, {}, {}⟩ = _ from h]
  | error e c =>
      rw [settle_of_error h, settle, activate]
      simp only [show (do
        engine.activateIpv4 interfaceIndex interfaceName ipv4 dnsOwner
        engine.activateIpv6 interfaceIndex ipv6) ⟨w, {}, {}⟩ = _ from h]

/-- **The traced engine** returns or fails as the engine does, in the same world. -/
theorem traced_activate (interfaceIndex : Int32) (interfaceName : String) (ipv4 ipv6 : IpConfig)
    (dnsOwner : String) :
    Tracks Traced.state (engine.traced.activate interfaceIndex interfaceName ipv4 ipv6 dnsOwner)
      (engine.activate interfaceIndex interfaceName ipv4 ipv6 dnsOwner) := by
  intro t
  have hphases := tracks_phases engine interfaceIndex interfaceName ipv4 ipv6 dnsOwner ⟨t, {}, {}⟩
  rw [settle_activate, settle_activate, show (⟨t.state, {}, {}⟩ : Call W) = forget ⟨t, {}, {}⟩ from
    rfl, ← hphases]
  rcases settle (engine.traced.phases interfaceIndex interfaceName ipv4 ipv6 dnsOwner) ⟨t, {}, {}⟩
    with ⟨_ | _, c⟩
  · exact congrArg (Prod.mk _) ((tracks_teardown c.state).after_eq c.world)
  · rfl

end LinuxIpEngine

/-! ### What a run that returns asks for -/

/-- The lease an activation asks for. -/
def leaseRequest (interfaceIndex : Int32) (interfaceName : String) : DhcpRequest where
  interfaceIndex := interfaceIndex
  interfaceName := interfaceName
  hostname := none
  requestedAddress := none
  timeout := 0

/-- The static routes an activation installs for IPv4. -/
def installableV4 (ipv4 : IpConfig) : List Route :=
  if ipv4.method = .disabled then [] else ipv4StaticRoutes ipv4

/-- The static routes an activation installs for IPv6: an automatic section installs none. -/
def installableV6 (ipv6 : IpConfig) : List Route :=
  if ipv6.method = .manual then ipv6StaticRoutes ipv6 else []

/-- The configuration that is applied for `config`: none if it says nothing. -/
def DnsConfig.said (config : DnsConfig) : List DnsConfig :=
  if config.servers.isEmpty && config.searchDomains.isEmpty then [] else [config]

/-- The DNS configuration that an outcome reports for IPv4. -/
def reportedDns (outcome : Option Ipv4Outcome) : DnsConfig :=
  outcome.elim {} fun o => ⟨o.searchDomains, o.dnsServers⟩

namespace BackendCall

/-- The routes added by two runs are those of the first, then those of the second. -/
theorem addedRoutes_append (calls calls' : List BackendCall) :
    addedRoutes (calls ++ calls') = addedRoutes calls ++ addedRoutes calls' := List.filterMap_append

/-- The DNS configurations of two runs are those of the first, then those of the second. -/
theorem dnsConfigs_append (calls calls' : List BackendCall) :
    dnsConfigs (calls ++ calls') = dnsConfigs calls ++ dnsConfigs calls' := List.filterMap_append

theorem addedRoutes_map_addRoute (routes : List Route) :
    addedRoutes (routes.map addRoute) = routes := by
  rw [addedRoutes, List.filterMap_map]
  exact List.filterMap_some

theorem dnsConfigs_map_addRoute (routes : List Route) :
    dnsConfigs (routes.map addRoute) = [] := by
  rw [dnsConfigs, List.filterMap_map]
  exact List.filterMap_eq_nil_iff.mpr fun _ _ => rfl

theorem addedRoutes_map_applyDns (owner : String) (configs : List DnsConfig) :
    addedRoutes (configs.map (applyDns owner)) = [] := by
  rw [addedRoutes, List.filterMap_map]
  exact List.filterMap_eq_nil_iff.mpr fun _ _ => rfl

theorem dnsConfigs_map_applyDns (owner : String) (configs : List DnsConfig) :
    dnsConfigs (configs.map (applyDns owner)) = configs := by
  rw [dnsConfigs, List.filterMap_map]
  exact List.filterMap_some

end BackendCall

namespace LinuxIpEngine

open BackendCall

variable {engine : LinuxIpEngine W}

/-- A successful install of routes asks for exactly these routes, in order. -/
theorem emits_installRoutes (routes : List Route) :
    Emits (engine.traced.installRoutes routes) (routes.map .addRoute) :=
  Emits.forM (fun _ => (Emits.record _ _).adaptExcept) routes

/-- DNS is asked for once, and only where the configuration says something. -/
theorem emits_applyDns (dnsOwner : String) (config : DnsConfig) :
    Emits (engine.traced.applyDns dnsOwner config) (config.said.map (.applyDns dnsOwner)) := by
  unfold applyDns DnsConfig.said
  split
  · exact .pure none
  · exact (Emits.record _ _).adaptExcept.bind fun _ => .pure _

theorem emits_linkLocalAddress (interfaceIndex : Int32) :
    Emits (engine.traced.linkLocalAddress interfaceIndex) [.getAddresses] := by
  refine Emits.bind (.attempt_record _ _) fun r => ?_
  cases r with
  | ok addresses => exact .pure _
  | error e => exact .pure none

/-- An IPv4 install that succeeds added the static routes it was given, applied the DNS
configuration that the outcome reports, and recorded the routes that it reports. -/
theorem installIpv4_ok {interfaceIndex : Int32} {dnsOwner : String} {config : Ipv4Config}
    {staticRoutes : List Route} {dnsConfig : DnsConfig} {source : Ipv4Source}
    {lease : Option DhcpLease} {c c' : Call (TracedWorld W)}
    (h : engine.traced.installIpv4 interfaceIndex dnsOwner config staticRoutes dnsConfig source
      lease c = .ok () c') :
    (∃ calls, c'.world.calls = c.world.calls ++ calls ∧ addedRoutes calls = staticRoutes ∧
      dnsConfigs calls = (reportedDns c'.outcome.ipv4).said) ∧
    c'.outcome.ipv4.map Ipv4Outcome.routes = c'.state.ipv4.map ActiveIpv4.routes ∧
    c'.state.ipv6 = c.state.ipv6 ∧ c'.outcome.ipv6 = c.outcome.ipv6 := by
  unfold installIpv4 at h
  rw [modify_bind] at h
  obtain ⟨ownership, c₁, hrun, h⟩ := bind_eq_ok.mp h
  obtain ⟨w, hw, rfl⟩ := zoom_eq_ok hrun
  cases h
  have hcalls := Emits.bind (Emits.record _ _).adaptExcept (fun _ =>
    (emits_installRoutes staticRoutes).bind fun _ => emits_applyDns dnsOwner dnsConfig) _ _ _ hw
  refine ⟨⟨_, hcalls, ?_, ?_⟩, rfl, rfl, rfl⟩
  · rw [addedRoutes_append, addedRoutes_append, addedRoutes_map_addRoute, addedRoutes_map_applyDns]
    exact List.append_nil _
  · rw [dnsConfigs_append, dnsConfigs_append, dnsConfigs_map_addRoute, dnsConfigs_map_applyDns]
    rfl

/-- A successful IPv4 activation added the installable static routes of its section and nothing
else, applied what it reports, and left IPv6 alone. -/
theorem activateIpv4_ok {interfaceIndex : Int32} {interfaceName : String} {ipv4 : IpConfig}
    {dnsOwner : String} {t : TracedWorld W} {c : Call (TracedWorld W)}
    (h : engine.traced.activateIpv4 interfaceIndex interfaceName ipv4 dnsOwner ⟨t, {}, {}⟩ =
      .ok () c) :
    (∃ calls, c.world.calls = t.calls ++ calls ∧ addedRoutes calls = installableV4 ipv4 ∧
      dnsConfigs calls = (reportedDns c.outcome.ipv4).said) ∧
    c.outcome.ipv4.map Ipv4Outcome.routes = c.state.ipv4.map ActiveIpv4.routes ∧
    c.state.ipv6 = none ∧ c.outcome.ipv6 = none := by
  unfold activateIpv4 at h
  unfold installableV4
  cases hmethod : ipv4.method with
  | disabled =>
      rw [hmethod] at h
      cases h
      exact ⟨⟨[], (List.append_nil _).symm, rfl, rfl⟩, rfl, rfl, rfl⟩
  | automatic =>
      rw [hmethod] at h
      obtain ⟨lease, c₁, hrun, h⟩ := bind_eq_ok.mp h
      obtain ⟨w, hw, rfl⟩ := zoom_eq_ok hrun
      have hacquire := (Emits.record (BackendCall.acquire (leaseRequest interfaceIndex interfaceName))
        (engine.dhcp.acquire _)).adaptExcept _ _ _ hw
      obtain ⟨⟨calls, hcalls, hadded, hdns⟩, hroutes, hstate, houtcome⟩ := installIpv4_ok h
      refine ⟨⟨.acquire (leaseRequest interfaceIndex interfaceName) :: calls, ?_, hadded, hdns⟩,
        hroutes, hstate, houtcome⟩
      rw [hcalls, hacquire, List.append_assoc, List.singleton_append]
  | manual =>
      rw [hmethod] at h
      cases haddress : ipv4.address.bind IpAddr.toV4 with
      | none =>
          rw [haddress] at h
          cases h
      | some address =>
          cases hprefix : ipv4.prefixLength with
          | none =>
              rw [haddress, hprefix] at h
              cases h
          | some prefixLength =>
              rw [haddress, hprefix] at h
              exact installIpv4_ok h

/-- An IPv6 install that succeeds added its static routes, applied no DNS, and filled in the IPv6
half of the report and of the state. -/
theorem installIpv6_ok {interfaceIndex : Int32} {config : Ipv6Config} {staticRoutes : List Route}
    {dnsServers : List IpAddr} {c c' : Call (TracedWorld W)}
    (h : engine.traced.installIpv6 interfaceIndex config staticRoutes dnsServers c = .ok () c') :
    ∃ calls report record, c'.world.calls = c.world.calls ++ calls ∧
      addedRoutes calls = staticRoutes ∧ dnsConfigs calls = [] ∧
      c'.outcome = { c.outcome with ipv6 := some report } ∧
      c'.state = { c.state with ipv6 := some record } ∧ report.routes = record.routes ∧
      report.dnsServers = dnsServers ∧ report.searchDomains = [] := by
  unfold installIpv6 at h
  rw [modify_bind] at h
  obtain ⟨_, c₁, hrun, h⟩ := bind_eq_ok.mp h
  obtain ⟨w, hw, rfl⟩ := zoom_eq_ok hrun
  cases h
  have hcalls := Emits.bind (Emits.record _ _).adaptExcept (fun _ =>
    emits_installRoutes staticRoutes) _ _ _ hw
  refine ⟨_, _, _, hcalls, ?_, ?_, rfl, rfl, rfl, rfl, rfl⟩
  · rw [addedRoutes_append, addedRoutes_map_addRoute]
    rfl
  · rw [dnsConfigs_append, dnsConfigs_map_addRoute]
    rfl

/-- The servers that an activation reports for IPv6. -/
theorem activateIpv6_ok {interfaceIndex : Int32} {ipv6 : IpConfig} {c c' : Call (TracedWorld W)}
    (hstate : c.state.ipv6 = none)
    (h : engine.traced.activateIpv6 interfaceIndex ipv6 c = .ok () c') :
    (∃ calls, c'.world.calls = c.world.calls ++ calls ∧ addedRoutes calls = installableV6 ipv6 ∧
      dnsConfigs calls = []) ∧
    c'.state.ipv4 = c.state.ipv4 ∧ c'.outcome.ipv4 = c.outcome.ipv4 ∧
    (c'.outcome.ipv6.map Ipv6Outcome.routes).getD [] =
      (c'.state.ipv6.map ActiveIpv6.routes).getD [] ∧
    (c'.outcome.ipv6.map Ipv6Outcome.dnsServers).getD [] =
      (if ipv6.method = .manual then ipv6.dnsServers else []) ∧
    (c'.outcome.ipv6.map Ipv6Outcome.searchDomains).getD [] = [] := by
  unfold activateIpv6 at h
  unfold installableV6
  cases hmethod : ipv6.method with
  | disabled =>
      rw [hmethod] at h
      cases h
      refine ⟨⟨[], (List.append_nil _).symm, rfl, rfl⟩, rfl, rfl, ?_, rfl, rfl⟩
      rw [hstate]
      rfl
  | automatic =>
      rw [hmethod] at h
      obtain ⟨linkLocal, c₁, hrun, h⟩ := bind_eq_ok.mp h
      obtain ⟨w, hw, rfl⟩ := zoom_eq_ok hrun
      cases h
      -- only the link-local address is asked for; nothing is installed
      refine ⟨⟨_, emits_linkLocalAddress interfaceIndex _ _ _ hw, rfl, rfl⟩, rfl, rfl, ?_, rfl, rfl⟩
      rw [hstate]
      rfl
  | manual =>
      rw [hmethod] at h
      cases haddress : ipv6.address.bind IpAddr.toV6 with
      | none =>
          rw [haddress] at h
          cases h
      | some address =>
          cases hprefix : ipv6.prefixLength with
          | none =>
              rw [haddress, hprefix] at h
              cases h
          | some prefixLength =>
              rw [haddress, hprefix] at h
              obtain ⟨calls, report, record, hcalls, hadded, hdns, houtcome, hstate', hroutes,
                hservers, hdomains⟩ := installIpv6_ok h
              rw [houtcome, hstate']
              exact ⟨⟨calls, hcalls, hadded, hdns⟩, rfl, rfl, hroutes, hservers, hdomains⟩

/-- **A run that returns** asks for every static route, and for the IPv4 servers it reports. -/
theorem activate_emits {interfaceIndex : Int32} {interfaceName : String} {ipv4 ipv6 : IpConfig}
    {dnsOwner : String} {t t' : TracedWorld W} {outcome : ActivationOutcome}
    {state : ActiveIpState}
    (h : engine.traced.activate interfaceIndex interfaceName ipv4 ipv6 dnsOwner t =
      .ok (outcome, state) t') :
    (∃ calls, t'.calls = t.calls ++ calls ∧
      addedRoutes calls = installableV4 ipv4 ++ installableV6 ipv6 ∧
      dnsConfigs calls = (reportedDns outcome.ipv4).said) ∧
    outcome.ipv4.map Ipv4Outcome.routes = state.ipv4.map ActiveIpv4.routes ∧
    (outcome.ipv6.map Ipv6Outcome.routes).getD [] =
      (state.ipv6.map ActiveIpv6.routes).getD [] ∧
    (outcome.ipv6.map Ipv6Outcome.dnsServers).getD [] =
      (if ipv6.method = .manual then ipv6.dnsServers else []) ∧
    (outcome.ipv6.map Ipv6Outcome.searchDomains).getD [] = [] := by
  have hsettle := settle_activate engine.traced interfaceIndex interfaceName ipv4 ipv6 dnsOwner t
  rw [settle_of_ok h] at hsettle
  cases hphases : engine.traced.phases interfaceIndex interfaceName ipv4 ipv6 dnsOwner
    ⟨t, {}, {}⟩ with
  | error e c =>
      rw [settle_of_error hphases] at hsettle
      cases hsettle
  | ok a c =>
      rw [settle_of_ok hphases] at hsettle
      cases hsettle
      obtain ⟨_, c₁, h₄, h₆⟩ := bind_eq_ok.mp hphases
      obtain ⟨⟨calls₄, hcalls₄, hadded₄, hdns₄⟩, hroutes₄, hstate, houtcome⟩ := activateIpv4_ok h₄
      obtain ⟨⟨calls₆, hcalls₆, hadded₆, hdns₆⟩, hstate₄, houtcome₄, hrest⟩ :=
        activateIpv6_ok hstate h₆
      rw [hstate₄, houtcome₄]
      refine ⟨⟨calls₄ ++ calls₆, ?_, ?_, ?_⟩, hroutes₄, hrest⟩
      · rw [hcalls₆, hcalls₄, List.append_assoc]
      · rw [addedRoutes_append, hadded₄, hadded₆]
      · rw [dnsConfigs_append, hdns₄, hdns₆, List.append_nil]

end LinuxIpEngine

/-! ### What any run asks for -/

namespace LinuxIpEngine

variable {engine : LinuxIpEngine W}

/-- A call that adds no route but one of `routes`. -/
def Allowed (routes : List Route) (call : BackendCall) : Prop :=
  ∀ route, call = .addRoute route → route ∈ routes

/-- The calls added in the world of the call in progress. -/
def AddsCalls (routes : List Route) (c c' : Call (TracedWorld W)) : Prop :=
  Adds (Allowed routes) c.world c'.world

variable {routes : List Route}

instance : Std.Refl (AddsCalls (W := W) routes) where
  refl := fun c => refl_of (Adds (Allowed routes)) c.world

instance : IsTrans (Call (TracedWorld W)) (AddsCalls routes) where
  trans := fun _ _ _ h h' => trans_of (Adds (Allowed routes)) h h'

/-- A call on the backends keeps to the routes inside an activation too. -/
theorem adds_run {ε α : Type} {x : EStateM ε (TracedWorld W) α}
    (h : Keeps (Adds (Allowed routes)) x) : Keeps (AddsCalls routes) (Call.run x) := by
  intro c
  rw [AddsCalls, Call.run, after_zoom]
  exact h c.world

/-- An update of the record makes no call. -/
theorem adds_modify {ε : Type} {f : Call (TracedWorld W) → Call (TracedWorld W)}
    (h : ∀ c, (f c).world = c.world) :
    Keeps (AddsCalls routes) (modify f : EStateM ε (Call (TracedWorld W)) PUnit) := by
  intro c
  show Adds (Allowed routes) c.world (f c).world
  rw [h c]
  exact refl_of (Adds (Allowed routes)) c.world

/-- Installing some of the routes adds only these. -/
theorem adds_installRoutes (rs : List Route) (h : ∀ r ∈ rs, r ∈ routes) :
    Keeps (Adds (Allowed routes)) (engine.traced.installRoutes rs) :=
  Keeps.forM fun r hr => (Keeps.record (by rintro _ ⟨⟩; exact h r hr) _).adaptExcept

theorem adds_applyDns (dnsOwner : String) (config : DnsConfig) :
    Keeps (Adds (Allowed routes)) (engine.traced.applyDns dnsOwner config) := by
  unfold applyDns
  split
  · exact .pure none
  · exact (Keeps.record (by rintro _ ⟨⟩) _).adaptExcept.bind fun _ => .pure _

/-- The IPv4 install adds no route but its static ones, whether it succeeds or not. -/
theorem adds_installIpv4 (interfaceIndex : Int32) (dnsOwner : String) (config : Ipv4Config)
    (staticRoutes : List Route) (dnsConfig : DnsConfig) (source : Ipv4Source)
    (lease : Option DhcpLease) (h : ∀ r ∈ staticRoutes, r ∈ routes) :
    Keeps (AddsCalls routes) (engine.traced.installIpv4 interfaceIndex dnsOwner config staticRoutes
      dnsConfig source lease) := by
  refine Keeps.bind (adds_modify fun _ => rfl) fun _ => Keeps.bind (adds_run ?_) fun _ =>
    adds_modify fun _ => rfl
  exact Keeps.bind (Keeps.record (by rintro _ ⟨⟩) _).adaptExcept fun _ =>
    (adds_installRoutes staticRoutes h).bind fun _ => adds_applyDns dnsOwner dnsConfig

/-- The IPv4 activation adds only installable routes, wherever it stops. -/
theorem adds_activateIpv4 (interfaceIndex : Int32) (interfaceName : String) (ipv4 : IpConfig)
    (dnsOwner : String) (h : ∀ r ∈ installableV4 ipv4, r ∈ routes) :
    Keeps (AddsCalls routes)
      (engine.traced.activateIpv4 interfaceIndex interfaceName ipv4 dnsOwner) := by
  unfold activateIpv4
  unfold installableV4 at h
  cases hmethod : ipv4.method with
  | disabled => exact .pure _
  | automatic =>
      rw [hmethod] at h
      exact (adds_run (Keeps.record (by rintro _ ⟨⟩) _).adaptExcept).bind fun _ =>
        adds_installIpv4 _ _ _ _ _ _ _ h
  | manual =>
      rw [hmethod] at h
      cases ipv4.address.bind IpAddr.toV4 with
      | none => exact .throw _
      | some address =>
          cases ipv4.prefixLength with
          | none => exact .throw _
          | some prefixLength => exact adds_installIpv4 _ _ _ _ _ _ _ h

theorem adds_installIpv6 (interfaceIndex : Int32) (config : Ipv6Config)
    (staticRoutes : List Route) (dnsServers : List IpAddr) (h : ∀ r ∈ staticRoutes, r ∈ routes) :
    Keeps (AddsCalls routes)
      (engine.traced.installIpv6 interfaceIndex config staticRoutes dnsServers) := by
  refine Keeps.bind (adds_modify fun _ => rfl) fun _ => Keeps.bind (adds_run ?_) fun _ =>
    adds_modify fun _ => rfl
  exact Keeps.bind (Keeps.record (by rintro _ ⟨⟩) _).adaptExcept fun _ =>
    adds_installRoutes staticRoutes h

/-- The IPv6 activation adds only installable routes, wherever it stops. -/
theorem adds_activateIpv6 (interfaceIndex : Int32) (ipv6 : IpConfig)
    (h : ∀ r ∈ installableV6 ipv6, r ∈ routes) :
    Keeps (AddsCalls routes) (engine.traced.activateIpv6 interfaceIndex ipv6) := by
  unfold activateIpv6
  unfold installableV6 at h
  cases hmethod : ipv6.method with
  | disabled => exact adds_modify fun _ => rfl
  | automatic =>
      refine (adds_run ?_).bind fun _ => adds_modify fun _ => rfl
      refine Keeps.bind (Keeps.record (by rintro _ ⟨⟩) _).attempt fun r => ?_
      cases r with
      | ok addresses => exact .pure _
      | error e => exact .pure none
  | manual =>
      rw [hmethod] at h
      cases ipv6.address.bind IpAddr.toV6 with
      | none => exact .throw _
      | some address =>
          cases ipv6.prefixLength with
          | none => exact .throw _
          | some prefixLength => exact adds_installIpv6 _ _ _ _ h

/-- A removal whose error is kept aside adds what the removal adds. -/
theorem adds_removal {ε : Type} (wrap : ε → IpEngineError) {x : EStateM ε (TracedWorld W) Unit}
    (h : Keeps (Adds (Allowed routes)) x) : Keeps (Adds (Allowed routes)) (removal wrap x) := by
  refine h.attempt.bind fun r => ?_
  cases r with
  | ok _ => exact .pure none
  | error e => exact .pure _

theorem adds_removeRoutes (rs : List Route) :
    Keeps (Adds (Allowed routes)) (engine.traced.removeRoutes rs) :=
  Keeps.forM fun _ _ => (Keeps.record (by rintro _ ⟨⟩) _).attempt.bind fun _ => .pure _

theorem adds_teardownPart {α : Type}
    {f : α → EStateM IpEngineError (TracedWorld W) (Option IpEngineError)}
    (h : ∀ a, Keeps (Adds (Allowed routes)) (f a)) (part : Option α) :
    Keeps (Adds (Allowed routes)) (teardownPart f part) := by
  cases part with
  | none => exact .pure none
  | some a => exact h a

/-- A teardown adds no route. -/
theorem adds_teardown (state : ActiveIpState) :
    Keeps (Adds (Allowed routes)) (engine.traced.teardown state) := by
  refine (adds_teardownPart (fun _ => adds_removal _ (.record (by rintro _ ⟨⟩) _)) _).bind fun _ =>
    (adds_teardownPart (fun ipv4 => ?_) _).bind fun _ =>
    (adds_teardownPart (fun ipv6 => ?_) _).bind fun _ => ?_
  · refine (adds_removeRoutes _).bind fun _ => Keeps.bind ?_ fun _ =>
      adds_removal _ (.record (by rintro _ ⟨⟩) _)
    cases ipv4.lease with
    | none => exact .pure _
    | some lease => exact (Keeps.record (by rintro _ ⟨⟩) _).attempt.bind fun _ => .pure _
  · refine (adds_removeRoutes _).bind fun _ => ?_
    split
    · exact adds_removal _ (.record (by rintro _ ⟨⟩) _)
    · exact .pure none
  · split
    · exact .throw _
    · exact .pure _

/-- Both activations in turn add only the installable routes of their sections. -/
theorem adds_phases (engine : LinuxIpEngine W) (interfaceIndex : Int32) (interfaceName : String)
    (ipv4 ipv6 : IpConfig) (dnsOwner : String) :
    Keeps (AddsCalls (installableV4 ipv4 ++ installableV6 ipv6))
      (engine.traced.phases interfaceIndex interfaceName ipv4 ipv6 dnsOwner) :=
  (adds_activateIpv4 _ _ _ _ fun _ hr => List.mem_append_left _ hr).bind fun _ =>
    adds_activateIpv6 _ _ fun _ hr => List.mem_append_right _ hr

/-- **Any run**, also one that fails, asks for no route but the static ones. -/
theorem activate_adds (engine : LinuxIpEngine W) (interfaceIndex : Int32) (interfaceName : String)
    (ipv4 ipv6 : IpConfig) (dnsOwner : String) :
    Keeps (Adds (Allowed (installableV4 ipv4 ++ installableV6 ipv6)))
      (engine.traced.activate interfaceIndex interfaceName ipv4 ipv6 dnsOwner) := by
  intro t
  have hphases := adds_phases engine interfaceIndex interfaceName ipv4 ipv6 dnsOwner ⟨t, {}, {}⟩
  rw [← settle_snd] at hphases
  rw [← settle_snd, settle_activate]
  generalize settle (engine.traced.phases interfaceIndex interfaceName ipv4 ipv6 dnsOwner)
    ⟨t, {}, {}⟩ = result at hphases ⊢
  rcases result with ⟨_ | _, c⟩
  · exact trans_of (Adds _) hphases (adds_teardown c.state c.world)
  · exact hphases

end LinuxIpEngine

end NetworkManager
