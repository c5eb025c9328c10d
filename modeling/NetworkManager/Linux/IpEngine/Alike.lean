import NetworkManager.Linux.IpEngine
import NetworkManager.Support.TwoRuns

/-!
# Linux — IpEngine — Alike

Two IP engines over backends that answer alike answer alike.
-/

namespace NetworkManager

open Effects

variable {W W' : Type}

/-- The backends of the engines answer alike. -/
structure LinuxIpEngine.Alike (R : W → W' → Prop) (engine : LinuxIpEngine W)
    (engine' : LinuxIpEngine W') : Prop where
  configureIpv4 (index : Int32) (config : Ipv4Config) : Effects.Alike R
    (engine.ip.configureIpv4 index config) (engine'.ip.configureIpv4 index config)
  removeIpv4 (index : Int32) (config : Ipv4Config) : Effects.Alike R
    (engine.ip.removeIpv4 index config) (engine'.ip.removeIpv4 index config)
  configureIpv6 (index : Int32) (config : Ipv6Config) : Effects.Alike R
    (engine.ip.configureIpv6 index config) (engine'.ip.configureIpv6 index config)
  removeIpv6 (index : Int32) (config : Ipv6Config) : Effects.Alike R
    (engine.ip.removeIpv6 index config) (engine'.ip.removeIpv6 index config)
  addRoute (route : Route) :
    Effects.Alike R (engine.ip.addRoute route) (engine'.ip.addRoute route)
  removeRoute (route : Route) :
    Effects.Alike R (engine.ip.removeRoute route) (engine'.ip.removeRoute route)
  acquire (request : DhcpRequest) :
    Effects.Alike R (engine.dhcp.acquire request) (engine'.dhcp.acquire request)
  release (lease : DhcpLease) :
    Effects.Alike R (engine.dhcp.release lease) (engine'.dhcp.release lease)
  apply (owner : String) (config : DnsConfig) :
    Effects.Alike R (engine.dns.apply owner config) (engine'.dns.apply owner config)
  remove (ownership : DnsOwnership) :
    Effects.Alike R (engine.dns.remove ownership) (engine'.dns.remove ownership)
  getAddresses : Effects.Alike R engine.getAddresses engine'.getAddresses

/-- The same was recorded over related worlds. -/
def Call.Rel (R : W → W' → Prop) (c : Call W) (c' : Call W') : Prop :=
  R c.world c'.world ∧ c'.state = c.state ∧ c'.outcome = c.outcome

variable {R : W → W' → Prop} {ε α : Type}

/-- Two alike runs of a call on the backend world give alike runs inside an activation. -/
theorem Call.run_alike {x : EStateM ε W α} {y : EStateM ε W' α} (h : Alike R x y) :
    Alike (Call.Rel R) (Call.run x) (Call.run y) :=
  h.zoom (fun _ _ hc => hc.1) fun _ _ _ _ hc hw => ⟨hw, hc.2⟩

namespace LinuxIpEngine

variable {engine : LinuxIpEngine W} {engine' : LinuxIpEngine W'} (h : engine.Alike R engine')

/-! ### Bringing up -/

include h in
/-- Routes are installed alike over alike worlds. -/
theorem installRoutes_alike (routes : List Route) :
    Effects.Alike R (engine.installRoutes routes) (engine'.installRoutes routes) :=
  .forM (fun route => (h.addRoute route).adaptExcept _) routes

include h in
/-- DNS is applied alike, and skipped alike where there is nothing to say. -/
theorem applyDns_alike (owner : String) (config : DnsConfig) :
    Effects.Alike R (engine.applyDns owner config) (engine'.applyDns owner config) := by
  unfold applyDns
  split
  · exact .pure _
  · exact ((h.apply owner config).adaptExcept _).bind fun _ => .pure _

include h in
theorem linkLocalAddress_alike (index : Int32) :
    Effects.Alike R (engine.linkLocalAddress index) (engine'.linkLocalAddress index) := by
  refine h.getAddresses.attempt.bind fun answer => ?_
  cases answer <;> exact .pure _

include h in
/-- The IPv4 install sends alike, records alike and reports alike. -/
theorem installIpv4_alike (index : Int32) (owner : String) (config : Ipv4Config)
    (staticRoutes : List Route) (dnsConfig : DnsConfig) (source : Ipv4Source)
    (lease : Option DhcpLease) : Effects.Alike (Call.Rel R)
      (engine.installIpv4 index owner config staticRoutes dnsConfig source lease)
      (engine'.installIpv4 index owner config staticRoutes dnsConfig source lease) := by
  refine (Alike.modify ?_).bind fun _ => (Call.run_alike
    (((h.configureIpv4 index config).adaptExcept _).bind fun _ =>
      (installRoutes_alike h staticRoutes).bind fun _ =>
        applyDns_alike h owner dnsConfig)).bind fun _ =>
    Alike.modify ?_
  · rintro c c' ⟨hworld, hstate, houtcome⟩
    exact ⟨hworld, by rw [hstate], houtcome⟩
  · rintro c c' ⟨hworld, hstate, houtcome⟩
    exact ⟨hworld, by rw [hstate], by rw [houtcome]⟩

include h in
/-- An IPv4 activation is alike whatever its method, the DHCP lease included. -/
theorem activateIpv4_alike (index : Int32) (name : String) (ipv4 : IpConfig) (owner : String) :
    Effects.Alike (Call.Rel R) (engine.activateIpv4 index name ipv4 owner)
      (engine'.activateIpv4 index name ipv4 owner) := by
  unfold activateIpv4
  cases ipv4.method with
  | disabled => exact .pure _
  | automatic =>
      exact (Call.run_alike ((h.acquire _).adaptExcept _)).bind fun lease =>
        installIpv4_alike h _ _ _ _ _ _ _
  | manual =>
      cases ipv4.address.bind IpAddr.toV4 with
      | none => exact .throw _
      | some address =>
          cases ipv4.prefixLength with
          | none => exact .throw _
          | some prefixLength => exact installIpv4_alike h _ _ _ _ _ _ _

include h in
/-- The IPv6 install sends alike, records alike and reports alike. -/
theorem installIpv6_alike (index : Int32) (config : Ipv6Config) (staticRoutes : List Route)
    (servers : List IpAddr) : Effects.Alike (Call.Rel R)
      (engine.installIpv6 index config staticRoutes servers)
      (engine'.installIpv6 index config staticRoutes servers) := by
  refine (Alike.modify ?_).bind fun _ => (Call.run_alike
    (((h.configureIpv6 index config).adaptExcept _).bind fun _ =>
      installRoutes_alike h staticRoutes)).bind fun _ =>
    Alike.modify ?_
  · rintro c c' ⟨hworld, hstate, houtcome⟩
    exact ⟨hworld, by rw [hstate], houtcome⟩
  · rintro c c' ⟨hworld, hstate, houtcome⟩
    exact ⟨hworld, hstate, by rw [houtcome]⟩

include h in
/-- An IPv6 activation is alike whatever its method. -/
theorem activateIpv6_alike (index : Int32) (ipv6 : IpConfig) :
    Effects.Alike (Call.Rel R) (engine.activateIpv6 index ipv6)
      (engine'.activateIpv6 index ipv6) := by
  unfold activateIpv6
  cases ipv6.method with
  | disabled =>
      refine Alike.modify ?_
      rintro c c' ⟨hworld, hstate, houtcome⟩
      exact ⟨hworld, hstate, by rw [houtcome]⟩
  | automatic =>
      refine (Call.run_alike (linkLocalAddress_alike h index)).bind fun linkLocal =>
        Alike.modify ?_
      rintro c c' ⟨hworld, hstate, houtcome⟩
      exact ⟨hworld, hstate, by rw [houtcome]⟩
  | manual =>
      cases ipv6.address.bind IpAddr.toV6 with
      | none => exact .throw _
      | some address =>
          cases ipv6.prefixLength with
          | none => exact .throw _
          | some prefixLength => exact installIpv6_alike h _ _ _ _

/-! ### Taking down -/

/-- A removal keeps its error aside in the same way on both sides. -/
theorem removal_alike {wrap : ε → IpEngineError} {x : EStateM ε W Unit} {y : EStateM ε W' Unit}
    (hx : Effects.Alike R x y) : Effects.Alike R (removal wrap x) (removal wrap y) := by
  refine hx.attempt.bind fun answer => ?_
  cases answer <;> exact .pure _

include h in
theorem removeRoutes_alike (routes : List Route) :
    Effects.Alike R (engine.removeRoutes routes) (engine'.removeRoutes routes) :=
  .forM (fun route => (h.removeRoute route).attempt.bind fun _ => .pure _) routes

include h in
theorem releaseLease_alike (lease : Option DhcpLease) :
    Effects.Alike R (engine.releaseLease lease) (engine'.releaseLease lease) := by
  cases lease with
  | none => exact .pure _
  | some lease => exact (h.release lease).attempt.bind fun _ => .pure _

include h in
/-- The IPv4 part is taken down alike. -/
theorem teardownIpv4_alike (ipv4 : ActiveIpv4) :
    Effects.Alike R (engine.teardownIpv4 ipv4) (engine'.teardownIpv4 ipv4) :=
  (removeRoutes_alike h _).bind fun _ => (releaseLease_alike h _).bind fun _ =>
    removal_alike (h.removeIpv4 _ _)

include h in
theorem teardownIpv6_alike (ipv6 : ActiveIpv6) :
    Effects.Alike R (engine.teardownIpv6 ipv6) (engine'.teardownIpv6 ipv6) := by
  refine (removeRoutes_alike h _).bind fun _ => ?_
  cases ipv6.source with
  | manual =>
      cases ipv6.linkLocal with
      | none => exact .pure _
      | some address => exact removal_alike (h.removeIpv6 _ _)
  | automaticLinkLocal | disabled => exact .pure _

theorem teardownPart_alike {f : α → EStateM IpEngineError W (Option IpEngineError)}
    {g : α → EStateM IpEngineError W' (Option IpEngineError)} (hf : ∀ a, Effects.Alike R (f a) (g a))
    (part : Option α) : Effects.Alike R (teardownPart f part) (teardownPart g part) := by
  cases part with
  | none => exact .pure _
  | some a => exact hf a

include h in
/-- A whole teardown is alike: the same first error or none, over alike worlds. -/
theorem teardown_alike (state : ActiveIpState) :
    Effects.Alike R (engine.teardown state) (engine'.teardown state) := by
  refine (teardownPart_alike (fun ownership => removal_alike (h.remove ownership)) _).bind
    fun dnsError => (teardownPart_alike (teardownIpv4_alike h) _).bind fun ipv4Error =>
      (teardownPart_alike (teardownIpv6_alike h) _).bind fun ipv6Error => ?_
  cases dnsError <|> ipv4Error <|> ipv6Error with
  | none => exact .pure _
  | some error => exact .throw _

/-! ### Both -/

include h in
/-- An activation of both sections is alike, the teardown of a failed one included. -/
theorem activate_alike (index : Int32) (name : String) (ipv4 ipv6 : IpConfig) (owner : String) :
    Effects.Alike R (engine.activate index name ipv4 ipv6 owner)
      (engine'.activate index name ipv4 ipv6 owner) := fun w w' hw => by
  have hphases := (activateIpv4_alike h index name ipv4 owner).bind
    fun _ => activateIpv6_alike h index ipv6
  have hstart : Call.Rel R { world := w, state := {}, outcome := {} }
    { world := w', state := {}, outcome := {} } := ⟨hw, rfl, rfl⟩
  obtain ⟨_, c, c', hx, hy, hc⟩ | ⟨error, c, c', hx, hy, hc⟩ := hphases.both hstart
  · obtain ⟨hworld, hstate, houtcome⟩ := hc
    refine Alike.of_ok (a := (c.outcome, c.state)) ?_ ?_ hworld
    · simp only [activate, hx]
    · simp only [activate, hy, hstate, houtcome]
  · obtain ⟨hworld, hstate, -⟩ := hc
    have hdown := (teardown_alike h c.state c.world c'.world hworld).2
    rw [settle_snd, settle_snd] at hdown
    refine Alike.of_error (e := error) ?_ ?_ hdown
    · simp only [activate, hx]
    · simp only [activate, hy, hstate]

end LinuxIpEngine

end NetworkManager
