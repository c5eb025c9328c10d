import NetworkManager.Linux.IpEngine.Teardown

/-!
# Linux — IpEngine — Install

What `activate` does to the host, for a request whose configurations are valid.  A request plans
a list of forward steps in three stages: the lease, the rest of IPv4, and IPv6.  `activate` tries
them in order, and what it has recorded depends on the stage that was reached (`IpRequest.recorded`).

`activate_eq` is the result: with `gs` the granted steps, `activate` returns the recorded state on
the host `putAll gs` if `gs` is all of them, and otherwise fails after the teardown of what it
recorded.
-/

namespace NetworkManager

open Transactions Effects

/-- The arguments of `activate`. -/
structure IpRequest where
  interfaceIndex : Int32
  interfaceName : String
  ipv4 : IpConfig
  ipv6 : IpConfig
  dnsOwner : String

/-- The configurations are accepted by `validate`, and the owner is a plain word. -/
structure IpRequest.Valid (req : IpRequest) : Prop where
  ipv4 : ConnectionProfile.validateIpConfig req.ipv4 true = .ok ()
  ipv6 : ConnectionProfile.validateIpConfig req.ipv6 false = .ok ()
  owner : LinuxDnsManager.PlainOwner req.dnsOwner

/-- A manual section that `validate` accepts has an address of the family it is for and a prefix
that this family can have. -/
theorem ConnectionProfile.manual_of_validateIpConfig {config : IpConfig} {expectV4 : Bool}
    (h : validateIpConfig config expectV4 = .ok ()) (hm : config.method = .manual) :
    ∃ address prefixLength, config.address = some address ∧ address.isIpv4 = expectV4 ∧
      config.prefixLength = some prefixLength ∧
      ¬ prefixLength > (if expectV4 then 32 else 128) := by
  obtain ⟨address, prefixLength, ha, hfamily, hp, hle⟩ := validateIpConfig_eq_ok.mp h hm
  exact ⟨address, prefixLength, ha, hfamily, hp, UInt8.not_lt.mpr hle⟩

/-! ### The plan of a request -/

/-- What bringing IPv4 up installs once the address is known. -/
structure Ipv4Plan where
  lease : Option DhcpLease
  config : Ipv4Config
  staticRoutes : List Route
  dns : DnsConfig
  source : Ipv4Source

/-- What bringing up a manual IPv6 configuration installs. -/
structure Ipv6Plan where
  config : Ipv6Config
  staticRoutes : List Route

namespace IpRequest

variable (req : IpRequest) (env : Env)

/-- The lease that bringing IPv4 up asks for. -/
def dhcpRequest : DhcpRequest where
  interfaceIndex := req.interfaceIndex
  interfaceName := req.interfaceName
  hostname := none
  requestedAddress := none
  timeout := 0

/-- The plan for a lease: its address, gateway and DNS, and the static routes of the profile. -/
def leasePlan (lease : DhcpLease) : Ipv4Plan where
  lease := some lease
  config := { address := lease.address, prefixLength := lease.prefixLength,
              gateway := lease.gateway }
  staticRoutes := ipv4StaticRoutes req.ipv4
  dns := { searchDomains := lease.searchDomains, servers := lease.dnsServers.map .v4 }
  source := .automaticDhcp

/-- The plan of a manual IPv4 section with this address. -/
def manualPlan4 (address : Ipv4Addr) (prefixLength : UInt8) : Ipv4Plan where
  lease := none
  config := { address, prefixLength, gateway := req.ipv4.gateway.bind IpAddr.toV4 }
  staticRoutes := ipv4StaticRoutes req.ipv4
  dns := { servers := req.ipv4.dnsServers }
  source := .manual

/-- The plan of a manual IPv6 section with this address. -/
def manualPlan6 (address : Ipv6Addr) (prefixLength : UInt8) : Ipv6Plan where
  config := { address, prefixLength, gateway := req.ipv6.gateway.bind IpAddr.toV6 }
  staticRoutes := ipv6StaticRoutes req.ipv6

/-- The plan for IPv4: nothing when it is disabled, else the lease's or the profile's own. -/
def plan4 : Option Ipv4Plan :=
  match req.ipv4.method with
  | .disabled => none
  | .automatic => some (req.leasePlan (env.grant req.dhcpRequest))
  | .manual => do
    return req.manualPlan4 (← req.ipv4.address.bind IpAddr.toV4) (← req.ipv4.prefixLength)

/-- The plan for IPv6: only a manual section installs anything. -/
def plan6 : Option Ipv6Plan :=
  match req.ipv6.method with
  | .disabled | .automatic => none
  | .manual => do
    return req.manualPlan6 (← req.ipv6.address.bind IpAddr.toV6) (← req.ipv6.prefixLength)

end IpRequest

/-! ### Steps and records -/

/-- An address, then routes. -/
def addressSteps (address : IfAddr) (routes : List Route) : List Item :=
  .address address :: routes.map .route

namespace Ipv4Plan

variable (p : Ipv4Plan) (req : IpRequest) (env : Env)

/-- The lease is taken before anything is installed. -/
def leaseSteps : List Item := (p.lease.map .lease).toList

/-- The address that the plan puts on the interface. -/
def ifAddr : IfAddr := ⟨req.interfaceIndex, .v4 p.config.address, p.config.prefixLength⟩

/-- The routes that are added: the default route, then the static ones. -/
def addedRoutes : List Route :=
  (p.config.gateway.map (LinuxIpConfigurator.gatewayRouteV4 req.interfaceIndex)).toList ++
    p.staticRoutes

/-- The plan has DNS to apply: some server or some search domain. -/
def saysDns : Bool := !(p.dns.servers.isEmpty && p.dns.searchDomains.isEmpty)

/-- The block that DNS writes for the owner, if there is anything to say. -/
def dnsSteps : List Item :=
  if p.saysDns then [.resolvConf (LinuxDnsManager.marked env.display req.dnsOwner p.dns)] else []

/-- The ownership that is recorded of that block. -/
def ownership : Option DnsOwnership :=
  if p.saysDns then some { owner := req.dnsOwner, path := env.resolvPath } else none

/-- What the plan installs, in order: address, default route, static routes, DNS. -/
def steps : List Item :=
  addressSteps (p.ifAddr req) (p.addedRoutes req) ++ p.dnsSteps req env

/-- What the engine records before the first of the steps. -/
def record : ActiveIpv4 where
  interfaceIndex := req.interfaceIndex
  address := p.config.address
  prefixLength := p.config.prefixLength
  lease := p.lease
  routes := ipv4RoutesFor req.interfaceIndex p.config.address p.config.prefixLength
    p.config.gateway ++ p.staticRoutes
  source := p.source

end Ipv4Plan

namespace Ipv6Plan

variable (p : Ipv6Plan) (req : IpRequest)

/-- The address that the plan puts on the interface. -/
def ifAddr : IfAddr := ⟨req.interfaceIndex, .v6 p.config.address, p.config.prefixLength⟩

/-- The routes it adds: the default route of the gateway, then the static ones. -/
def addedRoutes : List Route :=
  (p.config.gateway.map (LinuxIpConfigurator.gatewayRouteV6 req.interfaceIndex)).toList ++
    p.staticRoutes

/-- What the plan installs, in order: address, default route, static routes. -/
def steps : List Item := addressSteps (p.ifAddr req) (p.addedRoutes req)

/-- The record that the teardown works from: every intended route, the on-link one included. -/
def record : ActiveIpv6 where
  interfaceIndex := req.interfaceIndex
  linkLocal := some p.config.address
  prefixLength := p.config.prefixLength
  routes := ipv6RoutesFor req.interfaceIndex p.config.address p.config.prefixLength
    p.config.gateway ++ p.staticRoutes
  source := .manual

end Ipv6Plan

namespace IpRequest

variable (req : IpRequest) (env : Env)

/-! The three stages. -/

/-- The lease that the request takes, if any. -/
def leaseSteps : List Item := (req.plan4 env).elim [] (·.leaseSteps)

/-- What the request installs for IPv4 after the lease. -/
def steps4 : List Item := (req.plan4 env).elim [] (·.steps req env)

/-- What the request installs for IPv6. -/
def steps6 : List Item := req.plan6.elim [] (·.steps req)

/-- Every forward step of the activation, in order. -/
def forwardSteps : List Item := req.leaseSteps env ++ (req.steps4 env ++ req.steps6)

/-- What is recorded before IPv4 is installed. -/
def intent4 : ActiveIpState := { ipv4 := (req.plan4 env).map (·.record req) }

/-- What is recorded once IPv4 is installed. -/
def installed4 : ActiveIpState :=
  { req.intent4 env with dnsOwner := (req.plan4 env).bind (·.ownership req env) }

/-- What is recorded before IPv6 is installed, and in the end. -/
def intent6 : ActiveIpState := { req.installed4 env with ipv6 := req.plan6.map (·.record req) }

/-- The state `activate` holds once exactly the steps `gs` went through. -/
def recorded (gs : List Item) : ActiveIpState :=
  if req.leaseSteps env <+: gs then
    if req.leaseSteps env ++ req.steps4 env <+: gs then req.intent6 env else req.intent4 env
  else {}

end IpRequest

/-! ### The items of each stage -/

theorem mem_addressSteps {a : IfAddr} {rs : List Route} {i : Item} :
    i ∈ addressSteps a rs ↔ i = .address a ∨ ∃ r ∈ rs, i = .route r := by
  simp [addressSteps, eq_comm]

theorem Ipv4Plan.mem_dnsSteps {p : Ipv4Plan} {req : IpRequest} {env : Env} {i : Item} :
    i ∈ p.dnsSteps req env ↔
      p.saysDns = true ∧ i = .resolvConf (LinuxDnsManager.marked env.display req.dnsOwner p.dns) := by
  unfold dnsSteps
  cases p.saysDns <;> simp

namespace IpRequest

variable {req : IpRequest} {env : Env} {i : Item}

theorem mem_leaseSteps : i ∈ req.leaseSteps env ↔
    ∃ p l, req.plan4 env = some p ∧ p.lease = some l ∧ i = .lease l := by
  unfold leaseSteps
  cases req.plan4 env with
  | none => simp
  | some p => cases hl : p.lease <;> simp [Ipv4Plan.leaseSteps, hl]

/-- An item that is installed for IPv4 is the plan's address, one of its routes or its DNS block. -/
theorem mem_steps4 : i ∈ req.steps4 env ↔ ∃ p, req.plan4 env = some p ∧
    (i = .address (p.ifAddr req) ∨ (∃ r ∈ p.addedRoutes req, i = .route r) ∨
      p.saysDns = true ∧
        i = .resolvConf (LinuxDnsManager.marked env.display req.dnsOwner p.dns)) := by
  unfold steps4
  cases req.plan4 env with
  | none => simp
  | some p =>
      simp [Ipv4Plan.steps, mem_addressSteps, Ipv4Plan.mem_dnsSteps, or_assoc]

/-- An item that is installed for IPv6 is the plan's address or one of its routes. -/
theorem mem_steps6 : i ∈ req.steps6 ↔ ∃ p, req.plan6 = some p ∧
    (i = .address (p.ifAddr req) ∨ ∃ r ∈ p.addedRoutes req, i = .route r) := by
  unfold steps6
  cases req.plan6 with
  | none => simp
  | some p => simp [Ipv6Plan.steps, mem_addressSteps]

end IpRequest

/-! ### What the backends perform -/

namespace Env

variable (env : Env)

/-- A call of the host either puts its item in place or fails and changes nothing. -/
theorem forward_performs {ε α : Type} {x : EStateM ε World α} {item : Item} {value : α}
    (hx : ∀ w, ∃ error, x w = env.forward item value error w) :
    Performs env.backend x [item] value :=
  Performs.one fun w => by
    obtain ⟨error, he⟩ := hx w
    rw [forward] at he
    rcases h : tryOne env.backend item w with ⟨w', _ | _⟩
    · exact ⟨error, by rw [he, h]⟩
    · exact by rw [Ends, he, h]

/-- The DHCP client obtains the granted lease or fails. -/
theorem acquire_performs (request : DhcpRequest) :
    Performs env.backend (env.engine.dhcp.acquire request) [.lease (env.grant request)]
      (env.grant request) :=
  env.forward_performs fun _ => ⟨_, rfl⟩

/-- Adding a route puts it in place or fails. -/
theorem addRoute_performs (r : Route) :
    Performs env.backend (LinuxIpConfigurator.addRoute env.transact r) [.route r] () :=
  Performs.adaptExcept (env.forward_performs fun _ => ⟨_, rfl⟩)

theorem addAddress_performs (a : IfAddr) :
    Performs env.backend (LinuxIpConfigurator.addAddress env.transact a.interfaceIndex a.address
      a.prefixLength) [.address a] () :=
  Performs.adaptExcept (env.forward_performs fun _ => ⟨_, rfl⟩)

/-- Configuring an address adds it and then the default route, and stops at the first failure. -/
theorem configure_performs (a : IfAddr) (default : Option Route) :
    Performs env.backend (LinuxIpConfigurator.configure env.transact a.interfaceIndex a.address
      a.prefixLength default) (addressSteps a default.toList) () :=
  (env.addAddress_performs a).bind (Performs.forM env.addRoute_performs default.toList)

/-- The static routes go in one after another, up to the first failure. -/
theorem installRoutes_performs (rs : List Route) :
    Performs env.backend (env.engine.installRoutes rs) (rs.map .route) () :=
  Performs.forM (fun r => (env.addRoute_performs r).adaptExcept) rs

/-- An owner that may not write the file is refused before it is written. -/
theorem dnsApply_performs {owner : String} (ho : LinuxDnsManager.PlainOwner owner)
    (dns : DnsConfig) :
    Performs env.backend (env.engine.dns.apply owner dns)
      [.resolvConf (LinuxDnsManager.marked env.display owner dns)]
      { owner, path := env.resolvPath } := by
  refine Performs.one fun w => ?_
  have hclash : Item.clashes (.resolvConf (LinuxDnsManager.marked env.display owner dns)) w.host =
      Item.refusesOwner owner w.host.resolvConf := by
    simp [Item.clashes, LinuxDnsManager.parseOwner_marked env.display ho dns]
  show Ends (LinuxDnsManager.apply env.managedFile env.display owner dns) _ w _
  unfold LinuxDnsManager.apply
  rw [if_neg ho.1]
  have hanswers := env.managedFile_answers
  -- the owner is checked before the file is written, and either can fail
  cases hr : Item.refusesOwner owner w.host.resolvConf with
  | true =>
      obtain ⟨e, he⟩ := LinuxDnsManager.checkOwner_of_refused hanswers hr
      have htry : tryOne env.backend
          (.resolvConf (LinuxDnsManager.marked env.display owner dns)) w = (w, false) := by
        rw [tryOne, if_pos]
        simp [backend, hclash, hr]
      rw [htry]
      exact ⟨e, bind_of_error he⟩
  | false =>
      show Ends (LinuxDnsManager.checkOwner env.managedFile owner >>= _) _ w _
      cases hfail : env.fails w.clock with
      | true =>
          have htry : tryOne env.backend
              (.resolvConf (LinuxDnsManager.marked env.display owner dns)) w = (w, false) := by
            rw [tryOne, if_pos]
            simp [backend, hfail]
          have hwrite : env.managedFile.writeAtomic (LinuxDnsManager.marked env.display owner dns) w
              = .error ⟨.other, "I/O error"⟩ w := if_pos hfail
          rw [htry]
          exact ⟨_, (bind_of_ok (LinuxDnsManager.checkOwner_of_allowed hanswers hr)).trans
            (bind_of_error (adaptExcept_of_error hwrite))⟩
      | false =>
          have hnot : (env.backend.fails w.clock || env.backend.clashes
              (.resolvConf (LinuxDnsManager.marked env.display owner dns)) w.host) ≠ true := by
            simp [backend, hclash, hr, hfail]
          have hwrite : env.managedFile.writeAtomic (LinuxDnsManager.marked env.display owner dns) w
              = .ok () _ := if_neg (Bool.not_eq_true _ ▸ hfail)
          rw [tryOne, if_neg hnot]
          exact (bind_of_ok (LinuxDnsManager.checkOwner_of_allowed hanswers hr)).trans
            (bind_of_ok (adaptExcept_of_ok hwrite))

/-! ### What the engine performs -/

/-- Applying DNS writes the owner's block where there is something to say, and is skipped else. -/
theorem applyDns_performs {owner : String} (ho : LinuxDnsManager.PlainOwner owner)
    (p : Ipv4Plan) (req : IpRequest) (hreq : req.dnsOwner = owner) :
    Performs env.backend (env.engine.applyDns owner p.dns) (p.dnsSteps req env)
      (p.ownership req env) := by
  subst hreq
  unfold LinuxIpEngine.applyDns Ipv4Plan.dnsSteps Ipv4Plan.ownership Ipv4Plan.saysDns
  cases hempty : p.dns.servers.isEmpty && p.dns.searchDomains.isEmpty with
  | true => exact Performs.pure none
  | false =>
      have happly := (env.dnsApply_performs ho p.dns).adaptExcept (f := IpEngineError.dns)
      exact happly.bind (Performs.pure _)

/-- `configureIpv4`, when the prefix is in range. -/
theorem configureIpv4_performs {p : Ipv4Plan} {req : IpRequest}
    (hp : ¬ p.config.prefixLength > 32) :
    Performs env.backend (env.engine.ip.configureIpv4 req.interfaceIndex p.config)
      (addressSteps (p.ifAddr req)
        (p.config.gateway.map (LinuxIpConfigurator.gatewayRouteV4 req.interfaceIndex)).toList)
      () := by
  show Performs env.backend (LinuxIpConfigurator.configureIpv4 env.transact _ _) _ _
  unfold LinuxIpConfigurator.configureIpv4
  rw [if_neg hp]
  exact env.configure_performs (p.ifAddr req) _

/-- Configuring IPv6 with a prefix in range adds the address and the gateway's default route. -/
theorem configureIpv6_performs {p : Ipv6Plan} {req : IpRequest}
    (hp : ¬ p.config.prefixLength > 128) :
    Performs env.backend (env.engine.ip.configureIpv6 req.interfaceIndex p.config)
      (addressSteps (p.ifAddr req)
        (p.config.gateway.map (LinuxIpConfigurator.gatewayRouteV6 req.interfaceIndex)).toList)
      () := by
  show Performs env.backend (LinuxIpConfigurator.configureIpv6 env.transact _ _) _ _
  unfold LinuxIpConfigurator.configureIpv6
  rw [if_neg hp]
  exact env.configure_performs (p.ifAddr req) _

/-! ### What the phases record -/

/-- A phase that tries `is`, and holds `done` once all went through and `failed` otherwise. -/
def Phase (x : EStateM IpEngineError (Call World) Unit) (is : List Item)
    (done failed : ActiveIpState → ActiveIpState) : Prop :=
  ∀ c, match tryAll env.backend is c.world with
    | (w', true) => ∃ out, x c = .ok () ⟨w', done c.state, out⟩
    | (w', false) => ∃ e out, x c = .error e ⟨w', failed c.state, out⟩

/-- The IPv4 install performs the steps of its plan, with the intent recorded before the first. -/
theorem installIpv4_phase {p : Ipv4Plan} {req : IpRequest} (hp : ¬ p.config.prefixLength > 32)
    (ho : LinuxDnsManager.PlainOwner req.dnsOwner) :
    env.Phase (env.engine.installIpv4 req.interfaceIndex req.dnsOwner p.config p.staticRoutes p.dns
        p.source p.lease) (p.steps req env)
      (fun st => { st with ipv4 := some (p.record req), dnsOwner := p.ownership req env })
      (fun st => { st with ipv4 := some (p.record req) }) := fun c => by
  have hsteps : Performs env.backend (do
      EStateM.adaptExcept .ipConfig (env.engine.ip.configureIpv4 req.interfaceIndex p.config)
      env.engine.installRoutes p.staticRoutes
      env.engine.applyDns req.dnsOwner p.dns) (p.steps req env) (p.ownership req env) := by
    have hassoc : p.steps req env = addressSteps (p.ifAddr req)
        (p.config.gateway.map (LinuxIpConfigurator.gatewayRouteV4 req.interfaceIndex)).toList ++
          (p.staticRoutes.map .route ++ p.dnsSteps req env) := by
      simp [Ipv4Plan.steps, addressSteps, Ipv4Plan.addedRoutes]
    rw [hassoc]
    exact (env.configureIpv4_performs hp).adaptExcept.bind
      ((env.installRoutes_performs p.staticRoutes).bind (env.applyDns_performs ho p req rfl))
  have hrun := hsteps c.world
  unfold LinuxIpEngine.installIpv4
  rw [modify_bind]
  rcases htry : tryAll env.backend (p.steps req env) c.world with ⟨w', _ | _⟩
  · rw [htry] at hrun
    obtain ⟨e, he⟩ := hrun
    exact ⟨e, _, bind_of_error (Call.run_of_error he)⟩
  · rw [htry] at hrun
    have hok := Call.run_of_ok (c := { c with state.ipv4 := some (p.record req) }) hrun
    exact ⟨_, (bind_of_ok hok).trans (modify_apply _ _)⟩

/-- The IPv6 install performs the steps of its plan, with the intent recorded before the first. -/
theorem installIpv6_phase {p : Ipv6Plan} {req : IpRequest} (hp : ¬ p.config.prefixLength > 128)
    (dnsServers : List IpAddr) :
    env.Phase (env.engine.installIpv6 req.interfaceIndex p.config p.staticRoutes dnsServers)
      (p.steps req) (fun st => { st with ipv6 := some (p.record req) })
      (fun st => { st with ipv6 := some (p.record req) }) := fun c => by
  have hsteps : Performs env.backend (do
      EStateM.adaptExcept .ipConfig (env.engine.ip.configureIpv6 req.interfaceIndex p.config)
      env.engine.installRoutes p.staticRoutes) (p.steps req) () := by
    have hassoc : p.steps req = addressSteps (p.ifAddr req)
        (p.config.gateway.map (LinuxIpConfigurator.gatewayRouteV6 req.interfaceIndex)).toList ++
          p.staticRoutes.map .route := by
      simp [Ipv6Plan.steps, addressSteps, Ipv6Plan.addedRoutes]
    rw [hassoc]
    exact (env.configureIpv6_performs hp).adaptExcept.bind
      (env.installRoutes_performs p.staticRoutes)
  have hrun := hsteps c.world
  unfold LinuxIpEngine.installIpv6
  rw [modify_bind]
  rcases htry : tryAll env.backend (p.steps req) c.world with ⟨w', _ | _⟩
  · rw [htry] at hrun
    obtain ⟨e, he⟩ := hrun
    exact ⟨e, _, bind_of_error (Call.run_of_error he)⟩
  · rw [htry] at hrun
    have hok := Call.run_of_ok (c := { c with state.ipv6 := some (p.record req) }) hrun
    exact ⟨_, (bind_of_ok hok).trans (modify_apply _ _)⟩

/-- A valid manual IPv4 section has a plan, with a prefix of at most 32. -/
theorem plan4_of_manual {req : IpRequest} (hv : req.Valid) (hm : req.ipv4.method = .manual) :
    ∃ address prefixLength, req.ipv4.address = some (.v4 address) ∧
      req.ipv4.prefixLength = some prefixLength ∧ ¬ prefixLength > 32 ∧
      req.plan4 env = some (req.manualPlan4 address prefixLength) := by
  obtain ⟨address, prefixLength, ha, hfamily, hp, hlong⟩ :=
    ConnectionProfile.manual_of_validateIpConfig hv.ipv4 hm
  cases address with
  | v4 address =>
      exact ⟨address, prefixLength, ha, hp, hlong, by simp [IpRequest.plan4, hm, ha, hp, IpAddr.toV4]⟩
  | v6 address => cases hfamily

/-- A valid manual IPv6 section has a plan, with a prefix of at most 128. -/
theorem plan6_of_manual {req : IpRequest} (hv : req.Valid) (hm : req.ipv6.method = .manual) :
    ∃ address prefixLength, req.ipv6.address = some (.v6 address) ∧
      req.ipv6.prefixLength = some prefixLength ∧ ¬ prefixLength > 128 ∧
      req.plan6 = some (req.manualPlan6 address prefixLength) := by
  obtain ⟨address, prefixLength, ha, hfamily, hp, hlong⟩ :=
    ConnectionProfile.manual_of_validateIpConfig hv.ipv6 hm
  cases address with
  | v4 address => cases hfamily
  | v6 address =>
      exact ⟨address, prefixLength, ha, hp, hlong, by simp [IpRequest.plan6, hm, ha, hp, IpAddr.toV6]⟩

/-- `installIpv4` with the parts of a plan. -/
def installPlan4 (p : Ipv4Plan) (req : IpRequest) : EStateM IpEngineError (Call World) Unit :=
  env.engine.installIpv4 req.interfaceIndex req.dnsOwner p.config p.staticRoutes p.dns p.source
    p.lease

/-- An automatic section takes the lease and then installs its plan. -/
theorem activateIpv4_automatic {req : IpRequest} (hm : req.ipv4.method = .automatic) :
    env.engine.activateIpv4 req.interfaceIndex req.interfaceName req.ipv4 req.dnsOwner =
      Call.run (EStateM.adaptExcept .dhcp (env.engine.dhcp.acquire req.dhcpRequest)) >>=
        fun lease => env.installPlan4 (req.leasePlan lease) req := by
  unfold LinuxIpEngine.activateIpv4
  rw [hm]
  rfl

/-- A manual section installs its plan at once. -/
theorem activateIpv4_manual {req : IpRequest} {address : Ipv4Addr} {prefixLength : UInt8}
    (hm : req.ipv4.method = .manual) (ha : req.ipv4.address = some (.v4 address))
    (hp : req.ipv4.prefixLength = some prefixLength) :
    env.engine.activateIpv4 req.interfaceIndex req.interfaceName req.ipv4 req.dnsOwner =
      env.installPlan4 (req.manualPlan4 address prefixLength) req := by
  unfold LinuxIpEngine.activateIpv4
  rw [hm, ha, hp]
  rfl

/-- Bringing IPv4 up tries the lease and then the steps of the plan: on success the state is what
was installed, on a failure after the lease it is the whole intent, and before that it is empty. -/
theorem activateIpv4_run {req : IpRequest} (hv : req.Valid) (w : World) :
    match tryAll env.backend (req.leaseSteps env) w with
    | (w₁, true) =>
      match tryAll env.backend (req.steps4 env) w₁ with
      | (w₂, true) => ∃ out, env.engine.activateIpv4 req.interfaceIndex req.interfaceName req.ipv4
          req.dnsOwner ⟨w, {}, {}⟩ = .ok () ⟨w₂, req.installed4 env, out⟩
      | (w₂, false) => ∃ e out, env.engine.activateIpv4 req.interfaceIndex req.interfaceName
          req.ipv4 req.dnsOwner ⟨w, {}, {}⟩ = .error e ⟨w₂, req.intent4 env, out⟩
    | (w₁, false) => ∃ e out, env.engine.activateIpv4 req.interfaceIndex req.interfaceName req.ipv4
        req.dnsOwner ⟨w, {}, {}⟩ = .error e ⟨w₁, {}, out⟩ := by
  unfold IpRequest.leaseSteps IpRequest.steps4 IpRequest.installed4 IpRequest.intent4
  cases hm : req.ipv4.method with
  | disabled =>
      have hplan : req.plan4 env = none := by simp [IpRequest.plan4, hm]
      rw [hplan]
      unfold LinuxIpEngine.activateIpv4
      rw [hm]
      exact ⟨_, rfl⟩
  | automatic =>
      have hplan : req.plan4 env = some (req.leasePlan (env.grant req.dhcpRequest)) := by
        simp [IpRequest.plan4, hm]
      have hlong : ¬ (env.grant req.dhcpRequest).prefixLength > 32 :=
        UInt8.not_lt.mpr (env.grant_prefix req.dhcpRequest)
      have hacquire := (env.acquire_performs req.dhcpRequest).adaptExcept
        (f := IpEngineError.dhcp) w
      rw [hplan, env.activateIpv4_automatic hm, show (some (req.leasePlan _)).elim []
        Ipv4Plan.leaseSteps = [.lease (env.grant req.dhcpRequest)] from rfl]
      rcases htry : tryAll env.backend [.lease (env.grant req.dhcpRequest)] w with ⟨w₁, _ | _⟩
      · rw [htry] at hacquire
        obtain ⟨e, he⟩ := hacquire
        exact ⟨e, _, bind_of_error (Call.run_of_error he)⟩
      · rw [htry] at hacquire
        rw [bind_of_ok (Call.run_of_ok (c := ⟨w, {}, {}⟩) hacquire)]
        exact env.installIpv4_phase (p := req.leasePlan (env.grant req.dhcpRequest)) hlong hv.owner
          ⟨w₁, {}, {}⟩
  | manual =>
      obtain ⟨address, prefixLength, ha, hp, hlong, hplan⟩ := env.plan4_of_manual hv hm
      rw [hplan, env.activateIpv4_manual hm ha hp]
      exact env.installIpv4_phase (p := req.manualPlan4 address prefixLength) hlong hv.owner
        ⟨w, {}, {}⟩

/-- Looking for the link-local address changes nothing, and an error counts as none. -/
theorem linkLocalAddress_run (interfaceIndex : Int32) (w : World) :
    ∃ linkLocal, env.engine.linkLocalAddress interfaceIndex w = .ok linkLocal w := by
  cases ho : env.observed with
  | ok addresses =>
      have hread : env.engine.getAddresses w = .ok addresses w := by simp only [engine, ho]
      exact ⟨_, bind_of_ok (attempt_of_ok hread)⟩
  | error e =>
      have hread : env.engine.getAddresses w = .error e w := by simp only [engine, ho]
      exact ⟨_, bind_of_ok (attempt_of_error hread)⟩

/-- Bringing IPv6 up tries the steps of its plan over whatever IPv4 left behind. -/
theorem activateIpv6_run {req : IpRequest} (hv : req.Valid) (c : Call World)
    (hc : c.state.ipv6 = none) :
    match tryAll env.backend req.steps6 c.world with
    | (w', true) => ∃ out, env.engine.activateIpv6 req.interfaceIndex req.ipv6 c =
        .ok () ⟨w', { c.state with ipv6 := req.plan6.map (·.record req) }, out⟩
    | (w', false) => ∃ e out, env.engine.activateIpv6 req.interfaceIndex req.ipv6 c =
        .error e ⟨w', { c.state with ipv6 := req.plan6.map (·.record req) }, out⟩ := by
  unfold IpRequest.steps6 LinuxIpEngine.activateIpv6
  obtain ⟨w, ⟨ipv4, ipv6, dnsOwner⟩, outcome⟩ := c
  obtain rfl : ipv6 = none := hc
  cases hm : req.ipv6.method with
  | disabled =>
      have hplan : req.plan6 = none := by simp [IpRequest.plan6, hm]
      rw [hplan]
      exact ⟨_, modify_apply _ _⟩
  | automatic =>
      have hplan : req.plan6 = none := by simp [IpRequest.plan6, hm]
      obtain ⟨linkLocal, hread⟩ := env.linkLocalAddress_run req.interfaceIndex w
      rw [hplan]
      have hok := Call.run_of_ok (c := ⟨w, ⟨ipv4, none, dnsOwner⟩, outcome⟩) hread
      exact ⟨_, (bind_of_ok hok).trans (modify_apply _ _)⟩
  | manual =>
      obtain ⟨address, prefixLength, ha, hp, hlong, hplan⟩ := plan6_of_manual hv hm
      rw [hplan, ha, hp]
      exact env.installIpv6_phase (p := req.manualPlan6 address prefixLength) hlong req.ipv6.dnsServers
        ⟨w, _, outcome⟩

/-! ### The activation -/

/-- Putting the first item does not make the second one clash. -/
def Apart : Item → Item → Prop
  | .address a, j => j ≠ .address a
  | .resolvConf _, j => ∀ content, j ≠ .resolvConf content
  | .lease _, _ | .route _, _ => True

/-- Whether an item clashes does not depend on one that is apart from it. -/
theorem independent_of_apart : ∀ {i j : Item}, Apart i j → Independent env.backend i j
  | .lease _, j, _, _ | .route _, j, _, _ => by cases j <;> rfl
  | .address a, j, hij, h => by
      cases j with
      | address a' =>
          have hne : a' ≠ a := fun e => hij (congrArg _ e)
          simp [backend, Item.clashes, Item.put, hne]
      | _ => rfl
  | .resolvConf _, j, hij, _ => by
      cases j with
      | resolvConf content => exact absurd rfl (hij content)
      | _ => rfl

/-- There is one file and one address of each family among the steps. -/
theorem forwardSteps_independent (req : IpRequest) :
    (req.forwardSteps env).Pairwise (Independent env.backend) := by
  refine List.Pairwise.imp (fun hij => env.independent_of_apart hij) (R := Apart) ?_
  have haddress : ∀ a rs, (addressSteps a rs).Pairwise Apart := fun a rs =>
    List.pairwise_cons.mpr ⟨by simp [Apart],
      List.pairwise_map.mpr (List.pairwise_of_forall fun _ _ => trivial)⟩
  have hlease : (req.leaseSteps env).Pairwise Apart := by
    refine List.pairwise_of_forall_mem_list fun i hi j _ => ?_
    obtain ⟨_, _, -, -, rfl⟩ := IpRequest.mem_leaseSteps.mp hi
    trivial
  have hsteps4 : (req.steps4 env).Pairwise Apart := by
    unfold IpRequest.steps4
    cases req.plan4 env with
    | none => exact List.Pairwise.nil
    | some p =>
        refine List.pairwise_append.mpr ⟨haddress _ _, ?_, fun i hi j hj => ?_⟩
        · unfold Ipv4Plan.dnsSteps
          split <;> simp
        · obtain ⟨-, rfl⟩ := Ipv4Plan.mem_dnsSteps.mp hj
          obtain rfl | ⟨r, -, rfl⟩ := mem_addressSteps.mp hi <;> simp [Apart]
  have hsteps6 : req.steps6.Pairwise Apart := by
    unfold IpRequest.steps6
    cases req.plan6 with
    | none => exact List.Pairwise.nil
    | some p => exact haddress _ _
  refine List.pairwise_append.mpr ⟨hlease, List.pairwise_append.mpr ⟨hsteps4, hsteps6, ?_⟩, ?_⟩
  · intro i hi j hj
    obtain ⟨p, -, hi⟩ := IpRequest.mem_steps4.mp hi
    obtain ⟨p', -, hj⟩ := IpRequest.mem_steps6.mp hj
    have hfamily : p'.ifAddr req ≠ p.ifAddr req := by simp [Ipv4Plan.ifAddr, Ipv6Plan.ifAddr]
    rcases hi with rfl | ⟨r, -, rfl⟩ | ⟨-, rfl⟩ <;> rcases hj with rfl | ⟨r', -, rfl⟩ <;>
      simp [Apart, hfamily]
  · intro i hi j _
    obtain ⟨_, _, -, -, rfl⟩ := IpRequest.mem_leaseSteps.mp hi
    trivial

/-- `activate` with the parts of a request. -/
def activate (req : IpRequest) : EStateM IpEngineError World (ActivationOutcome × ActiveIpState) :=
  env.engine.activate req.interfaceIndex req.interfaceName req.ipv4 req.ipv6 req.dnsOwner

/-- When both halves succeed, the activation returns the state they recorded. -/
theorem activate_of_ok {req : IpRequest} {w w' : World} {st : ActiveIpState}
    {out : ActivationOutcome}
    (h : (do
      env.engine.activateIpv4 req.interfaceIndex req.interfaceName req.ipv4 req.dnsOwner
      env.engine.activateIpv6 req.interfaceIndex req.ipv6) ⟨w, {}, {}⟩ = .ok () ⟨w', st, out⟩) :
    env.activate req w = .ok (out, st) w' := by
  simp only [activate, LinuxIpEngine.activate, h]

/-- When one half fails, the activation tears down what was recorded so far and returns the error.
-/
theorem activate_of_error {req : IpRequest} {w w' : World} {st : ActiveIpState}
    {out : ActivationOutcome} {e : IpEngineError}
    (h : (do
      env.engine.activateIpv4 req.interfaceIndex req.interfaceName req.ipv4 req.dnsOwner
      env.engine.activateIpv6 req.interfaceIndex req.ipv6) ⟨w, {}, {}⟩ = .error e ⟨w', st, out⟩) :
    env.activate req w = .error e (after (env.engine.teardown st) w') := by
  simp only [activate, LinuxIpEngine.activate, h]

/-- The activation by its three stages. -/
theorem activate_run {req : IpRequest} (hv : req.Valid) (w : World) :
    match tryAll env.backend (req.leaseSteps env) w with
    | (w₁, true) =>
      match tryAll env.backend (req.steps4 env) w₁ with
      | (w₂, true) =>
        match tryAll env.backend req.steps6 w₂ with
        | (w₃, true) => ∃ out, env.activate req w = .ok (out, req.intent6 env) w₃
        | (w₃, false) => ∃ e, env.activate req w =
            .error e (after (env.engine.teardown (req.intent6 env)) w₃)
      | (w₂, false) => ∃ e, env.activate req w =
          .error e (after (env.engine.teardown (req.intent4 env)) w₂)
    | (w₁, false) => ∃ e, env.activate req w = .error e (after (env.engine.teardown {}) w₁) := by
  have h₄ := env.activateIpv4_run hv w
  revert h₄
  rcases tryAll env.backend (req.leaseSteps env) w with ⟨w₁, _ | _⟩
  · rintro ⟨e, out, he⟩
    exact ⟨e, env.activate_of_error (bind_of_error he)⟩
  · dsimp only
    rcases tryAll env.backend (req.steps4 env) w₁ with ⟨w₂, _ | _⟩
    · rintro ⟨e, out, he⟩
      exact ⟨e, env.activate_of_error (bind_of_error he)⟩
    · rintro ⟨out, hok⟩
      have h₆ := env.activateIpv6_run hv ⟨w₂, req.installed4 env, out⟩ rfl
      revert h₆
      dsimp only
      rcases tryAll env.backend req.steps6 w₂ with ⟨w₃, _ | _⟩
      · rintro ⟨e, out', he⟩
        exact ⟨e, env.activate_of_error ((bind_of_ok hok).trans he)⟩
      · rintro ⟨out', hok'⟩
        exact ⟨out', env.activate_of_ok ((bind_of_ok hok).trans hok')⟩

/-- What is recorded depends on whether the lease and IPv4 went through. -/
theorem recorded_granted (req : IpRequest) (host : Host) :
    req.recorded env (granted env.backend host 0 (req.forwardSteps env)) =
      if granted env.backend host 0 (req.leaseSteps env) = req.leaseSteps env then
        if granted env.backend host 0 (req.leaseSteps env ++ req.steps4 env) =
            req.leaseSteps env ++ req.steps4 env then req.intent6 env
        else req.intent4 env
      else {} := by
  have hassoc : req.forwardSteps env =
      (req.leaseSteps env ++ req.steps4 env) ++ req.steps6 := (List.append_assoc ..).symm
  have hlease : req.leaseSteps env <+: granted env.backend host 0 (req.forwardSteps env) ↔
      granted env.backend host 0 (req.leaseSteps env) = req.leaseSteps env := prefix_granted_iff
  have hipv4 : req.leaseSteps env ++ req.steps4 env <+:
      granted env.backend host 0 (req.forwardSteps env) ↔
        granted env.backend host 0 (req.leaseSteps env ++ req.steps4 env) =
          req.leaseSteps env ++ req.steps4 env := by
    rw [hassoc]
    exact prefix_granted_iff
  simp only [IpRequest.recorded, hlease, hipv4]

/-- An activation tries its steps in order; if one fails, the intent recorded at that point is torn
down. -/
theorem activate_tryAll {req : IpRequest} (hv : req.Valid) (host : Host) :
    let st := req.recorded env (granted env.backend host 0 (req.forwardSteps env))
    match tryAll env.backend (req.forwardSteps env) (.start host) with
    | (w', true) => ∃ out, env.activate req (.start host) = .ok (out, st) w'
    | (w', false) => ∃ e, env.activate req (.start host) =
        .error e (after (env.engine.teardown st) w') := by
  intro st
  have hrun := env.activate_run hv (.start host)
  have hind := env.forwardSteps_independent req
  have hst : st = _ := env.recorded_granted req host
  rw [IpRequest.forwardSteps, tryAll_append]
  rcases h₁ : tryAll env.backend (req.leaseSteps env) (.start host) with ⟨w₁, _ | _⟩
  · have hlease := tryAll_ok_iff (List.pairwise_append.mp hind).1 h₁
    rw [hst, if_neg fun h => by cases hlease.mpr h]
    rwa [h₁] at hrun
  · have hlease : granted env.backend host 0 (req.leaseSteps env) = req.leaseSteps env :=
      (tryAll_ok_iff (List.pairwise_append.mp hind).1 h₁).mp rfl
    have hind₂ : (req.leaseSteps env ++ req.steps4 env).Pairwise (Independent env.backend) := by
      rw [IpRequest.forwardSteps, ← List.append_assoc] at hind
      exact (List.pairwise_append.mp hind).1
    have h₁₂ := tryAll_append (b := env.backend) (req.leaseSteps env) (req.steps4 env)
      (.start host)
    rw [h₁] at hrun h₁₂
    dsimp only at hrun h₁₂ ⊢
    rw [hst, if_pos hlease, tryAll_append]
    rcases h₂ : tryAll env.backend (req.steps4 env) w₁ with ⟨w₂, _ | _⟩
    · have hipv4 := tryAll_ok_iff hind₂ (h₁₂.trans h₂)
      rw [if_neg fun h => by cases hipv4.mpr h]
      rwa [h₂] at hrun
    · have hipv4 : granted env.backend host 0 (req.leaseSteps env ++ req.steps4 env) =
          req.leaseSteps env ++ req.steps4 env := (tryAll_ok_iff hind₂ (h₁₂.trans h₂)).mp rfl
      rw [if_pos hipv4]
      rwa [h₂] at hrun

/-- **The activation on the host.**  `gs` are the steps that go through from `host`. -/
theorem activate_eq {req : IpRequest} (hv : req.Valid) (host : Host) :
    let gs := granted env.backend host 0 (req.forwardSteps env)
    ∃ c,
      (gs = req.forwardSteps env → ∃ out, env.activate req (.start host) =
        .ok (out, req.recorded env gs) ⟨host.putAll gs, c, gs⟩) ∧
      (gs ≠ req.forwardSteps env → ∃ e, env.activate req (.start host) =
        .error e ⟨(host.putAll gs).undo (req.recorded env gs), c, gs⟩) := by
  intro gs
  obtain ⟨c, ok, hall, hok, -⟩ := tryAll_eq (w := World.start host)
    (env.forwardSteps_independent req)
  have hrun := env.activate_tryAll hv host
  rw [hall] at hrun
  refine ⟨c, fun h => ?_, fun h => ?_⟩
  · rw [hok.mpr h] at hrun
    exact hrun
  · rw [Bool.eq_false_iff.mpr fun ht => h (hok.mp ht)] at hrun
    obtain ⟨e, he⟩ := hrun
    refine ⟨e, he.trans ?_⟩
    rw [env.teardown_changes]
    rfl

end Env

end NetworkManager
