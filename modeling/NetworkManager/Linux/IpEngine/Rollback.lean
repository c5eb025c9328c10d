import NetworkManager.Linux.IpEngine.Install

/-!
# Linux — IpEngine — Rollback

What is left of a host after an activation that failed, and after one that was torn down.  The
recorded state covers every step that went through (`recorded_covers`), so nothing of them stays
(`no_residue`).  But a removal asks for an item by its name, whoever put it there:

* a failed activation restores the host exactly when the host had nothing that the activation
  names (`activate_error_restores_iff`);
* a teardown spares the addresses and routes that were there before exactly when none of them
  answers to a route that teardown removes without the activation having added it
  (`teardown_spares_iff`).
-/

namespace NetworkManager

open Transactions Effects

/-! ### Undoing a list of items -/

/-- The recorded state names every one of the items, and the file if and only if it is among
them. -/
structure Covers (st : ActiveIpState) (items : List Item) : Prop where
  lease : ∀ l, .lease l ∈ items → l.record ∈ st.leases
  address : ∀ a, .address a ∈ items → a ∈ st.addresses
  route : ∀ r, .route r ∈ items → r ∈ st.removals
  file : ∀ content, .resolvConf content ∈ items →
    ∃ o, st.dnsOwner = some o ∧ LinuxDnsManager.parseOwner content = some o.owner
  owner : (∀ content, .resolvConf content ∉ items) → st.dnsOwner = none

namespace Host

/-- The file holds the content of one of the items, or what it held before. -/
theorem putAll_resolvConf : ∀ (items : List Item) (h : Host),
    (∃ content, .resolvConf content ∈ items ∧ (h.putAll items).resolvConf = .text content) ∨
      (∀ content, .resolvConf content ∉ items) ∧ (h.putAll items).resolvConf = h.resolvConf
  | [], _ => .inr ⟨by simp, rfl⟩
  | i :: items, h => by
      rcases putAll_resolvConf items (i.put h) with ⟨content, hc, he⟩ | ⟨hno, he⟩
      · exact .inl ⟨content, List.mem_cons_of_mem i hc, he⟩
      · cases i with
        | resolvConf content => exact .inl ⟨content, List.mem_cons_self, he⟩
        | _ => exact .inr ⟨by simpa using hno, he⟩

variable {st : ActiveIpState} {items : List Item} {h : Host} (hcover : Covers st items)

include hcover

/-- A file that was put in place is taken away again. -/
theorem undo_putAll_resolvConf_of_mem {content : String} (hc : .resolvConf content ∈ items) :
    ((h.putAll items).undo st).resolvConf = .absent := by
  show (h.putAll items).resolvConf.disown st.dnsOwner = .absent
  rcases putAll_resolvConf items h with ⟨content', hc', he⟩ | ⟨hno, -⟩
  · obtain ⟨o, ho, hp⟩ := hcover.file content' hc'
    rw [he, ho, ResolvConf.disown, if_pos ⟨o, rfl, hp⟩]
  · exact absurd hc (hno content)

/-- A file that was not touched stays as it was. -/
theorem undo_putAll_resolvConf_of_not_mem (hno : ∀ content, .resolvConf content ∉ items) :
    ((h.putAll items).undo st).resolvConf = h.resolvConf := by
  show (h.putAll items).resolvConf.disown st.dnsOwner = h.resolvConf
  rw [hcover.owner hno, ResolvConf.disown_none]
  rcases putAll_resolvConf items h with ⟨content, hc, -⟩ | ⟨-, he⟩
  · exact absurd hc (hno content)
  · exact he

/-- The addresses that stay are those of the host that the record does not name. -/
theorem undo_putAll_addresses :
    ((h.putAll items).undo st).addresses = h.addresses \ st.addresses.toFinset := by
  show (h.putAll items).addresses \ _ = _
  have hsub : (addressesOf items).toFinset ⊆ st.addresses.toFinset := fun a ha => by
    rw [List.mem_toFinset, mem_addressesOf] at ha
    exact List.mem_toFinset.mpr (hcover.address a ha)
  rw [putAll_addresses, Finset.union_sdiff_distrib, Finset.sdiff_eq_empty_iff_subset.mpr hsub,
    Finset.union_empty]

/-- The leases that stay are those of the host that the record does not name. -/
theorem undo_putAll_leases :
    ((h.putAll items).undo st).leases = h.leases \ st.leases.toFinset := by
  show (h.putAll items).leases \ _ = _
  have hsub : (leasesOf items).toFinset ⊆ st.leases.toFinset := fun l hl => by
    rw [List.mem_toFinset, mem_leasesOf] at hl
    obtain ⟨lease, hl, rfl⟩ := hl
    exact List.mem_toFinset.mpr (hcover.lease lease hl)
  rw [putAll_leases, Finset.union_sdiff_distrib, Finset.sdiff_eq_empty_iff_subset.mpr hsub,
    Finset.union_empty]

omit hcover in
/-- The routes are what the installs and then the removals make of the table. -/
theorem undo_putAll_routes :
    ((h.putAll items).undo st).routes = Tables.dropAll Route.key Route.deletes
      (Tables.putAll Route.key id h.routes (routesOf items)) st.removals := by
  show Tables.dropAll Route.key Route.deletes (h.putAll items).routes st.removals = _
  rw [putAll_routes]

theorem mem_removals_of_mem_routesOf : ∀ r ∈ routesOf items, r ∈ st.removals :=
  fun r hr => hcover.route r (mem_routesOf.mp hr)

/-- **Nothing stays** of items that the recorded state covers. -/
theorem not_present_undo_putAll {i : Item} (hi : i ∈ items) :
    ¬ i.Present ((h.putAll items).undo st) := by
  cases i with
  | lease l =>
      show l.record ∉ _
      rw [undo_putAll_leases hcover, Finset.mem_sdiff, List.mem_toFinset]
      exact fun hl => hl.2 (hcover.lease l hi)
  | address a =>
      show a ∉ _
      rw [undo_putAll_addresses hcover, Finset.mem_sdiff, List.mem_toFinset]
      exact fun ha => ha.2 (hcover.address a hi)
  | route r =>
      show ¬ _ ≠ none
      rw [undo_putAll_routes, not_not]
      exact Tables.dropAll_putAll_of_mem (fun r _ => Route.deletes_self r)
        (mem_removals_of_mem_routesOf hcover) (mem_routesOf.mpr hi)
  | resolvConf content =>
      rintro ⟨text, owner, he, -, -⟩
      rw [undo_putAll_resolvConf_of_mem hcover hi] at he
      cases he

/-- The host is as it was exactly when it had nothing that was put in place or that the undo
names. -/
theorem undo_putAll_eq_self_iff :
    (h.putAll items).undo st = h ↔
      (∀ l ∈ st.leases, l ∉ h.leases) ∧ (∀ a ∈ st.addresses, a ∉ h.addresses) ∧
      (∀ r ∈ st.removals, ¬ h.routes.Deletable r) ∧
      (∀ r, .route r ∈ items → h.routes r.key = none) ∧
      ∀ content, .resolvConf content ∈ items → h.resolvConf = .absent := by
  have haddresses : ((h.putAll items).undo st).addresses = h.addresses ↔
      ∀ a ∈ st.addresses, a ∉ h.addresses := by
    rw [undo_putAll_addresses hcover, Finset.sdiff_eq_self_iff_disjoint, Finset.disjoint_right]
    simp only [List.mem_toFinset]
  have hleases : ((h.putAll items).undo st).leases = h.leases ↔
      ∀ l ∈ st.leases, l ∉ h.leases := by
    rw [undo_putAll_leases hcover, Finset.sdiff_eq_self_iff_disjoint, Finset.disjoint_right]
    simp only [List.mem_toFinset]
  have hroutes : ((h.putAll items).undo st).routes = h.routes ↔
      (∀ r, .route r ∈ items → h.routes r.key = none) ∧
        ∀ r ∈ st.removals, ¬ h.routes.Deletable r := by
    rw [undo_putAll_routes]
    refine (Tables.dropAll_putAll_eq_self_iff (fun r _ => Route.deletes_self r)
      (mem_removals_of_mem_routesOf hcover)).trans (and_congr_left fun _ => ?_)
    simp only [mem_routesOf]
  have hfile : ((h.putAll items).undo st).resolvConf = h.resolvConf ↔
      ∀ content, .resolvConf content ∈ items → h.resolvConf = .absent := by
    by_cases hc : ∃ content, .resolvConf content ∈ items
    · obtain ⟨content, hc⟩ := hc
      rw [undo_putAll_resolvConf_of_mem hcover hc]
      exact ⟨fun he _ _ => he.symm, fun hall => (hall content hc).symm⟩
    · have hno : ∀ content, .resolvConf content ∉ items := fun content hm => hc ⟨content, hm⟩
      rw [undo_putAll_resolvConf_of_not_mem hcover hno]
      exact iff_of_true rfl fun content hm => absurd hm (hno content)
  rw [Host.ext_iff, haddresses, hroutes, hfile, hleases]
  tauto

end Host

/-! ### What is recorded covers what went through -/

namespace IpRequest

variable {req : IpRequest} {env : Env} {gs : List Item}

/-- A lease that was taken is in the record. -/
theorem lease_mem {st : ActiveIpState} (hst : st.ipv4 = (req.plan4 env).map (·.record req))
    {l : DhcpLease} (hl : .lease l ∈ req.leaseSteps env) : l.record ∈ st.leases := by
  obtain ⟨p, _, hp, hlease, ⟨⟩⟩ := mem_leaseSteps.mp hl
  simp [ActiveIpState.leases, hst, hp, Ipv4Plan.record, hlease]

/-- An IPv4 address that was put in place is in the record. -/
theorem address_mem4 {st : ActiveIpState} (hst : st.ipv4 = (req.plan4 env).map (·.record req))
    {a : IfAddr} (ha : .address a ∈ req.steps4 env) : a ∈ st.addresses := by
  obtain ⟨p, hp, hi⟩ := mem_steps4.mp ha
  obtain rfl : a = p.ifAddr req := by simpa using hi
  simp [ActiveIpState.addresses, hst, hp, Ipv4Plan.record, Ipv4Plan.ifAddr, ActiveIpv4.ifAddr]

/-- An IPv6 address that was put in place is in the record. -/
theorem address_mem6 {st : ActiveIpState} (hst : st.ipv6 = req.plan6.map (·.record req))
    {a : IfAddr} (ha : .address a ∈ req.steps6) : a ∈ st.addresses := by
  obtain ⟨p, hp, hi⟩ := mem_steps6.mp ha
  obtain rfl : a = p.ifAddr req := by simpa using hi
  simp [ActiveIpState.addresses, hst, hp, Ipv6Plan.record, Ipv6Plan.ifAddr, ActiveIpv6.ifAddr]

/-- The recorded default route is the one the configurator adds. -/
theorem route_mem4 {st : ActiveIpState} (hst : st.ipv4 = (req.plan4 env).map (·.record req))
    {r : Route} (hr : .route r ∈ req.steps4 env) : r ∈ st.removals := by
  obtain ⟨p, hp, hi⟩ := mem_steps4.mp hr
  have hadded : r ∈ p.addedRoutes req := by simpa using hi
  have hrecord : r ∈ (p.record req).routes := List.mem_cons_of_mem _ hadded
  simp [ActiveIpState.removals, hst, hp, ActiveIpv4.removals, hrecord]

/-- An IPv6 route that was put in place is among the removals. -/
theorem route_mem6 {st : ActiveIpState} (hst : st.ipv6 = req.plan6.map (·.record req))
    {r : Route} (hr : .route r ∈ req.steps6) : r ∈ st.removals := by
  obtain ⟨p, hp, hi⟩ := mem_steps6.mp hr
  have hadded : r ∈ p.addedRoutes req := by simpa using hi
  have hrecord : r ∈ (p.record req).routes := List.mem_cons_of_mem _ hadded
  simp [ActiveIpState.removals, hst, hp, hrecord]

theorem leaseSteps_length_le : (req.leaseSteps env).length ≤ 1 := by
  unfold leaseSteps
  cases req.plan4 env with
  | none => exact Nat.zero_le _
  | some p => cases hl : p.lease <;> simp [Ipv4Plan.leaseSteps, hl]

/-- The file is the last of the IPv4 steps. -/
theorem file_not_mem_of_cut (hgs : gs <+: req.leaseSteps env ++ req.steps4 env)
    (hcut : ¬ req.leaseSteps env ++ req.steps4 env <+: gs) (content : String) :
    .resolvConf content ∉ gs := by
  have hlease : .resolvConf content ∉ req.leaseSteps env := fun hc => by
    obtain ⟨_, _, -, -, ⟨⟩⟩ := mem_leaseSteps.mp hc
  cases hp : req.plan4 env with
  | none =>
      have hnil : req.leaseSteps env ++ req.steps4 env = [] := by simp [leaseSteps, steps4, hp]
      exact absurd (hnil ▸ List.nil_prefix) hcut
  | some p =>
      have haddress : .resolvConf content ∉ addressSteps (p.ifAddr req) (p.addedRoutes req) :=
        fun hc => by simpa using mem_addressSteps.mp hc
      have hsteps : req.leaseSteps env ++ req.steps4 env = (req.leaseSteps env ++
          addressSteps (p.ifAddr req) (p.addedRoutes req)) ++ p.dnsSteps req env := by
        simp [steps4, hp, Ipv4Plan.steps]
      have hshort : gs <+: req.leaseSteps env ++
          addressSteps (p.ifAddr req) (p.addedRoutes req) := by
        rw [hsteps] at hgs hcut
        unfold Ipv4Plan.dnsSteps at hgs hcut
        split at hgs
        · rename_i hdns
          rw [if_pos hdns] at hcut
          exact (List.prefix_concat_iff.mp hgs).resolve_left fun he => hcut (he ▸ List.prefix_rfl)
        · rwa [List.append_nil] at hgs
      intro hc
      exact (List.mem_append.mp (hshort.subset hc)).elim hlease haddress

/-- The lease comes alone: what was cut before it is empty. -/
theorem eq_nil_of_cut (hgs : gs <+: req.leaseSteps env) (hcut : ¬ req.leaseSteps env <+: gs) :
    gs = [] := by
  refine List.length_eq_zero_iff.mp (Nat.lt_one_iff.mp ?_)
  have hne : gs.length ≠ (req.leaseSteps env).length := fun he =>
    hcut (hgs.eq_of_length he ▸ List.prefix_rfl)
  exact Nat.lt_of_lt_of_le (lt_of_le_of_ne hgs.length_le hne) leaseSteps_length_le

/-- **What is recorded covers what went through**, wherever the activation was cut. -/
theorem recorded_covers (howner : LinuxDnsManager.PlainOwner req.dnsOwner)
    (hgs : gs <+: req.forwardSteps env) : Covers (req.recorded env gs) gs := by
  unfold recorded
  -- cut before the lease, within the IPv4 steps, or after them
  by_cases hlease : req.leaseSteps env <+: gs
  · rw [if_pos hlease]
    by_cases hipv4 : req.leaseSteps env ++ req.steps4 env <+: gs
    · rw [if_pos hipv4]
      have hmem : ∀ i ∈ gs, i ∈ req.leaseSteps env ∨ i ∈ req.steps4 env ∨ i ∈ req.steps6 :=
        fun i hi => by simpa [forwardSteps] using hgs.subset hi
      constructor
      case lease =>
        intro l hl
        rcases hmem _ hl with h | h | h
        · exact lease_mem rfl h
        · simp [mem_steps4] at h
        · simp [mem_steps6] at h
      case address =>
        intro a ha
        rcases hmem _ ha with h | h | h
        · simp [mem_leaseSteps] at h
        · exact address_mem4 rfl h
        · exact address_mem6 rfl h
      case route =>
        intro r hr
        rcases hmem _ hr with h | h | h
        · simp [mem_leaseSteps] at h
        · exact route_mem4 rfl h
        · exact route_mem6 rfl h
      case file =>
        intro content hc
        rcases hmem _ hc with h | h | h
        · simp [mem_leaseSteps] at h
        · obtain ⟨p, hp, hi⟩ := mem_steps4.mp h
          obtain ⟨hdns, rfl⟩ : p.saysDns = true ∧ content = _ := by simpa using hi
          exact ⟨{ owner := req.dnsOwner, path := env.resolvPath },
            by simp [intent6, installed4, hp, Ipv4Plan.ownership, hdns],
            LinuxDnsManager.parseOwner_marked env.display howner p.dns⟩
        · simp [mem_steps6] at h
      -- DNS that says something was applied, and is among the steps
      case owner =>
        intro hno
        show (req.plan4 env).bind (·.ownership req env) = none
        cases hp : req.plan4 env with
        | none => rfl
        | some p =>
            refine if_neg fun hdns => hno (LinuxDnsManager.marked env.display req.dnsOwner p.dns) ?_
            refine hipv4.subset (List.mem_append_right _ (mem_steps4.mpr ⟨p, hp, ?_⟩))
            exact .inr (.inr ⟨hdns, rfl⟩)
    · rw [if_neg hipv4]
      have hgs4 : gs <+: req.leaseSteps env ++ req.steps4 env := by
        rw [forwardSteps, ← List.append_assoc] at hgs
        exact (List.prefix_or_prefix_of_prefix hgs (List.prefix_append _ _)).resolve_right hipv4
      have hmem : ∀ i ∈ gs, i ∈ req.leaseSteps env ∨ i ∈ req.steps4 env :=
        fun i hi => List.mem_append.mp (hgs4.subset hi)
      -- the file is written last, so it is not among the steps before the cut
      have hfile := file_not_mem_of_cut hgs4 hipv4
      constructor
      case lease =>
        intro l hl
        exact lease_mem rfl ((hmem _ hl).resolve_right (by simp [mem_steps4]))
      case address =>
        intro a ha
        exact address_mem4 rfl ((hmem _ ha).resolve_left (by simp [mem_leaseSteps]))
      case route =>
        intro r hr
        exact route_mem4 rfl ((hmem _ hr).resolve_left (by simp [mem_leaseSteps]))
      case file => exact fun content hc => absurd hc (hfile content)
      case owner => exact fun _ => rfl
  · rw [if_neg hlease]
    obtain rfl : gs = [] := eq_nil_of_cut
      ((List.prefix_or_prefix_of_prefix hgs (List.prefix_append _ _)).resolve_right hlease) hlease
    exact ⟨by simp, by simp, by simp, by simp, fun _ => rfl⟩

end IpRequest

/-! ### What a removal may hit -/

/-- Every route a removal of the IPv4 part names: the connected route and the added ones, which
are recorded, and the default route through the first of the gateways. -/
def Ipv4Plan.namedRoutes (p : Ipv4Plan) (req : IpRequest) : List Route :=
  connectedRouteV4 req.interfaceIndex p.config.address p.config.prefixLength ::
    p.addedRoutes req ++ ((LinuxIpEngine.teardownGateway (p.addedRoutes req)).map
      (LinuxIpConfigurator.gatewayRouteV4 req.interfaceIndex)).toList

/-- Every route a removal of the IPv6 part names; it derives no default route. -/
def Ipv6Plan.namedRoutes (p : Ipv6Plan) (req : IpRequest) : List Route :=
  connectedRouteV6 req.interfaceIndex p.config.address p.config.prefixLength :: p.addedRoutes req

/-- The host has nothing under the names of what the request begins to install before it is
refused: IPv4 is begun once a lease is held or none is needed, IPv6 once IPv4 is installed. -/
structure IpRequest.Restorable (req : IpRequest) (env : Env) (host : Host) : Prop where
  ipv4 : req.leaseSteps env <+: granted env.backend host 0 (req.forwardSteps env) →
    ∀ p, req.plan4 env = some p → (∀ l, p.lease = some l → l.record ∉ host.leases) ∧
      p.ifAddr req ∉ host.addresses ∧ ∀ r ∈ p.namedRoutes req, ¬ host.routes.Deletable r
  ipv6 : req.leaseSteps env ++ req.steps4 env <+:
      granted env.backend host 0 (req.forwardSteps env) →
    ∀ p, req.plan6 = some p → p.ifAddr req ∉ host.addresses ∧
      ∀ r ∈ p.namedRoutes req, ¬ host.routes.Deletable r
  added : ∀ r, .route r ∈ granted env.backend host 0 (req.forwardSteps env) →
    host.routes r.key = none
  file : ∀ content, .resolvConf content ∈ granted env.backend host 0 (req.forwardSteps env) →
    host.resolvConf = .absent

namespace IpRequest

variable {req : IpRequest} {env : Env} {gs : List Item} {host : Host}

/-- Nothing that a recorded state names is on the host, by families. -/
theorem names_nothing_iff (req : IpRequest) {st : ActiveIpState} {plan4 : Option Ipv4Plan}
    {plan6 : Option Ipv6Plan} (h4 : st.ipv4 = plan4.map (·.record req))
    (h6 : st.ipv6 = plan6.map (·.record req)) :
    ((∀ l ∈ st.leases, l ∉ host.leases) ∧ (∀ a ∈ st.addresses, a ∉ host.addresses) ∧
      ∀ r ∈ st.removals, ¬ host.routes.Deletable r) ↔
    (∀ p, plan4 = some p → (∀ l, p.lease = some l → l.record ∉ host.leases) ∧
      p.ifAddr req ∉ host.addresses ∧ ∀ r ∈ p.namedRoutes req, ¬ host.routes.Deletable r) ∧
    ∀ p, plan6 = some p → p.ifAddr req ∉ host.addresses ∧
      ∀ r ∈ p.namedRoutes req, ¬ host.routes.Deletable r := by
  have hleases : (∀ l ∈ st.leases, l ∉ host.leases) ↔
      ∀ p, plan4 = some p → ∀ l, p.lease = some l → l.record ∉ host.leases := by
    cases plan4 <;> simp [ActiveIpState.leases, h4, Ipv4Plan.record]
  have haddresses : (∀ a ∈ st.addresses, a ∉ host.addresses) ↔
      (∀ p, plan4 = some p → p.ifAddr req ∉ host.addresses) ∧
        ∀ p, plan6 = some p → p.ifAddr req ∉ host.addresses := by
    have hv4 : ∀ p : Ipv4Plan, (p.record req).ifAddr = p.ifAddr req := fun _ => rfl
    have hv6 : ∀ p : Ipv6Plan, (p.record req).ifAddr = some (p.ifAddr req) := fun _ => rfl
    cases plan4 <;> cases plan6 <;> simp [ActiveIpState.addresses, h4, h6, hv4, hv6]
  have hremovals : (∀ r ∈ st.removals, ¬ host.routes.Deletable r) ↔
      (∀ p, plan4 = some p → ∀ r ∈ p.namedRoutes req, ¬ host.routes.Deletable r) ∧
        ∀ p, plan6 = some p → ∀ r ∈ p.namedRoutes req, ¬ host.routes.Deletable r := by
    have hv4 : ∀ p : Ipv4Plan, (p.record req).removals = p.namedRoutes req := fun _ => rfl
    have hv6 : ∀ p : Ipv6Plan, (p.record req).routes = p.namedRoutes req := fun _ => rfl
    cases plan4 <;> cases plan6 <;>
      simp [ActiveIpState.removals, h4, h6, hv4, hv6, or_imp, forall_and]
  rw [hleases, haddresses, hremovals]
  constructor
  · rintro ⟨hl, ⟨ha4, ha6⟩, hr4, hr6⟩
    exact ⟨fun p hp => ⟨hl p hp, ha4 p hp, hr4 p hp⟩, fun p hp => ⟨ha6 p hp, hr6 p hp⟩⟩
  · rintro ⟨h4, h6⟩
    exact ⟨fun p hp => (h4 p hp).1, ⟨fun p hp => (h4 p hp).2.1, fun p hp => (h6 p hp).1⟩,
      fun p hp => (h4 p hp).2.2, fun p hp => (h6 p hp).2⟩

/-- The families that are recorded are those that were begun. -/
theorem restorable_iff (hgs : granted env.backend host 0 (req.forwardSteps env) = gs) :
    req.Restorable env host ↔
      ((∀ l ∈ (req.recorded env gs).leases, l ∉ host.leases) ∧
        (∀ a ∈ (req.recorded env gs).addresses, a ∉ host.addresses) ∧
        ∀ r ∈ (req.recorded env gs).removals, ¬ host.routes.Deletable r) ∧
      (∀ r, .route r ∈ gs → host.routes r.key = none) ∧
      ∀ content, .resolvConf content ∈ gs → host.resolvConf = .absent := by
  subst hgs
  have hsplit : req.Restorable env host ↔ _ ∧ _ ∧ _ ∧ _ :=
    ⟨fun ⟨h4, h6, ha, hf⟩ => ⟨h4, h6, ha, hf⟩, fun ⟨h4, h6, ha, hf⟩ => ⟨h4, h6, ha, hf⟩⟩
  rw [hsplit, ← and_assoc]
  refine and_congr_left fun _ => ?_
  have hnone4 : (none : Option ActiveIpv4) = (none : Option Ipv4Plan).map (·.record req) := rfl
  have hnone6 : (none : Option ActiveIpv6) = (none : Option Ipv6Plan).map (·.record req) := rfl
  unfold recorded
  generalize granted env.backend host 0 (req.forwardSteps env) = gs
  by_cases hlease : req.leaseSteps env <+: gs
  · by_cases hipv4 : req.leaseSteps env ++ req.steps4 env <+: gs
    · rw [if_pos hlease, if_pos hipv4, names_nothing_iff req rfl rfl, forall_prop_of_true hlease,
        forall_prop_of_true hipv4]
    · rw [if_pos hlease, if_neg hipv4, names_nothing_iff req rfl hnone6, forall_prop_of_true hlease,
        forall_prop_of_false hipv4]
      simp
  · have hipv4 : ¬ req.leaseSteps env ++ req.steps4 env <+: gs := fun h =>
      hlease ((List.prefix_append _ _).trans h)
    rw [if_neg hlease, names_nothing_iff req hnone4 hnone6, forall_prop_of_false hlease,
      forall_prop_of_false hipv4]
    simp

end IpRequest

/-! ### A host to run on -/

namespace Sample

/-- The backends fail the forward steps that `fails` says, the first with `ENETUNREACH`. -/
def env (fails : ℕ → Bool) : Env where
  fails := fails
  errno _ := -101
  grant request := {
    interfaceIndex := request.interfaceIndex, interfaceName := request.interfaceName
    address := Ipv4Addr.new 192 168 1 50, prefixLength := 24
    netmask := Ipv4Addr.new 255 255 255 0, gateway := some (Ipv4Addr.new 192 168 1 1)
    dnsServers := [Ipv4Addr.new 192 168 1 1], searchDomains := [], serverIdentifier := none
    leaseSeconds := some 3600, t1Seconds := none, t2Seconds := none }
  grant_prefix _ := show (24 : UInt8) ≤ 32 by decide
  observed := .ok []
  display _ := "192.168.1.1"
  resolvPath := "/etc/resolv.conf"

/-- The interface has index 2. -/
def address : IfAddr := ⟨2, .v4 (Ipv4Addr.new 192 168 1 10), 24⟩

/-- `10.10.0.0/16` through `192.168.1.1`. -/
def staticRoute : Route where
  family := .v4
  destination := .v4 (Ipv4Addr.new 10 10 0 0)
  prefixLength := 16
  gateway := some (.v4 (Ipv4Addr.new 192 168 1 1))
  outputInterface := some 2
  metric := none
  kind := .unicast
  scope := .universe

/-- A manual configuration with one static route and no gateway of its own. -/
def request : IpRequest where
  interfaceIndex := 2
  interfaceName := "eth0"
  ipv4 := { method := .manual, address := some address.address, prefixLength := some 24
            routes := [staticRoute] }
  ipv6 := { method := .disabled }
  dnsOwner := "nmd/home/eth0"

/-- The sample request is accepted by `validate`, and its owner is a plain word. -/
theorem request_valid : request.Valid where
  ipv4 := rfl
  ipv6 := rfl
  owner := ⟨by decide, fun c hc => by
    have hall : (request.dnsOwner.toList.all fun c => !Text.isWhitespace c) = true := rfl
    simpa using List.all_eq_true.mp hall c hc⟩

/-- A host with nothing on it. -/
def emptyHost : Host where
  addresses := ∅
  routes _ := none
  resolvConf := .absent
  leases := ∅

/-- The default route through the gateway of the static route. -/
def foreignDefault : Route := defaultRouteV4 2 (Ipv4Addr.new 192 168 1 1)

/-- A host with that default route of somebody else. -/
def hostWithDefault : Host :=
  { emptyHost with routes := RoutingTable.add (fun _ => none) foreignDefault }

/-- A route of somebody else, to another network and through another gateway. -/
def foreignRoute : Route :=
  { staticRoute with
    destination := .v4 (Ipv4Addr.new 10 20 0 0), gateway := some (.v4 (Ipv4Addr.new 192 168 1 2)) }

/-- A host on which somebody else has put an address and a route on the interface. -/
def sharedHost : Host :=
  { emptyHost with
    addresses := {⟨2, .v4 (Ipv4Addr.new 192 168 1 99), 24⟩}
    routes := RoutingTable.add (fun _ => none) foreignRoute }

end Sample

/-! ### Failed activations and teardowns -/

section Runs

variable {env : Env} {req : IpRequest} {host : Host} {w' : World}

/-- A failed activation leaves the host with the granted steps put and what was recorded undone. -/
theorem activate_error_world (hv : req.Valid) {e : IpEngineError}
    (h : env.activate req (.start host) = .error e w') :
    let gs := granted env.backend host 0 (req.forwardSteps env)
    w'.host = (host.putAll gs).undo (req.recorded env gs) ∧ w'.journal = gs := by
  intro gs
  obtain ⟨c, hok, herror⟩ := env.activate_eq hv host
  by_cases hgs : gs = req.forwardSteps env
  · obtain ⟨out, hok⟩ := hok hgs
    rw [hok] at h
    cases h
  · obtain ⟨e', he⟩ := herror hgs
    rw [he] at h
    cases h
    exact ⟨rfl, rfl⟩

/-- An activation that returned put all of its steps, and hands over what it recorded. -/
theorem activate_ok_world (hv : req.Valid) {out : ActivationOutcome} {st : ActiveIpState}
    (h : env.activate req (.start host) = .ok (out, st) w') :
    granted env.backend host 0 (req.forwardSteps env) = req.forwardSteps env ∧
      w'.host = host.putAll (req.forwardSteps env) ∧ w'.journal = req.forwardSteps env ∧
      st = req.recorded env (req.forwardSteps env) := by
  obtain ⟨c, hok, herror⟩ := env.activate_eq hv host
  by_cases hgs : granted env.backend host 0 (req.forwardSteps env) = req.forwardSteps env
  · obtain ⟨out', hok⟩ := hok hgs
    rw [hok] at h
    cases h
    rw [hgs]
    exact ⟨rfl, rfl, rfl, rfl⟩
  · obtain ⟨e', he⟩ := herror hgs
    rw [he] at h
    cases h

/-- **A failed activation restores the host** exactly when the host had nothing under the names of
what was begun. -/
theorem activate_error_restores_iff (hv : req.Valid) {e : IpEngineError}
    (h : env.activate req (.start host) = .error e w') :
    w'.host = host ↔ req.Restorable env host := by
  obtain ⟨hhost, -⟩ := activate_error_world hv h
  rw [hhost, Host.undo_putAll_eq_self_iff
    (IpRequest.recorded_covers hv.owner (granted_isPrefix host 0 _)), IpRequest.restorable_iff rfl]
  simp only [and_assoc]

/-- The route of the sample request is refused; the empty host comes back. -/
theorem activate_error_restores_iff_unreachable :
    ∃ e w', (Sample.env (· == 1)).activate Sample.request (.start Sample.emptyHost) =
      .error e w' ∧
      (w'.host = Sample.emptyHost ↔
        Sample.request.Restorable (Sample.env (· == 1)) Sample.emptyHost) :=
  ⟨_, _, rfl, activate_error_restores_iff Sample.request_valid rfl⟩

/-- An address that was there makes the activation fail, and the rollback removes it. -/
theorem activate_error_removes_foreign_address :
    ¬ ∀ (env : Env) (req : IpRequest) (host : Host) (e : IpEngineError) (w' : World), req.Valid →
      env.activate req (.start host) = .error e w' → w'.host = host := by
  intro hall
  obtain ⟨e, w', hrun, hgone⟩ : ∃ e w', (Sample.env fun _ => false).activate Sample.request
      (.start { Sample.emptyHost with addresses := {Sample.address} }) = .error e w' ∧
        Sample.address ∉ w'.host.addresses := ⟨_, _, rfl, by decide⟩
  rw [hall _ _ _ _ _ Sample.request_valid hrun] at hgone
  exact hgone (Finset.mem_singleton_self _)

/-- **No residue.**  Of everything an activation put in place, nothing is left once it has failed,
or once its state has been torn down. -/
theorem no_residue (hv : req.Valid) :
    (∀ e w', env.activate req (.start host) = .error e w' →
      ∀ i ∈ w'.journal, ¬ i.Present w'.host) ∧
    ∀ out st w', env.activate req (.start host) = .ok (out, st) w' →
      ∀ i ∈ w'.journal, ¬ i.Present (after (env.engine.teardown st) w').host := by
  constructor
  · intro e w' h i hi
    obtain ⟨hhost, hjournal⟩ := activate_error_world hv h
    rw [hhost]
    rw [hjournal] at hi
    exact Host.not_present_undo_putAll
      (IpRequest.recorded_covers hv.owner (granted_isPrefix host 0 _)) hi
  · intro out st w' h i hi
    obtain ⟨-, hhost, hjournal, rfl⟩ := activate_ok_world hv h
    rw [env.teardown_changes, hhost]
    rw [hjournal] at hi
    exact Host.not_present_undo_putAll (IpRequest.recorded_covers hv.owner List.prefix_rfl) hi

/-- Nothing of the sample request stays on the empty host, with its route refused. -/
theorem no_residue_emptyHost :
    (∀ e w', (Sample.env (· == 1)).activate Sample.request (.start Sample.emptyHost) =
        .error e w' → ∀ i ∈ w'.journal, ¬ i.Present w'.host) ∧
      ∀ out st w', (Sample.env (· == 1)).activate Sample.request (.start Sample.emptyHost) =
        .ok (out, st) w' → ∀ i ∈ w'.journal,
          ¬ i.Present (after ((Sample.env (· == 1)).engine.teardown st) w').host :=
  no_residue Sample.request_valid

/-- The routes that teardown asks to remove though the activation has not added them: the
connected routes, and the default route it derives. -/
def IpRequest.unaddedRemovals (req : IpRequest) (env : Env) : List Route :=
  (req.plan4 env).elim [] (fun p =>
    connectedRouteV4 req.interfaceIndex p.config.address p.config.prefixLength ::
      ((LinuxIpEngine.teardownGateway (p.addedRoutes req)).map
        (LinuxIpConfigurator.gatewayRouteV4 req.interfaceIndex)).toList) ++
  req.plan6.elim [] fun p =>
    [connectedRouteV6 req.interfaceIndex p.config.address p.config.prefixLength]

namespace IpRequest

/-- With every step through, the whole intent is recorded. -/
theorem recorded_forwardSteps : req.recorded env (req.forwardSteps env) = req.intent6 env := by
  have hlease : req.leaseSteps env <+: req.forwardSteps env := List.prefix_append _ _
  have hipv4 : req.leaseSteps env ++ req.steps4 env <+: req.forwardSteps env := by
    rw [forwardSteps, ← List.append_assoc]
    exact List.prefix_append _ _
  rw [recorded, if_pos hlease, if_pos hipv4]

/-- Every recorded address of a complete activation is one that it installed. -/
theorem mem_forwardSteps_of_mem_addresses {a : IfAddr} (ha : a ∈ (req.intent6 env).addresses) :
    .address a ∈ req.forwardSteps env := by
  rcases List.mem_append.mp ha with ha | ha
  · cases hp : req.plan4 env with
    | none => simp [intent6, installed4, intent4, hp] at ha
    | some p =>
        obtain rfl : a = p.ifAddr req := by
          simpa [intent6, installed4, intent4, hp, Ipv4Plan.record, ActiveIpv4.ifAddr,
            Ipv4Plan.ifAddr] using ha
        exact List.mem_append_right _
          (List.mem_append_left _ (mem_steps4.mpr ⟨p, hp, .inl rfl⟩))
  · cases hp : req.plan6 with
    | none => simp [intent6, hp] at ha
    | some p =>
        obtain rfl : a = p.ifAddr req := by
          simpa [intent6, hp, Ipv6Plan.record, ActiveIpv6.ifAddr, Ipv6Plan.ifAddr] using ha
        exact List.mem_append_right _
          (List.mem_append_right _ (mem_steps6.mpr ⟨p, hp, .inl rfl⟩))

/-- Every removal of a finished activation is of a route it added, or of another one. -/
theorem mem_removals_iff {r : Route} : r ∈ (req.intent6 env).removals ↔
    .route r ∈ req.forwardSteps env ∨ r ∈ req.unaddedRemovals env := by
  have hv4 : ∀ p : Ipv4Plan, (p.record req).removals = p.namedRoutes req := fun _ => rfl
  have hv6 : ∀ p : Ipv6Plan, (p.record req).routes = p.namedRoutes req := fun _ => rfl
  have hsteps : .route r ∈ req.forwardSteps env ↔
      (∃ p, req.plan4 env = some p ∧ r ∈ p.addedRoutes req) ∨
        ∃ p, req.plan6 = some p ∧ r ∈ p.addedRoutes req := by
    simp [forwardSteps, mem_leaseSteps, mem_steps4, mem_steps6]
  rw [hsteps]
  cases hp4 : req.plan4 env <;> cases hp6 : req.plan6 <;>
    simp [ActiveIpState.removals, unaddedRemovals, intent6, installed4, intent4, hp4, hp6, hv4, hv6,
      Ipv4Plan.namedRoutes, Ipv6Plan.namedRoutes] <;> grind

end IpRequest

/-- **A teardown spares what was there before** exactly when that answers to none of the routes
that are removed without having been added. -/
theorem teardown_spares_iff (hv : req.Valid)
    (hvacant : ∀ r, .route r ∈ req.forwardSteps env → host.routes r.key = none)
    {out : ActivationOutcome} {st : ActiveIpState}
    (h : env.activate req (.start host) = .ok (out, st) w') :
    let host' := (after (env.engine.teardown st) w').host
    ((∀ a ∈ host.addresses, a ∈ host'.addresses) ∧
      ∀ k r, host.routes k = some r → host'.routes k = some r) ↔
    ∀ r ∈ req.unaddedRemovals env, ¬ host.routes.Deletable r := by
  intro host'
  obtain ⟨hgs, hhost, -, hst⟩ := activate_ok_world hv h
  have hall : req.forwardSteps env <+: req.forwardSteps env := List.prefix_rfl
  have hcover := IpRequest.recorded_covers hv.owner hall
  rw [IpRequest.recorded_forwardSteps] at hst hcover
  have hhost' : host' = (host.putAll (req.forwardSteps env)).undo (req.intent6 env) := by
    show (after (env.engine.teardown st) w').host = _
    rw [env.teardown_changes, hhost, hst]
  -- an address that was there would have clashed, and the activation would have failed
  have haddresses : ∀ a ∈ host.addresses, a ∈ host'.addresses := fun a ha => by
    rw [hhost', Host.undo_putAll_addresses hcover, Finset.mem_sdiff, List.mem_toFinset]
    refine ⟨ha, fun hmem => ?_⟩
    have hstep := IpRequest.mem_forwardSteps_of_mem_addresses hmem
    have hclash : decide (a ∈ host.addresses) = false :=
      clashes_of_mem_granted (b := env.backend) (h := host) (i := .address a) (hgs.symm ▸ hstep)
    exact of_decide_eq_false hclash ha
  have hroutes : (∀ k r, host.routes k = some r → host'.routes k = some r) ↔
      ∀ r ∈ (req.intent6 env).removals, ¬ host.routes.Deletable r := by
    rw [hhost', Host.undo_putAll_routes]
    exact Tables.dropAll_putAll_keeps_iff fun r hr => hvacant r (Host.mem_routesOf.mp hr)
  rw [and_iff_right haddresses, hroutes]
  constructor
  · exact fun hall r hr => hall r (IpRequest.mem_removals_iff.mpr (.inr hr))
  · intro hall r hr
    rcases IpRequest.mem_removals_iff.mp hr with hadded | hextra
    · rintro ⟨v, hv, -⟩
      rw [hvacant r hadded] at hv
      cases hv
    · exact hall r hextra

/-- What somebody else put on the host stays there. -/
theorem teardown_spares_iff_sharedHost :
    ∃ out st w', (Sample.env fun _ => false).activate Sample.request (.start Sample.sharedHost) =
      .ok (out, st) w' ∧
      (∀ a ∈ Sample.sharedHost.addresses, a ∈
        (after ((Sample.env fun _ => false).engine.teardown st) w').host.addresses) ∧
      ∀ k r, Sample.sharedHost.routes k = some r →
        (after ((Sample.env fun _ => false).engine.teardown st) w').host.routes k = some r := by
  have hsteps : Sample.request.forwardSteps (Sample.env fun _ => false) =
      [.address Sample.address, .route Sample.staticRoute] := rfl
  refine ⟨_, _, _, rfl, (teardown_spares_iff Sample.request_valid ?_ rfl).mpr ?_⟩
  · intro r hr
    obtain rfl : r = Sample.staticRoute := by simpa [hsteps] using hr
    decide
  · decide

/-- A default route of somebody else, through the gateway of the one static route, is removed with
it. -/
theorem teardown_removes_foreign_default :
    ¬ ∀ (env : Env) (req : IpRequest) (host : Host) (out : ActivationOutcome) (st : ActiveIpState)
      (w' : World), req.Valid →
      (∀ a, .address a ∈ req.forwardSteps env → a ∉ host.addresses) →
      (∀ r, .route r ∈ req.forwardSteps env → host.routes r.key = none) →
      env.activate req (.start host) = .ok (out, st) w' →
      (∀ a ∈ host.addresses, a ∈ (after (env.engine.teardown st) w').host.addresses) ∧
        ∀ k r, host.routes k = some r →
          (after (env.engine.teardown st) w').host.routes k = some r := by
  intro hall
  obtain ⟨out, st, w', hrun, hgone⟩ : ∃ out st w', (Sample.env fun _ => false).activate
      Sample.request (.start Sample.hostWithDefault) = .ok (out, st) w' ∧
        (after ((Sample.env fun _ => false).engine.teardown st) w').host.routes
          Sample.foreignDefault.key = none := ⟨_, _, _, rfl, by decide⟩
  have hsteps : Sample.request.forwardSteps (Sample.env fun _ => false) =
      [.address Sample.address, .route Sample.staticRoute] := rfl
  have hkept := (hall _ _ _ _ _ _ Sample.request_valid ?_ ?_ hrun).2 Sample.foreignDefault.key
    Sample.foreignDefault (by decide)
  · rw [hgone] at hkept
    cases hkept
  · exact fun a _ => Finset.notMem_empty a
  · intro r hr
    obtain rfl : r = Sample.staticRoute := by simpa [hsteps] using hr
    decide

end Runs

end NetworkManager
