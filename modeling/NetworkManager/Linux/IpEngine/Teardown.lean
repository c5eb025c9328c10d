import NetworkManager.Linux.Dns.Access

/-!
# Linux — IpEngine — Teardown

What `teardown` does to the host, for any recorded state: it asks for the removal of the recorded
addresses (`ActiveIpState.addresses`), of a list of routes (`ActiveIpState.removals`: the recorded
ones and the default route it derives again), of the recorded lease, and of the file under the
recorded owner.  `teardown_changes` shows the code to be this `Host.undo`.
-/

namespace NetworkManager

open Transactions Effects

/-! ### What a recorded state covers -/

namespace ActiveIpv4

/-- The address that the record owns. -/
def ifAddr (a : ActiveIpv4) : IfAddr := ⟨a.interfaceIndex, .v4 a.address, a.prefixLength⟩

/-- The default route `teardown` derives from the recorded routes, besides removing these. -/
def derivedDefault (a : ActiveIpv4) : Option Route :=
  (LinuxIpEngine.teardownGateway a.routes).map
    (LinuxIpConfigurator.gatewayRouteV4 a.interfaceIndex)

/-- Every route the IPv4 teardown asks the kernel to remove. -/
def removals (a : ActiveIpv4) : List Route := a.routes ++ a.derivedDefault.toList

end ActiveIpv4

/-- The address a recorded IPv6 state owns: that of a manual configuration. -/
def ActiveIpv6.ifAddr (a : ActiveIpv6) : Option IfAddr :=
  match a.source, a.linkLocal with
  | .manual, some address => some ⟨a.interfaceIndex, .v6 address, a.prefixLength⟩
  | _, _ => none

namespace ActiveIpState

/-- Every address `teardown` asks the kernel to remove. -/
def addresses (st : ActiveIpState) : List IfAddr :=
  (st.ipv4.map (·.ifAddr)).toList ++ (st.ipv6.bind (·.ifAddr)).toList

/-- Every route `teardown` asks the kernel to remove. -/
def removals (st : ActiveIpState) : List Route :=
  st.ipv4.elim [] (·.removals) ++ st.ipv6.elim [] (·.routes)

/-- The lease `teardown` releases. -/
def leases (st : ActiveIpState) : List LeaseRecord :=
  ((st.ipv4.bind (·.lease)).map (·.record)).toList

end ActiveIpState

namespace ResolvConf

/-- The file once its owner has removed it; anybody else's stays. -/
def disown (ownership : Option DnsOwnership) : ResolvConf → ResolvConf
  | .text content =>
    if ∃ o ∈ ownership, LinuxDnsManager.parseOwner content = some o.owner then .absent
    else .text content
  | file => file

@[simp] theorem disown_none (file : ResolvConf) : file.disown none = file := by
  cases file <;> simp [disown]

end ResolvConf

namespace Host

/-- The host without what the recorded state covers. -/
def undo (st : ActiveIpState) (h : Host) : Host where
  addresses := h.addresses \ st.addresses.toFinset
  routes := Tables.dropAll Route.key Route.deletes h.routes st.removals
  resolvConf := h.resolvConf.disown st.dnsOwner
  leases := h.leases \ st.leases.toFinset

end Host

/-! ### The removal steps of the production backends -/

namespace Env

variable (env : Env)

/-- Removing a route deletes what the kernel matches with it, if anything. -/
theorem removeRoute_changes (r : Route) :
    Changes (env.engine.ip.removeRoute r) fun h => { h with routes := h.routes.delete r } := by
  refine Changes.adaptExcept fun w => ?_
  by_cases hr : w.host.routes.Deletable r
  · have hrun : env.transact (.delRoute r) w =
        .ok () { w with host := { w.host with routes := w.host.routes.delete r } } := by
      simp only [transact, if_pos hr]
      rfl
    exact after_of_ok hrun
  · have hrun : env.transact (.delRoute r) w = .error (.kernel (-3)) w := by
      simp only [transact, if_neg hr]
    have he : w.host.routes.delete r = w.host.routes := if_neg hr
    rw [after_of_error hrun, he]

/-- Removing an address takes it off the interface. -/
theorem removeAddress_changes (a : IfAddr) :
    Changes (LinuxIpConfigurator.removeAddress env.transact a.interfaceIndex a.address
      a.prefixLength) fun h => { h with addresses := h.addresses.erase a } := by
  refine Changes.adaptExcept fun w => ?_
  by_cases ha : a ∈ w.host.addresses
  · have hrun : env.transact (.delAddr a) w =
        .ok () { w with host := { w.host with addresses := w.host.addresses.erase a } } := by
      simp only [transact, if_pos ha]
      rfl
    exact after_of_ok hrun
  · have hrun : env.transact (.delAddr a) w = .error (.kernel (-99)) w := by
      simp only [transact, if_neg ha]
    have he : w.host.addresses.erase a = w.host.addresses := Finset.erase_eq_of_notMem ha
    exact (after_of_error hrun).trans (by rw [he])

/-- Removing routes one at a time, whatever comes of it. -/
theorem removeAll_returns {ε : Type} (rs : List Route) :
    Returns (rs.forM fun r => do
        let _ ← attempt (LinuxIpConfigurator.removeRoute env.transact r) : EStateM ε World Unit)
      fun h => { h with routes := Tables.dropAll Route.key Route.deletes h.routes rs } := by
  have hone : ∀ r, Returns (do
        let _ ← attempt (LinuxIpConfigurator.removeRoute env.transact r) : EStateM ε World Unit)
      fun h => { h with routes := h.routes.delete r } := fun r =>
    (Returns.attempt (env.removeRoute_changes r)).bind fun _ => Returns.pure ()
  have hall : ∀ (rs : List Route) (h : Host),
      rs.foldl (fun h r => { h with routes := h.routes.delete r }) h =
        { h with routes := Tables.dropAll Route.key Route.deletes h.routes rs } := by
    intro rs
    induction rs with
    | nil => exact fun _ => rfl
    | cons r rs ih => exact fun h => ih _
  have hrs := Returns.forM hone rs
  rwa [funext (hall rs)] at hrs

/-- Removing an address goes by way of the default route. -/
theorem remove_changes (a : IfAddr) (default : Option Route) :
    Changes (LinuxIpConfigurator.remove env.transact a.interfaceIndex a.address a.prefixLength
      default) fun h => { h with
        routes := Tables.dropAll Route.key Route.deletes h.routes default.toList
        addresses := h.addresses.erase a } :=
  Returns.bind_changes (g := fun h => { h with addresses := h.addresses.erase a })
    (env.removeAll_returns default.toList) fun _ => env.removeAddress_changes a

/-! ### The managed file -/

/-- The managed file is read as the host's resolver file. -/
theorem managedFile_answers : env.managedFile.Answers fun w => w.host.resolvConf where
  text := fun h => by simp only [managedFile, h]
  absent := fun h => ⟨⟨.notFound, "No such file or directory (os error 2)"⟩, rfl, by
    simp only [managedFile, h]⟩
  undecodable := fun h => ⟨⟨.invalidData, "stream did not contain valid UTF-8"⟩, by decide, by
    simp only [managedFile, h]⟩

/-- Removing DNS takes the file away if the owner still owns it. -/
theorem dnsRemove_changes (o : DnsOwnership) :
    Changes (env.engine.dns.remove o) fun h => { h with
      resolvConf := h.resolvConf.disown (some o) } := fun w => by
  show after (LinuxDnsManager.remove env.managedFile o) w =
    { w with host := { w.host with resolvConf := w.host.resolvConf.disown (some o) } }
  obtain ⟨file, hf⟩ : ∃ file, w.host.resolvConf = file := ⟨_, rfl⟩
  cases file with
  | absent =>
      have hd : w.host.resolvConf.disown (some o) = w.host.resolvConf := by rw [hf]; rfl
      rw [after_of_ok (LinuxDnsManager.remove_of_absent env.managedFile_answers hf o), hd]
  | text content =>
      have hremove := LinuxDnsManager.remove_of_text env.managedFile_answers hf o
      by_cases he : LinuxDnsManager.parseOwner content = some o.owner
      · have hd : w.host.resolvConf.disown (some o) = .absent := by
          rw [hf, ResolvConf.disown, if_pos ⟨o, rfl, he⟩]
        rw [after_of_ok (hremove.trans (if_pos he)), hd]
        rfl
      · have hd : w.host.resolvConf.disown (some o) = w.host.resolvConf := by
          rw [hf, ResolvConf.disown, if_neg]
          rintro ⟨_, ⟨⟩, h⟩
          exact he h
        rw [if_neg he] at hremove
        rw [hd]
        split at hremove
        · exact after_of_ok hremove
        · exact after_of_error hremove
  | undecodable bytes =>
      have hd : w.host.resolvConf.disown (some o) = w.host.resolvConf := by rw [hf]; rfl
      obtain ⟨e, he⟩ := LinuxDnsManager.remove_of_undecodable env.managedFile_answers hf o
      rw [after_of_error he, hd]

/-! ### The teardown -/

/-- Releasing a lease takes it from the server's records. -/
theorem release_changes (l : DhcpLease) :
    Changes (env.engine.dhcp.release l) fun h => { h with leases := h.leases.erase l.record } :=
  fun _ => rfl

/-- A removal goes on after an error, with the same host. -/
theorem removal_returns {ε : Type} {g : ε → IpEngineError} {x : EStateM ε World Unit}
    {f : Host → Host} (hx : Changes x f) : Returns (LinuxIpEngine.removal g x) f := fun w => by
  have hattempt : Returns (attempt x : EStateM IpEngineError World _) f := .attempt hx
  obtain ⟨r, hr⟩ := hattempt w
  cases r with
  | ok u => exact ⟨none, (bind_of_ok hr).trans rfl⟩
  | error e => exact ⟨some (g e), (bind_of_ok hr).trans rfl⟩

/-- The DNS part of the teardown undoes what was recorded of the file. -/
theorem teardownDns_returns (o : DnsOwnership) :
    Returns (env.engine.teardownDns o) (Host.undo { dnsOwner := some o }) := fun w => by
  obtain ⟨r, hr⟩ := removal_returns (g := .dns) (env.dnsRemove_changes o) w
  refine ⟨r, hr.trans ?_⟩
  simp [Host.undo, ActiveIpState.addresses, ActiveIpState.removals, ActiveIpState.leases]

/-- Releasing the recorded lease, if any, undoes what was recorded of it. -/
theorem releaseLease_returns (lease : Option DhcpLease) :
    Returns (env.engine.releaseLease lease)
      fun h => { h with leases := h.leases \ (lease.map (·.record)).toList.toFinset } := by
  cases lease with
  | none => exact fun w => ⟨(), by simp; rfl⟩
  | some l =>
      have hl : Returns (env.engine.releaseLease (some l)) _ :=
        (Returns.attempt (env.release_changes l)).bind fun _ => Returns.pure ()
      intro w
      obtain ⟨r, hr⟩ := hl w
      exact ⟨r, hr.trans (by simp [Finset.sdiff_singleton_eq_erase])⟩

/-- The IPv4 part of the teardown undoes the recorded IPv4 state. -/
theorem teardownIpv4_returns (a : ActiveIpv4) :
    Returns (env.engine.teardownIpv4 a) (Host.undo { ipv4 := some a }) := fun w => by
  have hremove := removal_returns (g := .ipConfig) (env.remove_changes a.ifAddr a.derivedDefault)
  obtain ⟨r, hr⟩ := (env.removeAll_returns a.routes).bind
    (fun _ => (env.releaseLease_returns a.lease).bind fun _ => hremove) w
  refine ⟨r, hr.trans ?_⟩
  simp [Host.undo, ActiveIpState.addresses, ActiveIpState.removals, ActiveIpState.leases,
    ActiveIpv4.removals, Tables.dropAll_append, Finset.sdiff_singleton_eq_erase]

theorem teardownIpv6_of_none {a : ActiveIpv6} (h : a.ifAddr = none) :
    env.engine.teardownIpv6 a = do
      env.engine.removeRoutes a.routes
      return none := by
  obtain ⟨_, linkLocal, _, _, source⟩ := a
  cases source <;> cases linkLocal <;> first | rfl | cases h

theorem teardownIpv6_of_some {a : ActiveIpv6} {i : IfAddr} (h : a.ifAddr = some i) :
    env.engine.teardownIpv6 a = (do
      env.engine.removeRoutes a.routes
      LinuxIpEngine.removal .ipConfig (LinuxIpConfigurator.remove env.transact i.interfaceIndex
        i.address i.prefixLength none)) := by
  obtain ⟨_, linkLocal, _, _, source⟩ := a
  cases source <;> cases linkLocal <;> cases h
  rfl

/-- The IPv6 part of the teardown undoes the recorded IPv6 state. -/
theorem teardownIpv6_returns (a : ActiveIpv6) :
    Returns (env.engine.teardownIpv6 a) (Host.undo { ipv6 := some a }) := fun w => by
  have hroutes : Returns (env.engine.removeRoutes a.routes) _ := env.removeAll_returns a.routes
  cases ha : a.ifAddr with
  | none =>
      rw [env.teardownIpv6_of_none ha]
      obtain ⟨r, hr⟩ := hroutes.bind (fun _ => Returns.pure (none : Option IpEngineError)) w
      refine ⟨r, hr.trans ?_⟩
      simp [Host.undo, ActiveIpState.addresses, ActiveIpState.removals, ActiveIpState.leases, ha]
  | some i =>
      rw [env.teardownIpv6_of_some ha]
      have hremove := removal_returns (g := .ipConfig) (env.remove_changes i none)
      obtain ⟨r, hr⟩ := hroutes.bind (fun _ => hremove) w
      refine ⟨r, hr.trans ?_⟩
      simp [Host.undo, ActiveIpState.addresses, ActiveIpState.removals, ActiveIpState.leases, ha,
        Finset.sdiff_singleton_eq_erase]

theorem undo_empty : Host.undo {} = id := by
  funext h
  simp [Host.undo, ActiveIpState.addresses, ActiveIpState.removals, ActiveIpState.leases]

/-- The three parts of a recorded state are undone one after the other. -/
theorem undo_parts (st : ActiveIpState) :
    Host.undo st = Host.undo { ipv6 := st.ipv6 } ∘ Host.undo { ipv4 := st.ipv4 } ∘
      Host.undo { dnsOwner := st.dnsOwner } := by
  funext h
  simp [Host.undo, ActiveIpState.addresses, ActiveIpState.removals, ActiveIpState.leases,
    Tables.dropAll_append, Finset.sdiff_union_distrib, sdiff_sdiff]

/-- A part that was never recorded is skipped. -/
theorem teardownPart_returns {α : Type} {f : α → EStateM IpEngineError World (Option IpEngineError)}
    {g : Option α → Host → Host} (hnone : g none = id) (hf : ∀ a, Returns (f a) (g (some a))) :
    ∀ part, Returns (LinuxIpEngine.teardownPart f part) (g part)
  | none => by rw [hnone]; exact Returns.pure none
  | some a => hf a

theorem report_changes (error : Option IpEngineError) : Changes (match error with
    | some error => throw error
    | none => return : EStateM IpEngineError World Unit) id := by
  cases error with
  | none => exact (Returns.pure ()).changes
  | some error => exact Changes.throw error

/-- **The teardown on the host.**  For any recorded state, whatever its steps come to. -/
theorem teardown_changes (st : ActiveIpState) :
    Changes (env.engine.teardown st) (Host.undo st) := by
  have hdns := teardownPart_returns (g := fun part => Host.undo { dnsOwner := part }) undo_empty
    env.teardownDns_returns st.dnsOwner
  have hipv4 := teardownPart_returns (g := fun part => Host.undo { ipv4 := part }) undo_empty
    env.teardownIpv4_returns st.ipv4
  have hipv6 := teardownPart_returns (g := fun part => Host.undo { ipv6 := part }) undo_empty
    env.teardownIpv6_returns st.ipv6
  rw [undo_parts]
  exact hdns.bind_changes fun e => hipv4.bind_changes fun e' => hipv6.bind_changes fun e'' =>
    report_changes (e <|> e' <|> e'')

end Env

end NetworkManager
