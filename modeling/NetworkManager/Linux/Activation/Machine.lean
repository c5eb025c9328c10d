import NetworkManager.Linux.Activation
import NetworkManager.Linux.IpEngine.Alike
import NetworkManager.Linux.IpEngine.Rollback

/-!
# Linux — Activation — Machine

The machine that the engine of `linux/activation.rs` runs on: the host of the IP backends, and the
rest, to which the supplicant, the secrets and the links belong.  How the host answers is read off
the rest (`Machinery.env`), so it may be different in every activation.

* `Machinery.activate_machine`: what bringing an IP configuration up does to the machine, at any
  moment of its life.
* `Machinery.teardown_machine`: the same for taking one down.
-/

namespace NetworkManager

open Transactions Effects

/-! ### Backends over backends that answer alike -/

section

variable {W W' : Type} {R : W → W' → Prop}

namespace LinuxIpConfigurator

variable {transact : RtnetlinkRequest → EStateM NetlinkError W Unit}
  {transact' : RtnetlinkRequest → EStateM NetlinkError W' Unit}

/-- Configuring is alike where its requests are. -/
theorem configure_alike (haddress : ∀ a, Alike R (transact (.newAddr a)) (transact' (.newAddr a)))
    {default : Option Route}
    (hroute : ∀ r ∈ default, Alike R (transact (.newRoute r)) (transact' (.newRoute r)))
    (index : Int32) (address : IpAddr) (prefixLength : UInt8) :
    Alike R (configure transact index address prefixLength default)
      (configure transact' index address prefixLength default) := by
  refine ((haddress _).adaptExcept _).bind fun _ => ?_
  cases default with
  | none => exact .pure _
  | some route => exact ((hroute route rfl).adaptExcept _).bind fun _ => .pure _

/-- Removing is alike where its requests are. -/
theorem remove_alike (haddress : ∀ a, Alike R (transact (.delAddr a)) (transact' (.delAddr a)))
    {default : Option Route}
    (hroute : ∀ r ∈ default, Alike R (transact (.delRoute r)) (transact' (.delRoute r)))
    (index : Int32) (address : IpAddr) (prefixLength : UInt8) :
    Alike R (remove transact index address prefixLength default)
      (remove transact' index address prefixLength default) := by
  have hremoved : Alike R
      (default.toList.forM fun route => do
        let _ ← (attempt (removeRoute transact route) : EStateM IpConfigError W _))
      (default.toList.forM fun route => do let _ ← attempt (removeRoute transact' route)) := by
    cases default with
    | none => exact .pure _
    | some route =>
        exact ((((hroute route rfl).adaptExcept _).attempt.bind fun _ => .pure _)).bind
          fun _ => .pure _
  exact hremoved.bind fun _ => (haddress _).adaptExcept _

/-- Configuring IPv4 is alike where adding addresses and default routes is. -/
theorem configureIpv4_alike
    (haddress : ∀ a, Alike R (transact (.newAddr a)) (transact' (.newAddr a))) {index : Int32}
    (hroute : ∀ gateway, Alike R (transact (.newRoute (gatewayRouteV4 index gateway)))
      (transact' (.newRoute (gatewayRouteV4 index gateway)))) (config : Ipv4Config) :
    Alike R (configureIpv4 transact index config) (configureIpv4 transact' index config) := by
  have hdefault : ∀ r ∈ config.gateway.map (gatewayRouteV4 index),
      Alike R (transact (.newRoute r)) (transact' (.newRoute r)) := by
    rintro r hr
    obtain ⟨gateway, -, rfl⟩ := Option.map_eq_some_iff.mp hr
    exact hroute gateway
  have hconfigure := configure_alike haddress hdefault index (.v4 config.address)
    config.prefixLength
  unfold configureIpv4
  split
  · exact (Alike.throw _).bind fun _ => hconfigure
  · exact hconfigure

/-- Configuring IPv6 is alike where adding addresses and default routes is. -/
theorem configureIpv6_alike
    (haddress : ∀ a, Alike R (transact (.newAddr a)) (transact' (.newAddr a))) {index : Int32}
    (hroute : ∀ gateway, Alike R (transact (.newRoute (gatewayRouteV6 index gateway)))
      (transact' (.newRoute (gatewayRouteV6 index gateway)))) (config : Ipv6Config) :
    Alike R (configureIpv6 transact index config) (configureIpv6 transact' index config) := by
  have hdefault : ∀ r ∈ config.gateway.map (gatewayRouteV6 index),
      Alike R (transact (.newRoute r)) (transact' (.newRoute r)) := by
    rintro r hr
    obtain ⟨gateway, -, rfl⟩ := Option.map_eq_some_iff.mp hr
    exact hroute gateway
  have hconfigure := configure_alike haddress hdefault index (.v6 config.address)
    config.prefixLength
  unfold configureIpv6
  split
  · exact (Alike.throw _).bind fun _ => hconfigure
  · exact hconfigure

end LinuxIpConfigurator

/-- The operations on two managed files answer alike. -/
structure ManagedFile.Alike (R : W → W' → Prop) (file : ManagedFile W) (file' : ManagedFile W') :
    Prop where
  path : file'.path = file.path
  readToString : Effects.Alike R file.readToString file'.readToString
  writeAtomic (content : String) :
    Effects.Alike R (file.writeAtomic content) (file'.writeAtomic content)
  removeFile : Effects.Alike R file.removeFile file'.removeFile

namespace LinuxDnsManager

variable {file : ManagedFile W} {file' : ManagedFile W'} (h : file.Alike R file')

include h

/-- The owner is read alike. -/
theorem readOwner_alike : Effects.Alike R (readOwner file) (readOwner file') := by
  refine h.readToString.attempt.bind fun answer => ?_
  cases answer with
  | ok content => exact .pure _
  | error err =>
      dsimp only
      split
      · exact .pure _
      · exact .throw _

/-- The owner is checked alike. -/
theorem checkOwner_alike (owner : String) :
    Effects.Alike R (checkOwner file owner) (checkOwner file' owner) := by
  refine (readOwner_alike h).bind fun found => ?_
  cases found with
  | some existing =>
      dsimp only
      rw [h.path]
      split
      · exact .throw _
      · exact .pure _
  | none =>
      refine h.readToString.attempt.bind fun answer => ?_
      cases answer with
      | ok content =>
          dsimp only
          rw [h.path]
          split
          · exact .throw _
          · exact .pure _
      | error err => exact .pure _

/-- The file is written alike. -/
theorem apply_alike (display : IpAddr → String) (owner : String) (config : DnsConfig) :
    Effects.Alike R (apply file display owner config) (apply file' display owner config) := by
  have hwritten : Effects.Alike R (do
        checkOwner file owner
        EStateM.adaptExcept .io (file.writeAtomic (marked display owner config))
        return ({ owner, path := file.path } : DnsOwnership) : EStateM DnsError W DnsOwnership) (do
        checkOwner file' owner
        EStateM.adaptExcept .io (file'.writeAtomic (marked display owner config))
        return ({ owner, path := file'.path } : DnsOwnership)) := by
    rw [h.path]
    exact (checkOwner_alike h owner).bind fun _ => ((h.writeAtomic _).adaptExcept _).bind fun _ =>
      .pure _
  unfold apply
  split
  · exact (Alike.throw _).bind fun _ => hwritten
  · exact hwritten

/-- The file is removed alike. -/
theorem remove_alike (ownership : DnsOwnership) :
    Effects.Alike R (remove file ownership) (remove file' ownership) := by
  refine (readOwner_alike h).bind fun found => ?_
  cases found with
  | none => exact .pure _
  | some existing =>
      dsimp only
      rw [h.path]
      split
      · exact h.removeFile.attempt.bind fun _ => .pure _
      · exact .throw _

end LinuxDnsManager

end

/-! ### The host at a later moment -/

/-- `w'` is `w`, after `n` more forward steps with the journal `js`. -/
def World.Later (n : ℕ) (js : List Item) (w w' : World) : Prop :=
  w' = ⟨w.host, n + w.clock, js ++ w.journal⟩

namespace Env

/-- What the host does not determine, after `n` forward steps. -/
def later (env : Env) (n : ℕ) : Env :=
  { env with fails := fun k => env.fails (n + k), errno := fun k => env.errno (n + k) }

variable (env : Env) (n : ℕ) (js : List Item)

/-- A forward step that is refused changes nothing. -/
theorem forward_of_refused {ε α : Type} {env : Env} {item : Item} {value : α} {error : ε} {w : World}
    (h : (env.fails w.clock || item.clashes w.host) = true) :
    env.forward item value error w = .error error w := by
  have htry : tryOne env.backend item w = (w, false) := if_pos h
  rw [forward, htry]

/-- A forward step that is neither failed nor refused takes place. -/
theorem forward_of_allowed {ε α : Type} {env : Env} {item : Item} {value : α} {error : ε} {w : World}
    (h : ¬ (env.fails w.clock || item.clashes w.host) = true) :
    env.forward item value error w =
      .ok value ⟨item.put w.host, w.clock + 1, w.journal ++ [item]⟩ := by
  have htry : tryOne env.backend item w = (_, true) := if_neg h
  rw [forward, htry]
  rfl

/-- A forward step later in the run is one of the later environment. -/
theorem forward_later {ε α : Type} {x y : EStateM ε World α} (item : Item) (value : α)
    {error error' : World → ε} (hx : ∀ w, x w = (env.later n).forward item value (error w) w)
    (hy : ∀ w, y w = env.forward item value (error' w) w)
    (herror : ∀ w w', World.Later n js w w' → error' w' = error w) :
    Alike (World.Later n js) x y := by
  intro w w' hlater
  have hsame := herror w w' hlater
  subst hlater
  by_cases hstop : (env.fails (n + w.clock) || item.clashes w.host) = true
  · refine Alike.of_error ((hx w).trans (forward_of_refused hstop)) ((hy _).trans ?_) rfl
    rw [hsame]
    exact forward_of_refused hstop
  · refine Alike.of_ok ((hx w).trans (forward_of_allowed hstop))
      ((hy _).trans (forward_of_allowed hstop)) ?_
    show (_ : World) = _
    rw [List.append_assoc]
    rfl

/-- A change of the host is the same later in the run. -/
theorem change_later {ε : Type} (f : Host → Host) :
    Alike (World.Later n js) (change f : EStateM ε World Unit) (change f) := by
  rintro w _ rfl
  exact ⟨rfl, rfl⟩

/-- A request is the same later in the run. -/
theorem transact_later (request : RtnetlinkRequest) :
    Alike (World.Later n js) ((env.later n).transact request) (env.transact request) := by
  cases request with
  | newAddr a =>
      refine env.forward_later n js (.address a) () (fun _ => rfl) (fun _ => rfl) ?_
      rintro w _ rfl
      rfl
  | newRoute r =>
      refine env.forward_later n js (.route r) () (fun _ => rfl) (fun _ => rfl) ?_
      rintro w _ rfl
      rfl
  | delAddr a =>
      rintro w _ rfl
      by_cases ha : a ∈ w.host.addresses
      · exact Alike.of_ok (if_pos ha) (if_pos ha) rfl
      · exact Alike.of_error (if_neg ha) (if_neg ha) rfl
  | delRoute r =>
      rintro w _ rfl
      by_cases hr : w.host.routes.Deletable r
      · exact Alike.of_ok (if_pos hr) (if_pos hr) rfl
      · exact Alike.of_error (if_neg hr) (if_neg hr) rfl

/-- The managed file is the same later in the run. -/
theorem managedFile_later :
    (env.later n).managedFile.Alike (World.Later n js) env.managedFile where
  path := rfl
  readToString := by
    rintro w _ rfl
    cases hfile : w.host.resolvConf with
    | absent | undecodable bytes =>
        exact Alike.of_error (by simp only [managedFile, hfile]; rfl)
          (by simp only [managedFile, hfile]) rfl
    | text content =>
        exact Alike.of_ok (by simp only [managedFile, hfile]; rfl)
          (by simp only [managedFile, hfile]) rfl
  writeAtomic content := by
    rintro w _ rfl
    by_cases hfail : env.fails (n + w.clock) = true
    · exact Alike.of_error (if_pos hfail) (if_pos hfail) rfl
    · refine Alike.of_ok (if_neg hfail) (if_neg hfail) ?_
      show (_ : World) = _
      rw [List.append_assoc]
      rfl
  removeFile := change_later n js fun h => { h with resolvConf := .absent }

/-- The engine over the host of a later moment. -/
theorem engine_later : LinuxIpEngine.Alike (World.Later n js) (env.later n).engine env.engine where
  configureIpv4 _ := LinuxIpConfigurator.configureIpv4_alike
    (fun a => env.transact_later n js (.newAddr a)) fun _ => env.transact_later n js _
  removeIpv4 _ _ := LinuxIpConfigurator.remove_alike
    (fun a => env.transact_later n js (.delAddr a)) (fun r _ => env.transact_later n js _) _ _ _
  configureIpv6 _ := LinuxIpConfigurator.configureIpv6_alike
    (fun a => env.transact_later n js (.newAddr a)) fun _ => env.transact_later n js _
  removeIpv6 _ _ := LinuxIpConfigurator.remove_alike
    (fun a => env.transact_later n js (.delAddr a)) (fun r _ => env.transact_later n js _) _ _ _
  addRoute route := (env.transact_later n js (.newRoute route)).adaptExcept _
  removeRoute route := (env.transact_later n js (.delRoute route)).adaptExcept _
  acquire request := env.forward_later n js (.lease (env.grant request)) (env.grant request)
    (fun _ => rfl) (fun _ => rfl) fun _ _ _ => rfl
  release lease := change_later n js fun h => { h with leases := h.leases.erase lease.record }
  apply owner config :=
    LinuxDnsManager.apply_alike (env.managedFile_later n js) env.display owner config
  remove ownership := LinuxDnsManager.remove_alike (env.managedFile_later n js) ownership
  getAddresses := by
    rintro w _ rfl
    have hsame : (env.later n).observed = env.observed := rfl
    cases hobserved : env.observed with
    | ok addresses =>
        exact Alike.of_ok (by simp only [engine, hsame, hobserved]; rfl)
          (by simp only [engine, hobserved]) rfl
    | error e =>
        exact Alike.of_error (by simp only [engine, hsame, hobserved]; rfl)
          (by simp only [engine, hobserved]) rfl

end Env

/-! ### The machine -/

/-- The host, and the rest of the machine. -/
structure Machine (U : Type) where
  world : World
  rest : U

namespace Machine

variable {U ε α : Type}

/-- A call of the rest of the machine. -/
def onRest (x : EStateM ε U α) : EStateM ε (Machine U) α :=
  zoom Machine.rest (fun rest m => { m with rest }) x

/-- The machine `m` has the rest `u`, and its host is that of `w` at a later moment. -/
def Shows (u : U) (n : ℕ) (js : List Item) (w : World) (m : Machine U) : Prop :=
  m.rest = u ∧ World.Later n js w m.world

end Machine

open Machine (onRest)

/-- What the engine is made of: how the host answers, and what there is besides it. -/
structure Machinery (U : Type) where
  env : U → Env
  control : SupplicantControl U
  secrets : SecretProvider U
  timeout : ℕ := 30000
  getLinks : EStateM NetlinkError U (List Link)

namespace Machinery

variable {U ε α : Type} (machinery : Machinery U)

/-- A computation on the host, which answers as the rest of the machine has it. -/
def onHost (x : LinuxIpEngine World → EStateM ε World α) : EStateM ε (Machine U) α := fun m =>
  zoom Machine.world (fun world m => { m with world }) (x (machinery.env m.rest).engine) m

/-- The IP engine over the host of the machine. -/
def ipEngine : LinuxIpEngine (Machine U) where
  ip := {
    configureIpv4 := fun index config =>
      machinery.onHost fun engine => engine.ip.configureIpv4 index config
    removeIpv4 := fun index config =>
      machinery.onHost fun engine => engine.ip.removeIpv4 index config
    configureIpv6 := fun index config =>
      machinery.onHost fun engine => engine.ip.configureIpv6 index config
    removeIpv6 := fun index config =>
      machinery.onHost fun engine => engine.ip.removeIpv6 index config
    addRoute := fun route => machinery.onHost fun engine => engine.ip.addRoute route
    removeRoute := fun route => machinery.onHost fun engine => engine.ip.removeRoute route }
  dhcp := {
    acquire := fun request => machinery.onHost fun engine => engine.dhcp.acquire request
    release := fun lease => machinery.onHost fun engine => engine.dhcp.release lease }
  dns := {
    apply := fun owner config => machinery.onHost fun engine => engine.dns.apply owner config
    remove := fun ownership => machinery.onHost fun engine => engine.dns.remove ownership }
  getAddresses := machinery.onHost fun engine => engine.getAddresses

/-- The control of the supplicant, on the rest of the machine. -/
def machineControl : SupplicantControl (Machine U) where
  ifname := machinery.control.ifname
  addNetwork ssid keyMgmt passphrase identity bssid hidden :=
    onRest (machinery.control.addNetwork ssid keyMgmt passphrase identity bssid hidden)
  selectNetwork networkPath := onRest (machinery.control.selectNetwork networkPath)
  removeNetwork networkPath := onRest (machinery.control.removeNetwork networkPath)
  disconnect := onRest machinery.control.disconnect
  waitForCompleted timeout := onRest (machinery.control.waitForCompleted timeout)

/-- The engine of `linux/activation.rs` on the machine. -/
def engine : LinuxActivationEngine (Machine U) where
  supplicant := {
    control := machinery.machineControl
    secrets := fun reference => onRest (machinery.secrets reference)
    timeout := machinery.timeout }
  ip := machinery.ipEngine
  getLinks := onRest machinery.getLinks

/-- A call on the machine is the call on the host as the environment is by then. -/
theorem onHost_later {n : ℕ} {js : List Item} {u : U} (x : LinuxIpEngine World → EStateM ε World α)
    (h : LinuxIpEngine.Alike (World.Later n js) ((machinery.env u).later n).engine
        (machinery.env u).engine → Effects.Alike (World.Later n js)
          (x ((machinery.env u).later n).engine) (x (machinery.env u).engine)) :
    Effects.Alike (Machine.Shows u n js) (x ((machinery.env u).later n).engine)
      (machinery.onHost x) := by
  rintro w m ⟨rfl, hlater⟩
  have halike := h ((machinery.env m.rest).engine_later n js)
  obtain ⟨a, w', w'', hx, hy, hlater'⟩ | ⟨e, w', w'', hx, hy, hlater'⟩ := halike.both hlater
  · exact Alike.of_ok hx (zoom_of_ok hy) ⟨rfl, hlater'⟩
  · exact Alike.of_error hx (zoom_of_error hy) ⟨rfl, hlater'⟩

/-- The engine over a fresh host answers as the one over the machine. -/
theorem ipEngine_later (u : U) (n : ℕ) (js : List Item) :
    LinuxIpEngine.Alike (Machine.Shows u n js) ((machinery.env u).later n).engine
      machinery.ipEngine where
  configureIpv4 index config := machinery.onHost_later
    (fun engine => engine.ip.configureIpv4 index config) fun h => h.configureIpv4 index config
  removeIpv4 index config := machinery.onHost_later
    (fun engine => engine.ip.removeIpv4 index config) fun h => h.removeIpv4 index config
  configureIpv6 index config := machinery.onHost_later
    (fun engine => engine.ip.configureIpv6 index config) fun h => h.configureIpv6 index config
  removeIpv6 index config := machinery.onHost_later
    (fun engine => engine.ip.removeIpv6 index config) fun h => h.removeIpv6 index config
  addRoute route := machinery.onHost_later (fun engine => engine.ip.addRoute route)
    fun h => h.addRoute route
  removeRoute route := machinery.onHost_later (fun engine => engine.ip.removeRoute route)
    fun h => h.removeRoute route
  acquire request := machinery.onHost_later (fun engine => engine.dhcp.acquire request)
    fun h => h.acquire request
  release lease := machinery.onHost_later (fun engine => engine.dhcp.release lease)
    fun h => h.release lease
  apply owner config := machinery.onHost_later (fun engine => engine.dns.apply owner config)
    fun h => h.apply owner config
  remove ownership := machinery.onHost_later (fun engine => engine.dns.remove ownership)
    fun h => h.remove ownership
  getAddresses := machinery.onHost_later (fun engine => engine.getAddresses) fun h => h.getAddresses

/-- Any machine is a fresh world's at a later moment. -/
theorem shows_start (m : Machine U) :
    m.Shows m.rest m.world.clock m.world.journal (.start m.world.host) :=
  ⟨rfl, by rw [World.Later, World.start, Nat.add_zero, List.append_nil]⟩

/-- `activate` of the IP engine, with the parts of a request. -/
def activateIp (req : IpRequest) :
    EStateM IpEngineError (Machine U) (ActivationOutcome × ActiveIpState) :=
  machinery.ipEngine.activate req.interfaceIndex req.interfaceName req.ipv4 req.ipv6 req.dnsOwner

/-- **Bringing up.**  Some of the steps that the request plans go through.  If all do, they stay, and
the engine holds what covers them; otherwise what it recorded is undone. -/
theorem activate_machine {req : IpRequest} (hv : req.Valid) (m : Machine U) :
    let env := machinery.env m.rest
    ∃ gs clock, gs <+: req.forwardSteps env ∧
      ((∃ outcome, machinery.activateIp req m = .ok (outcome, req.recorded env gs)
        ⟨⟨m.world.host.putAll gs, clock, m.world.journal ++ gs⟩, m.rest⟩) ∨
      ∃ e, machinery.activateIp req m = .error e
        ⟨⟨(m.world.host.putAll gs).undo (req.recorded env gs), clock, m.world.journal ++ gs⟩,
          m.rest⟩) := by
  intro env
  -- a machine that has run before is a new one whose failures come later
  let later := env.later m.world.clock
  have halike : Alike (Machine.Shows m.rest m.world.clock m.world.journal) (later.activate req)
      (machinery.activateIp req) :=
    LinuxIpEngine.activate_alike (machinery.ipEngine_later m.rest m.world.clock m.world.journal)
      _ _ _ _ _
  obtain ⟨c, hall, hcut⟩ := later.activate_eq hv m.world.host
  refine ⟨granted later.backend m.world.host 0 (req.forwardSteps later), m.world.clock + c,
    granted_isPrefix _ _ _, ?_⟩
  by_cases hgs : granted later.backend m.world.host 0 (req.forwardSteps later) =
      req.forwardSteps later
  · obtain ⟨outcome, hrun⟩ := hall hgs
    obtain ⟨a, w', m', hx, hy, hrest, hlater⟩ | ⟨e, w', m', hx, -⟩ := halike.both (shows_start m)
    · rw [hrun] at hx
      cases hx
      obtain ⟨world, rest⟩ := m'
      subst hrest hlater
      exact .inl ⟨outcome, hy⟩
    · rw [hrun] at hx
      cases hx
  · obtain ⟨e, hrun⟩ := hcut hgs
    obtain ⟨a, w', m', hx, -⟩ | ⟨e', w', m', hx, hy, hrest, hlater⟩ := halike.both (shows_start m)
    · rw [hrun] at hx
      cases hx
    · rw [hrun] at hx
      cases hx
      obtain ⟨world, rest⟩ := m'
      subst hrest hlater
      exact .inr ⟨e, hy⟩

/-- **Taking down.**  What was recorded is undone, whatever the steps come to. -/
theorem teardown_machine (st : ActiveIpState) (m : Machine U) :
    after (machinery.ipEngine.teardown st) m =
      ⟨{ m.world with host := m.world.host.undo st }, m.rest⟩ := by
  let later := (machinery.env m.rest).later m.world.clock
  have halike : Alike (Machine.Shows m.rest m.world.clock m.world.journal) (later.engine.teardown st)
      (machinery.ipEngine.teardown st) :=
    LinuxIpEngine.teardown_alike (machinery.ipEngine_later m.rest m.world.clock m.world.journal) st
  obtain ⟨-, hrest, hlater⟩ := halike _ m (shows_start m)
  rw [settle_snd] at hrest hlater
  rw [settle_snd, later.teardown_changes st] at hlater
  have hworld : (after (machinery.ipEngine.teardown st) m).world =
      { m.world with host := m.world.host.undo st } := by
    rw [hlater]
    simp [World.start]
  cases hm : after (machinery.ipEngine.teardown st) m
  rw [hm] at hrest hworld
  subst hrest hworld
  rfl

end Machinery

end NetworkManager
