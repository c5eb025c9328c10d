import NetworkManager.Connection.Activation.Heads
import NetworkManager.Dbus.Facade.Handlers

/-!
# Dbus — Facade — Reports

What the root object and the device objects report of the tracked connections.  The root looks at
the first entry, and a device at the first entry on its interface, whatever state it is in.

* `Shared.run_performs`: the manager behind the facade is always one that calls of the manager lead
  to, so that what holds after all of these holds behind the facade.
* `Shared.honest_iff`, `Shared.follows_iff`: when the reports are right, by the entries.
* `RootIface.daemon_state_honest_iff`, `DeviceIface.device_state_follows_iff`: the runs in which
  they always are.
-/

namespace NetworkManager

open Effects Shared ActivationManager

variable {S E V : Type}

/-! ### The manager behind the facade -/

/-- Calls of the manager lead from one daemon to the other. -/
def Daemon.Performs (engine : ActivationEngine E) (d d' : Daemon S E) : Prop :=
  ∃ ops : List Operation,
    d'.activation = ops.foldl (fun m op => after (op.perform engine) m) d.activation

/-- The same for what is behind the facade. -/
def Shared.Performs (engine : ActivationEngine E) (s t : Shared S E) : Prop :=
  s.daemon.Performs engine t.daemon

section

variable {engine : ActivationEngine E}

theorem Daemon.Performs.refl (d : Daemon S E) : d.Performs engine d := ⟨[], rfl⟩

/-- Operations can be performed one after another. -/
theorem Daemon.Performs.trans {d d' d'' : Daemon S E} (h : d.Performs engine d')
    (h' : d'.Performs engine d'') : d.Performs engine d'' := by
  obtain ⟨ops, hops⟩ := h
  obtain ⟨ops', hops'⟩ := h'
  exact ⟨ops ++ ops', by rw [hops', hops, List.foldl_append]⟩

instance : Std.Refl (Shared.Performs (S := S) engine) := ⟨fun s => .refl s.daemon⟩

instance : IsTrans (Shared S E) (Shared.Performs engine) := ⟨fun _ _ _ h h' => h.trans h'⟩

/-- What keeps the daemon performs nothing. -/
theorem performs_of_domain {s t : Shared S E} (h : Same domain s t) : s.Performs engine t := by
  have hdaemon : t.daemon = s.daemon := congrArg Prod.fst h
  rw [Shared.Performs, hdaemon]
  exact .refl _

/-- A call of the manager performs its operation. -/
theorem Daemon.onActivation_performs {ε α : Type} {x : EStateM ε (ActivationManager E) α}
    (op : Operation) (hx : ∀ m, after (op.perform engine) m = after x m) :
    Keeps (Daemon.Performs (S := S) engine) (onActivation x) := fun d => by
  refine ⟨[op], ?_⟩
  rw [onActivation, after_zoom]
  exact (hx d.activation).symm

/-- What the daemon performs, the facade does. -/
theorem onManager_performs {α : Type} {x : EStateM ActivationError (Daemon S E) α}
    (hx : Keeps (Daemon.Performs engine) x) : Keeps (Shared.Performs engine) (onManager x) := by
  refine Keeps.adaptExcept fun s => ?_
  rw [onDaemon, Shared.Performs, after_zoom]
  exact hx s.daemon

end

section

variable (svc : Services S E V) (env : Environment)

/-- Activating performs one operation. -/
theorem activate_performs (settings : SettingsDict V) (device : String) :
    Keeps (Shared.Performs svc.engine) (RootIface.activate svc env settings device) := by
  refine (Keeps.ofExcept _).bind fun info => ?_
  split
  · refine onManager_performs (.get_bind fun d => ?_)
    exact Daemon.onActivation_performs (.activate (svc.store.view d.profiles) info) fun m =>
      after_bind_of_still (fun _ _ => rfl) m
  · refine (Keeps.ofExcept _).bind fun profile => onManager_performs (.get_bind fun d => ?_)
    exact Daemon.onActivation_performs
      (.activateProfile (svc.store.view d.profiles) profile.id info) fun m =>
        after_bind_of_still (fun _ _ => rfl) m

/-- Deactivating performs one operation. -/
theorem deactivate_performs (id : ActiveConnectionId) :
    Keeps (Shared.Performs (S := S) svc.engine) (onManager (Daemon.deactivate svc.engine id)) :=
  onManager_performs (Daemon.onActivation_performs (.deactivate id) fun m =>
    after_bind_of_still (fun _ _ => rfl) m)

/-- Mirroring the events performs the drain. -/
theorem emitConnectionEvents_performs :
    Keeps (Shared.Performs (S := S) svc.engine) (emitConnectionEvents env) := by
  refine Keeps.bind (onManager_performs (Daemon.onActivation_performs .drainEvents fun m =>
    after_bind_of_still (fun _ _ => rfl) m)) fun events => ?_
  refine .mono (fun _ _ => performs_of_domain) (Keeps.bind ?_ fun _ => ?_)
  · exact .foldlM (mirrorEvent_keeps env) ∅ events
  · exact emitRootStateIfChanged_keeps env

theorem announce_performs (active : ActiveConnection) :
    Keeps (Shared.Performs (S := S) svc.engine) (RootIface.announce env active) := by
  refine Keeps.bind ?_ fun _ => Keeps.bind ?_ fun _ =>
    (emitConnectionEvents_performs svc env).bind fun _ => .pure _
  · exact .mono (fun _ _ => performs_of_domain)
      (registerActiveConnectionObject_keeps env _).adaptExcept
  · exact .mono (fun _ _ => performs_of_domain) (emit_domain env _)

/-- The handlers do nothing to the manager but operations. -/
theorem managed_performs : Managed (S := S) svc env (Shared.Performs svc.engine) where
  asked s _ := .refl s.daemon
  stored s _ := .refl s.daemon
  connected s _ := .refl s.daemon
  requested r _ := .mono (fun _ _ h => performs_of_domain (domain_of_core h)) (request_keeps env r)
  activated := activate_performs svc env
  announced := announce_performs svc env
  deactivated := deactivate_performs svc
  mirrored := emitConnectionEvents_performs svc env

/-- Every method performs operations of the manager. -/
theorem Method.performs (m : Method V) (sender : Option String) :
    Keeps (Shared.Performs (S := S) svc.engine) (m.perform svc env sender) :=
  m.keeps_of_managed (managed_performs svc env) sender fun _ _ =>
    .mono (fun _ _ => performs_of_domain) (emit_domain env _)

end

/-- The manager after a run is the one after its operations. -/
theorem History.manager_foldl (engine : ActivationEngine E) (h : History E)
    (ops : List Operation) : (ops.foldl (History.step engine) h).manager =
      ops.foldl (fun m op => after (op.perform engine) m) h.manager := by
  induction ops generalizing h with
  | nil => rfl
  | cons op ops ih => rw [List.foldl_cons, ih, List.foldl_cons, History.step, settle_snd]

/-- Behind the facade is always a manager that a run of calls leads to. -/
theorem Shared.run_performs (svc : Services S E V) (e : E) (ops : List Operation) {s : Shared S E}
    (hs : s.daemon.activation = (History.run svc.engine e ops).manager)
    (calls : List (MethodCall V)) :
    ∃ ops', (run svc s calls).daemon.activation = (History.run svc.engine e ops').manager := by
  have hrun : s.Performs svc.engine (run svc s calls) := by
    refine List.foldlRecOn calls (step svc) (motive := s.Performs svc.engine) (.refl s.daemon) ?_
    exact fun t ht call _ => ht.trans (call.method.performs svc call.env call.sender t)
  obtain ⟨ops', hops'⟩ := hrun
  refine ⟨ops ++ ops', ?_⟩
  rw [hops', hs, History.run_append, History.manager_foldl]

/-! ### The root object -/

/-- Paths of different connections differ. -/
theorem activePath_injective : Function.Injective activePath := by
  intro id id' h
  have hvalue : toString id.value = toString id'.value :=
    (String.append_right_inj activePrefix).mp h
  have hid : id.value = id'.value := Nat.repr_injective hvalue
  cases id
  cases id'
  exact congrArg _ hid

/-- The root object reports a connection exactly if one is activated, and its primary connection,
if it names one, is an activated one. -/
def Shared.Honest (s : Shared S E) : Prop :=
  (RootIface.nmState s = nmStateConnectedGlobal ↔ AnyUp s.daemon.activeConnections) ∧
  (currentNmState s.daemon = nmStateConnectedGlobal ↔ AnyUp s.daemon.activeConnections) ∧
  (RootIface.checkConnectivity s = nmConnectivityFull ↔ AnyUp s.daemon.activeConnections) ∧
  ∀ env, RootIface.primaryConnection env s ≠ rootObjectPath →
    ∃ a ∈ s.daemon.activeConnections, a.state = .activated ∧
      RootIface.primaryConnection env s = activePath a.id

section

variable {s : Shared S E} {env : Environment} {a : ActiveConnection}
  {rest : List ActiveConnection}

/-- The network is told to be connected as soon as anything is tracked. -/
theorem nmState_eq_global : RootIface.nmState s = nmStateConnectedGlobal ↔
    s.daemon.activeConnections ≠ [] := by
  rw [RootIface.nmState]
  split
  · next hempty => exact iff_of_false (by decide) (not_not_intro hempty)
  · next hany => exact iff_of_true rfl hany

theorem currentNmState_eq (s : Shared S E) : currentNmState s.daemon = RootIface.nmState s := rfl

/-- Connectivity is told to be full as soon as anything is tracked. -/
theorem checkConnectivity_eq_full : RootIface.checkConnectivity s = nmConnectivityFull ↔
    s.daemon.activeConnections ≠ [] := by
  rw [RootIface.checkConnectivity]
  split
  · next hempty => exact iff_of_false (by decide) (not_not_intro hempty)
  · next hany => exact iff_of_true rfl hany

/-- The primary connection is the first one, if it has a path. -/
theorem primaryConnection_of_cons (h : s.daemon.activeConnections = a :: rest)
    (hprimary : RootIface.primaryConnection env s ≠ rootObjectPath) :
    RootIface.primaryConnection env s = activePath a.id := by
  rw [RootIface.primaryConnection, h] at hprimary ⊢
  cases hbus : env.bus (.ownedPath (activePath a.id)) with
  | ok u => simp [Environment.ownedPath, hbus, Except.map, Except.toOption]
  | error e => simp [Environment.ownedPath, hbus, Except.map, Except.toOption] at hprimary

/-- The primary connection is the first one. -/
theorem primaryConnection_up (hup : env.BusUp) (h : s.daemon.activeConnections = a :: rest) :
    RootIface.primaryConnection env s = activePath a.id := by
  rw [RootIface.primaryConnection, h]
  simp [Environment.ownedPath, hup _, Except.map, Except.toOption]

/-- No active connection is at the root. -/
theorem activePath_ne_root (id : ActiveConnectionId) : activePath id ≠ rootObjectPath := by
  intro h
  have hlength := congrArg String.length h
  rw [activePath, String.length_append] at hlength
  have hprefix : 1 < activePrefix.length := by decide
  have hroot : rootObjectPath.length = 1 := rfl
  omega

/-- The root object is right exactly if the first entry is an activated one. -/
theorem Shared.honest_iff (hdistinct : (s.daemon.activeConnections.map (·.id)).Nodup) :
    s.Honest ↔ HeadUp s.daemon.activeConnections := by
  rw [Honest, currentNmState_eq, nmState_eq_global, checkConnectivity_eq_full]
  cases hactive : s.daemon.activeConnections with
  | nil =>
      have hnone : ¬ AnyUp [] := by simp [AnyUp]
      refine iff_of_true ⟨by simp [hnone], by simp [hnone], by simp [hnone], fun env h => ?_⟩
        (by simp [HeadUp])
      exact absurd (by rw [RootIface.primaryConnection, hactive]; rfl) h
  | cons a rest =>
      have hany : a :: rest ≠ [] := by simp
      simp only [ne_eq, hany, not_false_eq_true, true_iff]
      constructor
      · rintro ⟨-, -, -, hprimary⟩ b ⟨⟩
        -- a bus that owns every path names the first connection
        let env : Environment := ⟨⟨.ok [], .ok [], .ok []⟩, allowAllAuthorization, fun _ => .ok ()⟩
        have hpath : RootIface.primaryConnection env s = activePath a.id :=
          primaryConnection_up (fun _ => rfl) hactive
        obtain ⟨b, hb, hup, hname⟩ := hprimary env (by rw [hpath]; exact activePath_ne_root a.id)
        have hid : a.id = b.id := activePath_injective (hpath.symm.trans hname)
        rw [hactive] at hdistinct
        rwa [List.inj_on_of_nodup_map hdistinct List.mem_cons_self hb hid]
      · intro hup
        have ha : a.state = .activated := hup a rfl
        have hanyUp : AnyUp (a :: rest) := ⟨a, List.mem_cons_self, ha⟩
        exact ⟨hanyUp, hanyUp, hanyUp, fun env h => ⟨a, List.mem_cons_self, ha,
          primaryConnection_of_cons hactive h⟩⟩

end

section

variable (engine : ActivationEngine E) (e : E) (ops : List Operation)

/-- At every state of a run, the manager tracks its connections in order. -/
theorem always_tracks : Runs.Always (History.step engine) (fun h => h.manager.Tracks)
    ⟨ActivationManager.new e, []⟩ ops := fun earlier _ => History.run_tracks engine e earlier

/-- The engine calls of a step are those of its operation. -/
theorem engineCalls_step (h : History E) (op : Operation) :
    (History.step engine h op).manager.calls.drop h.manager.calls.length =
      ActivationManager.engineCalls engine h.manager op := by
  rw [History.step, settle_snd, ActivationManager.engineCalls]

/-- **Daemon-wide state.**  In every run of the manager, the root object is right in all states
exactly if every engine call of the run left an activated entry first: no activation is refused
while nothing is tracked, the first connection's deactivation is not refused, and once it has been
deactivated, the next one is activated if there is one. -/
theorem RootIface.daemon_state_honest_iff (profiles : S) :
    Runs.Always (History.step engine)
        (fun h => ∀ s : Shared S E, s.daemon = ⟨profiles, h.manager⟩ → s.Honest)
        ⟨ActivationManager.new e, []⟩ ops ↔
      Runs.Throughout (History.step engine)
        (fun h op => ∀ c ∈ engineCalls engine h.manager op, LeavesHeadUp h.manager.active c)
        ⟨ActivationManager.new e, []⟩ ops := by
  -- on a state of the manager, being right is a fact about the list of connections
  have hstate : ∀ h : History E, h.manager.Tracks →
      ((∀ s : Shared S E, s.daemon = ⟨profiles, h.manager⟩ → s.Honest) ↔
        HeadUp h.manager.active) := by
    intro h htracks
    constructor
    · intro hs
      let s : Shared S E := { daemon := ⟨profiles, h.manager⟩ }
      exact (honest_iff (s := s) htracks.distinct).mp (hs s rfl)
    · rintro hup s hs
      have hactive : s.daemon.activeConnections = h.manager.active := by rw [hs]; rfl
      rw [honest_iff (by rw [hactive]; exact htracks.distinct), hactive]
      exact hup
  refine Runs.always_iff (always_tracks engine e ops) ?_ fun h op _ htracks hs => ?_
  · exact (hstate _ (tracks_new e)).mpr (by simp [HeadUp, ActivationManager.new])
  · have hmove := perform_moves engine h.manager op
    have hnext : (History.step engine h op).manager.Tracks := htracks.moves hmove
    rw [hstate _ hnext, ← engineCalls_step]
    exact headUp_moves htracks ((hstate h htracks).mp hs) hmove

/-- A single refused activation makes the root object report a connection. -/
theorem RootIface.refused_activation_reports_connected :
    ¬ ∀ (S E : Type) (engine : ActivationEngine E) (e : E) (ops : List Operation) (s : Shared S E),
      s.daemon.activation = (History.run engine e ops).manager → s.Honest := by
  intro hall
  obtain ⟨hstate, -⟩ := hall Unit _ Sample.scripted [.error (.engine "busy")]
    [.activateProfile Sample.store "wired" Sample.device] { daemon := ⟨(), _⟩ } rfl
  obtain ⟨a, ha, hup⟩ := hstate.mp (by decide)
  have hactive : a = ⟨⟨1⟩, Sample.profile, Sample.device, .failed, {}⟩ := List.mem_singleton.mp ha
  rw [hactive] at hup
  cases hup

end

/-! ### The device objects -/

/-- Disconnecting the device asks the engine to deactivate the connection, which is gone if the
engine did. -/
def DeviceIface.Deactivates (svc : Services S E V) (env : Environment) (index : Int32)
    (sender : Option String) (s : Shared S E) (id : ActiveConnectionId) : Prop :=
  let t := after (DeviceIface.disconnect svc env index sender) s
  ∃ answer, t.daemon.activation.calls = s.daemon.activation.calls ++ [⟨id, .deactivate, answer⟩] ∧
    (answer = .ok () → ∀ b ∈ t.daemon.activeConnections, b.id ≠ id)

/-- Every device is reported as activated exactly if a connection on its interface is, and then
names such a connection, which whoever may control the network can disconnect. -/
def Shared.Follows (svc : Services S E V) (s : Shared S E) : Prop :=
  ∀ (env : Environment) (sender : Option String) (index : Int32) (view : DeviceView), env.BusUp →
    env.backend.deviceView index = .ok view →
    (DeviceIface.currentState env index s = .ok nmDeviceStateActivated ↔
      AnyUp (on view.interface s.daemon.activeConnections)) ∧
    (AnyUp (on view.interface s.daemon.activeConnections) →
      ∃ a ∈ on view.interface s.daemon.activeConnections, a.state = .activated ∧
        DeviceIface.activeConnection env index s = .ok (activePath a.id) ∧
        (env.authorization (.fromSender sender) actionNetworkControl = .ok .yes →
          DeviceIface.Deactivates svc env index sender s a.id))

section

variable {svc : Services S E V} {s : Shared S E} {env : Environment} {index : Int32}
  {view : DeviceView} {a : ActiveConnection}

/-- The connection of a device is the first one on its interface. -/
theorem deviceActive_eq (s : Shared S E) (interface : String) :
    s.deviceActive interface = (on interface s.daemon.activeConnections).head? :=
  List.head?_filter.symm

/-- The state of a device is that of its first connection. -/
theorem currentState_of_view (h : env.backend.deviceView index = .ok view) :
    DeviceIface.currentState env index s =
      .ok (view.stateWith (on view.interface s.daemon.activeConnections).head?) := by
  rw [DeviceIface.currentState, DeviceIface.active, h, ← deviceActive_eq]
  rfl

/-- The path of a device's connection is that of the first one. -/
theorem activeConnection_of_view (hup : env.BusUp) (h : env.backend.deviceView index = .ok view)
    (hfirst : (on view.interface s.daemon.activeConnections).head? = some a) :
    DeviceIface.activeConnection env index s = .ok (activePath a.id) := by
  rw [DeviceIface.activeConnection, DeviceIface.active, h]
  show Except.ok (((s.deviceActive view.interface).map fun active =>
    ((env.ownedPath (activePath active.id)).toOption).getD rootObjectPath).getD rootObjectPath) = _
  rw [deviceActive_eq, hfirst]
  simp [Environment.ownedPath, hup _, Except.map, Except.toOption]

/-- The first connection of an interface is on it. -/
theorem interfaceName_of_first {interface : String} {active : List ActiveConnection}
    (h : (on interface active).head? = some a) : a.device.interfaceName = interface := by
  simpa using (List.mem_filter.mp (List.mem_of_head? h)).2

/-- A device is told to be activated exactly if its first connection is. -/
theorem stateWith_eq_activated {active : List ActiveConnection} :
    view.stateWith (on view.interface active).head? = nmDeviceStateActivated ↔
      ∃ a ∈ (on view.interface active).head?, a.state = .activated := by
  cases hfirst : (on view.interface active).head? with
  | none =>
      refine iff_of_false ?_ (by simp)
      rw [DeviceView.stateWith]
      split
      · next h => cases h
      · split <;> decide
  | some a =>
      have hon := interfaceName_of_first hfirst
      rw [DeviceView.stateWith]
      by_cases hstate : a.state = .activated
      · rw [if_pos (by simp [hon, hstate])]
        exact iff_of_true rfl ⟨a, rfl, hstate⟩
      · rw [if_neg (by simp [hstate])]
        refine iff_of_false ?_ (by simp [hstate])
        split <;> decide

/-- The connection that is required is the first one of the interface. -/
theorem requireActive_of_view (h : env.backend.deviceView index = .ok view)
    (hfirst : (on view.interface s.daemon.activeConnections).head? = some a) :
    DeviceIface.requireActive env index s = .ok a s := by
  rw [requireActive_eq h, deviceActive_eq, hfirst]
  rfl

/-- Disconnecting a device whose first connection is activated. -/
theorem disconnect_deactivates (hup : env.BusUp) (htracks : s.daemon.activation.Tracks)
    (h : env.backend.deviceView index = .ok view)
    (hfirst : (on view.interface s.daemon.activeConnections).head? = some a)
    (hstate : a.state = .activated) (sender : Option String)
    (hyes : env.authorization (.fromSender sender) actionNetworkControl = .ok .yes) :
    DeviceIface.Deactivates svc env index sender s a.id := by
  have hmem : a ∈ s.daemon.activation.active :=
    (List.mem_filter.mp (List.mem_of_head? hfirst)).1
  have hfind := find_tracked htracks hmem
  obtain ⟨before, rest, hsplit, -, hindex⟩ := find_split hfind
  let s' := s.asked [env.check sender actionNetworkControl]
  have hrequire : DeviceIface.requireActive env index s' = .ok a s' := requireActive_of_view h hfirst
  have hdisconnect : DeviceIface.disconnect svc env index sender s = (do
      onManager (Daemon.deactivate svc.engine a.id)
      emitConnectionEvents env : Handler S E Unit) s' := by
    rw [DeviceIface.disconnect, bind_of_ok (authorize_of_yes s hyes), bind_of_ok hrequire]
  rw [DeviceIface.Deactivates, after_congr hdisconnect]
  cases hengine : svc.engine.deactivate a.profile s.daemon.activation.engine with
  | ok u e =>
      have hmanager : onManager (Daemon.deactivate svc.engine a.id) s' = .ok () _ :=
        onManager_of_ok (deactivate_of_ok hsplit hfind hindex hstate hengine)
      obtain ⟨t, ht, hcore⟩ := emitConnectionEvents_up hup (s'.withActivation _)
      have hdaemon := (core_eq.mp hcore).1
      rw [after_of_ok ((bind_of_ok hmanager).trans ht)]
      -- ids are distinct, so no tracked connection has the id any more
      refine ⟨.ok (), by rw [hdaemon]; rfl, fun _ b hb => ?_⟩
      rw [hdaemon] at hb
      have hdistinct := htracks.distinct
      rw [hsplit] at hdistinct
      exact id_ne_of_split hdistinct b hb
  | error err e =>
      have hmanager : onManager (Daemon.deactivate svc.engine a.id) s' = .error _ _ :=
        onManager_of_error (deactivate_of_error hsplit hfind hindex hstate hengine)
      rw [after_of_error (bind_of_error hmanager)]
      exact ⟨.error err, rfl, by simp⟩

/-- One wired link with index 1 and this name, and a bus that refuses nothing. -/
def wired (interface : String) : Environment :=
  ⟨⟨.ok [⟨1, interface, 0⟩], .ok [], .ok []⟩, allowAllAuthorization, fun _ => .ok ()⟩

/-- The wired device is seen. -/
theorem deviceView_wired (interface : String) :
    (wired interface).backend.deviceView 1 = .ok ⟨1, interface, .ethernet, none, false⟩ := by
  have hlinks : [⟨1, interface, 0⟩].foldl DeviceView.addLink [] =
      [⟨1, interface, .ethernet, none, false⟩] := by
    simp [DeviceView.addLink, DeviceView.ofLink, Link.isLoopback, Link.isUp]
  have hdevices : (wired interface).backend.enumerateDevices =
      .ok [⟨1, interface, .ethernet, none, false⟩] := by
    show Except.ok (([⟨1, interface, 0⟩].foldl DeviceView.addLink []).mergeSort _) = _
    rw [hlinks, List.mergeSort_singleton]
  rw [NetworkBackend.deviceView, hdevices]
  rfl

/-- The device objects are right exactly if an activated entry stands first on every interface that
has one. -/
theorem Shared.follows_iff (htracks : s.daemon.activation.Tracks) :
    s.Follows svc ↔ ∀ interface, FirstUp (on interface s.daemon.activeConnections) := by
  constructor
  · intro hs interface hany a hfirst
    obtain ⟨hstate, -⟩ := hs (wired interface) none 1 _ (fun _ => rfl) (deviceView_wired interface)
    rw [currentState_of_view (deviceView_wired interface), Except.ok.injEq,
      stateWith_eq_activated] at hstate
    obtain ⟨b, hb, hup⟩ := hstate.mpr hany
    cases hfirst.symm.trans hb
    exact hup
  · intro hup env sender index view hbus hview
    have hfirstUp := hup view.interface
    rw [currentState_of_view hview, Except.ok.injEq, stateWith_eq_activated]
    refine ⟨⟨fun ⟨a, ha, hstate⟩ => ⟨a, List.mem_of_head? ha, hstate⟩, fun hany => ?_⟩,
      fun hany => ?_⟩
    all_goals
      obtain ⟨a, hfirst⟩ : ∃ a, (on view.interface s.daemon.activeConnections).head? = some a := by
        obtain ⟨b, hb, -⟩ := hany
        exact ⟨_, List.head?_eq_some_head (List.ne_nil_of_mem hb)⟩
      have hstate := hfirstUp hany a hfirst
    · exact ⟨a, hfirst, hstate⟩
    · exact ⟨a, List.mem_of_head? hfirst, hstate, activeConnection_of_view hbus hview hfirst,
        disconnect_deactivates hbus htracks hview hfirst hstate sender⟩

end

section

/-- **Device state.**  In every run of the manager, the device objects are right in all states
exactly if every engine call of the run left an activated entry first on each interface that has
one: no activation succeeds on an interface whose first entry has failed, and the deactivation of
a first entry is not refused while another one on its interface is activated, nor succeeds while
the next one there has failed and a later one is activated. -/
theorem DeviceIface.device_state_follows_iff (svc : Services S E V) (profiles : S) (e : E)
    (ops : List Operation) :
    Runs.Always (History.step svc.engine)
        (fun h => ∀ s : Shared S E, s.daemon = ⟨profiles, h.manager⟩ → s.Follows svc)
        ⟨ActivationManager.new e, []⟩ ops ↔
      Runs.Throughout (History.step svc.engine)
        (fun h op => ∀ c ∈ engineCalls svc.engine h.manager op,
          LeavesFirstUp op h.manager.active c)
        ⟨ActivationManager.new e, []⟩ ops := by
  have hstate : ∀ h : History E, h.manager.Tracks →
      ((∀ s : Shared S E, s.daemon = ⟨profiles, h.manager⟩ → s.Follows svc) ↔
        ∀ interface, FirstUp (on interface h.manager.active)) := by
    intro h htracks
    constructor
    · intro hs
      let s : Shared S E := { daemon := ⟨profiles, h.manager⟩ }
      exact (follows_iff (s := s) htracks).mp (hs s rfl)
    · rintro hup s hs
      refine (follows_iff (by rw [hs]; exact htracks)).mpr ?_
      rw [hs]
      exact hup
  refine Runs.always_iff (always_tracks svc.engine e ops) ?_ fun h op _ htracks hs => ?_
  · exact (hstate _ (tracks_new e)).mpr (by simp [FirstUp, HeadUp, on, ActivationManager.new])
  · have hmove := perform_moves svc.engine h.manager op
    have hnext : (History.step svc.engine h op).manager.Tracks := htracks.moves hmove
    rw [hstate _ hnext, ← engineCalls_step]
    exact firstUp_moves htracks ((hstate h htracks).mp hs) hmove

end

/-! ### A hidden connection -/

namespace Sample

/-- A second wired profile. -/
def spareProfile : ConnectionProfile :=
  { id := "spare", name := "Spare", connectionType := .ethernet {} }

/-- A store with the second profile. -/
def spareStore : ProfileStore where
  list := .ok [spareProfile]
  get id := if id = spareProfile.id then .ok spareProfile else .error (.notFound id)

/-- The engine refuses the first profile and brings up the second one on the same device. -/
def hidden : History (List (Except ActivationError Unit)) :=
  History.run scripted [.error (.engine "busy"), .ok ()]
    [.activateProfile store "wired" device, .activateProfile spareStore "spare" device]

/-- A failed connection before an activated one. -/
theorem hidden_active : hidden.manager.active =
    [⟨⟨1⟩, profile, device, .failed, {}⟩, ⟨⟨2⟩, spareProfile, device, .activated, {}⟩] := by
  decide

end Sample

/-- A failed entry hides the connection of another profile that is activated after it. -/
theorem DeviceIface.failed_entry_hides_connection :
    ¬ ∀ (S E V : Type) (svc : Services S E V) (e : E) (ops : List Operation) (s : Shared S E),
      s.daemon.activation = (History.run svc.engine e ops).manager → s.Follows svc := by
  intro hall
  let s : Shared InMemoryProfileStore _ := { daemon := ⟨∅, Sample.hidden.manager⟩ }
  have hup := (follows_iff (History.run_tracks _ _ _)).mp
    (hall _ _ _ Sample.services _ _ s rfl) "eth0"
  rw [show s.daemon.activeConnections = _ from Sample.hidden_active] at hup
  exact absurd (hup ⟨⟨⟨2⟩, Sample.spareProfile, Sample.device, .activated, {}⟩, by decide, rfl⟩ _ rfl)
    (by decide)

end NetworkManager
