import NetworkManager.Connection.Activation.Invariant
import NetworkManager.Dbus.Facade
import NetworkManager.Dbus.Manual
import NetworkManager.Dbus.Values

/-!
# Dbus — Facade — Access

What the handlers may touch, and what the policy backend has to answer before they do.
-/

namespace NetworkManager

open Effects Shared

variable {S E V : Type}

/-- A call of the manager leaves the profiles. -/
theorem Daemon.onActivation_keeps {ε α : Type} (x : EStateM ε (ActivationManager E) α) :
    Keeps (Same (Daemon.profiles (S := S))) (onActivation x) := fun d => by
  rw [onActivation, after_zoom]
  rfl

namespace Shared

/-! ### What the steps of a handler leave -/

/-- What signals leave: the daemon, what was asked of the policy backend, and the objects of
connections. -/
def core (s : Shared S E) :
    Daemon S E × List Check × (AList fun _ : ProfileId => String) × Finset ActiveConnectionId :=
  (s.daemon, s.checks, s.connections, s.activeConnections)

/-- The daemon, and what was asked of the policy backend. -/
def domain (s : Shared S E) : Daemon S E × List Check := (s.daemon, s.checks)

/-- The profiles, and what was asked of the policy backend. -/
def records (s : Shared S E) : S × List Check := (s.daemon.profiles, s.checks)

/-- What keeps the registries too keeps the daemon and the checks. -/
theorem domain_of_core {s t : Shared S E} (h : Same core s t) : Same domain s t := by
  have hdaemon : t.daemon = s.daemon := congrArg Prod.fst h
  have hchecks : t.checks = s.checks := congrArg (·.2.1) h
  exact Prod.ext hdaemon hchecks

/-- What keeps the daemon keeps the records. -/
theorem records_of_domain {s t : Shared S E} (h : Same domain s t) : Same records s t := by
  have hprofiles : t.daemon.profiles = s.daemon.profiles := congrArg (·.1.profiles) h
  have hchecks : t.checks = s.checks := congrArg Prod.snd h
  exact Prod.ext hprofiles hchecks

/-- What keeps the records keeps the checks. -/
theorem checks_of_records {s t : Shared S E} (h : Same records s t) : Same checks s t :=
  congrArg Prod.snd h

variable (env : Environment)

/-- The bus changes nothing but itself. -/
theorem request_keeps (r : BusRequest) :
    Keeps (Same (core (S := S) (E := E))) (request env r) := by
  refine (Keeps.ofExcept _).bind fun _ => ?_
  cases r with
  | emit signal => exact .modify fun _ => rfl
  | register path | unregister path | ownedPath path => exact .pure _

theorem emit_keeps (signal : Signal) : Keeps (Same (core (S := S) (E := E))) (emit env signal) :=
  (request_keeps env _).adaptExcept

/-- Registering changes nothing but the bus. -/
theorem register_keeps (paths : List String) :
    Keeps (Same (core (S := S) (E := E))) (register env paths) :=
  .forM fun _ _ => request_keeps env _

theorem emit_domain (signal : Signal) :
    Keeps (Same (domain (S := S) (E := E))) (emit env signal) :=
  .mono (fun _ _ => domain_of_core) (emit_keeps env signal)

theorem register_domain (paths : List String) :
    Keeps (Same (domain (S := S) (E := E))) (register env paths) :=
  .mono (fun _ _ => domain_of_core) (register_keeps env paths)

/-- Registering a connection changes the registry, and not the daemon. -/
theorem registerConnectionObject_keeps (profile : ConnectionProfile) :
    Keeps (Same (domain (S := S) (E := E))) (registerConnectionObject env profile) :=
  (register_domain env _).bind fun _ => .modify fun _ => rfl

/-- Registering an active connection changes the registry, and not the daemon. -/
theorem registerActiveConnectionObject_keeps (active : ActiveConnection) :
    Keeps (Same (domain (S := S) (E := E))) (registerActiveConnectionObject env active) :=
  (register_domain env _).bind fun _ => .modify fun _ => rfl

/-- Unregistering an active connection changes the registry, and not the daemon. -/
theorem unregisterActiveConnection_keeps (id : ActiveConnectionId) :
    Keeps (Same (domain (S := S) (E := E))) (unregisterActiveConnection env id) :=
  Keeps.bind (.mono (fun _ _ => domain_of_core)
    (.forM fun _ _ => (request_keeps env _).attempt.bind fun _ => .pure _)) fun _ =>
      .modify fun _ => rfl

/-- Unregistering a connection changes the registry, and not the daemon. -/
theorem unregisterConnection_keeps (profileId : ProfileId) :
    Keeps (Same (domain (S := S) (E := E))) (unregisterConnection env profileId) := by
  refine .get_bind fun s => ?_
  split
  · exact .pure _
  · exact Keeps.bind (.modify fun _ => rfl) fun _ =>
      .mono (fun _ _ => domain_of_core) (request_keeps env _).adaptExcept

/-- The state of a device is told without the daemon. -/
theorem emitDeviceState_keeps (index : Int32) (newState : UInt32) :
    Keeps (Same (domain (S := S) (E := E))) (emitDeviceState env index newState) := by
  refine .get_bind fun s => ?_
  dsimp only
  split
  · exact .pure _
  · exact Keeps.bind (.modify fun _ => rfl) fun _ =>
      (emit_domain env _).bind fun _ => emit_domain env _

/-- The state of the network is told without a change of the daemon. -/
theorem emitRootStateIfChanged_keeps :
    Keeps (Same (domain (S := S) (E := E))) (emitRootStateIfChanged env) := by
  refine .get_bind fun s => ?_
  dsimp only
  split
  · exact .pure _
  · exact Keeps.bind (.modify fun _ => rfl) fun _ => emit_domain env _

/-- Mirroring an event changes nothing of the daemon. -/
theorem mirrorEvent_keeps (deviceByActive : DeviceByActive) (event : ConnectionEvent) :
    Keeps (Same (domain (S := S) (E := E))) (mirrorEvent env deviceByActive event) := by
  cases event with
  | stateChanged activeId profileId previous current =>
      refine (emit_domain env _).bind fun _ => .get_bind fun s => ?_
      dsimp only
      split
      · exact .pure _
      · exact (emitDeviceState_keeps env _ _).bind fun _ => .pure _
  | deactivated activeId profileId =>
      refine (unregisterActiveConnection_keeps env _).bind fun _ =>
        (emit_domain env _).bind fun _ => ?_
      split
      · exact .pure _
      · exact (emitDeviceState_keeps env _ _).bind fun _ => .pure _
  | activated activeId profileId | failed activeId profileId reason => exact .pure _

/-- A call of the manager leaves the profiles. -/
theorem onManager_keeps {α : Type} {x : EStateM ActivationError (Daemon S E) α}
    (hx : Keeps (Same Daemon.profiles) x) :
    Keeps (Same (records (S := S) (E := E))) (onManager x) := by
  refine Keeps.adaptExcept fun s => ?_
  rw [onDaemon, after_zoom]
  exact congrArg (·, s.checks) (hx s.daemon)

/-- A call of the store asks the policy backend nothing. -/
theorem onStore_keeps {α : Type} (x : EStateM StoreError (Daemon S E) α) :
    Keeps (Same (checks (S := S) (E := E))) (onStore x) :=
  Keeps.adaptExcept (.zoom fun _ _ => rfl)

/-- Mirroring drains the events, and changes no profile. -/
theorem emitConnectionEvents_keeps :
    Keeps (Same (records (S := S) (E := E))) (emitConnectionEvents env) := by
  refine Keeps.bind (onManager_keeps (Daemon.onActivation_keeps _)) fun events => ?_
  refine .mono (fun _ _ => records_of_domain) (Keeps.bind ?_ fun _ => ?_)
  · exact .foldlM (mirrorEvent_keeps env) ∅ events
  · exact emitRootStateIfChanged_keeps env

end Shared

/-! ### What the handlers leave -/

section

variable (svc : Services S E V) (env : Environment)

/-- Activating changes no profile. -/
theorem activate_keeps (settings : SettingsDict V) (device : String) :
    Keeps (Same (records (S := S) (E := E))) (RootIface.activate svc env settings device) := by
  refine (Keeps.ofExcept _).bind fun info => ?_
  split
  · exact onManager_keeps (.get_bind fun d => Daemon.onActivation_keeps _)
  · exact (Keeps.ofExcept _).bind fun profile =>
      onManager_keeps (.get_bind fun d => Daemon.onActivation_keeps _)

/-- Announcing changes no profile. -/
theorem announce_keeps (active : ActiveConnection) :
    Keeps (Same (records (S := S) (E := E))) (RootIface.announce env active) := by
  refine Keeps.bind ?_ fun _ => Keeps.bind ?_ fun _ => (emitConnectionEvents_keeps env).bind
    fun _ => .pure _
  · exact .mono (fun _ _ => records_of_domain) (registerActiveConnectionObject_keeps env _).adaptExcept
  · exact .mono (fun _ _ => records_of_domain) (emit_domain env _)

theorem requireActive_keeps (index : Int32) :
    Keeps (Same (records (S := S) (E := E))) (DeviceIface.requireActive env index) :=
  (Keeps.ofExcept _).bind fun _ => .get_bind fun _ => (Keeps.ofExcept _).bind fun _ => .ofExcept _

end

/-! ### What the policy backend is asked -/

/-- What the backend is asked about an action, with its answer. -/
def Environment.check (env : Environment) (sender : Option String) (action : String) : Check :=
  ⟨.fromSender sender, action, env.authorization (.fromSender sender) action⟩

/-- The state once the backend has been asked. -/
def Shared.asked (s : Shared S E) (checks : List Check) : Shared S E :=
  { s with checks := s.checks ++ checks }

/-- What was asked adds up. -/
theorem Shared.asked_asked (s : Shared S E) (before later : List Check) :
    (s.asked before).asked later = s.asked (before ++ later) := by
  simp [asked]

/-- The handler asks about one action first.  If the answer is no plain yes, that is all it does,
and otherwise it goes on along `R`. -/
structure Gated {α : Type} (env : Environment) (sender : Option String) (action : String)
    (R : Shared S E → Shared S E → Prop) (x : Handler S E α) : Prop where
  denied (s : Shared S E) (h : (env.check sender action).answer ≠ .ok .yes) :
    after x s = s.asked [env.check sender action]
  granted (s : Shared S E) (h : (env.check sender action).answer = .ok .yes) :
    R (s.asked [env.check sender action]) (after x s)

section

variable {α β : Type} {env : Environment} {sender : Option String} {action : String}
  {R : Shared S E → Shared S E → Prop}

/-- Leave is given on a yes. -/
theorem authorize_of_yes (s : Shared S E) (h : (env.check sender action).answer = .ok .yes) :
    authorize env sender action s = .ok () (s.asked [env.check sender action]) := by
  have hcheck : check env sender action s =
    .ok (env.check sender action).answer (s.asked [env.check sender action]) := rfl
  rw [authorize, bind_of_ok hcheck, h]
  rfl

/-- Leave is denied on any other answer, with the action as its text. -/
theorem authorize_of_denial (s : Shared S E) (h : (env.check sender action).answer ≠ .ok .yes) :
    authorize env sender action s =
      .error (.permissionDenied action) (s.asked [env.check sender action]) := by
  have hcheck : check env sender action s =
    .ok (env.check sender action).answer (s.asked [env.check sender action]) := rfl
  rw [authorize, bind_of_ok hcheck]
  generalize (env.check sender action).answer = answer at h
  obtain (_ | reason) | (_ | _ | _) := answer
  case ok.yes => exact absurd rfl h
  all_goals rfl

/-- What follows the check does not run without leave. -/
theorem Gated.of_bind {x : Handler S E α} (hx : Keeps R x) :
    Gated env sender action R (do authorize env sender action; x) where
  denied := fun s h => after_of_error (bind_of_error (authorize_of_denial s h))
  granted := fun s h => by
    rw [after_bind_of_ok (authorize_of_yes s h)]
    exact hx _

/-- The check alone is gated. -/
theorem Gated.authorize [Std.Refl R] :
    Gated env sender action R (Shared.authorize env sender action) where
  denied := fun s h => after_of_error (authorize_of_denial s h)
  granted := fun s h => by
    rw [after_of_ok (authorize_of_yes s h)]
    exact Std.Refl.refl _

/-- Mapping the result keeps the gate. -/
theorem Gated.map {x : Handler S E α} (hx : Gated env sender action R x) (f : α → β) :
    Gated env sender action R (f <$> x) where
  denied := fun s h => by rw [after_map, hx.denied s h]
  granted := fun s h => by
    rw [after_map]
    exact hx.granted s h

end

/-- A permission is asked about once, and always has an answer. -/
theorem after_permission (env : Environment) (sender : Option String) (action : String)
    (s : Shared S E) :
    ∃ value, permission env sender action s = .ok value (s.asked [env.check sender action]) := by
  have hcheck : check env sender action s =
    .ok (env.check sender action).answer (s.asked [env.check sender action]) := rfl
  rw [permission, bind_of_ok hcheck]
  generalize (env.check sender action).answer = answer
  obtain (_ | reason) | (_ | _ | _) := answer <;> exact ⟨_, rfl⟩

/-- `GetPermissions` asks about every action once, and does nothing else. -/
theorem after_getPermissions (env : Environment) (sender : Option String) (s : Shared S E) :
    after (RootIface.getPermissions env sender) s =
      s.asked (permissionActions.map (env.check sender)) := by
  rw [RootIface.getPermissions]
  induction permissionActions generalizing s with
  | nil => exact (by simp [asked] : s = s.asked [])
  | cons action actions ih =>
      obtain ⟨value, hvalue⟩ := after_permission env sender action s
      have hpair : (do return (action, ← permission env sender action) :
          Handler S E (String × String)) s =
        .ok (action, value) (s.asked [env.check sender action]) := bind_of_ok hvalue
      rw [List.mapM_cons, after_bind_of_ok hpair, ← map_eq_pure_bind, after_map, ih, asked_asked]
      rfl

/-! ### The methods -/

/-- The store is left as it is, or asked to create the profile of the dictionary. -/
def Creates (svc : Services S E V) (settings : SettingsDict V) (s t : Shared S E) : Prop :=
  t.checks = s.checks ∧ (t.daemon.profiles = s.daemon.profiles ∨
    ∃ p, svc.profileOf settings = .ok p ∧
      t.daemon.profiles = after (svc.store.create p) s.daemon.profiles)

/-- How a method comes to what it does, with the sender that asks for it. -/
inductive Access (svc : Services S E V) (env : Environment) (sender : Option String)
    (m : Method V) (x : Handler S E (MethodReply V)) : Prop where
  /-- It leaves everything as it is. -/
  | reads (h : ∀ s, after x s = s)
  | permissions (h : ∀ s, after x s = s.asked (permissionActions.map (env.check sender)))
  /-- It is held to an action, and leaves the profiles. -/
  | controls (action : String) (h : Gated env sender action (Same records) x)
  | modifies (h : Gated env sender actionSettingsModifySystem (Same checks) x)
  | adds (settings : SettingsDict V) (device : String)
      (hm : m = .addAndActivateConnection settings device ∨
        m = .addAndActivateConnection2 settings device)
      (h : Gated env sender actionNetworkControl (Creates svc settings) x)

section

variable (svc : Services S E V) (env : Environment) (sender : Option String)

theorem registerConnection_keeps {wrap : String → FacadeError} (profile : ConnectionProfile) :
    Keeps (Same (checks (S := S) (E := E)))
      (EStateM.adaptExcept wrap (registerConnectionObject env profile)) :=
  .mono (fun _ _ h => congrArg Prod.snd h) (registerConnectionObject_keeps env profile).adaptExcept

theorem ownedPath_keeps {R : Shared S E → Shared S E → Prop} [Std.Refl R] (path : String) :
    Keeps R (ownedPath env path) := .ofExcept _

theorem emit_checks (signal : Signal) :
    Keeps (Same (checks (S := S) (E := E))) (emit env signal) :=
  .mono (fun _ _ h => congrArg Prod.snd h) (emit_domain env signal)

theorem unregisterConnection_checks (profileId : ProfileId) :
    Keeps (Same (checks (S := S) (E := E))) (unregisterConnection env profileId) :=
  .mono (fun _ _ h => congrArg Prod.snd h) (unregisterConnection_keeps env profileId)

theorem activateConnection_gated (settings : SettingsDict V) (device : String) :
    Gated env sender actionNetworkControl (Same (records (S := S) (E := E)))
      (RootIface.activateConnection svc env sender settings device) :=
  .of_bind ((activate_keeps svc env settings device).bind fun _ =>
    (announce_keeps env _).bind fun _ => ownedPath_keeps env _)

/-- A call of the store changes the profiles as it says, whether it fails or not. -/
theorem after_onStore {α : Type} (x : EStateM StoreError S α) (s : Shared S E) :
    after (onStore (Daemon.onProfiles x)) s =
      { s with daemon := { s.daemon with profiles := after x s.daemon.profiles } } := by
  rw [onStore, after_adaptExcept, onDaemon, after_zoom, Daemon.onProfiles, after_zoom]

/-- Once its profile has been created, `AddAndActivateConnection` leaves the store. -/
theorem addAndActivate_records (settings : SettingsDict V) (device : String)
    {p : ConnectionProfile} (hp : svc.profileOf settings = .ok p) (s : Shared S E) :
    (after (RootIface.addAndActivate svc env settings device) s).records =
      (after (svc.store.create p) s.daemon.profiles, s.checks) := by
  have hcreate := after_onStore (svc.store.create p) s
  have hrest : Keeps (Same (records (S := S) (E := E))) (do
      EStateM.adaptExcept .internal (registerConnectionObject env p)
      let active ← RootIface.activate svc env settings device
      let path ← RootIface.announce env active
      return (settingsConnectionPath (stableUuid p.id), path)) :=
    Keeps.bind (.mono (fun _ _ => records_of_domain) (registerConnectionObject_keeps env p).adaptExcept)
      fun _ => (activate_keeps svc env settings device).bind fun _ =>
        (announce_keeps env _).bind fun _ => .pure _
  rw [RootIface.addAndActivate, hp]
  show records (after (onStore (Daemon.onProfiles (svc.store.create p)) >>= fun _ => _) s) = _
  cases h : onStore (Daemon.onProfiles (svc.store.create p)) s with
  | error e t =>
      rw [after_of_error h] at hcreate
      rw [after_of_error (bind_of_error h), hcreate]
      rfl
  | ok u t =>
      rw [after_of_ok h] at hcreate
      rw [after_bind_of_ok h]
      exact (hrest t).trans (by rw [hcreate]; rfl)

/-- The profile that is added is the one of the dictionary; nothing behind it changes the profiles.
-/
theorem addAndActivate_profiles (settings : SettingsDict V) (device : String)
    {p : ConnectionProfile} (hp : svc.profileOf settings = .ok p) (s : Shared S E) :
    (after (RootIface.addAndActivate svc env settings device) s).daemon.profiles =
      after (svc.store.create p) s.daemon.profiles :=
  congrArg Prod.fst (addAndActivate_records svc env settings device hp s)

/-- With leave, the profile is added and activated. -/
theorem addAndActivateConnection_of_yes (settings : SettingsDict V) (device : String)
    (s : Shared S E) (h : (env.check sender actionNetworkControl).answer = .ok .yes) :
    after (RootIface.addAndActivateConnection svc env sender settings device) s =
      after (RootIface.addAndActivate svc env settings device)
        (s.asked [env.check sender actionNetworkControl]) := by
  have hpaths : ∀ (paths : String × String) (t : Shared S E),
      after (do return (← ownedPath env paths.1, ← ownedPath env paths.2)) t = t :=
    fun paths t => (after_bind_of_still (fun _ _ => (after_bind_of_still (fun _ _ => rfl) _).trans
      (after_ofExcept _ _)) t).trans (after_ofExcept _ t)
  rw [RootIface.addAndActivateConnection, after_bind_of_ok (authorize_of_yes s h)]
  exact after_bind_of_still hpaths _

theorem addAndActivateConnection_gated (settings : SettingsDict V) (device : String) :
    Gated env sender actionNetworkControl (Creates (S := S) (E := E) svc settings)
      (RootIface.addAndActivateConnection svc env sender settings device) where
  denied := fun s h => after_of_error (bind_of_error (authorize_of_denial s h))
  granted := fun s h => by
    rw [addAndActivateConnection_of_yes svc env sender settings device s h]
    cases hp : svc.profileOf settings with
    | error e =>
        rw [RootIface.addAndActivate, hp]
        exact ⟨rfl, .inl rfl⟩
    | ok p =>
        have hrecords := addAndActivate_records svc env settings device hp
          (s.asked [env.check sender actionNetworkControl])
        exact ⟨congrArg Prod.snd hrecords, .inr ⟨p, hp, congrArg Prod.fst hrecords⟩⟩

theorem deactivateConnection_gated (active : String) :
    Gated env sender actionNetworkControl (Same (records (S := S) (E := E)))
      (RootIface.deactivateConnection svc env sender active) :=
  .of_bind ((Keeps.ofExcept _).bind fun _ => (onManager_keeps (Daemon.onActivation_keeps _)).bind
    fun _ => emitConnectionEvents_keeps env)

theorem addConnectionWith_gated (announced : Bool) (settings : SettingsDict V) :
    Gated env sender actionSettingsModifySystem (Same (checks (S := S) (E := E)))
      (SettingsIface.addConnectionWith svc env announced sender settings) := by
  refine .of_bind ((Keeps.ofExcept _).bind fun profile => (onStore_keeps _).bind fun _ =>
    (registerConnection_keeps env profile).bind fun _ => ?_)
  dsimp only
  split
  · exact (emit_checks env _).bind fun _ => ownedPath_keeps env _
  · exact ownedPath_keeps env _

theorem update_gated (profileId : ProfileId) (settings : SettingsDict V) :
    Gated env sender actionSettingsModifySystem (Same (checks (S := S) (E := E)))
      (SettingsConnectionIface.update svc env profileId sender settings) := by
  refine .of_bind ((Keeps.ofExcept _).bind fun profile => ?_)
  dsimp only
  split
  · exact .throw _
  · exact (onStore_keeps _).bind fun _ => emit_checks env _

theorem delete_gated (profileId : ProfileId) :
    Gated env sender actionSettingsModifySystem (Same (checks (S := S) (E := E)))
      (SettingsConnectionIface.delete svc env profileId sender) :=
  .of_bind ((onStore_keeps _).bind fun _ => (emit_checks env _).bind fun _ =>
    unregisterConnection_checks env profileId)

theorem deviceDisconnect_gated (index : Int32) :
    Gated env sender actionNetworkControl (Same (records (S := S) (E := E)))
      (DeviceIface.disconnect svc env index sender) :=
  .of_bind ((requireActive_keeps env index).bind fun _ =>
    (onManager_keeps (Daemon.onActivation_keeps _)).bind fun _ => emitConnectionEvents_keeps env)

theorem deviceDelete_gated (index : Int32) :
    Gated env sender actionSettingsModifySystem (Same (checks (S := S) (E := E)))
      (DeviceIface.delete svc env index sender) :=
  .of_bind (Keeps.bind (.mono (fun _ _ => checks_of_records) (requireActive_keeps env index))
    fun _ => (onStore_keeps _).bind fun _ => (unregisterConnection_checks env _).bind fun _ =>
      emit_checks env _)

/-- Reading changes nothing. -/
theorem reading_keeps {α : Type} (f : Shared S E → Except FacadeError α) (s : Shared S E) :
    after (reading f) s = s := by
  rw [reading]
  exact (after_congr (get_bind _ s)).trans (after_ofExcept _ s)

/-- Every method, by how it comes to what it does. -/
theorem Method.access (m : Method V) :
    Access svc env sender m (m.perform svc env sender : Handler S E (MethodReply V)) := by
  cases m with
  | getDevices | getAllDevices | getDeviceByIpIface | checkConnectivity | checkConnectivityFull
  | getConnectivity | listConnections | getConnectionByUuid | getSettings | getAppliedConnection
  | deviceGetAppliedConnection =>
      exact .reads fun s => by rw [Method.perform, after_map, reading_keeps]
  | setLogging | getLogging | deviceStateReasons | getDeviceStateReasons | getSecrets
  | getSettingsFlags | deviceReapply | deviceSetManaged => exact .reads fun s => rfl
  | getPermissions =>
      exact .permissions fun s => by rw [Method.perform, after_map, after_getPermissions]
  | activateConnection settings device =>
      exact .controls _ ((activateConnection_gated svc env sender settings device).map _)
  | addAndActivateConnection settings device =>
      exact .adds settings device (.inl rfl)
        ((addAndActivateConnection_gated svc env sender settings device).map _)
  | addAndActivateConnection2 settings device =>
      exact .adds settings device (.inr rfl)
        ((addAndActivateConnection_gated svc env sender settings device).map _)
  | deactivateConnection active =>
      exact .controls _ ((deactivateConnection_gated svc env sender active).map _)
  | sleep | enable | reload => exact .controls _ (Gated.authorize.map _)
  | addConnection settings | addConnection2 settings =>
      exact .modifies ((addConnectionWith_gated svc env sender true settings).map _)
  | addConnectionUnsaved settings =>
      exact .modifies ((addConnectionWith_gated svc env sender false settings).map _)
  | loadConnections =>
      exact .modifies ((Gated.of_bind (.pure _)).map _)
  | reloadConnections => exact .modifies ((Gated.of_bind (.pure _)).map _)
  | saveHostname => exact .modifies (Gated.authorize.map _)
  | update profileId settings | updateUnsaved profileId settings =>
      exact .modifies ((update_gated svc env sender profileId settings).map _)
  | delete profileId => exact .modifies ((delete_gated svc env sender profileId).map _)
  | deviceDisconnect index => exact .controls _ ((deviceDisconnect_gated svc env sender index).map _)
  | deviceDelete index => exact .modifies ((deviceDelete_gated svc env sender index).map _)

end

/-! ### Denials -/

namespace Shared

variable (svc : Services S E V) (s : Shared S E) (call : MethodCall V)

/-- **Fail closed.**  Whatever a method asks the policy backend, if one answer is no plain yes, then
the questions are all that the call leaves behind. -/
theorem facade_fails_closed : ∃ asked, (step svc s call).checks = s.checks ++ asked ∧
    (∀ check ∈ asked, check = call.env.check call.sender check.action) ∧
    ((∃ check ∈ asked, check.answer ≠ .ok .yes) →
      step svc s call = { s with checks := s.checks ++ asked }) := by
  -- a gated method asks once; without a yes it does nothing else
  have hgated : ∀ {action} {R : Shared S E → Shared S E → Prop},
      Gated call.env call.sender action R (call.perform svc) →
      (∀ {u}, R (s.asked [call.env.check call.sender action]) u →
        Same checks (s.asked [call.env.check call.sender action]) u) →
      ∃ asked, (step svc s call).checks = s.checks ++ asked ∧
        (∀ check ∈ asked, check = call.env.check call.sender check.action) ∧
        ((∃ check ∈ asked, check.answer ≠ .ok .yes) → step svc s call = s.asked asked) := by
    intro action R h hR
    refine ⟨[call.env.check call.sender action], ?_, ?_, ?_⟩
    · by_cases hyes : (call.env.check call.sender action).answer = .ok .yes
      · exact hR (h.granted s hyes)
      · rw [step, h.denied s hyes]
        rfl
    · rintro check hcheck
      cases List.mem_singleton.mp hcheck
      rfl
    · rintro ⟨check, hcheck, hno⟩
      cases List.mem_singleton.mp hcheck
      exact h.denied s hno
  cases call.method.access (S := S) (E := E) svc call.env call.sender with
  | reads h => exact ⟨[], by rw [step, MethodCall.perform, h, List.append_nil], by simp, by simp⟩
  | permissions h =>
      refine ⟨permissionActions.map (call.env.check call.sender), ?_, ?_, fun _ => h s⟩
      · exact congrArg checks (h s)
      · rintro check hcheck
        obtain ⟨action, -, rfl⟩ := List.mem_map.mp hcheck
        rfl
  | controls action h => exact hgated h checks_of_records
  | modifies h => exact hgated h id
  | adds settings device hm h => exact hgated h And.left

/-- **Who may change profiles.**  In every run, a call that changes the store got a yes for its own
sender: for the modification of settings, or for the control of the network if it is
`AddAndActivateConnection`, which then has only asked the store to create its profile. -/
theorem stored_profiles_authorized (calls : List (MethodCall V)) :
    let before := run svc s calls
    let later := step svc before call
    later.daemon.profiles ≠ before.daemon.profiles →
      ∃ action, later.checks = before.checks ++ [call.env.check call.sender action] ∧
        call.env.authorization (.fromSender call.sender) action = .ok .yes ∧
        (action = actionSettingsModifySystem ∨ action = actionNetworkControl ∧
          ∃ settings device p, (call.method = .addAndActivateConnection settings device ∨
              call.method = .addAndActivateConnection2 settings device) ∧
            svc.profileOf settings = .ok p ∧
            later.daemon.profiles = after (svc.store.create p) before.daemon.profiles) := by
  intro before later hchanged
  have hyes : ∀ {action R}, Gated call.env call.sender action R (call.perform svc) →
      (call.env.check call.sender action).answer = .ok .yes := by
    intro action R h
    by_contra hno
    refine hchanged ?_
    show (step svc before call).daemon.profiles = before.daemon.profiles
    rw [step, h.denied before hno]
    rfl
  cases call.method.access (S := S) (E := E) svc call.env call.sender with
  | reads h => exact absurd (congrArg (·.daemon.profiles) (h before)) hchanged
  | permissions h => exact absurd (congrArg (·.daemon.profiles) (h before)) hchanged
  | controls action h =>
      exact absurd (congrArg Prod.fst (h.granted before (hyes h))) hchanged
  | modifies h => exact ⟨_, h.granted before (hyes h), hyes h, .inl rfl⟩
  | adds settings device hm h =>
      obtain ⟨hchecks, hsame | ⟨p, hp, hcreate⟩⟩ := h.granted before (hyes h)
      · exact absurd hsame hchanged
      · exact ⟨_, hchecks, hyes h, .inr ⟨rfl, settings, device, p, hm, hp, hcreate⟩⟩

/-! ### A caller that may control the network -/

end Shared

namespace Sample

/-- The bus of D-Bus values, the store in memory, and an engine with given answers. -/
def services : Services InMemoryProfileStore (List (Except ActivationError Unit)) Value :=
  ⟨dbus, fullText, InMemoryProfileStore.ops, scripted⟩

/-- One wired link with index 3, that is up. -/
def backend : NetworkBackend := ⟨.ok [⟨3, "eth0", 1⟩], .ok [], .ok []⟩

/-- One wired link, this policy, and a bus that refuses nothing. -/
def environment (authorization : Authorization) : Environment :=
  ⟨backend, authorization, fun _ => .ok ()⟩

/-- No profiles, and an engine with these answers. -/
def shared (answers : List (Except ActivationError Unit)) :
    Shared InMemoryProfileStore (List (Except ActivationError Unit)) :=
  { daemon := .withComponents ∅ answers }

/-- A policy that lets everyone control the network, and nothing else. -/
def networkControlOnly : Authorization := fun _ action =>
  if action = actionNetworkControl then .ok .yes else .ok .no

/-- The call that adds a wired profile and activates it on a device. -/
def addDesk (authorization : Authorization) (device : String) : MethodCall Value :=
  ⟨environment authorization, some ":1.7", .addAndActivateConnection (deskDict 24) device⟩

theorem profileOf_deskDict : services.profileOf (deskDict 24) = .ok manualProfile := rfl

/-- The wired profile can be created in the empty store. -/
theorem after_create_manualProfile :
    after (services.store.create manualProfile) ∅ =
      (∅ : InMemoryProfileStore).insert "desk" manualProfile := by
  have hput := InMemoryProfileStore.settle_put (fun profiles =>
    if profiles.contains manualProfile.id then some (.alreadyExists manualProfile.id) else none)
    manualProfile ∅
  rw [← settle_snd]
  exact congrArg Prod.snd hput

theorem insert_desk_ne : (∅ : InMemoryProfileStore).insert "desk" manualProfile ≠ ∅ := by
  intro h
  have hget := congrArg (·["desk"]?) h
  simp at hget

/-- With leave, the call adds the profile and activates it. -/
theorem addDesk_step {authorization : Authorization} (device : String)
    (answers : List (Except ActivationError Unit))
    (hyes : authorization (.uniqueName ":1.7") actionNetworkControl = .ok .yes) :
    step services (shared answers) (addDesk authorization device) =
      after (RootIface.addAndActivate services (environment authorization) (deskDict 24) device)
        ((shared answers).asked
          [(environment authorization).check (some ":1.7") actionNetworkControl]) :=
  (after_map _ _ _).trans (addAndActivateConnection_of_yes services (environment authorization)
    (some ":1.7") (deskDict 24) device (shared answers) hyes)

/-- Afterwards the store has the profile. -/
theorem addDesk_profiles {authorization : Authorization} (device : String)
    (answers : List (Except ActivationError Unit))
    (hyes : authorization (.uniqueName ":1.7") actionNetworkControl = .ok .yes) :
    (step services (shared answers) (addDesk authorization device)).daemon.profiles =
      (∅ : InMemoryProfileStore).insert "desk" manualProfile := by
  rw [addDesk_step device answers hyes, addAndActivate_profiles _ _ _ _ profileOf_deskDict]
  exact after_create_manualProfile

theorem networkControlOnly_control (caller : CallerIdentity) :
    networkControlOnly caller actionNetworkControl = .ok .yes := if_pos rfl

theorem networkControlOnly_modify (caller : CallerIdentity) :
    networkControlOnly caller actionSettingsModifySystem = .ok .no :=
  if_neg (by simp [actionSettingsModifySystem, actionNetworkControl])

end Sample

namespace Shared

/-- A caller who may only control the network adds a profile. -/
theorem stored_profiles_authorized_desk :
    let before := run Sample.services (Sample.shared []) []
    let call := Sample.addDesk Sample.networkControlOnly "/"
    let later := step Sample.services before call
    ∃ action, later.checks = before.checks ++ [call.env.check call.sender action] ∧
      call.env.authorization (.fromSender call.sender) action = .ok .yes ∧
      (action = actionSettingsModifySystem ∨ action = actionNetworkControl ∧
        ∃ settings device p, (call.method = .addAndActivateConnection settings device ∨
            call.method = .addAndActivateConnection2 settings device) ∧
          Sample.services.profileOf settings = .ok p ∧
          later.daemon.profiles =
            after (Sample.services.store.create p) before.daemon.profiles) := by
  refine stored_profiles_authorized Sample.services (Sample.shared [])
    (Sample.addDesk Sample.networkControlOnly "/") [] ?_
  rw [run, List.foldl_nil, Sample.addDesk_profiles _ _ (Sample.networkControlOnly_control _)]
  exact Sample.insert_desk_ne

/-- `AddAndActivateConnection` adds a profile for a caller who may not modify settings. -/
theorem profile_added_without_modify :
    ¬ ∀ (S E V : Type) (svc : Services S E V) (daemon : Daemon S E) (calls : List (MethodCall V))
      (call : MethodCall V),
      (step svc (run svc { daemon } calls) call).daemon.profiles ≠
          (run svc { daemon } calls).daemon.profiles →
        call.env.authorization (.fromSender call.sender) actionSettingsModifySystem =
          .ok .yes := by
  intro hall
  have hyes := hall _ _ _ Sample.services (.withComponents ∅ []) []
    (Sample.addDesk Sample.networkControlOnly "/") (by
      rw [run, List.foldl_nil]
      have hprofiles := Sample.addDesk_profiles "/" [] (Sample.networkControlOnly_control _)
      rw [Sample.shared] at hprofiles
      rw [hprofiles]
      exact Sample.insert_desk_ne)
  exact absurd (hyes.symm.trans (Sample.networkControlOnly_modify (.uniqueName ":1.7"))) (by simp)

end Shared

end NetworkManager
