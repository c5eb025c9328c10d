import NetworkManager.Dbus.Facade
import NetworkManager.Support.TwoRuns

/-!
# Dbus — Facade — Engines

The facade over two engines that answer alike: nothing it does tells them apart.

* `Shared.Indist R`: the states differ in the states of their engines only, which `R` relates.
* `Method.alike`: from such states a method returns the same over either engine, and ends in such
  states again.
-/

namespace NetworkManager

open Effects

variable {S E E' V : Type}

/-! ### The manager -/

namespace ActivationManager

/-- The manager over another engine. -/
def withEngine (m : ActivationManager E) (engine : E') : ActivationManager E' :=
  ⟨engine, m.nextId, m.active, m.events, m.calls⟩

/-- The managers differ in the states of their engines only, which `R` relates. -/
def Indist (R : E → E' → Prop) (m : ActivationManager E) (m' : ActivationManager E') : Prop :=
  ∃ e, R m.engine e ∧ m' = m.withEngine e

end ActivationManager

/-- The engines answer alike. -/
structure ActivationEngine.Alike (R : E → E' → Prop) (engine : ActivationEngine E)
    (engine' : ActivationEngine E') : Prop where
  activate (profile : ConnectionProfile) (device : DeviceInfo) :
    Effects.Alike R (engine.activate profile device) (engine'.activate profile device)
  deactivate (profile : ConnectionProfile) :
    Effects.Alike R (engine.deactivate profile) (engine'.deactivate profile)

namespace ActivationManager

variable {R : E → E' → Prop} {engine : ActivationEngine E} {engine' : ActivationEngine E'}
  {ε α : Type}

/-- What a manager is asked for does not tell its engine. -/
theorem Indist.get_bind {f : ActivationManager E → EStateM ε (ActivationManager E) α}
    {g : ActivationManager E' → EStateM ε (ActivationManager E') α}
    (h : ∀ m e, R m.engine e → Alike (Indist R) (f m) (g (m.withEngine e))) :
    Alike (Indist R) (get >>= f) (get >>= g) :=
  .get_bind fun m m' hm => by
    obtain ⟨e, he, rfl⟩ := hm
    exact h m e he

/-- An update that leaves the engine. -/
theorem modify_alike {f : ActivationManager E → ActivationManager E}
    {g : ActivationManager E' → ActivationManager E'} (hengine : ∀ m, (f m).engine = m.engine)
    (h : ∀ m e, g (withEngine m e) = (f m).withEngine e) :
    Alike (ε := ε) (Indist R) (modify f) (modify g) :=
  .modify fun m _ ⟨e, he, hm⟩ => ⟨e, by rwa [hengine], by rw [hm, h]⟩

/-- Queueing an event does not show the engine. -/
theorem pushEvent_alike (event : ConnectionEvent) :
    Alike (Indist R) (pushEvent event : EStateM ε (ActivationManager E) Unit) (pushEvent event) :=
  modify_alike (fun _ => rfl) fun _ _ => rfl

/-- Nor does a transition. -/
theorem transition_alike (active : ActiveConnection) (next : ConnectionState) :
    Alike (Indist R) (transition active next) (transition active next) := by
  unfold transition
  cases active.state.transitionTo next with
  | error err => exact .throw err
  | ok current => exact (pushEvent_alike _).bind fun _ => .pure _

theorem transitionAt_alike (index : ℕ) (active : ActiveConnection) (next : ConnectionState) :
    Alike (Indist R) (transitionAt index active next)
      (transitionAt index active next) :=
  (transition_alike active next).bind fun _ =>
    Alike.bind (modify_alike (fun _ => rfl) fun _ _ => rfl) fun _ => .pure _

/-- An engine call shows its answer, and not what it leaves of the engine. -/
theorem callEngine_alike {x : EStateM ActivationError E α} {y : EStateM ActivationError E' α}
    (h : Alike R x y) (activeId : ActiveConnectionId) (op : EngineOp) :
    Alike (Indist R) (callEngine activeId op x) (callEngine activeId op y) := by
  have hzoom : Alike (Indist R) (zoom ActivationManager.engine (fun e m => { m with engine := e }) x)
      (zoom ActivationManager.engine (fun e m => { m with engine := e }) y) :=
    h.zoom (fun m _ ⟨e, he, hm⟩ => by rw [hm]; exact he)
      fun m _ e e' ⟨_, _, hm⟩ he => ⟨e', he, by rw [hm]; rfl⟩
  exact hzoom.attempt.bind fun answer =>
    Alike.bind (modify_alike (fun _ => rfl) fun _ _ => rfl) fun _ => .pure _

variable (h : engine.Alike R engine')

include h in
/-- An activation does not show the engine, if the engines answer alike. -/
theorem activateMatching_alike (profile : ConnectionProfile) (device : DeviceInfo) :
    Alike (Indist R) (activateMatching engine profile device)
      (activateMatching engine' profile device) := by
  refine Indist.get_bind fun m e he => ?_
  have hset : Alike (ε := ActivationError) (Indist R) (set { m with nextId := m.nextId + 1 })
      (set { m.withEngine e with nextId := m.nextId + 1 }) :=
    fun _ _ _ => Alike.of_ok rfl rfl ⟨e, he, rfl⟩
  refine hset.bind fun _ => (pushEvent_alike _).bind fun _ =>
    (callEngine_alike (h.activate profile device) _ _).bind fun answer => ?_
  cases answer with
  | ok outcome =>
      exact ((transition_alike _ _).adaptExcept _).bind fun _ =>
        ((transition_alike _ _).adaptExcept _).bind fun _ =>
          ((transition_alike _ _).adaptExcept _).bind fun _ => (pushEvent_alike _).bind fun _ =>
            Alike.bind (modify_alike (fun _ => rfl) fun _ _ => rfl) fun _ => .pure _
  | error err =>
      exact ((transition_alike _ _).adaptExcept _).bind fun _ => (pushEvent_alike _).bind fun _ =>
        Alike.bind (modify_alike (fun _ => rfl) fun _ _ => rfl) fun _ => .throw err

include h in
/-- Nor does the activation of the best profile. -/
theorem activate_alike (store : ProfileStore) (device : DeviceInfo) :
    Alike (Indist R) (activate engine store device) (activate engine' store device) := by
  unfold activate
  cases store.list with
  | error err => exact .throw _
  | ok profiles =>
      refine Indist.get_bind fun m e _ => ?_
      have hcandidate : (m.withEngine e).candidate store device profiles =
        m.candidate store device profiles := rfl
      rw [hcandidate]
      cases m.candidate store device profiles with
      | none => exact .throw _
      | some profile => exact activateMatching_alike h profile device

include h in
/-- Nor does the activation of a given profile. -/
theorem activateProfile_alike (store : ProfileStore) (profileId : ProfileId) (device : DeviceInfo) :
    Alike (Indist R) (activateProfile engine store profileId device)
      (activateProfile engine' store profileId device) := by
  unfold activateProfile
  cases store.get profileId with
  | error err => cases err <;> exact .throw _
  | ok profile =>
      dsimp only
      split
      · exact .throw _
      · refine Indist.get_bind fun m e _ => ?_
        have hactive : (m.withEngine e).isActive profileId = m.isActive profileId := rfl
        rw [hactive]
        split
        · exact .throw _
        · exact activateMatching_alike h profile device

include h in
/-- Nor does a deactivation. -/
theorem deactivate_alike (activeId : ActiveConnectionId) :
    Alike (Indist R) (deactivate engine activeId) (deactivate engine' activeId) := by
  refine Indist.get_bind fun m e _ => ?_
  have hactive : (m.withEngine e).active = m.active := rfl
  rw [hactive]
  cases m.active.find? fun active => active.id == activeId with
  | none => exact .throw _
  | some active =>
      dsimp only
      split
      · exact .throw _
      · refine ((transitionAt_alike _ _ _).adaptExcept _).bind fun active' =>
          (callEngine_alike (h.deactivate active'.profile) _ _).bind fun answer => ?_
        cases answer with
        | ok _ =>
            exact ((transitionAt_alike _ _ _).adaptExcept _).bind fun _ =>
              Alike.bind (modify_alike (fun _ => rfl) fun _ _ => rfl) fun _ =>
                pushEvent_alike _
        | error err =>
            exact ((transitionAt_alike _ _ _).adaptExcept _).bind fun _ =>
              (pushEvent_alike _).bind fun _ => .throw err

theorem drainEvents_alike :
    Alike (Indist R) drainEvents drainEvents :=
  Indist.get_bind fun m e he => by
    have hset : Alike (ε := ActivationError) (Indist R) (set { m with events := [] })
        (set { m.withEngine e with events := [] }) := fun _ _ _ => Alike.of_ok rfl rfl ⟨e, he, rfl⟩
    exact hset.bind fun _ => .pure _

end ActivationManager

/-! ### The shared state -/

namespace Daemon

/-- The daemon over another engine. -/
def withEngine (d : Daemon S E) (engine : E') : Daemon S E' :=
  ⟨d.profiles, d.activation.withEngine engine⟩

/-- The daemons differ in the states of their engines only, which `R` relates. -/
def Indist (R : E → E' → Prop) (d : Daemon S E) (d' : Daemon S E') : Prop :=
  ∃ e, R d.activation.engine e ∧ d' = d.withEngine e

variable {R : E → E' → Prop} {ε α : Type}

/-- A call of the manager shows no more of the engine than the manager does. -/
theorem onActivation_alike {x : EStateM ε (ActivationManager E) α}
    {y : EStateM ε (ActivationManager E') α} (h : Alike (ActivationManager.Indist R) x y) :
    Alike (Indist (S := S) R) (onActivation x) (onActivation y) := by
  refine h.zoom (fun d d' ⟨e, he, hd⟩ => ⟨e, he, by rw [hd]; rfl⟩) ?_
  rintro d d' m m' ⟨e, -, rfl⟩ ⟨e', he', rfl⟩
  exact ⟨e', he', rfl⟩

/-- A call of the store shows nothing of the engine. -/
theorem onProfiles_alike (x : EStateM ε S α) :
    Alike (Indist R) (onProfiles x) (onProfiles x) := by
  refine (Alike.refl x).zoom (fun d d' ⟨e, he, hd⟩ => by rw [hd]; rfl) ?_
  rintro d d' profiles profiles' ⟨e, he, rfl⟩ rfl
  exact ⟨e, he, rfl⟩

variable {engine : ActivationEngine E} {engine' : ActivationEngine E'} (h : engine.Alike R engine')

include h in
theorem activate_alike (ops : ProfileStoreOps S) (device : DeviceInfo) :
    Alike (Indist R) (activate ops engine device) (activate ops engine' device) :=
  .get_bind fun d d' ⟨e, _, hd⟩ => by
    subst hd
    exact onActivation_alike (ActivationManager.activate_alike h (ops.view d.profiles) device)

include h in
theorem activateProfile_alike (ops : ProfileStoreOps S) (id : ProfileId) (device : DeviceInfo) :
    Alike (Indist R) (activateProfile ops engine id device)
      (activateProfile ops engine' id device) :=
  .get_bind fun d d' ⟨e, _, hd⟩ => by
    subst hd
    exact onActivation_alike
      (ActivationManager.activateProfile_alike h (ops.view d.profiles) id device)

end Daemon

namespace Shared

/-- The state over another engine. -/
def withEngine (s : Shared S E) (engine : E') : Shared S E' :=
  ⟨s.daemon.withEngine engine, s.connections, s.devices, s.deviceStates, s.accessPoints,
    s.activeConnections, s.rootState, s.signals, s.checks⟩

/-- The states differ in the states of their engines only, which `R` relates. -/
def Indist (R : E → E' → Prop) (s : Shared S E) (t : Shared S E') : Prop :=
  ∃ e, R s.daemon.activation.engine e ∧ t = s.withEngine e

section

variable {R : E → E' → Prop} {env : Environment} {ε α : Type}

/-- What is done on a look at the state may not depend on the engine. -/
theorem Indist.get_bind {f : Shared S E → EStateM ε (Shared S E) α}
    {g : Shared S E' → EStateM ε (Shared S E') α}
    (h : ∀ s e, R s.daemon.activation.engine e → Alike (Indist R) (f s) (g (s.withEngine e))) :
    Alike (Indist R) (get >>= f) (get >>= g) :=
  .get_bind fun s t hs => by
    obtain ⟨e, he, rfl⟩ := hs
    exact h s e he

/-- An update that leaves the engine. -/
theorem modify_alike {f : Shared S E → Shared S E} {g : Shared S E' → Shared S E'}
    (hengine : ∀ s, (f s).daemon.activation.engine = s.daemon.activation.engine)
    (h : ∀ s e, g (withEngine s e) = (f s).withEngine e) :
    Alike (ε := ε) (Indist R) (modify f) (modify g) :=
  .modify fun s _ ⟨e, he, ht⟩ => ⟨e, by rwa [hengine], by rw [ht, h]⟩

/-- A handler that only looks at the state, and not at the engine. -/
theorem reading_alike {f : Shared S E → Except FacadeError α}
    {g : Shared S E' → Except FacadeError α} (h : ∀ s e, g (withEngine s e) = f s) :
    Alike (Indist R) (reading f) (reading g) :=
  Indist.get_bind fun s e _ => by
    rw [h]
    exact .ofExcept _

/-- A call of the daemon shows no more of the engine than the daemon does. -/
theorem onDaemon_alike {x : EStateM ε (Daemon S E) α} {y : EStateM ε (Daemon S E') α}
    (h : Alike (Daemon.Indist R) x y) : Alike (Indist R) (onDaemon x) (onDaemon y) := by
  refine h.zoom (fun s t ⟨e, he, ht⟩ => ⟨e, he, by rw [ht]; rfl⟩) ?_
  rintro s t d d' ⟨e, -, rfl⟩ ⟨e', he', rfl⟩
  exact ⟨e', he', rfl⟩

/-- So does a call of the manager. -/
theorem onManager_alike {x : EStateM ActivationError (Daemon S E) α}
    {y : EStateM ActivationError (Daemon S E') α} (h : Alike (Daemon.Indist R) x y) :
    Alike (Indist R) (onManager x) (onManager y) :=
  Alike.adaptExcept (onDaemon_alike h) _

/-- A call of the store shows nothing of it. -/
theorem onStore_alike (x : EStateM StoreError S α) :
    Alike (Indist R) (onStore (Daemon.onProfiles x))
      (onStore (Daemon.onProfiles x)) :=
  Alike.adaptExcept (onDaemon_alike (Daemon.onProfiles_alike x)) _

variable (S) in
/-- A handler that answers the same over any two engines. -/
abbrev Blind (R : E → E' → Prop) (x : EStateM ε (Shared S E) α) (y : EStateM ε (Shared S E') α) :
    Prop := Alike (Indist R) x y

/-- The policy backend sees nothing of the engine. -/
theorem check_alike (sender : Option String) (action : String) :
    Blind S R (check env sender action) (check env sender action) :=
  Alike.bind (modify_alike (fun _ => rfl) fun _ _ => rfl) fun _ => .pure _

theorem authorize_alike (sender : Option String) (action : String) :
    Blind S R (authorize env sender action) (authorize env sender action) := by
  refine (check_alike sender action).bind fun answer => ?_
  obtain (_ | _) | (_ | _ | _) := answer
  case ok.yes => exact .pure _
  all_goals exact .throw _

theorem permission_alike (sender : Option String) (action : String) :
    Blind S R (permission env sender action) (permission env sender action) := by
  refine (check_alike sender action).bind fun answer => ?_
  obtain (_ | _) | (_ | _ | _) := answer
  all_goals exact .pure _

/-- The bus sees nothing of the engine. -/
theorem request_alike (r : BusRequest) : Blind S R (request env r) (request env r) := by
  refine (Alike.ofExcept _).bind fun _ => ?_
  cases r with
  | emit signal => exact modify_alike (fun _ => rfl) fun _ _ => rfl
  | register path | unregister path | ownedPath path => exact .pure _

theorem emit_alike (signal : Signal) : Blind S R (emit env signal) (emit env signal) :=
  (request_alike _).adaptExcept _

theorem register_alike (paths : List String) : Blind S R (register env paths) (register env paths) :=
  .forM (fun _ => request_alike _) paths

theorem registerConnectionObject_alike (profile : ConnectionProfile) :
    Blind S R (registerConnectionObject env profile) (registerConnectionObject env profile) :=
  (register_alike _).bind fun _ => modify_alike (fun _ => rfl) fun _ _ => rfl

theorem registerActiveConnectionObject_alike (active : ActiveConnection) :
    Blind S R (registerActiveConnectionObject env active)
      (registerActiveConnectionObject env active) :=
  (register_alike _).bind fun _ => modify_alike (fun _ => rfl) fun _ _ => rfl

theorem unregisterActiveConnection_alike (id : ActiveConnectionId) :
    Blind S R (unregisterActiveConnection env id) (unregisterActiveConnection env id) :=
  Alike.bind (.forM (fun _ => (request_alike _).attempt.bind fun _ => .pure _) _) fun _ =>
    modify_alike (fun _ => rfl) fun _ _ => rfl

theorem unregisterConnection_alike (profileId : ProfileId) :
    Blind S R (unregisterConnection env profileId) (unregisterConnection env profileId) :=
  Indist.get_bind fun s e _ => by
    have hconnections : (s.withEngine e).connections = s.connections := rfl
    rw [hconnections]
    cases s.connections.lookup profileId with
    | none => exact .pure _
    | some path =>
        exact Alike.bind (modify_alike (fun _ => rfl) fun _ _ => rfl) fun _ =>
          (request_alike _).adaptExcept _

/-- The state of a device says nothing of the engine. -/
theorem emitDeviceState_alike (index : Int32) (newState : UInt32) :
    Blind S R (emitDeviceState env index newState) (emitDeviceState env index newState) :=
  Indist.get_bind fun s e _ => by
    have hstates : (s.withEngine e).deviceStates = s.deviceStates := rfl
    dsimp only
    rw [hstates]
    split
    · exact .pure _
    · exact Alike.bind (modify_alike (fun _ => rfl) fun _ _ => rfl) fun _ =>
        (emit_alike _).bind fun _ => emit_alike _

/-- The state of the network says nothing of the engine. -/
theorem emitRootStateIfChanged_alike :
    Blind S R (emitRootStateIfChanged env) (emitRootStateIfChanged env) :=
  Indist.get_bind fun s e _ => by
    have hstate : currentNmState (s.withEngine e).daemon = currentNmState s.daemon := rfl
    have hroot : (s.withEngine e).rootState = s.rootState := rfl
    dsimp only
    rw [hstate, hroot]
    split
    · exact .pure _
    · exact Alike.bind (modify_alike (fun _ => rfl) fun _ _ => rfl) fun _ => emit_alike _

/-- What mirrors an event says nothing of the engine. -/
theorem mirrorEvent_alike (deviceByActive : DeviceByActive) (event : ConnectionEvent) :
    Blind S R (mirrorEvent env deviceByActive event) (mirrorEvent env deviceByActive event) := by
  cases event with
  | stateChanged activeId profileId previous current =>
      refine (emit_alike _).bind fun _ => Indist.get_bind fun s e _ => ?_
      have hactive : (s.withEngine e).activeById activeId = s.activeById activeId := rfl
      rw [hactive]
      dsimp only
      split
      · exact .pure _
      · exact (emitDeviceState_alike _ _).bind fun _ => .pure _
  | deactivated activeId profileId =>
      refine (unregisterActiveConnection_alike _).bind fun _ => (emit_alike _).bind fun _ => ?_
      cases deviceByActive.lookup activeId with
      | none => exact .pure _
      | some index => exact (emitDeviceState_alike _ _).bind fun _ => .pure _
  | activated activeId profileId | failed activeId profileId reason => exact .pure _

/-- So do the signals of all events. -/
theorem emitConnectionEvents_alike :
    Blind S R (emitConnectionEvents env) (emitConnectionEvents env) :=
  (onManager_alike (Daemon.onActivation_alike ActivationManager.drainEvents_alike)).bind fun events =>
    (Alike.foldlM mirrorEvent_alike ∅ events).bind fun _ => emitRootStateIfChanged_alike

end

end Shared

/-! ### The handlers -/

/-- The services with another engine. -/
def Services.withEngine (svc : Services S E V) (engine : ActivationEngine E') :
    Services S E' V := ⟨svc.zvariant, svc.ipText, svc.store, engine⟩

section

open Shared

variable {R : E → E' → Prop} {svc : Services S E V} {engine : ActivationEngine E'}
  {env : Environment} (h : svc.engine.Alike R engine)

namespace RootIface

include h in
/-- Activating a profile does not show the engine. -/
theorem activate_alike (settings : SettingsDict V) (device : String) :
    Blind S R (activate svc env settings device)
      (activate (svc.withEngine engine) env settings device) := by
  refine (Alike.ofExcept _).bind fun info => ?_
  have hprofile : (svc.withEngine engine).profileOf settings = svc.profileOf settings := rfl
  rw [hprofile]
  split
  · exact onManager_alike (Daemon.activate_alike h svc.store info)
  · exact (Alike.ofExcept _).bind fun profile =>
      onManager_alike (Daemon.activateProfile_alike h svc.store profile.id info)

/-- Announcing a connection does not show the engine. -/
theorem announce_alike (active : ActiveConnection) :
    Blind S R (announce env active) (announce env active) :=
  ((registerActiveConnectionObject_alike active).adaptExcept _).bind fun _ =>
    (emit_alike _).bind fun _ => emitConnectionEvents_alike.bind fun _ => .pure _

include h in
/-- `ActivateConnection` does not show the engine. -/
theorem activateConnection_alike (sender : Option String) (settings : SettingsDict V)
    (device : String) : Blind S R (activateConnection svc env sender settings device)
      (activateConnection (svc.withEngine engine) env sender settings device) :=
  (authorize_alike sender _).bind fun _ => (activate_alike h settings device).bind fun active =>
    (announce_alike active).bind fun _ => .ofExcept _

include h in
theorem addAndActivate_alike (settings : SettingsDict V) (device : String) :
    Blind S R (addAndActivate svc env settings device)
      (addAndActivate (svc.withEngine engine) env settings device) := by
  refine (Alike.ofExcept _).bind fun profile => (onStore_alike _).bind fun _ =>
    ((registerConnectionObject_alike profile).adaptExcept _).bind fun _ => ?_
  exact (activate_alike h settings device).bind fun active =>
    (announce_alike active).bind fun _ => .pure _

include h in
/-- `AddAndActivateConnection` does not show the engine. -/
theorem addAndActivateConnection_alike (sender : Option String) (settings : SettingsDict V)
    (device : String) : Blind S R (addAndActivateConnection svc env sender settings device)
      (addAndActivateConnection (svc.withEngine engine) env sender settings device) :=
  (authorize_alike sender _).bind fun _ => (addAndActivate_alike h settings device).bind fun _ =>
    (Alike.ofExcept _).bind fun _ => (Alike.ofExcept _).bind fun _ => .pure _

include h in
/-- `DeactivateConnection` does not show the engine. -/
theorem deactivateConnection_alike (sender : Option String) (active : String) :
    Blind S R (deactivateConnection svc env sender active)
      (deactivateConnection (svc.withEngine engine) env sender active) :=
  (authorize_alike sender _).bind fun _ => (Alike.ofExcept _).bind fun id =>
    (onManager_alike (Daemon.onActivation_alike (ActivationManager.deactivate_alike h id))).bind
      fun _ => emitConnectionEvents_alike

theorem getPermissions_alike (sender : Option String) :
    Blind S R (getPermissions env sender) (getPermissions env sender) :=
  .mapM (fun _ => (permission_alike sender _).bind fun _ => .pure _) _

end RootIface

theorem SettingsIface.addConnectionWith_alike (announced : Bool) (sender : Option String)
    (settings : SettingsDict V) : Blind S R (addConnectionWith svc env announced sender settings)
      (addConnectionWith (svc.withEngine engine) env announced sender settings) := by
  refine (authorize_alike sender _).bind fun _ => (Alike.ofExcept _).bind fun profile =>
    (onStore_alike _).bind fun _ => ((registerConnectionObject_alike profile).adaptExcept _).bind
      fun _ => ?_
  cases announced with
  | true => exact (emit_alike _).bind fun _ => .ofExcept _
  | false => exact Alike.ofExcept _

namespace SettingsConnectionIface

/-- `Update` does not show the engine. -/
theorem update_alike (profileId : ProfileId) (sender : Option String) (settings : SettingsDict V) :
    Blind S R (update svc env profileId sender settings)
      (update (svc.withEngine engine) env profileId sender settings) := by
  refine (authorize_alike sender _).bind fun _ => (Alike.ofExcept _).bind fun profile => ?_
  split
  · exact .throw _
  · exact (onStore_alike _).bind fun _ => emit_alike _

/-- `Delete` does not show the engine. -/
theorem delete_alike (profileId : ProfileId) (sender : Option String) :
    Blind S R (delete svc env profileId sender)
      (delete (svc.withEngine engine) env profileId sender) :=
  (authorize_alike sender _).bind fun _ => (onStore_alike _).bind fun _ =>
    (emit_alike _).bind fun _ => unregisterConnection_alike profileId

end SettingsConnectionIface

namespace DeviceIface

theorem requireActive_alike (index : Int32) :
    Blind S R (requireActive env index) (requireActive env index) :=
  (Alike.ofExcept _).bind fun iface => Indist.get_bind fun s e _ => by
    have hactive : active env index (s.withEngine e) = active env index s := rfl
    rw [hactive]
    exact (Alike.ofExcept _).bind fun _ => .ofExcept _

include h in
/-- `Disconnect` does not show the engine. -/
theorem disconnect_alike (index : Int32) (sender : Option String) :
    Blind S R (disconnect svc env index sender)
      (disconnect (svc.withEngine engine) env index sender) :=
  (authorize_alike sender _).bind fun _ => (requireActive_alike index).bind fun active =>
    (onManager_alike
      (Daemon.onActivation_alike (ActivationManager.deactivate_alike h active.id))).bind
      fun _ => emitConnectionEvents_alike

theorem delete_alike (index : Int32) (sender : Option String) :
    Blind S R (delete svc env index sender) (delete (svc.withEngine engine) env index sender) :=
  (authorize_alike sender _).bind fun _ => (requireActive_alike index).bind fun _ =>
    (onStore_alike _).bind fun _ => (unregisterConnection_alike _).bind fun _ => emit_alike _

end DeviceIface

include h in
/-- No method tells the engines apart. -/
theorem Method.alike (sender : Option String) (method : Method V) :
    Blind S R (method.perform svc env sender)
      (method.perform (svc.withEngine engine) env sender) := by
  cases method with
  | getDevices | getAllDevices | getDeviceByIpIface _ | checkConnectivity | checkConnectivityFull
  | getConnectivity | listConnections | getConnectionByUuid _ | getSettings _
  | getAppliedConnection _ | deviceGetAppliedConnection _ =>
      exact (reading_alike fun _ _ => rfl).map _
  | setLogging | getLogging | deviceStateReasons | getDeviceStateReasons | getSecrets _
  | getSettingsFlags _ => exact .pure _
  | deviceReapply _ | deviceSetManaged _ => exact .throw _
  | sleep | enable | reload => exact (authorize_alike sender _).map _
  | loadConnections | reloadConnections =>
      exact ((authorize_alike sender _).bind fun _ => .pure _).map _
  | saveHostname => exact (authorize_alike sender _).map _
  | getPermissions => exact (RootIface.getPermissions_alike sender).map _
  | activateConnection settings device =>
      exact (RootIface.activateConnection_alike h sender settings device).map _
  | addAndActivateConnection settings device | addAndActivateConnection2 settings device =>
      exact (RootIface.addAndActivateConnection_alike h sender settings device).map _
  | deactivateConnection active =>
      exact (RootIface.deactivateConnection_alike h sender active).map _
  | addConnection settings | addConnectionUnsaved settings | addConnection2 settings =>
      exact (SettingsIface.addConnectionWith_alike _ sender settings).map _
  | update profileId settings | updateUnsaved profileId settings =>
      exact (SettingsConnectionIface.update_alike profileId sender settings).map _
  | delete profileId => exact (SettingsConnectionIface.delete_alike profileId sender).map _
  | deviceDisconnect index => exact (DeviceIface.disconnect_alike h index sender).map _
  | deviceDelete index => exact (DeviceIface.delete_alike index sender).map _

end

end NetworkManager
