import NetworkManager.Connection.Activation.Heads
import NetworkManager.Dbus.Facade.Steps

/-!
# Dbus — Facade — Moves

What a call does while the bus library refuses nothing, in two halves.

* `Shared.step_settings`: the profiles and the connection objects are those that the one store call
  of the method (`MethodCall.writes`) leaves.
* `Shared.step_activity`: the manager makes one move, and the objects of active connections follow
  its events only if it succeeds (`Manages`).
-/

namespace NetworkManager

open Effects Shared ActivationManager

variable {S E V : Type}

/-! ### The two halves -/

/-- The profiles and the objects of connections. -/
def Shared.settings (s : Shared S E) : S × AList fun _ : ProfileId => String :=
  (s.daemon.profiles, s.connections)

/-- The manager and the objects of active connections. -/
def Shared.activity (s : Shared S E) : ActivationManager E × Finset ActiveConnectionId :=
  (s.daemon.activation, s.activeConnections)

/-- The connection objects once the store has served the call. -/
def StoreCall.register (w : StoreCall) (connections : AList fun _ : ProfileId => String) :
    AList fun _ : ProfileId => String :=
  match w with
  | .create profile => connections.insert profile.id (settingsConnectionPath (stableUuid profile.id))
  | .delete id => connections.erase id
  | .list | .get _ | .update _ => connections

/-- What a method that makes the store call `w` leaves. -/
def Services.stored (svc : Services S E V) (w : Option StoreCall)
    (settings : S × AList fun _ : ProfileId => String) : S × AList fun _ : ProfileId => String :=
  match w with
  | none => settings
  | some w =>
    match svc.store.call w settings.1 with
    | .ok _ profiles => (profiles, w.register settings.2)
    | .error _ profiles => (profiles, settings.2)

/-- The store call of a method that is let through. -/
def Method.writes (svc : Services S E V) (env : Environment) (s : Shared S E) :
    Method V → Option StoreCall
  | .addConnection settings | .addConnectionUnsaved settings | .addConnection2 settings
  | .addAndActivateConnection settings _ | .addAndActivateConnection2 settings _ =>
    (svc.profileOf settings).toOption.map .create
  | .update profileId settings | .updateUnsaved profileId settings =>
    (svc.profileOf settings).toOption.bind fun p => if p.id = profileId then some (.update p) else none
  | .delete profileId => some (.delete profileId)
  | .deviceDelete index =>
    ((DeviceIface.active env index s).toOption.bind id).map fun active => .delete active.profile.id
  | _ => none

/-- The action that a method asks leave for before it does anything. -/
def Method.action : Method V → Option String
  | .activateConnection _ _ | .addAndActivateConnection _ _ | .addAndActivateConnection2 _ _
  | .deactivateConnection _ | .deviceDisconnect _ => some actionNetworkControl
  | .addConnection _ | .addConnectionUnsaved _ | .addConnection2 _ | .loadConnections
  | .reloadConnections | .saveHostname | .update _ _ | .updateUnsaved _ _ | .delete _
  | .deviceDelete _ => some actionSettingsModifySystem
  | .sleep | .enable => some actionEnableDisableNetwork
  | .reload => some actionReload
  | _ => none

/-- The store call of a call, if its sender is let through. -/
def MethodCall.writes (svc : Services S E V) (s : Shared S E) (call : MethodCall V) :
    Option StoreCall :=
  if call.method.action.any fun action =>
      call.env.authorization (.fromSender call.sender) action = .ok .yes then
    call.method.writes svc call.env s
  else none

/-- The activations of a call are made with this store. -/
def Operation.Uses (store : ProfileStore) : Operation → Prop
  | .activate store' _ | .activateProfile store' _ _ => store' = store
  | .deactivate _ | .drainEvents => True

/-- What a call leaves of the manager and of the objects of active connections: a move that fails
stays unmirrored. -/
inductive Manages (engine : ActivationEngine E) (store : ProfileStore)
    (before : ActivationManager E × Finset ActiveConnectionId) :
    ActivationManager E × Finset ActiveConnectionId → Prop where
  | left : Manages engine store before before
  | failed {op : Operation} {err : ActivationError} {m : ActivationManager E} (huses : op.Uses store)
      (hmove : Moves engine before.1 op (.error err) m) : Manages engine store before (m, before.2)
  | connected {op : Operation} {a : ActiveConnection} {m : ActivationManager E}
      (huses : op.Uses store) (hmove : Moves engine before.1 op (.ok (.connected a)) m) :
      Manages engine store before ({ m with events := [] }, insert a.id before.2 \ ended m.events)
  | disconnected {op : Operation} {m : ActivationManager E} (huses : op.Uses store)
      (hmove : Moves engine before.1 op (.ok .done) m) :
      Manages engine store before ({ m with events := [] }, before.2 \ ended m.events)

section

variable {s t : Shared S E}

/-- The core holds the settings. -/
theorem settings_of_core (h : t.core = s.core) : t.settings = s.settings := by
  obtain ⟨hdaemon, -, hconnections, -⟩ := core_eq.mp h
  exact Prod.ext (congrArg Daemon.profiles hdaemon) hconnections

/-- The core holds the activity. -/
theorem activity_of_core (h : t.core = s.core) : t.activity = s.activity := by
  obtain ⟨hdaemon, -, -, hactive⟩ := core_eq.mp h
  exact Prod.ext (congrArg Daemon.activation hdaemon) hactive

/-- A call of the manager, by the move it makes. -/
theorem onManager_moves {α : Type} {engine : ActivationEngine E}
    {x : EStateM ActivationError (ActivationManager E) α} {op : Operation} {f : α → Reply}
    (hx : op.perform engine = f <$> x) (s : Shared S E) :
    (∃ a m, Moves engine s.daemon.activation op (.ok (f a)) m ∧
      onManager (Daemon.onActivation x) s = .ok a (s.withActivation m)) ∨
    ∃ err m, Moves engine s.daemon.activation op (.error err) m ∧
      onManager (Daemon.onActivation x) s =
        .error (.ofActivationError err) (s.withActivation m) := by
  have hmove := perform_moves engine s.daemon.activation op
  rw [hx] at hmove
  cases h : x s.daemon.activation with
  | ok a m =>
      rw [settle_of_ok (map_eq_ok.mpr ⟨a, h, rfl⟩)] at hmove
      exact .inl ⟨a, m, hmove, onManager_of_ok h⟩
  | error err m =>
      rw [settle_of_error (map_eq_error.mpr h)] at hmove
      exact .inr ⟨err, m, hmove, onManager_of_error h⟩

end

/-! ### The handlers -/

/-- From `s` the handler makes the store call `w`, and one move of the manager. -/
structure Does {α : Type} (svc : Services S E V) (w : Option StoreCall) (x : Handler S E α)
    (s : Shared S E) : Prop where
  settings : (after x s).settings = svc.stored w s.settings
  activity : Manages svc.engine (svc.store.view (after x s).daemon.profiles) s.activity
    (after x s).activity

section

variable {α β γ : Type} {svc : Services S E V} {env : Environment} {w : Option StoreCall}
  {x : Handler S E α} {s t : Shared S E}

/-- What leaves the settings and the activity does nothing. -/
theorem Does.still (hsettings : (after x s).settings = s.settings)
    (hactivity : (after x s).activity = s.activity) : Does svc none x s where
  settings := hsettings
  activity := by
    rw [hactivity]
    exact .left

/-- What is done shows in the state afterwards. -/
theorem Does.iff_of_after (h : after x s = t) : Does svc w x s ↔
    t.settings = svc.stored w s.settings ∧
      Manages svc.engine (svc.store.view t.daemon.profiles) s.activity t.activity := by
  subst h
  exact ⟨fun hx => ⟨hx.settings, hx.activity⟩, fun ⟨hsettings, hactivity⟩ =>
    ⟨hsettings, hactivity⟩⟩

/-- Computations that are equal at the state do the same. -/
theorem Does.of_eq {y : Handler S E α} (hx : Does svc w x s) (h : y s = x s) : Does svc w y s :=
  (iff_of_after (after_congr h)).mpr ⟨hx.settings, hx.activity⟩

/-- Mapping the result changes nothing of what is done. -/
theorem Does.map (hx : Does svc w x s) (f : α → β) : Does svc w (f <$> x) s :=
  (Does.iff_of_after (after_map f x s)).mpr ⟨hx.settings, hx.activity⟩

/-- A handler that asks the policy backend first. -/
theorem Does.authorized {sender : Option String} {action : String}
    (hyes : (env.check sender action).answer = .ok .yes)
    (hx : Does svc w x (s.asked [env.check sender action])) :
    Does svc w (do authorize env sender action; x) s :=
  (Does.iff_of_after (after_bind_of_ok (authorize_of_yes s hyes))).mpr ⟨hx.settings, hx.activity⟩

/-- A handler that makes a store call, and goes on only if it is served: to the objects that follow
the call, and then to `y`. -/
theorem Does.write {e : StoreCall} {z : EStateM StoreError S γ} {f : γ → StoreAnswer}
    {k : γ → Handler S E α} {y : Handler S E β} (he : svc.store.call e = f <$> z)
    (hk : ∀ c profiles, ∃ t, after (k c) (s.withProfiles profiles) = after y t ∧
      t.core = ((s.withProfiles profiles).withConnections (e.register s.connections)).core ∧
      Does svc none y t) :
    Does svc (some e) (onStore (Daemon.onProfiles z) >>= k) s := by
  cases hz : z s.daemon.profiles with
  | ok c profiles =>
      obtain ⟨t, ht, hcore, hy⟩ := hk c profiles
      have hafter : after (onStore (Daemon.onProfiles z) >>= k) s = after y t :=
        (after_bind_of_ok (onStore_of_ok hz)).trans ht
      have hcall : svc.store.call e s.settings.1 = .ok (f c) profiles := by
        rw [he]
        exact map_eq_ok.mpr ⟨c, hz, rfl⟩
      refine (Does.iff_of_after hafter).mpr ⟨?_, ?_⟩
      · rw [hy.settings, Services.stored, settings_of_core hcore, Services.stored]
        simp only [hcall]
        rfl
      · have hactivity : t.activity = s.activity := (activity_of_core hcore).trans rfl
        rw [← hactivity]
        exact hy.activity
  | error err profiles =>
      have hafter : after (onStore (Daemon.onProfiles z) >>= k) s = s.withProfiles profiles :=
        after_of_error (bind_of_error (onStore_of_error hz))
      have hcall : svc.store.call e s.settings.1 = .error err profiles := by
        rw [he]
        exact map_eq_error.mpr hz
      refine (Does.iff_of_after hafter).mpr ⟨?_, .left⟩
      rw [Services.stored]
      simp only [hcall]
      rfl

variable (svc env) in
/-- An attempt to activate fails before it reaches the manager, or makes a move. -/
theorem activate_moves (settings : SettingsDict V) (device : String) (s : Shared S E) :
    (∃ err, RootIface.activate svc env settings device s = .error err s) ∨
    ∃ op : Operation, op.Uses (svc.store.view s.daemon.profiles) ∧
      op.device? = (RootIface.deviceInfo env device).toOption ∧
      ((∃ a m, Moves svc.engine s.daemon.activation op (.ok (.connected a)) m ∧
        RootIface.activate svc env settings device s = .ok a (s.withActivation m)) ∨
      ∃ err m, Moves svc.engine s.daemon.activation op (.error err) m ∧
        RootIface.activate svc env settings device s =
          .error (.ofActivationError err) (s.withActivation m)) := by
  unfold RootIface.activate
  cases hinfo : RootIface.deviceInfo env device with
  | error err => exact .inl ⟨err, rfl⟩
  | ok info =>
      rw [ofExcept_bind]
      by_cases hempty : settings = []
      · rw [if_pos hempty]
        exact .inr ⟨.activate (svc.store.view s.daemon.profiles) info, rfl, rfl,
          onManager_moves (map_eq_pure_bind ..).symm s⟩
      · rw [if_neg hempty]
        cases hp : svc.profileOf settings with
        | error err => exact .inl ⟨err, rfl⟩
        | ok p =>
            rw [ofExcept_bind]
            exact .inr ⟨.activateProfile (svc.store.view s.daemon.profiles) p.id info, rfl, rfl,
              onManager_moves (map_eq_pure_bind ..).symm s⟩

/-- A handler that attempts an activation and announces the connection. -/
theorem activate_does (hup : env.BusUp) (settings : SettingsDict V) (device : String)
    {k : String → Handler S E α} (hk : ∀ path t, after (k path) t = t) :
    Does svc none (do
      let active ← RootIface.activate svc env settings device
      let path ← RootIface.announce env active
      k path) s := by
  obtain ⟨err, h⟩ | ⟨op, huses, -, ⟨a, m, hmove, h⟩ | ⟨err, m, hmove, h⟩⟩ :=
    activate_moves svc env settings device s
  · have hafter := after_of_error (bind_of_error (f := fun active => do
      let path ← RootIface.announce env active
      k path) h)
    exact (Does.iff_of_after hafter).mpr ⟨rfl, .left⟩
  · obtain ⟨path, t, hannounce, hcore⟩ := announce_up hup a (s.withActivation m)
    have hsettings : t.settings = s.settings := (settings_of_core hcore).trans rfl
    refine (Does.iff_of_after ((after_bind_of_ok h).trans
      ((after_bind_of_ok hannounce).trans (hk path t)))).mpr ⟨hsettings, ?_⟩
    have hprofiles : t.daemon.profiles = s.daemon.profiles := congrArg Prod.fst hsettings
    rw [activity_of_core hcore, hprofiles]
    exact .connected huses hmove
  · exact (Does.iff_of_after (after_of_error (bind_of_error h))).mpr ⟨rfl, .failed huses hmove⟩

/-- A handler that deactivates a connection. -/
theorem deactivate_does (hup : env.BusUp) (id : ActiveConnectionId) :
    Does svc none (do
      onManager (Daemon.deactivate svc.engine id)
      emitConnectionEvents env) s := by
  have hperform : (Operation.deactivate id).perform svc.engine =
      (fun _ => .done) <$> ActivationManager.deactivate svc.engine id :=
    (map_eq_pure_bind ..).symm
  have huses : ∀ store, (Operation.deactivate id).Uses store := fun _ => trivial
  obtain ⟨u, m, hmove, h⟩ | ⟨err, m, hmove, h⟩ := onManager_moves hperform s
  · have hmanager : onManager (Daemon.deactivate svc.engine id) s = .ok u (s.withActivation m) := h
    obtain ⟨t, hevents, hcore⟩ := emitConnectionEvents_up hup (s.withActivation m)
    refine (Does.iff_of_after ((after_bind_of_ok hmanager).trans (after_of_ok hevents))).mpr
      ⟨(settings_of_core hcore).trans rfl, ?_⟩
    rw [activity_of_core hcore]
    exact .disconnected (huses _) hmove
  · have hmanager : onManager (Daemon.deactivate svc.engine id) s = .error _ (s.withActivation m) := h
    exact (Does.iff_of_after (after_of_error (bind_of_error hmanager))).mpr
      ⟨rfl, .failed (huses _) hmove⟩

/-! ### The methods that are let through -/

theorem Does.done (a : α) : Does svc none (pure a) s := .still rfl rfl

/-- A failure that leaves the state does nothing. -/
theorem Does.failed {e : FacadeError} {y : Handler S E α} (h : y s = .error e s) :
    Does svc none y s := (Does.iff_of_after (after_of_error h)).mpr ⟨rfl, .left⟩

/-- Adding a connection creates its profile. -/
theorem addConnectionWith_does (hup : env.BusUp) (announced : Bool) (sender : Option String)
    (settings : SettingsDict V)
    (hyes : (env.check sender actionSettingsModifySystem).answer = .ok .yes) :
    Does svc ((svc.profileOf settings).toOption.map .create)
      (SettingsIface.addConnectionWith svc env announced sender settings) s := by
  refine .authorized hyes ?_
  cases hp : svc.profileOf settings with
  | error err => exact .failed rfl
  | ok p =>
      refine Does.write (e := .create p) (y := pure ()) rfl fun c profiles => ?_
      obtain ⟨t, hregister, hcore⟩ := registerConnectionObject_up hup p
        ((s.asked [env.check sender actionSettingsModifySystem]).withProfiles profiles)
      cases announced with
      | true =>
          obtain ⟨u, hemit, hcore'⟩ :=
            emit_up hup (.newConnection (settingsConnectionPath (stableUuid p.id))) t
          refine ⟨u, ?_, hcore'.trans hcore, .done ()⟩
          rw [after_bind_of_ok (adaptExcept_of_ok hregister)]
          exact (after_bind_of_ok hemit).trans (after_of_ok (ownedPath_up hup _ u))
      | false =>
          refine ⟨t, ?_, hcore, .done ()⟩
          rw [after_bind_of_ok (adaptExcept_of_ok hregister)]
          exact after_of_ok (ownedPath_up hup _ t)

/-- Adding and activating creates the profile and moves the manager. -/
theorem addAndActivate_does (hup : env.BusUp) (settings : SettingsDict V) (device : String) :
    Does svc ((svc.profileOf settings).toOption.map .create)
      (RootIface.addAndActivate svc env settings device) s := by
  unfold RootIface.addAndActivate
  cases hp : svc.profileOf settings with
  | error err => exact .failed rfl
  | ok p =>
      refine Does.write (e := .create p) (y := do
        let active ← RootIface.activate svc env settings device
        let path ← RootIface.announce env active
        return (settingsConnectionPath (stableUuid p.id), path)) rfl fun c profiles => ?_
      obtain ⟨t, hregister, hcore⟩ := registerConnectionObject_up hup p (s.withProfiles profiles)
      exact ⟨t, after_bind_of_ok (adaptExcept_of_ok hregister), hcore,
        activate_does hup settings device fun _ _ => rfl⟩

/-- So does the method, with leave. -/
theorem addAndActivateConnection_does (hup : env.BusUp) (sender : Option String)
    (settings : SettingsDict V) (device : String)
    (hyes : (env.check sender actionNetworkControl).answer = .ok .yes) :
    Does svc ((svc.profileOf settings).toOption.map .create)
      (RootIface.addAndActivateConnection svc env sender settings device) s := by
  have hadd : Does svc ((svc.profileOf settings).toOption.map .create)
      (RootIface.addAndActivate svc env settings device)
      (s.asked [env.check sender actionNetworkControl]) := addAndActivate_does hup settings device
  exact (Does.iff_of_after (addAndActivateConnection_of_yes svc env sender settings device s
    hyes)).mpr ⟨hadd.settings, hadd.activity⟩

/-- Updating overwrites the profile, if it keeps its id. -/
theorem update_does (hup : env.BusUp) (profileId : ProfileId) (sender : Option String)
    (settings : SettingsDict V)
    (hyes : (env.check sender actionSettingsModifySystem).answer = .ok .yes) :
    Does svc ((svc.profileOf settings).toOption.bind fun p =>
        if p.id = profileId then some (.update p) else none)
      (SettingsConnectionIface.update svc env profileId sender settings) s := by
  refine .authorized hyes ?_
  unfold SettingsConnectionIface.updateInner
  cases hp : svc.profileOf settings with
  | error err => exact .failed rfl
  | ok p =>
      show Does svc (if p.id = profileId then some (.update p) else none) _ _
      by_cases hid : p.id = profileId
      · rw [if_pos hid]
        have hwrite : Does svc (some (.update p)) (onStore (Daemon.updateProfile svc.store p) >>=
            fun _ => emit env (.updated (settingsConnectionPath (stableUuid profileId))))
            (s.asked [env.check sender actionSettingsModifySystem]) := by
          refine Does.write (e := .update p) (y := pure ()) rfl fun c profiles => ?_
          obtain ⟨t, hemit, hcore⟩ := emit_up hup
            (.updated (settingsConnectionPath (stableUuid profileId)))
            ((s.asked [env.check sender actionSettingsModifySystem]).withProfiles profiles)
          exact ⟨t, after_of_ok hemit, hcore, .done ()⟩
        exact hwrite.of_eq (by rw [ofExcept_bind, if_neg (not_not_intro hid)])
      · rw [if_neg hid]
        exact .failed (by rw [ofExcept_bind, if_pos hid]; rfl)

/-- Deleting deletes the profile. -/
theorem delete_does (hup : env.BusUp) (profileId : ProfileId) (sender : Option String)
    (hyes : (env.check sender actionSettingsModifySystem).answer = .ok .yes) :
    Does svc (some (.delete profileId))
      (SettingsConnectionIface.delete svc env profileId sender) s := by
  refine .authorized hyes (Does.write (e := .delete profileId) (y := pure ()) rfl
    fun c profiles => ?_)
  obtain ⟨t, hemit, hcore⟩ := emit_up hup
    (.removed (settingsConnectionPath (stableUuid profileId)))
    ((s.asked [env.check sender actionSettingsModifySystem]).withProfiles profiles)
  obtain ⟨u, hunregister, hcore'⟩ := unregisterConnection_up hup profileId t
  refine ⟨u, (after_bind_of_ok hemit).trans (after_of_ok hunregister), hcore'.trans ?_, .done ()⟩
  obtain ⟨hdaemon, hchecks, hconnections, hactive⟩ := core_eq.mp hcore
  exact core_eq.mpr ⟨hdaemon, hchecks, congrArg (AList.erase profileId) hconnections, hactive⟩

variable (env) in
/-- The connection of a device, or why there is none. -/
theorem requireActive_cases (index : Int32) (s : Shared S E) :
    (∃ a, DeviceIface.active env index s = .ok (some a) ∧
      DeviceIface.requireActive env index s = .ok a s) ∨
    ((DeviceIface.active env index s).toOption.bind id = none ∧
      ∃ err, DeviceIface.requireActive env index s = .error err s) := by
  cases hview : env.backend.deviceView index with
  | error err =>
      refine .inr ⟨by rw [DeviceIface.active, hview]; rfl, err, ?_⟩
      rw [DeviceIface.requireActive, DeviceIface.interfaceName, hview]
      rfl
  | ok view =>
      have hactive : DeviceIface.active env index s = .ok (s.deviceActive view.interface) := by
        rw [DeviceIface.active, hview]
        rfl
      rw [hactive, requireActive_eq hview]
      cases s.deviceActive view.interface with
      | none => exact .inr ⟨rfl, .notActive view.interface, rfl⟩
      | some a => exact .inl ⟨a, rfl, rfl⟩

/-- Deleting on a device deletes the profile of its connection. -/
theorem deviceDelete_does (hup : env.BusUp) (index : Int32) (sender : Option String)
    (hyes : (env.check sender actionSettingsModifySystem).answer = .ok .yes) :
    Does svc (((DeviceIface.active env index s).toOption.bind id).map fun active =>
        .delete active.profile.id)
      (DeviceIface.delete svc env index sender) s := by
  refine .authorized hyes ?_
  obtain ⟨a, hactive, hrequire⟩ | ⟨hnone, err, hrequire⟩ :=
    requireActive_cases env index (s.asked [env.check sender actionSettingsModifySystem])
  · have hwrites : DeviceIface.active env index s = .ok (some a) := hactive
    rw [hwrites]
    refine Does.of_eq ?_ (bind_of_ok hrequire)
    refine Does.write (e := .delete a.profile.id) (y := pure ()) rfl fun c profiles => ?_
    obtain ⟨t, hunregister, hcore⟩ := unregisterConnection_up hup a.profile.id
      ((s.asked [env.check sender actionSettingsModifySystem]).withProfiles profiles)
    obtain ⟨u, hemit, hcore'⟩ := emit_up hup
      (.deviceStateChanged index nmDeviceStateDisconnected nmDeviceStateActivated 0) t
    exact ⟨u, (after_bind_of_ok hunregister).trans (after_of_ok hemit), hcore'.trans hcore, .done ()⟩
  · have hwrites : (DeviceIface.active env index s).toOption.bind id = none := hnone
    rw [hwrites]
    exact .failed (bind_of_error hrequire)

/-- Disconnecting a device moves the manager. -/
theorem disconnect_does (hup : env.BusUp) (index : Int32) (sender : Option String)
    (hyes : (env.check sender actionNetworkControl).answer = .ok .yes) :
    Does svc none (DeviceIface.disconnect svc env index sender) s := by
  refine .authorized hyes ?_
  obtain ⟨a, -, hrequire⟩ | ⟨-, err, hrequire⟩ :=
    requireActive_cases env index (s.asked [env.check sender actionNetworkControl])
  · exact (deactivate_does hup a.id).of_eq (bind_of_ok hrequire)
  · exact .failed (bind_of_error hrequire)

/-- Deactivating a connection moves the manager. -/
theorem deactivateConnection_does (hup : env.BusUp) (active : String) (sender : Option String)
    (hyes : (env.check sender actionNetworkControl).answer = .ok .yes) :
    Does svc none (RootIface.deactivateConnection svc env sender active) s := by
  refine .authorized hyes ?_
  cases hid : RootIface.activeId active with
  | error err => exact .failed rfl
  | ok id => exact (deactivate_does hup id).of_eq rfl

/-- Activating a connection moves the manager. -/
theorem activateConnection_does (hup : env.BusUp) (settings : SettingsDict V) (device : String)
    (sender : Option String) (hyes : (env.check sender actionNetworkControl).answer = .ok .yes) :
    Does svc none (RootIface.activateConnection svc env sender settings device) s :=
  .authorized hyes (activate_does hup settings device fun path t =>
    after_of_ok (ownedPath_up hup path t))

/-! ### The methods -/

/-- What a call that needs leave writes depends on the answer. -/
theorem MethodCall.writes_eq {call : MethodCall V} {action : String}
    (h : call.method.action = some action) :
    call.writes svc s = if (call.env.check call.sender action).answer = .ok .yes then
      call.method.writes svc call.env s else none := by
  rw [MethodCall.writes, h]
  by_cases hyes : (call.env.check call.sender action).answer = .ok .yes
  · rw [if_pos hyes]
    exact if_pos (by simpa [Environment.check] using hyes)
  · rw [if_neg hyes]
    exact if_neg (by simpa [Environment.check] using hyes)

/-- A method that is held to an action. -/
theorem Does.gated {call : MethodCall V} {action : String} {R : Shared S E → Shared S E → Prop}
    (haction : call.method.action = some action)
    (hgated : Gated call.env call.sender action R x)
    (hx : (call.env.check call.sender action).answer = .ok .yes →
      Does svc (call.method.writes svc call.env s) x s) : Does svc (call.writes svc s) x s := by
  rw [MethodCall.writes_eq haction]
  by_cases hyes : (call.env.check call.sender action).answer = .ok .yes
  · rw [if_pos hyes]
    exact hx hyes
  · rw [if_neg hyes]
    exact (Does.iff_of_after (hgated.denied s hyes)).mpr ⟨rfl, .left⟩

/-- A method that leaves the daemon and its objects. -/
theorem Does.asks {call : MethodCall V} (hmethod : call.method.writes svc call.env s = none)
    {checks : List Check} (h : after x s = s.asked checks) : Does svc (call.writes svc s) x s := by
  have hwrites : call.writes svc s = none := by
    rw [MethodCall.writes, hmethod, ite_self]
  rw [hwrites]
  exact (Does.iff_of_after h).mpr ⟨rfl, .left⟩

theorem asked_nil (s : Shared S E) : s.asked [] = s := by simp [asked]

/-- **Every call** does its store call, and at most one move of the manager. -/
theorem MethodCall.does (call : MethodCall V) (hup : call.env.BusUp) (s : Shared S E) :
    Does svc (call.writes svc s) (call.perform svc) s := by
  obtain ⟨env, sender, m⟩ := call
  have hasks : ∀ action, after (Shared.authorize env sender action) s =
      s.asked [env.check sender action] := by
    intro action
    by_cases hyes : (env.check sender action).answer = .ok .yes
    · exact after_of_ok (authorize_of_yes s hyes)
    · exact after_of_error (authorize_of_denial s hyes)
  -- every method asks for its permission at most, or is gated by it
  cases m with
  | getDevices | getAllDevices | getDeviceByIpIface | checkConnectivity | checkConnectivityFull
  | getConnectivity | listConnections | getConnectionByUuid | getSettings | getAppliedConnection
  | deviceGetAppliedConnection =>
      exact .asks rfl ((after_map _ _ s).trans ((reading_keeps _ s).trans (asked_nil s).symm))
  | setLogging | getLogging | deviceStateReasons | getDeviceStateReasons | getSecrets
  | getSettingsFlags | deviceReapply | deviceSetManaged => exact .asks rfl (asked_nil s).symm
  | getPermissions =>
      exact .asks rfl ((after_map _ _ s).trans (after_getPermissions env sender s))
  | sleep | enable | reload | saveHostname =>
      exact .asks rfl ((after_map _ _ s).trans (hasks _))
  | loadConnections | reloadConnections =>
      exact .asks rfl ((after_map _ _ s).trans ((after_bind_of_still (fun _ _ => rfl) s).trans
        (hasks _)))
  | activateConnection settings device =>
      exact .gated rfl ((activateConnection_gated svc env sender settings device).map _)
        fun hyes => (activateConnection_does hup settings device sender hyes).map _
  | addAndActivateConnection settings device | addAndActivateConnection2 settings device =>
      exact .gated rfl ((addAndActivateConnection_gated svc env sender settings device).map _)
        fun hyes => (addAndActivateConnection_does hup sender settings device hyes).map _
  | deactivateConnection active =>
      exact .gated rfl ((deactivateConnection_gated svc env sender active).map _)
        fun hyes => (deactivateConnection_does hup active sender hyes).map _
  | addConnection settings | addConnection2 settings =>
      exact .gated rfl ((addConnectionWith_gated svc env sender true settings).map _)
        fun hyes => (addConnectionWith_does hup true sender settings hyes).map _
  | addConnectionUnsaved settings =>
      exact .gated rfl ((addConnectionWith_gated svc env sender false settings).map _)
        fun hyes => (addConnectionWith_does hup false sender settings hyes).map _
  | update profileId settings | updateUnsaved profileId settings =>
      exact .gated rfl ((update_gated svc env sender profileId settings).map _)
        fun hyes => (update_does hup profileId sender settings hyes).map _
  | delete profileId =>
      exact .gated rfl ((delete_gated svc env sender profileId).map _)
        fun hyes => (delete_does hup profileId sender hyes).map _
  | deviceDisconnect index =>
      exact .gated rfl ((deviceDisconnect_gated svc env sender index).map _)
        fun hyes => (disconnect_does hup index sender hyes).map _
  | deviceDelete index =>
      exact .gated rfl ((deviceDelete_gated svc env sender index).map _)
        fun hyes => (deviceDelete_does hup index sender hyes).map _

end

namespace Shared

variable {svc : Services S E V} {call : MethodCall V}

/-- The settings after a call. -/
theorem step_settings (hup : call.env.BusUp) (s : Shared S E) :
    (step svc s call).settings = svc.stored (call.writes svc s) s.settings :=
  (call.does hup s).settings

/-- The activity after a call. -/
theorem step_activity (hup : call.env.BusUp) (s : Shared S E) :
    Manages svc.engine (svc.store.view (step svc s call).daemon.profiles) s.activity
      (step svc s call).activity :=
  (call.does hup s).activity

end Shared

end NetworkManager
