import NetworkManager.Dbus.Facade.Steps

/-!
# Dbus — Facade — Handlers

A relation between the states before and after holds of every method as soon as it holds of the
steps that the handlers are made of.

* `Shared.Steady`: it holds of the steps that leave the manager.
* `Shared.Managed`: and of those that call the manager or mirror its events.
-/

namespace NetworkManager

open Effects Shared

variable {S E V : Type}

/-- The signal that `Device.Delete` emits: the arguments are the state, the reason and the previous
state. -/
def DeviceIface.deletedSignal (index : Int32) : Signal :=
  .deviceStateChanged index nmDeviceStateDisconnected nmDeviceStateActivated 0

/-- The method calls the manager. -/
def Method.manages : Method V → Bool
  | .activateConnection _ _ | .addAndActivateConnection _ _ | .addAndActivateConnection2 _ _
  | .deactivateConnection _ | .deviceDisconnect _ => true
  | _ => false

/-! ### The steps -/

/-- The steps that leave the manager lead along `R`; a request to tell of a device's state is left
to those that make it. -/
structure Shared.Steady (env : Environment) (R : Shared S E → Shared S E → Prop) : Prop where
  asked (s : Shared S E) (checks : List Check) : R s (s.asked checks)
  stored (s : Shared S E) (profiles : S) : R s (s.withProfiles profiles)
  connected (s : Shared S E) (connections : AList fun _ : ProfileId => String) :
    R s (s.withConnections connections)
  requested (r : BusRequest)
    (h : ∀ index state reason prev, r ≠ .emit (.deviceStateChanged index state reason prev)) :
    Keeps R (request env r)

/-- So do the steps of the manager. -/
structure Shared.Managed (svc : Services S E V) (env : Environment)
    (R : Shared S E → Shared S E → Prop) : Prop extends Steady env R where
  activated (settings : SettingsDict V) (device : String) :
    Keeps R (RootIface.activate svc env settings device)
  announced (active : ActiveConnection) : Keeps R (RootIface.announce env active)
  deactivated (id : ActiveConnectionId) : Keeps R (onManager (Daemon.deactivate svc.engine id))
  mirrored : Keeps R (emitConnectionEvents env)

namespace Shared.Steady

variable {env : Environment} {R : Shared S E → Shared S E → Prop} [Std.Refl R]
  [IsTrans (Shared S E) R]

omit [Std.Refl R] [IsTrans (Shared S E) R] in
/-- A signal that is not one of a device. -/
theorem emit (h : Steady env R) {signal : Signal}
    (hsignal : ∀ index state reason prev,
      signal ≠ .deviceStateChanged index state reason prev) : Keeps R (Shared.emit env signal) :=
  (h.requested _ fun index state reason prev heq =>
    hsignal index state reason prev (BusRequest.emit.inj heq)).adaptExcept

omit [Std.Refl R] [IsTrans (Shared S E) R] in
/-- A check of the caller. -/
theorem authorize (h : Steady env R) (sender : Option String) (action : String) :
    Keeps R (Shared.authorize env sender action) := fun s => by
  by_cases hyes : (env.check sender action).answer = .ok .yes
  · rw [after_of_ok (authorize_of_yes s hyes)]
    exact h.asked s _
  · rw [after_of_error (authorize_of_denial s hyes)]
    exact h.asked s _

omit [Std.Refl R] [IsTrans (Shared S E) R] in
/-- A call of the store. -/
theorem store (h : Steady env R) {α : Type} (x : EStateM StoreError S α) :
    Keeps R (onStore (Daemon.onProfiles x)) := fun s => by
  rw [after_onStore]
  exact h.stored s _

theorem register (h : Steady env R) (paths : List String) : Keeps R (Shared.register env paths) :=
  .forM fun path _ => h.requested (.register path) (by simp)

/-- The object of a new connection. -/
theorem registerConnection (h : Steady env R) {wrap : String → FacadeError}
    (profile : ConnectionProfile) :
    Keeps R (EStateM.adaptExcept wrap (registerConnectionObject env profile)) :=
  ((h.register _).bind fun _ => .modify fun s => h.connected s _).adaptExcept

/-- The object of a connection that goes. -/
theorem unregisterConnection (h : Steady env R) (profileId : ProfileId) :
    Keeps R (Shared.unregisterConnection env profileId) := by
  refine .get_bind fun s => ?_
  split
  · exact .pure _
  · next path _ =>
      exact Keeps.bind (.modify fun s => h.connected s (s.connections.erase profileId)) fun _ =>
        (h.requested (.unregister path) (by simp)).adaptExcept

omit [IsTrans (Shared S E) R] in
theorem reading {α : Type} (f : Shared S E → Except FacadeError α) :
    Keeps R (Shared.reading f) := fun s => by
  rw [reading_keeps]
  exact Std.Refl.refl s

theorem requireActive (index : Int32) : Keeps R (DeviceIface.requireActive env index) :=
  (Keeps.ofExcept _).bind fun _ => .get_bind fun _ => (Keeps.ofExcept _).bind fun _ => .ofExcept _

variable (svc : Services S E V)

/-- The handler that adds a connection. -/
theorem addConnectionWith (h : Steady env R) (announced : Bool) (sender : Option String)
    (settings : SettingsDict V) :
    Keeps R (SettingsIface.addConnectionWith svc env announced sender settings) := by
  refine (h.authorize sender _).bind fun _ => (Keeps.ofExcept _).bind fun _ =>
    (h.store _).bind fun _ => (h.registerConnection _).bind fun _ => ?_
  dsimp only
  split
  · exact (h.emit (by simp)).bind fun _ => .ofExcept _
  · exact .ofExcept _

/-- The handler that overwrites a connection. -/
theorem update (h : Steady env R) (profileId : ProfileId) (sender : Option String)
    (settings : SettingsDict V) :
    Keeps R (SettingsConnectionIface.update svc env profileId sender settings) := by
  refine (h.authorize sender _).bind fun _ => (Keeps.ofExcept _).bind fun _ => ?_
  dsimp only
  split
  · exact .throw _
  · exact (h.store _).bind fun _ => h.emit (by simp)

/-- The handler that deletes a connection. -/
theorem delete (h : Steady env R) (profileId : ProfileId) (sender : Option String) :
    Keeps R (SettingsConnectionIface.delete svc env profileId sender) :=
  (h.authorize sender _).bind fun _ => (h.store _).bind fun _ =>
    (h.emit (by simp)).bind fun _ => h.unregisterConnection _

/-- The handler that deletes the profile of a device, up to its signal. -/
theorem deviceDelete (h : Steady env R) {index : Int32}
    (hdeleted : Keeps R (Shared.emit env (DeviceIface.deletedSignal index)))
    (sender : Option String) : Keeps R (DeviceIface.delete svc env index sender) :=
  (h.authorize sender _).bind fun _ => (requireActive index).bind fun _ =>
    (h.store _).bind fun _ => (h.unregisterConnection _).bind fun _ => hdeleted

end Shared.Steady

/-! ### The methods -/

section

variable {env : Environment} {R : Shared S E → Shared S E → Prop} [Std.Refl R]
  [IsTrans (Shared S E) R] (svc : Services S E V)

/-- A method that does not call the manager. -/
theorem Method.keeps_of_steady (h : Steady env R) (m : Method V) (sender : Option String)
    (hmanages : m.manages = false)
    (hdeleted : ∀ index, m = .deviceDelete index →
      Keeps R (emit env (DeviceIface.deletedSignal index))) :
    Keeps R (m.perform svc env sender) := by
  cases m with
  | getDevices | getAllDevices | getDeviceByIpIface | checkConnectivity | checkConnectivityFull
  | getConnectivity | listConnections | getConnectionByUuid | getSettings | getAppliedConnection
  | deviceGetAppliedConnection => exact (Steady.reading _).map _
  | setLogging | getLogging | deviceStateReasons | getDeviceStateReasons | getSecrets
  | getSettingsFlags => exact .pure _
  | deviceReapply | deviceSetManaged => exact .throw _
  | getPermissions =>
      refine Keeps.map (fun s => ?_) _
      rw [after_getPermissions]
      exact h.asked s _
  | sleep | enable | reload | saveHostname => exact (h.authorize sender _).map _
  | activateConnection | addAndActivateConnection | addAndActivateConnection2
  | deactivateConnection | deviceDisconnect => cases hmanages
  | addConnection settings | addConnection2 settings =>
      exact (h.addConnectionWith svc true sender settings).map _
  | addConnectionUnsaved settings => exact (h.addConnectionWith svc false sender settings).map _
  | loadConnections | reloadConnections =>
      exact ((h.authorize sender _).bind fun _ => .pure _).map _
  | update profileId settings | updateUnsaved profileId settings =>
      exact (h.update svc profileId sender settings).map _
  | delete profileId => exact (h.delete svc profileId sender).map _
  | deviceDelete index => exact (h.deviceDelete svc (hdeleted index rfl) sender).map _

variable {svc}

/-- A method keeps what its steps keep, up to the signal of a deleted device. -/
theorem Method.keeps_of_managed (h : Managed svc env R) (m : Method V) (sender : Option String)
    (hdeleted : ∀ index, m = .deviceDelete index →
      Keeps R (emit env (DeviceIface.deletedSignal index))) :
    Keeps R (m.perform svc env sender) := by
  cases hmanages : m.manages with
  | false => exact m.keeps_of_steady svc h.toSteady sender hmanages hdeleted
  | true =>
      cases m with
      | activateConnection settings device =>
          exact ((h.authorize sender _).bind fun _ => (h.activated settings device).bind fun _ =>
            (h.announced _).bind fun _ => .ofExcept _).map _
      | addAndActivateConnection settings device | addAndActivateConnection2 settings device =>
          have hadd : Keeps R (RootIface.addAndActivate svc env settings device) :=
            (Keeps.ofExcept _).bind fun _ => (h.store _).bind fun _ =>
              (h.registerConnection _).bind fun _ => (h.activated settings device).bind fun _ =>
                (h.announced _).bind fun _ => .pure _
          exact ((h.authorize sender _).bind fun _ => hadd.bind fun _ =>
            (Keeps.ofExcept _).bind fun _ => (Keeps.ofExcept _).bind fun _ => .pure _).map _
      | deactivateConnection active =>
          exact ((h.authorize sender _).bind fun _ => (Keeps.ofExcept _).bind fun _ =>
            (h.deactivated _).bind fun _ => h.mirrored).map _
      | deviceDisconnect index =>
          exact ((h.authorize sender _).bind fun _ => (Steady.requireActive index).bind fun _ =>
            (h.deactivated _).bind fun _ => h.mirrored).map _
      | _ => cases hmanages

end

end NetworkManager
