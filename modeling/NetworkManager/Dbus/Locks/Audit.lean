import NetworkManager.Dbus.Facade.StateChanges
import NetworkManager.Dbus.Locks.Nesting
import NetworkManager.Support.Debts

/-!
# Dbus — Locks — Audit

The handlers as threads, step by step: what keeps the books at each of their steps keeps them all
through (`FacadeRequest.solvent`).

* `Locking.Audited`: what the steps have to do.
* `Locking.emitConnectionEvents_solvent`: the same for those that mirror the events.
* Methods that are held to no action, and getters, only look at the state
  (`Locking.method_solvent_of_open`, `Locking.property_solvent`).
-/

namespace NetworkManager

open Locks Locks.Thread Effects Shared

variable {S E V M : Type} [AddCommMonoid M]

/-- The signal tells of the state of a connection or of a device. -/
def Signal.tellsState : Signal → Bool
  | .activeStateChanged _ _ _ _ | .activeConnectionRemoved _ | .deviceStateChanged _ _ _ _ => true
  | _ => false

namespace Locking

/-! ### The handlers -/

/-- The steps of the handlers leave what is open.  The events are the exception: who drains them
owes their signals, and pays before it ends. -/
structure Audited (svc : Services S E V) (env : Environment) (Books : Shared S E → M → Prop) :
    Prop where
  asked (s : Shared S E) (checks : List Check) : Passes Books s (s.asked checks)
  stored (s : Shared S E) (profiles : S) : Passes Books s (s.withProfiles profiles)
  connected (s : Shared S E) (connections : AList fun _ : ProfileId => String) :
    Passes Books s (s.withConnections connections)
  enlisted (s : Shared S E) (ids : Finset ActiveConnectionId) :
    Passes Books s (s.withActiveConnections ids)
  requested (r : BusRequest) (h : ∀ signal, r = .emit signal → signal.tellsState = false) :
    Keeps (Passes Books) (request env r)
  operated {α : Type} {x : EStateM ActivationError (ActivationManager E) α} (op : Operation)
    (hop : op ≠ .drainEvents) (hx : ∀ m, after (op.perform svc.engine) m = after x m) :
    Keeps (Passes Books) (onManager (Daemon.onActivation x))
  mirrored : Solvent Books (emitConnectionEvents env)

section

variable {svc : Services S E V} {env : Environment} {Books : Shared S E → M → Prop}

/-- A look at the state owes nothing. -/
theorem looking_solvent {ε α : Type} (f : Shared S E → α) :
    Solvent Books (lift (looking f) : Prog Mutex ε (Shared S E) α) :=
  .lift fun _ _ => id

/-- A getter owes nothing. -/
theorem reading_solvent {α : Type} (f : Shared S E → Except FacadeError α) :
    Solvent Books (lift (reading f) : Locking S E α) :=
  .lift fun s => by
    rw [reading_keeps]
    exact Std.Refl.refl s

theorem deviceView_solvent (index : Int32) :
    Solvent Books (deviceView (S := S) (E := E) env index) := (Solvent.ofExcept _).guarded _

theorem deviceIndexByName_solvent (iface : String) :
    Solvent Books (deviceIndexByName (S := S) (E := E) env iface) := (Solvent.pure _).guarded _

theorem deviceActive_solvent (iface : String) :
    Solvent Books (deviceActive (S := S) (E := E) iface) := (looking_solvent _).guarded _

theorem activeById_solvent (id : ActiveConnectionId) :
    Solvent Books (activeById (S := S) (E := E) id) := (looking_solvent _).guarded _

theorem ownedPath_solvent (path : String) :
    Solvent Books (lift (ownedPath env path) : Locking S E String) :=
  .lift (Keeps.ofExcept _)

theorem activeConnection_solvent (id : ActiveConnectionId) :
    Solvent Books (activeConnection (S := S) (E := E) id) :=
  (activeById_solvent id).bind fun _ => .ofExcept _

theorem active_solvent (index : Int32) :
    Solvent Books (active (S := S) (E := E) env index) :=
  (deviceView_solvent index).bind fun _ => deviceActive_solvent _

theorem requireActive_solvent (index : Int32) :
    Solvent Books (requireActive (S := S) (E := E) env index) :=
  (deviceView_solvent index).bind fun _ => (active_solvent index).bind fun _ => .ofExcept _

/-- The registry is locked for each profile, and owes nothing. -/
theorem profilePaths_solvent (profiles : List ConnectionProfile) :
    Solvent Books (profilePaths (S := S) (E := E) profiles) := by
  induction profiles with
  | nil => exact .pure _
  | cons profile profiles ih =>
      exact Solvent.bind ((looking_solvent _).guarded _) fun _ => ih.bind fun _ => .pure _

theorem pathOfUuid_solvent (uuid : String) (profiles : List ConnectionProfile) :
    Solvent Books (pathOfUuid (S := S) (E := E) uuid profiles) := by
  induction profiles with
  | nil => exact .pure _
  | cons profile profiles ih =>
      rw [pathOfUuid]
      split
      · refine Solvent.bind ((looking_solvent _).guarded _) fun path => ?_
        cases path with
        | some path => exact .pure _
        | none => exact ih
      · exact ih

theorem listConnections_solvent : Solvent Books (listConnections svc env) :=
  Solvent.bind (((reading_solvent _).bind fun _ => profilePaths_solvent _).guarded _)
    fun _ => .pure _

theorem getConnectionByUuid_solvent (uuid : String) :
    Solvent Books (getConnectionByUuid svc env uuid) := by
  refine ((reading_solvent _).bind fun profiles =>
    (pathOfUuid_solvent uuid profiles).bind fun path => ?_).guarded _
  cases path with
  | some path => exact ownedPath_solvent path
  | none => exact .ofExcept _

theorem availableConnections_solvent (index : Int32) :
    Solvent Books (availableConnections svc env index) :=
  ((Solvent.ofExcept _).bind fun _ => (reading_solvent _).bind fun _ =>
    (profilePaths_solvent _).bind fun _ => .pure _).guarded _

theorem allAccessPoints_solvent (index : Int32) :
    Solvent Books (allAccessPoints (S := S) (E := E) env index) := by
  refine Solvent.bind ((Solvent.ofExcept _).guarded _) fun primary => ?_
  split
  · exact .pure _
  · exact Solvent.bind ((Solvent.pure _).guarded _) fun _ => .pure _

end

/-! ### The methods -/

namespace Audited

variable {svc : Services S E V} {env : Environment} {Books : Shared S E → M → Prop}

/-- A check keeps the books. -/
theorem authorize_passes (h : Audited svc env Books) (sender : Option String) (action : String) :
    Keeps (Passes Books) (Shared.authorize env sender action) := fun s => by
  by_cases hyes : (env.check sender action).answer = .ok .yes
  · rw [after_of_ok (authorize_of_yes s hyes)]
    exact h.asked s _
  · rw [after_of_error (authorize_of_denial s hyes)]
    exact h.asked s _

/-- So does the step that makes it. -/
theorem authorize (h : Audited svc env Books) (sender : Option String) (action : String) :
    Solvent Books (lift (authorize env sender action) : Locking S E Unit) :=
  .lift (h.authorize_passes sender action)

/-- A call of the store keeps the books. -/
theorem store (h : Audited svc env Books) {α : Type} (x : EStateM StoreError S α) :
    Solvent Books (guarded .daemon (lift (onStore (Daemon.onProfiles x))) : Locking S E α) := by
  refine (Solvent.lift fun s => ?_).guarded _
  rw [after_onStore]
  exact h.stored s _

/-- A signal that tells of no state keeps the books. -/
theorem emit (h : Audited svc env Books) {signal : Signal} (hsignal : signal.tellsState = false) :
    Solvent Books (lift (emit env signal) : Locking S E Unit) := by
  refine .lift (h.requested (.emit signal) ?_).adaptExcept
  rintro _ ⟨⟩
  exact hsignal

/-- A deactivation keeps the books: its events stay with the manager. -/
theorem deactivate (h : Audited svc env Books) (id : ActiveConnectionId) :
    Solvent Books (lift (onManager (Daemon.deactivate svc.engine id)) : Locking S E Unit) :=
  .lift (h.operated (.deactivate id) (by simp) fun m => after_bind_of_still (fun _ _ => rfl) m)

theorem register (h : Audited svc env Books) (paths : List String) :
    Solvent Books (lift (register env paths) : Prog Mutex String (Shared S E) Unit) :=
  .lift (.forM fun path _ => h.requested (.register path) (by simp))

/-- The object is registered in one step and recorded in another. -/
theorem registerConnectionObject (h : Audited svc env Books) (profile : ConnectionProfile) :
    Solvent Books (registerConnectionObject (S := S) (E := E) env profile) :=
  (h.register _).bind fun _ =>
    (Solvent.lift (.modify fun s => h.connected s _)).guarded _

theorem registerActiveConnectionObject (h : Audited svc env Books) (active : ActiveConnection) :
    Solvent Books (registerActiveConnectionObject (S := S) (E := E) env active) :=
  (h.register _).bind fun _ =>
    (Solvent.lift (.modify fun s => h.enlisted s _)).guarded _

/-- A path is taken in one step. -/
theorem takeConnectionPath (h : Audited svc env Books) (profileId : ProfileId) :
    Solvent Books (takeConnectionPath (S := S) (E := E) profileId) := by
  refine (Solvent.lift (.get_bind fun s => ?_)).guarded _
  cases s.connections.lookup profileId with
  | none => exact .pure _
  | some path =>
      exact Keeps.bind (.modify fun s => h.connected s (s.connections.erase profileId))
        fun _ => .pure _

theorem unregisterConnection (h : Audited svc env Books) (profileId : ProfileId) :
    Solvent Books (unregisterConnection (S := S) (E := E) env profileId) := by
  refine (h.takeConnectionPath profileId).bind fun path => ?_
  cases path with
  | none => exact .pure _
  | some path => exact .lift (h.requested (.unregister path) (by simp)).adaptExcept

/-- An activation keeps the books: its events stay with the manager. -/
theorem activate (h : Audited svc env Books) (settings : SettingsDict V) (device : String) :
    Solvent Books (activate svc env settings device) := by
  have hinfo : Solvent Books (deviceInfo (S := S) (E := E) env device) :=
    (Solvent.ofExcept _).bind fun _ => (deviceView_solvent _).bind fun _ => .pure _
  refine hinfo.bind fun info => Solvent.guarded ?_ _
  split
  · refine .lift fun s => ?_
    exact h.operated (.activate (svc.store.view s.daemon.profiles) info) (by simp)
      (fun m => after_bind_of_still (fun _ _ => rfl) m) s
  · refine (Solvent.ofExcept _).bind fun profile => .lift fun s => ?_
    exact h.operated (.activateProfile (svc.store.view s.daemon.profiles) profile.id info)
      (by simp) (fun m => after_bind_of_still (fun _ _ => rfl) m) s

/-- The announcement pays what it drains. -/
theorem announce (h : Audited svc env Books) (active : ActiveConnection) :
    Solvent Books (announce env active) :=
  ((h.registerActiveConnectionObject active).adaptExcept _).bind fun _ =>
    (h.emit rfl).bind fun _ => h.mirrored.bind fun _ => .pure _

theorem activateConnection (h : Audited svc env Books) (sender : Option String)
    (settings : SettingsDict V) (device : String) :
    Solvent Books (activateConnection svc env sender settings device) :=
  (h.authorize sender _).bind fun _ => (h.activate settings device).bind fun active =>
    (h.announce active).bind fun _ => ownedPath_solvent _

/-- What is added and activated is announced. -/
theorem addAndActivateConnection (h : Audited svc env Books) (sender : Option String)
    (settings : SettingsDict V) (device : String) :
    Solvent Books (addAndActivateConnection svc env sender settings device) := by
  have hadd : Solvent Books (addAndActivate svc env settings device) :=
    (Solvent.ofExcept _).bind fun profile => (h.store _).bind fun _ =>
      ((h.registerConnectionObject profile).adaptExcept _).bind fun _ =>
        (h.activate settings device).bind fun active => (h.announce active).bind fun _ => .pure _
  exact (h.authorize sender _).bind fun _ => hadd.bind fun _ =>
    (ownedPath_solvent _).bind fun _ => (ownedPath_solvent _).bind fun _ => .pure _

/-- What is deactivated is mirrored. -/
theorem deactivateConnection (h : Audited svc env Books) (sender : Option String)
    (active : String) : Solvent Books (deactivateConnection svc env sender active) :=
  (h.authorize sender _).bind fun _ =>
    (((Solvent.ofExcept _).bind fun id => h.deactivate id).guarded _).bind fun _ => h.mirrored

/-- What is added is announced as a new connection. -/
theorem addConnectionWith (h : Audited svc env Books) (announced : Bool) (sender : Option String)
    (settings : SettingsDict V) :
    Solvent Books (addConnectionWith svc env announced sender settings) := by
  refine (h.authorize sender _).bind fun _ => (Solvent.ofExcept _).bind fun profile =>
    (h.store _).bind fun _ => ((h.registerConnectionObject profile).adaptExcept _).bind fun _ =>
      Solvent.bind ?_ fun _ => ownedPath_solvent _
  split
  · exact h.emit rfl
  · exact .lift (.pure _)

theorem update (h : Audited svc env Books) (profileId : ProfileId) (sender : Option String)
    (settings : SettingsDict V) : Solvent Books (update svc env profileId sender settings) := by
  refine (h.authorize sender _).bind fun _ => (Solvent.ofExcept _).bind fun profile => ?_
  split
  · exact .ofExcept _
  · exact (h.store _).bind fun _ => h.emit rfl

/-- What is deleted is told as removed. -/
theorem delete (h : Audited svc env Books) (profileId : ProfileId) (sender : Option String) :
    Solvent Books (delete svc env profileId sender) :=
  (h.authorize sender _).bind fun _ => (h.store _).bind fun _ =>
    (h.emit rfl).bind fun _ => h.unregisterConnection profileId

theorem disconnect (h : Audited svc env Books) (index : Int32) (sender : Option String) :
    Solvent Books (disconnect svc env index sender) :=
  (h.authorize sender _).bind fun _ => (requireActive_solvent index).bind fun active =>
    ((h.deactivate active.id).guarded _).bind fun _ => h.mirrored

theorem deviceDelete (h : Audited svc env Books) {index : Int32}
    (hdeleted : Keeps (Passes Books) (Shared.emit env (DeviceIface.deletedSignal index)))
    (sender : Option String) : Solvent Books (deviceDelete svc env index sender) :=
  (h.authorize sender _).bind fun _ => (requireActive_solvent index).bind fun active =>
    (h.store _).bind fun _ => (h.unregisterConnection active.profile.id).bind fun _ =>
      .lift hdeleted

end Audited

section

variable {svc : Services S E V} {env : Environment} {Books : Shared S E → M → Prop}

/-- A method that is held to no action asks the policy backend at most. -/
theorem method_solvent_of_open
    (hasked : ∀ (s : Shared S E) (checks : List Check), Passes Books s (s.asked checks))
    (sender : Option String) {m : Method V} (hopen : m.action = none) :
    Solvent Books (method svc env sender m) := by
  have hgetSettings (profileId : ProfileId) : Solvent Books (getSettings svc profileId) :=
    Solvent.bind ((reading_solvent _).guarded _) fun _ => .pure _
  cases m with
  | getDevices | getAllDevices =>
      exact (Solvent.bind ((Solvent.ofExcept _).guarded _) fun _ => .pure _).map _
  | getDeviceByIpIface iface =>
      exact ((deviceIndexByName_solvent iface).bind fun _ => (Solvent.ofExcept _).bind fun _ =>
        ownedPath_solvent _).map _
  | getPermissions =>
      refine (Solvent.lift fun s => ?_).map _
      rw [after_getPermissions]
      exact hasked s _
  | setLogging | getLogging | deviceStateReasons | getDeviceStateReasons | getSecrets
  | getSettingsFlags => exact .pure _
  | deviceReapply | deviceSetManaged => exact .ofExcept _
  | checkConnectivity | checkConnectivityFull | getConnectivity =>
      exact Solvent.map ((looking_solvent _).guarded _) _
  | listConnections => exact listConnections_solvent.map _
  | getConnectionByUuid uuid => exact (getConnectionByUuid_solvent uuid).map _
  | getSettings profileId | getAppliedConnection profileId => exact (hgetSettings profileId).map _
  | deviceGetAppliedConnection index =>
      exact ((active_solvent index).bind fun _ => .pure _).map _
  | _ => cases hopen

/-- A method keeps the books, up to the signal of a deleted device. -/
theorem method_solvent (h : Audited svc env Books) (sender : Option String) (m : Method V)
    (hdeleted : ∀ index, m = .deviceDelete index →
      Keeps (Passes Books) (Shared.emit env (DeviceIface.deletedSignal index))) :
    Solvent Books (method svc env sender m) := by
  cases hopen : m.action with
  | none => exact method_solvent_of_open h.asked sender hopen
  | some action =>
      cases m with
      | activateConnection settings device =>
          exact (h.activateConnection sender settings device).map _
      | addAndActivateConnection settings device | addAndActivateConnection2 settings device =>
          exact (h.addAndActivateConnection sender settings device).map _
      | deactivateConnection active => exact (h.deactivateConnection sender active).map _
      | sleep | enable | reload | saveHostname => exact (h.authorize sender _).map _
      | loadConnections | reloadConnections =>
          exact (Solvent.lift ((h.authorize_passes sender _).bind fun _ => .pure _)).map _
      | addConnection settings | addConnection2 settings =>
          exact (h.addConnectionWith true sender settings).map _
      | addConnectionUnsaved settings => exact (h.addConnectionWith false sender settings).map _
      | update profileId settings | updateUnsaved profileId settings =>
          exact (h.update profileId sender settings).map _
      | delete profileId => exact (h.delete profileId sender).map _
      | deviceDisconnect index => exact (h.disconnect index sender).map _
      | deviceDelete index => exact (h.deviceDelete (hdeleted index rfl) sender).map _
      | _ => cases hopen

/-- The getters change nothing. -/
theorem property_solvent (p : Property) : Solvent Books (property svc env p) := by
  cases p with
  | constant => exact .pure _
  | devices => exact Solvent.map ((Solvent.ofExcept _).guarded _) _
  | activeConnections => exact Solvent.map ((looking_solvent _).guarded _) _
  | connections => exact listConnections_solvent.map _
  | deviceView index => exact (deviceView_solvent index).map _
  | deviceState index =>
      exact ((deviceView_solvent index).bind fun _ => (active_solvent index).bind fun _ =>
        .pure _).map _
  | deviceActive index => exact (active_solvent index).map _
  | availableConnections index => exact (availableConnections_solvent index).map _
  | accessPoints index => exact (allAccessPoints_solvent index).map _
  | accessPoint bssid => exact Solvent.map ((Solvent.pure _).guarded _) _
  | activeConnection id => exact (activeConnection_solvent id).map _
  | activeDevices id =>
      exact ((activeConnection_solvent id).bind fun _ =>
        (deviceIndexByName_solvent _).bind fun _ => .pure _).map _
  | outcome id => exact (activeById_solvent id).map _

end

/-! ### The events -/

/-- Steps that mirror the events, where no debt is taken on. -/
theorem emitConnectionEvents_solvent {env : Environment} {Books : Shared S E → M → Prop}
    (h : Steady env (Passes Books))
    (hmanager : Keeps (Passes Books) (onManager Daemon.connectionEvents))
    (henlisted : ∀ s ids, Passes Books s (s.withActiveConnections ids))
    (hroot : ∀ (s : Shared S E) rootState, Passes Books s { s with rootState })
    (hdevice : ∀ index newState, Keeps (Passes Books) (Shared.emitDeviceState env index newState)) :
    Solvent Books (emitConnectionEvents env) := by
  -- the guard of the states is held until the signal is out
  have hdevice (index : Int32) (newState : UInt32) :
      Solvent Books (emitDeviceState env index newState) :=
    (Solvent.lift (hdevice index newState)).guarded _
  refine Solvent.bind ((Solvent.lift hmanager).guarded _) fun events =>
    (Solvent.foldlM (fun deviceByActive event => ?_) ∅ events).bind fun _ =>
      Solvent.bind ((looking_solvent _).guarded _) fun newState =>
        (Solvent.lift (.get_bind fun s => ?_)).guarded _
  · cases event with
    | stateChanged id profileId previous current =>
        refine (Solvent.lift (h.emit (by simp))).bind fun _ =>
          (activeById_solvent id).bind fun active => ?_
        cases active with
        | none => exact .pure _
        | some active =>
            refine (deviceIndexByName_solvent _).bind fun device => ?_
            cases device with
            | none => exact .pure _
            | some device => exact (hdevice _ _).bind fun _ => .pure _
    | deactivated id profileId =>
        have hunregister : Solvent Books (unregisterActiveConnection env id) :=
          (Solvent.lift (.forM fun _ _ => (h.requested _ (by simp)).attempt.bind fun _ =>
            .pure _)).bind fun _ => (Solvent.lift (.modify fun s => henlisted s _)).guarded _
        refine hunregister.bind fun _ => (Solvent.lift (h.emit (by simp))).bind fun _ => ?_
        cases deviceByActive.lookup id with
        | none => exact .pure _
        | some device => exact (hdevice _ _).bind fun _ => .pure _
    | activated id profileId | failed id profileId reason => exact .pure _
  · split
    · exact .pure _
    · exact Keeps.bind (.modify fun s => hroot s _) fun _ => h.emit (by simp)

end Locking


/-- The bus library of the environment that the request comes with. -/
def FacadeRequest.Under (P : Environment → Prop) : FacadeRequest V → Prop
  | .method call => P call.env
  | .property _ _ | .accessPoints _ _ | .requestScan _ => True

/-- **Every handler** keeps the books that its steps keep. -/
theorem FacadeRequest.solvent {svc : Services S E V} {Books : Shared S E → M → Prop}
    {P : Environment → Prop} (h : ∀ env, P env → Locking.Audited svc env Books)
    (request : FacadeRequest V) (hrequest : request.Under P)
    (hdeleted : ∀ call index, request = .method call → call.method = .deviceDelete index →
      Keeps (Passes Books) (Shared.emit call.env (DeviceIface.deletedSignal index))) :
    Solvent Books (request.locking svc) := by
  cases request with
  | method call =>
      exact (Locking.method_solvent (h call.env hrequest) call.sender call.method
        fun index => hdeleted call index rfl).map _
  | property env p => exact (Locking.property_solvent p).map _
  | accessPoints env index => exact (Locking.allAccessPoints_solvent index).map _
  | requestScan answer => exact Solvent.map ((Solvent.ofExcept _).guarded _) _

/-- The books are kept by all that is served. -/
theorem Shared.serving_balanced {svc : Services S E V} {Books : Shared S E → M → Prop}
    {s : Shared S E} (hs : Books s 0) {requests : List (FacadeRequest V)}
    (h : ∀ request ∈ requests, Solvent Books (request.locking svc)) :
    (s.serving svc requests).Balanced Books fun m _ => m = 0 := by
  refine .start hs fun t ht => ?_
  obtain ⟨request, hrequest, rfl⟩ := List.mem_map.mp ht
  exact h request hrequest

end NetworkManager
