import NetworkManager.Connection.Ip
import NetworkManager.Connection.State
import NetworkManager.Connection.Store
import NetworkManager.Support.Effects

/-!
# Connection — Activation

`connection/activation.rs` and `connection/policy.rs`: the manager that coordinates activations,
over an engine that does the work.  The engine is any pair of computations over a state `E` of its
own; what it answers is up to that state.

The manager keeps, besides what the source keeps, the engine calls it made (`calls`), each with
the active connection it was made for and the engine's answer.  Nothing reads them.
-/

namespace NetworkManager

/-- A connection that has been (or is being) activated on a device. -/
structure ActiveConnection where
  id : ActiveConnectionId
  profile : ConnectionProfile
  device : DeviceInfo
  state : ConnectionState
  outcome : ActivationOutcome := {}
  deriving DecidableEq

/-- What an activation or a deactivation can fail with. -/
inductive ActivationError where
  | profileNotFound (id : ProfileId)
  | deviceIncompatible (profileId : ProfileId) (device : DeviceInfo)
  | noSuitableProfile (device : DeviceInfo)
  | alreadyActive (id : ProfileId)
  | unknownActiveConnection (activeId : ActiveConnectionId)
  | invalidState (activeId : ActiveConnectionId) (source : ConnectionState)
  | state (error : StateError)
  | store (error : StoreError)
  | engine (reason : String)
  deriving DecidableEq

instance : ToString ActivationError where
  toString
    | .profileNotFound id => "connection profile " ++ Text.debug id ++ " not found"
    | .deviceIncompatible profileId device =>
      "connection profile " ++ Text.debug profileId ++ " does not match device " ++
        device.interfaceName ++ " (" ++ toString device.kind ++ ")"
    | .noSuitableProfile device =>
      "no suitable connection profile for device " ++ device.interfaceName ++ " (" ++
        toString device.kind ++ ")"
    | .alreadyActive id => "connection profile " ++ Text.debug id ++ " is already active"
    | .unknownActiveConnection activeId => "no active connection with id " ++ toString activeId
    | .invalidState activeId source =>
      "active connection " ++ toString activeId ++ " cannot be deactivated from " ++
        toString source
    | .state err => toString err
    | .store err => "profile store error: " ++ toString err
    | .engine reason => "activation engine error: " ++ reason

/-- Performs the real work of bringing a profile up or down on a device. -/
structure ActivationEngine (E : Type) where
  activate : ConnectionProfile → DeviceInfo → EStateM ActivationError E ActivationOutcome
  deactivate : ConnectionProfile → EStateM ActivationError E Unit

/-! ### Policy -/

/-- The order in which autoconnect tries profiles: higher priority first, then by id. -/
def autoconnectLe (a b : ConnectionProfile) : Bool :=
  decide (b.priority < a.priority) || (a.priority == b.priority && decide (a.id ≤ b.id))

/-- `order_for_autoconnect`. -/
def orderForAutoconnect (profiles : List ConnectionProfile) : List ProfileId :=
  ((profiles.filter fun p => p.enabled && p.autoconnect).mergeSort autoconnectLe).map (·.id)

/-! ### The manager -/

/-- What the manager asks of its engine. -/
inductive EngineOp where
  | activate | deactivate
  deriving DecidableEq

/-- An engine call and its answer. -/
structure EngineCall where
  activeId : ActiveConnectionId
  op : EngineOp
  answer : Except ActivationError Unit

/-- The engine, the connections that are tracked, and the events that nobody has drained yet.
`nextId` is a `u64` in the source, and a natural number here.  `calls` records what the engine was
asked. -/
structure ActivationManager (E : Type) where
  engine : E
  nextId : ℕ := 1
  active : List ActiveConnection := []
  events : List ConnectionEvent := []
  calls : List EngineCall := []

namespace ActivationManager

variable {E : Type}

/-- A manager that tracks nothing yet. -/
def new (engine : E) : ActivationManager E := { engine }

/-- The state of the active connection for `profileId`, or `disconnected`. -/
def state (m : ActivationManager E) (profileId : ProfileId) : ConnectionState :=
  ((m.active.find? fun active => active.profile.id == profileId).map (·.state)).getD .disconnected

/-- An activation of the profile is tracked. -/
def isActive (m : ActivationManager E) (profileId : ProfileId) : Bool :=
  m.active.any fun active => active.profile.id == profileId

/-- The first of `profiles`, in autoconnect order, that `activate` can take for `device`. -/
def candidate (m : ActivationManager E) (store : ProfileStore) (device : DeviceInfo)
    (profiles : List ConnectionProfile) : Option ConnectionProfile :=
  (orderForAutoconnect profiles).findSome? fun id =>
    match store.get id with
    | .ok profile =>
      if profile.matches device && !m.isActive profile.id then some profile else none
    | .error _ => none

/-- Takes all pending connection events. -/
def drainEvents : EStateM ActivationError (ActivationManager E) (List ConnectionEvent) := do
  let m ← get
  set { m with events := [] }
  return m.events

/-- Queues an event. -/
def pushEvent {ε : Type} (event : ConnectionEvent) : EStateM ε (ActivationManager E) Unit :=
  modify fun m => { m with events := m.events ++ [event] }

/-- Moves a connection to its next state, if that is allowed. -/
def transition (active : ActiveConnection) (next : ConnectionState) :
    EStateM StateError (ActivationManager E) ActiveConnection := do
  match active.state.transitionTo next with
  | .error err => throw err
  | .ok current =>
    pushEvent (.stateChanged active.id active.profile.id active.state current)
    return { active with state := current }

/-- The same for the tracked connection at `index`. -/
def transitionAt (index : ℕ) (active : ActiveConnection) (next : ConnectionState) :
    EStateM StateError (ActivationManager E) ActiveConnection := do
  let active ← transition active next
  modify fun m => { m with active := m.active.set index active }
  return active

/-- Asks the engine, and takes its answer for what it is. -/
def callEngine {α : Type} (activeId : ActiveConnectionId) (op : EngineOp)
    (x : EStateM ActivationError E α) :
    EStateM ActivationError (ActivationManager E) (Except ActivationError α) := do
  let answer ← Effects.attempt
    (Effects.zoom ActivationManager.engine (fun e m => { m with engine := e }) x)
  modify fun m => { m with calls := m.calls ++ [⟨activeId, op, answer.map fun _ => ()⟩] }
  return answer

variable (engine : ActivationEngine E)

/-- Asks the engine, and walks the states as it answers.  The connection is tracked in either case.
-/
def activateMatching (profile : ConnectionProfile) (device : DeviceInfo) :
    EStateM ActivationError (ActivationManager E) ActiveConnection := do
  let m ← get
  let id : ActiveConnectionId := ⟨m.nextId⟩
  set { m with nextId := m.nextId + 1 }
  let active : ActiveConnection := { id, profile, device, state := .preparing }
  pushEvent (.stateChanged id profile.id .disconnected .preparing)
  match ← callEngine id .activate (engine.activate profile device) with
  | .ok outcome =>
    -- the engine reports full success in one step, so the intermediate stages are walked here
    let active := { active with outcome }
    let active ← EStateM.adaptExcept .state (transition active .configuring)
    let active ← EStateM.adaptExcept .state (transition active .activating)
    let active ← EStateM.adaptExcept .state (transition active .activated)
    pushEvent (.activated id profile.id)
    modify fun m => { m with active := m.active ++ [active] }
    return active
  | .error err =>
    let active ← EStateM.adaptExcept .state (transition active .failed)
    pushEvent (.failed id profile.id (toString err))
    modify fun m => { m with active := m.active ++ [active] }
    throw err

/-- Activates the best matching profile for `device`, in autoconnect order. -/
def activate (store : ProfileStore) (device : DeviceInfo) :
    EStateM ActivationError (ActivationManager E) ActiveConnection := do
  match store.list with
  | .error err => throw (.store err)
  | .ok profiles =>
    let m ← get
    match m.candidate store device profiles with
    | some profile => activateMatching engine profile device
    | none => throw (.noSuitableProfile device)

/-- Activates a specific profile on `device`. -/
def activateProfile (store : ProfileStore) (profileId : ProfileId) (device : DeviceInfo) :
    EStateM ActivationError (ActivationManager E) ActiveConnection := do
  match store.get profileId with
  | .error (.notFound _) => throw (.profileNotFound profileId)
  | .error err => throw (.store err)
  | .ok profile =>
    if !profile.matches device then throw (.deviceIncompatible profileId device)
    let m ← get
    if m.isActive profileId then throw (.alreadyActive profileId)
    activateMatching engine profile device

/-- The end of `deactivate`, once the engine has answered. -/
def finishDeactivation (index : ℕ) (active : ActiveConnection) :
    Except ActivationError Unit → EStateM ActivationError (ActivationManager E) Unit
  | .ok _ => do
    let _ ← EStateM.adaptExcept .state (transitionAt index active .disconnected)
    modify fun m => { m with active := m.active.eraseIdx index }
    pushEvent (.deactivated active.id active.profile.id)
  | .error err => do
    let _ ← EStateM.adaptExcept .state (transitionAt index active .failed)
    pushEvent (.failed active.id active.profile.id (toString err))
    throw err

/-- Deactivates an active connection, returning its profile to `disconnected`. -/
def deactivate (activeId : ActiveConnectionId) :
    EStateM ActivationError (ActivationManager E) Unit := do
  let m ← get
  let index := m.active.findIdx fun active => active.id == activeId
  match m.active.find? fun active => active.id == activeId with
  | none => throw (.unknownActiveConnection activeId)
  | some active =>
    if active.state ≠ .activated then throw (.invalidState activeId active.state)
    let active ← EStateM.adaptExcept .state (transitionAt index active .deactivating)
    finishDeactivation index active
      (← callEngine active.id .deactivate (engine.deactivate active.profile))

end ActivationManager

/-! ### Calls and runs -/

/-- A call of the manager. -/
inductive Operation where
  | activate (store : ProfileStore) (device : DeviceInfo)
  | activateProfile (store : ProfileStore) (profileId : ProfileId) (device : DeviceInfo)
  | deactivate (activeId : ActiveConnectionId)
  | drainEvents

/-- What a call returns when it succeeds. -/
inductive Reply where
  | connected (active : ActiveConnection)
  | done
  | drained (events : List ConnectionEvent)

/-- The events a call handed out. -/
def Reply.drainedBy : Except ActivationError Reply → List ConnectionEvent
  | .ok (.drained events) => events
  | _ => []

namespace Operation

variable {E : Type}

/-- The call's store answers with the profiles it is asked for. -/
def Keyed : Operation → Prop
  | .activate store _ | .activateProfile store _ _ => store.Keyed
  | .deactivate _ | .drainEvents => True

/-- The call of the manager. -/
def perform (engine : ActivationEngine E) :
    Operation → EStateM ActivationError (ActivationManager E) Reply
  | .activate store device => do
    return .connected (← ActivationManager.activate engine store device)
  | .activateProfile store profileId device => do
    return .connected (← ActivationManager.activateProfile engine store profileId device)
  | .deactivate activeId => do
    let _ ← ActivationManager.deactivate engine activeId
    return .done
  | .drainEvents => do
    return .drained (← ActivationManager.drainEvents)

end Operation

/-- A manager, with everything that was drained from it. -/
structure History (E : Type) where
  manager : ActivationManager E
  drained : List ConnectionEvent := []

namespace History

variable {E : Type}

/-- All events so far, drained or pending. -/
def log (h : History E) : List ConnectionEvent := h.drained ++ h.manager.events

/-- One more call; what it drained is kept. -/
def step (engine : ActivationEngine E) (h : History E) (op : Operation) : History E :=
  let call := Effects.settle (op.perform engine) h.manager
  ⟨call.2, h.drained ++ Reply.drainedBy call.1⟩

/-- The run that makes the calls `ops` on a new manager. -/
def run (engine : ActivationEngine E) (e : E) (ops : List Operation) : History E :=
  ops.foldl (step engine) ⟨ActivationManager.new e, []⟩

end History

end NetworkManager
