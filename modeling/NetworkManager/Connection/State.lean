import NetworkManager.Connection.Profile

/-!
# Connection — State

`connection/state.rs`: the lifecycle of an active connection, and the events the manager reports.
-/

namespace NetworkManager

/-- The handle of an active connection: a number counted up from 1.  The source holds it in a `u64`;
here it is a natural number, so that it never wraps around. -/
structure ActiveConnectionId where
  value : ℕ
  deriving DecidableEq

instance : ToString ActiveConnectionId := ⟨fun id => toString id.value⟩

/-- The states of an active connection. -/
inductive ConnectionState where
  | unknown | disconnected | preparing | configuring | activating | activated | deactivating
  | failed
  deriving DecidableEq, Repr

instance : ToString ConnectionState where
  toString
    | .unknown => "unknown"
    | .disconnected => "disconnected"
    | .preparing => "preparing"
    | .configuring => "configuring"
    | .activating => "activating"
    | .activated => "activated"
    | .deactivating => "deactivating"
    | .failed => "failed"

/-- A transition that the state machine does not have. -/
inductive StateError where
  | invalidTransition (source target : ConnectionState)
  deriving DecidableEq

instance : ToString StateError where
  toString
    | .invalidTransition source target =>
      "invalid connection state transition " ++ toString source ++ " -> " ++ toString target

namespace ConnectionState

/-- The transitions of the state machine. -/
def canTransitionTo (s next : ConnectionState) : Bool :=
  match s with
  | .unknown => next == .disconnected
  | .disconnected => next == .preparing
  | .preparing => next == .configuring || next == .failed
  | .configuring => next == .activating || next == .failed
  | .activating => next == .activated || next == .failed
  | .activated => next == .deactivating || next == .failed
  | .deactivating => next == .disconnected || next == .failed
  | .failed => next == .disconnected

/-- Moves on if the state machine has the transition. -/
def transitionTo (s next : ConnectionState) : Except StateError ConnectionState :=
  if s.canTransitionTo next then .ok next else .error (.invalidTransition s next)

end ConnectionState

/-- Typed events produced by the activation manager. -/
inductive ConnectionEvent where
  | stateChanged (activeId : ActiveConnectionId) (profileId : ProfileId)
      (previous current : ConnectionState)
  | activated (activeId : ActiveConnectionId) (profileId : ProfileId)
  | deactivated (activeId : ActiveConnectionId) (profileId : ProfileId)
  | failed (activeId : ActiveConnectionId) (profileId : ProfileId) (reason : String)
  deriving DecidableEq

end NetworkManager
