import Mathlib

/-!
# Authorization

`authorization/mod.rs`: the boundary between the facade and the policy of the host.  A policy
backend is what it answers: during one call it is asked about an action at most once.
-/

namespace NetworkManager

/-! ### Actions -/

/-- Turning networking on and off. -/
def actionEnableDisableNetwork : String := "org.freedesktop.NetworkManager.enable-disable-network"

/-- Turning Wi-Fi on and off. -/
def actionEnableDisableWifi : String := "org.freedesktop.NetworkManager.enable-disable-wifi"

/-- Activating and deactivating connections. -/
def actionNetworkControl : String := "org.freedesktop.NetworkManager.network-control"

/-- Reloading the configuration. -/
def actionReload : String := "org.freedesktop.NetworkManager.reload"

/-- Changing the connections of all users. -/
def actionSettingsModifySystem : String := "org.freedesktop.NetworkManager.settings.modify.system"

/-- Changing one's own connections. -/
def actionSettingsModifyOwn : String := "org.freedesktop.NetworkManager.settings.modify.own"

/-- The actions of `GetPermissions`, in the order clients see. -/
def permissionActions : List String :=
  [actionEnableDisableNetwork, actionEnableDisableWifi, actionNetworkControl,
    "org.freedesktop.NetworkManager.wifi.share.protected",
    "org.freedesktop.NetworkManager.wifi.share.open",
    actionSettingsModifySystem, actionSettingsModifyOwn, actionReload,
    "org.freedesktop.NetworkManager.checkpoint-rollback",
    "org.freedesktop.NetworkManager.enable-disable-statistics",
    "org.freedesktop.NetworkManager.enable-disable-connectivity-check"]

/-! ### Callers and answers -/

/-- Who made a request. -/
inductive CallerIdentity where
  | uniqueName (name : String)
  | unidentifiable
  deriving DecidableEq

/-- The identity of a message header's sender. -/
def CallerIdentity.fromSender : Option String → CallerIdentity
  | some name => .uniqueName name
  | none => .unidentifiable

/-- What the policy backend decides. -/
inductive AuthorizationDecision where
  | yes | no | unknown
  deriving DecidableEq

/-- Why it cannot decide. -/
inductive AuthorizationError where
  | unidentifiableCaller
  | backend (reason : String)
  deriving DecidableEq

/-- The answer to a check. -/
abbrev AuthorizationAnswer := Except AuthorizationError AuthorizationDecision

/-- Decides whether a caller may perform an action. -/
abbrev Authorization := CallerIdentity → String → AuthorizationAnswer

/-- What the backend was asked, and its answer. -/
structure Check where
  caller : CallerIdentity
  action : String
  answer : AuthorizationAnswer

/-- The policy that lets everybody do everything. -/
def allowAllAuthorization : Authorization := fun _ _ => .ok .yes

end NetworkManager
