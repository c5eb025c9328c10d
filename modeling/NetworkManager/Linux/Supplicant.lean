import NetworkManager.Connection.SupplicantEngine

/-!
# Linux — Supplicant

`linux/supplicant.rs`: the control of wpa_supplicant over D-Bus, on one wireless interface.  The
calls and properties of the interface object are operations on a world `W` (`SupplicantBus`), which
fail with the text of the bus error.
-/

namespace NetworkManager

open Effects

/-- A value of the `AddNetwork` dictionary. -/
inductive ConfigValue where
  | bytes (bytes : List UInt8)
  | str (s : String)
  | u32 (n : UInt32)
  deriving DecidableEq

/-- The dictionary for `AddNetwork`. -/
def networkConfigDict (ssid : Ssid) (keyMgmt : String) (psk : Option (List UInt8))
    (identity : Option String) (bssid : Option Bssid) (hidden : Bool) :
    List (String × ConfigValue) :=
  [("ssid", .bytes ssid.bytes), ("key_mgmt", .str keyMgmt)] ++
    (psk.map fun passphrase =>
      ("psk", .str (String.ofList (Text.fromUtf8Lossy passphrase)))).toList ++
    (identity.map fun identity => ("identity", .str identity)).toList ++
    (bssid.map fun bssid => ("bssid", .str (formatMacAddress bssid.octets))).toList ++
    if hidden then [("scan_ssid", .u32 1)] else []

/-- The supplicant on the bus. -/
structure SupplicantBus (W : Type) where
  /-- `OwnedObjectPath::try_from`. -/
  ownedPath : String → Except String Unit
  getInterface : String → EStateM String W Unit
  addNetwork : List (String × ConfigValue) → EStateM String W String
  selectNetwork : String → EStateM String W Unit
  removeNetwork : String → EStateM String W Unit
  disconnect : EStateM String W Unit
  state : EStateM String W String
  disconnectReason : EStateM String W Int32
  /-- How many polls, from here on, end before the deadline of this timeout. -/
  patience : ℕ → W → ℕ

/-- Classifies a snapshot of `State` and `DisconnectReason`: `none` while the connection is in
progress. -/
def classifyState (state : String) (disconnectReason : Int32) :
    Option (Except SupplicantError Unit) :=
  if state = "completed" then some (.ok ())
  else if state = "disconnected" then
    if disconnectReason ≠ 0 then some (.error (.disassociated disconnectReason)) else none
  else if state = "inactive" then some (.error (.notConnected state))
  else none

/-- Only the state `completed` is a success. -/
theorem classifyState_eq_ok {state : String} {disconnectReason : Int32} :
    classifyState state disconnectReason = some (.ok ()) ↔ state = "completed" := by
  rw [classifyState]
  split
  · next h => exact iff_of_true rfl h
  · next h =>
      refine iff_of_false (fun hok => ?_) h
      split at hok
      · split at hok <;> cases hok
      · split at hok <;> cases hok

namespace SupplicantBus

variable {W : Type} (bus : SupplicantBus W)

/-- One poll; `next` is what follows while the connection is in progress. -/
def poll (next : EStateM SupplicantError W Unit) : EStateM SupplicantError W Unit := do
  let state ← EStateM.adaptExcept .bus bus.state
  let reason ← EStateM.adaptExcept .bus bus.disconnectReason
  match classifyState state reason with
  | some result => MonadExcept.ofExcept result
  | none => next

/-- Polls until the connection is completed or has failed; the deadline is found to have passed
after the poll with no patience left. -/
def waitForCompleted : ℕ → EStateM SupplicantError W Unit
  | 0 => bus.poll (throw .associationTimeout)
  | patience + 1 => bus.poll (waitForCompleted patience)

/-- A call of the interface object. -/
def interface {α : Type} (ifname : String) (err : String → SupplicantError)
    (call : EStateM String W α) : EStateM SupplicantError W α := do
  EStateM.adaptExcept .bus (bus.getInterface ifname)
  EStateM.adaptExcept err call

/-- A call about a network, once its path and its interface are known. -/
def onNetwork (ifname networkPath : String) (call : EStateM String W Unit) :
    EStateM SupplicantError W Unit := do
  EStateM.adaptExcept .bus (MonadExcept.ofExcept (bus.ownedPath networkPath))
  bus.interface ifname .bus call

/-- `WpaSupplicant`. -/
def wpaSupplicant (ifname : String) : SupplicantControl W where
  ifname := ifname
  addNetwork := fun ssid keyMgmt psk identity bssid hidden =>
    bus.interface ifname .networkRejected
      (bus.addNetwork (networkConfigDict ssid keyMgmt psk identity bssid hidden))
  selectNetwork := fun networkPath => bus.onNetwork ifname networkPath (bus.selectNetwork networkPath)
  removeNetwork := fun networkPath => bus.onNetwork ifname networkPath (bus.removeNetwork networkPath)
  disconnect := bus.interface ifname .bus bus.disconnect
  waitForCompleted := fun timeout => do
    EStateM.adaptExcept .bus (bus.getInterface ifname)
    bus.waitForCompleted (bus.patience timeout (← get))

end SupplicantBus

end NetworkManager
