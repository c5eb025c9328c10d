import NetworkManager.Connection.SupplicantEngine
import NetworkManager.Support.Tracing

/-!
# Connection — SupplicantEngine — Ledger

The networks the engine has added, over runs of activations and deactivations.  `traced` is the
engine over a control that records the networks it adds and removes.

* `Balanced`: every network was removed as often as it was added, but for the active one.
* `network_ledger`: of networks with fresh paths, all but the active one were removed once.
-/

namespace NetworkManager

open Effects

/-- A network that `add_network` returned, or a call of `remove_network`. -/
inductive NetworkEvent where
  | added (path : String)
  | removed (path : String)
  deriving DecidableEq

namespace NetworkEvent

/-- The paths that `add_network` returned. -/
def addedPaths (events : List NetworkEvent) : List String :=
  events.filterMap fun
    | added path => some path
    | removed _ => none

/-- How often `remove_network` was called on this path. -/
def removals (events : List NetworkEvent) (path : String) : ℕ := events.count (.removed path)

/-- A path was added as often as the events say. -/
theorem count_addedPaths (events : List NetworkEvent) (path : String) :
    (addedPaths events).count path = events.count (.added path) := by
  induction events with
  | nil => rfl
  | cons event events ih =>
      cases event with
      | added path' => simp [addedPaths, List.count_cons, ← ih]
      | removed path' => simpa [addedPaths, List.count_cons] using ih

end NetworkEvent

open NetworkEvent
open SupplicantState (onWorld)

/-- A world that records which networks are added and removed. -/
abbrev TracedNetworks (W : Type) := Traced NetworkEvent W

variable {W : Type}

namespace WpaSupplicantActivationEngine

variable (engine : WpaSupplicantActivationEngine W)

/-- The engine over a control that records the networks it adds and removes. -/
def traced : WpaSupplicantActivationEngine (TracedNetworks W) where
  control := {
    ifname := engine.control.ifname
    addNetwork := fun ssid keyMgmt psk identity bssid hidden =>
      recordOk .added (engine.control.addNetwork ssid keyMgmt psk identity bssid hidden)
    selectNetwork := fun path => quiet (engine.control.selectNetwork path)
    removeNetwork := fun path => record (.removed path) (engine.control.removeNetwork path)
    disconnect := quiet engine.control.disconnect
    waitForCompleted := fun timeout => quiet (engine.control.waitForCompleted timeout) }
  secrets := fun reference => quiet (engine.secrets reference)
  timeout := engine.timeout

variable {engine}

/-! ### The traced engine does what the engine does -/

/-- The state without the record. -/
def forget (s : SupplicantState (TracedNetworks W)) : SupplicantState W :=
  ⟨s.world.state, s.activeNetwork⟩

/-- The record does not change the secrets that are found. -/
theorem tracks_retrievePassphrase (security : WifiSecurity) :
    Tracks Traced.state (retrievePassphrase engine.traced.secrets security)
      (retrievePassphrase engine.secrets security) := by
  unfold retrievePassphrase
  cases security.secret with
  | none => exact .throw _
  | some reference =>
      refine (Tracks.quiet _).attempt.bind fun r => ?_
      rcases r with (_ | _) | (_ | _) <;> first | exact .throw _ | exact .pure _

/-- The record does not change what is removed. -/
theorem tracks_orRemove (networkPath : String) {y : EStateM SupplicantError (TracedNetworks W) Unit}
    {x : EStateM SupplicantError W Unit} (h : Tracks Traced.state y x) :
    Tracks Traced.state (engine.traced.orRemove networkPath y) (engine.orRemove networkPath x) := by
  refine h.attempt.bind fun r => ?_
  cases r with
  | ok _ => exact .pure _
  | error err => exact (Tracks.record _ _).attempt.bind fun _ => .throw _

theorem tracks_addNetwork (settings : WifiSettings) (keyMgmt : String)
    (passphrase : Option (List UInt8)) : Tracks Traced.state (do
      let networkPath ← EStateM.adaptExcept supplicantErr (engine.traced.control.addNetwork
        settings.ssid keyMgmt passphrase settings.security.identity settings.bssid settings.hidden)
      engine.traced.orRemove networkPath (engine.traced.control.selectNetwork networkPath)
      engine.traced.orRemove networkPath
        (engine.traced.control.waitForCompleted engine.traced.timeout)
      return networkPath) (do
      let networkPath ← EStateM.adaptExcept supplicantErr (engine.control.addNetwork
        settings.ssid keyMgmt passphrase settings.security.identity settings.bssid settings.hidden)
      engine.orRemove networkPath (engine.control.selectNetwork networkPath)
      engine.orRemove networkPath (engine.control.waitForCompleted engine.timeout)
      return networkPath) :=
  (Tracks.recordOk _ _).adaptExcept.bind fun networkPath =>
    (tracks_orRemove networkPath (.quiet _)).bind fun _ =>
      (tracks_orRemove networkPath (.quiet _)).bind fun _ => .pure networkPath

/-- The record does not change an association. -/
theorem tracks_associate (settings : WifiSettings) (device : DeviceInfo) :
    Tracks Traced.state (engine.traced.associate settings device)
      (engine.associate settings device) := by
  have hpassphrase : Tracks Traced.state
      (some <$> retrievePassphrase engine.traced.secrets settings.security)
      (some <$> retrievePassphrase engine.secrets settings.security) := by
    rw [map_eq_pure_bind, map_eq_pure_bind]
    exact (tracks_retrievePassphrase settings.security).bind fun _ => .pure _
  unfold associate
  dsimp only
  by_cases hname : engine.control.ifname ≠ device.interfaceName
  · rw [if_pos hname, if_pos (show engine.traced.control.ifname ≠ device.interfaceName from hname)]
    exact .throw _
  · rw [if_neg hname, if_neg (show ¬ engine.traced.control.ifname ≠ device.interfaceName from hname)]
    cases settings.security.keyManagement with
    | wpaEap => exact .throw _
    | wpaPsk => exact hpassphrase.bind (tracks_addNetwork settings _)
    | sae => exact hpassphrase.bind (tracks_addNetwork settings _)
    | «open» => exact tracks_addNetwork settings _ none
    | owe => exact tracks_addNetwork settings _ none

/-- The record does not change an activation. -/
theorem tracks_activate (profile : ConnectionProfile) (device : DeviceInfo) :
    Tracks forget (engine.traced.activate profile device) (engine.activate profile device) := by
  intro s
  rw [settle, settle, activate, activate, get_bind, get_bind, ← settle, ← settle]
  show Prod.map id forget (settle (if s.activeNetwork.isSome then _ else _) s) =
    settle (if s.activeNetwork.isSome then _ else _) (forget s)
  split
  · rfl
  · cases profile.connectionType with
    | ethernet settings => rfl
    | wifi settings =>
        have hworld : Tracks forget (onWorld (engine.traced.associate settings device))
            (onWorld (engine.associate settings device)) :=
          (tracks_associate settings device).zoom (fun _ => rfl) fun _ _ => rfl
        exact hworld.bind (fun _ => Tracks.bind (.modify fun _ => rfl) fun _ => .pure _) s

/-- The record does not change a dissociation. -/
theorem tracks_dissociate (networkPath : String) :
    Tracks Traced.state (engine.traced.dissociate networkPath) (engine.dissociate networkPath) :=
  (Tracks.quiet _).adaptExcept.attempt.bind fun _ =>
    (Tracks.record _ _).adaptExcept.attempt.bind fun _ => .pure _

/-- The record does not change a deactivation. -/
theorem tracks_deactivate (profile : ConnectionProfile) :
    Tracks forget (engine.traced.deactivate profile) (engine.deactivate profile) := by
  rintro ⟨t, _ | ⟨activeProfile, networkPath⟩⟩
  · rfl
  · show Prod.map id forget (settle (if activeProfile ≠ profile.id then _ else _) _) =
      settle (if activeProfile ≠ profile.id then _ else _) _
    split
    · rfl
    · have hworld : Tracks forget (onWorld (engine.traced.dissociate networkPath))
          (onWorld (engine.dissociate networkPath)) :=
        (tracks_dissociate networkPath).zoom (fun _ => rfl) fun _ _ => rfl
      refine hworld.bind (fun answer => Tracks.bind (.modify fun _ => rfl) fun _ => ?_)
        ⟨t, some (activeProfile, networkPath)⟩
      cases answer with
      | ok _ => exact .pure _
      | error err => exact .throw _

/-! ### The networks of a call -/

/-- Looking for a secret adds and removes nothing. -/
theorem yields_retrievePassphrase (security : WifiSecurity) :
    Yields (retrievePassphrase engine.traced.secrets security) fun _ events => events = [] := by
  unfold retrievePassphrase
  cases security.secret with
  | none => exact .throw rfl
  | some reference =>
      refine Yields.attempt_bind (Yields.quiet (Q := fun _ events => events = []) _ fun _ => rfl)
        fun r events hevents => ?_
      subst hevents
      rcases r with (_ | _) | (_ | _) <;> first | exact .throw rfl | exact .pure rfl

/-- A step of the association leaves the network, or removes it and fails. -/
theorem yields_orRemove (networkPath : String)
    {x : EStateM SupplicantError (TracedNetworks W) Unit}
    (hx : Yields x fun _ events => events = []) :
    Yields (engine.traced.orRemove networkPath x) fun r events =>
      match r with
      | .ok _ => events = []
      | .error _ => events = [.removed networkPath] := by
  refine Yields.attempt_bind hx fun r events hevents => ?_
  subst hevents
  cases r with
  | ok _ => exact .pure rfl
  | error err =>
      refine Yields.attempt_bind (Yields.record (Q := fun _ events => events = [.removed networkPath])
        _ fun _ => rfl) fun r events hevents => ?_
      subst hevents
      exact .throw rfl

/-- The networks of an association: an added one stays, or is removed again. -/
def Associated (r : Except ActivationError String) (events : List NetworkEvent) : Prop :=
  match r with
  | .ok path => events = [.added path]
  | .error _ => events = [] ∨ ∃ path, events = [.added path, .removed path]

/-- A network that is added is removed again if the association fails. -/
theorem yields_addNetwork (settings : WifiSettings) (keyMgmt : String)
    (passphrase : Option (List UInt8)) :
    Yields (do
      let networkPath ← EStateM.adaptExcept supplicantErr (engine.traced.control.addNetwork
        settings.ssid keyMgmt passphrase
        settings.security.identity settings.bssid settings.hidden)
      engine.traced.orRemove networkPath (engine.traced.control.selectNetwork networkPath)
      engine.traced.orRemove networkPath
        (engine.traced.control.waitForCompleted engine.traced.timeout)
      return networkPath) Associated := by
  have hadd : Yields (EStateM.adaptExcept supplicantErr (engine.traced.control.addNetwork
      settings.ssid keyMgmt passphrase
      settings.security.identity settings.bssid settings.hidden)) fun r events =>
        match r with
        | .ok path => events = [.added path]
        | .error _ => events = [] :=
    .adaptExcept (.recordOk _ (fun _ => rfl) fun _ => rfl)
  refine hadd.bind (fun networkPath events hevents => ?_) fun e events hevents => .inl hevents
  -- from here on the network is there, and both steps remove it where they fail
  obtain rfl : events = [.added networkPath] := hevents
  refine (yields_orRemove networkPath (.quiet _ fun _ => rfl)).bind
    (fun _ events hevents => ?_) fun e events hevents => .inr ⟨networkPath, congrArg _ hevents⟩
  obtain rfl : events = [] := hevents
  refine (yields_orRemove networkPath (.quiet _ fun _ => rfl)).bind
    (fun _ events hevents => ?_) fun e events hevents => .inr ⟨networkPath, congrArg _ hevents⟩
  obtain rfl : events = [] := hevents
  exact .pure rfl

/-- An association that fails leaves no network that it has not removed. -/
theorem yields_associate (settings : WifiSettings) (device : DeviceInfo) :
    Yields (engine.traced.associate settings device) Associated := by
  have hpassphrase : Yields (some <$> retrievePassphrase engine.traced.secrets settings.security)
      fun _ events => events = [] := by
    rw [map_eq_pure_bind]
    exact (yields_retrievePassphrase settings.security).bind_of_nil (fun _ => .pure rfl) fun _ => rfl
  unfold associate
  dsimp only
  split
  · exact .throw (.inl rfl)
  · cases settings.security.keyManagement with
    | wpaEap => exact .throw (.inl rfl)
    | wpaPsk => exact hpassphrase.bind_of_nil (yields_addNetwork settings _) fun _ => .inl rfl
    | sae => exact hpassphrase.bind_of_nil (yields_addNetwork settings _) fun _ => .inl rfl
    | «open» => exact yields_addNetwork settings _ none
    | owe => exact yields_addNetwork settings _ none

/-- A dissociation removes the network, whatever fails. -/
theorem yields_dissociate (networkPath : String) :
    Yields (engine.traced.dissociate networkPath) fun _ events => events = [.removed networkPath] := by
  have hdisconnect : Yields (EStateM.adaptExcept supplicantErr engine.traced.control.disconnect)
    fun _ events => events = [] := .adaptExcept (.quiet _ fun _ => rfl)
  have hremove : Yields (EStateM.adaptExcept supplicantErr
    (engine.traced.control.removeNetwork networkPath)) fun _ events =>
      events = [.removed networkPath] := .adaptExcept (.record _ fun _ => rfl)
  refine Yields.attempt_bind hdisconnect fun _ events hevents => ?_
  subst hevents
  refine Yields.attempt_bind hremove fun _ events hevents => ?_
  subst hevents
  exact .pure rfl

end WpaSupplicantActivationEngine

/-! ### Runs -/

/-- A call of the engine. -/
inductive LinkCall where
  | activate (profile : ConnectionProfile) (device : DeviceInfo)
  | deactivate (profile : ConnectionProfile)

namespace WpaSupplicantActivationEngine

/-- The state after a call. -/
def perform (engine : WpaSupplicantActivationEngine W) (s : SupplicantState W) :
    LinkCall → SupplicantState W
  | .activate profile device => after (engine.activate profile device) s
  | .deactivate profile => after (engine.deactivate profile) s

/-- The state after a run of calls, with the networks the calls added and removed. -/
def networks (engine : WpaSupplicantActivationEngine W) (calls : List LinkCall) (w : W) :
    SupplicantState (TracedNetworks W) :=
  calls.foldl engine.traced.perform ⟨⟨w, []⟩, none⟩

/-- The traced run is the run of the engine. -/
theorem forget_networks (engine : WpaSupplicantActivationEngine W) (calls : List LinkCall) (w : W) :
    forget (engine.networks calls w) = calls.foldl engine.perform ⟨w, none⟩ := by
  have hperform (s : SupplicantState (TracedNetworks W)) (call : LinkCall) :
      engine.perform (forget s) call = forget (engine.traced.perform s call) := by
    cases call with
    | activate profile device => exact ((tracks_activate profile device).after_eq s).symm
    | deactivate profile => exact ((tracks_deactivate profile).after_eq s).symm
  exact (List.foldl_hom forget hperform).symm

end WpaSupplicantActivationEngine

/-- Every network was removed as often as it was added, but for the active one, which was removed
once less. -/
def Balanced (s : SupplicantState (TracedNetworks W)) : Prop :=
  ∀ path, removals s.world.calls path +
    (if s.activeNetwork.map Prod.snd = some path then 1 else 0) = s.world.calls.count (.added path)

/-- What a call adds to the record balances what it does to the active network. -/
theorem Balanced.append {s : SupplicantState (TracedNetworks W)} (h : Balanced s)
    {t : TracedNetworks W} {events : List NetworkEvent} (active : Option (ProfileId × String))
    (ht : t.calls = s.world.calls ++ events)
    (hevents : ∀ path, removals events path + (if active.map Prod.snd = some path then 1 else 0) =
      events.count (.added path) +
        if s.activeNetwork.map Prod.snd = some path then 1 else 0) : Balanced ⟨t, active⟩ := by
  intro path
  have hs := h path
  have he := hevents path
  show removals t.calls path + (if active.map Prod.snd = some path then 1 else 0) =
    t.calls.count (.added path)
  rw [removals] at hs he ⊢
  rw [ht, List.count_append, List.count_append]
  omega

namespace WpaSupplicantActivationEngine

variable {engine : WpaSupplicantActivationEngine W} {s : SupplicantState (TracedNetworks W)}

/-- An activation keeps the networks balanced. -/
theorem balanced_activate (profile : ConnectionProfile) (device : DeviceInfo) (h : Balanced s) :
    Balanced (after (engine.traced.activate profile device) s) := by
  rw [activate, ← settle_snd, settle, get_bind, ← settle]
  split
  · exact h
  · next hnone =>
    split
    · exact h
    · next settings _ =>
      have hyields : Yields (engine.traced.associate settings device) Associated :=
        yields_associate settings device
      obtain ⟨events, hevents, hassociated⟩ := hyields s.world
      rw [settle_bind, SupplicantState.onWorld, settle_zoom]
      rcases hresult : settle (engine.traced.associate settings device) s.world
        with ⟨err | path, t⟩ <;> rw [hresult] at hevents hassociated
      -- nothing was added, or what was added has been removed
      · rcases hassociated with rfl | ⟨path, rfl⟩
        · exact h.append s.activeNetwork hevents fun path' => by simp [removals]
        · exact h.append s.activeNetwork hevents fun path' => by simp [removals, List.count_cons]
      · obtain rfl : events = [.added path] := hassociated
        have hactive : s.activeNetwork = none := by simpa using hnone
        exact h.append (some (profile.id, path)) hevents fun path' => by
          simp [removals, List.count_cons, hactive]

/-- A deactivation keeps the networks balanced. -/
theorem balanced_deactivate (profile : ConnectionProfile) (h : Balanced s) :
    Balanced (after (engine.traced.deactivate profile) s) := by
  rw [deactivate, ← settle_snd, settle, get_bind, ← settle]
  cases hactive : s.activeNetwork with
  | none => exact h
  | some active =>
      obtain ⟨activeProfile, networkPath⟩ := active
      dsimp only
      split
      · exact h
      · have hyields : Yields (engine.traced.dissociate networkPath) fun _ events =>
            events = [.removed networkPath] := yields_dissociate networkPath
        obtain ⟨events, hevents, rfl⟩ := hyields s.world
        -- the network is removed and forgotten, whatever the supplicant answers
        have hdissociate := engine.traced.dissociate_returns networkPath s.world
        obtain ⟨answer, t, hdissociate⟩ := hdissociate
        rw [settle_of_ok hdissociate] at hevents
        rw [settle_bind, SupplicantState.onWorld, settle_zoom, settle_of_ok hdissociate]
        have hbalanced : Balanced ⟨t, none⟩ := h.append none hevents fun path => by
          simp [removals, List.count_cons, hactive]
        cases answer <;> exact hbalanced

/-- So does every call. -/
theorem balanced_perform (call : LinkCall) (h : Balanced s) :
    Balanced (engine.traced.perform s call) := by
  cases call with
  | activate profile device => exact balanced_activate profile device h
  | deactivate profile => exact balanced_deactivate profile h

/-- After every run, the networks are balanced. -/
theorem balanced_networks (engine : WpaSupplicantActivationEngine W) (calls : List LinkCall)
    (w : W) : Balanced (engine.networks calls w) := by
  refine calls.foldlRecOn engine.traced.perform (motive := Balanced) (fun path => rfl) ?_
  exact fun s h call _ => balanced_perform call h

end WpaSupplicantActivationEngine

/-- Of a network that was added once, what the balance says. -/
theorem Balanced.of_added {s : SupplicantState (TracedNetworks W)} (h : Balanced s)
    (hfresh : (addedPaths s.world.calls).Nodup) {path : String}
    (hadded : path ∈ addedPaths s.world.calls) :
    (s.activeNetwork.map Prod.snd = some path ∧ removals s.world.calls path = 0) ∨
      s.activeNetwork.map Prod.snd ≠ some path ∧ removals s.world.calls path = 1 := by
  have hbalance := h path
  rw [← count_addedPaths, List.count_eq_one_of_mem hfresh hadded] at hbalance
  split at hbalance
  · next hactive => exact .inl ⟨hactive, Nat.succ.inj hbalance⟩
  · next hactive => exact .inr ⟨hactive, hbalance⟩

/-- **The ledger.**  After any run of calls in which `add_network` returned fresh paths, a network is
active and not removed, or was removed once; at most one is not removed; and an activation that
fails leaves the active network. -/
theorem network_ledger (engine : WpaSupplicantActivationEngine W) (calls : List LinkCall) (w : W)
    (hfresh : (addedPaths (engine.networks calls w).world.calls).Nodup) :
    let s := engine.networks calls w
    (∀ path ∈ addedPaths s.world.calls,
      (s.activeNetwork.map Prod.snd = some path ∧ removals s.world.calls path = 0) ∨
        s.activeNetwork.map Prod.snd ≠ some path ∧ removals s.world.calls path = 1) ∧
    ((addedPaths s.world.calls).filter fun path => removals s.world.calls path = 0).length ≤ 1 ∧
    ∀ profile device err s', engine.traced.activate profile device s = .error err s' →
      s'.activeNetwork = none ∨ s'.activeNetwork = s.activeNetwork := by
  intro s
  have hbalanced : Balanced s := engine.balanced_networks calls w
  refine ⟨fun path hadded => hbalanced.of_added hfresh hadded, ?_, fun profile device err s' h =>
    .inr (WpaSupplicantActivationEngine.activate_of_error h)⟩
  -- a network that is not removed is the active one
  have hsubset : ((addedPaths s.world.calls).filter fun path => removals s.world.calls path = 0) ⊆
      (s.activeNetwork.map Prod.snd).toList := by
    intro path hmem
    obtain ⟨hadded, hnone⟩ := List.mem_filter.mp hmem
    rcases hbalanced.of_added hfresh hadded with ⟨hactive, -⟩ | ⟨-, hone⟩
    · rw [hactive]
      exact List.mem_singleton_self path
    · rw [hone] at hnone
      cases hnone
  refine (List.subperm_of_subset (hfresh.filter _) hsubset).length_le.trans ?_
  cases s.activeNetwork <;> simp

/-- A control that numbers its networks and associates from the second one on. -/
def countingEngine : WpaSupplicantActivationEngine ℕ where
  control := {
    ifname := "wlan0"
    addNetwork := fun _ _ _ _ _ _ n => .ok ("/fi/w1/wpa_supplicant1/Interfaces/1/Networks/" ++
      toString n) (n + 1)
    selectNetwork := fun _ => pure ()
    removeNetwork := fun _ => pure ()
    disconnect := pure ()
    waitForCompleted := fun _ n => if n = 1 then .error .associationTimeout n else .ok () n }
  secrets := fun _ => pure none

/-- A Wi-Fi profile for an open network. -/
def cafeProfile : ConnectionProfile where
  id := "cafe"
  name := "Cafe"
  connectionType := .wifi { ssid := ⟨[0x63, 0x61, 0x66, 0x65]⟩ }

/-- One association that fails, two that go through, and the end of the first of these. -/
theorem network_ledger_cafe :
    let calls : List LinkCall := [.activate cafeProfile ⟨.wifi, "wlan0", none⟩,
      .activate cafeProfile ⟨.wifi, "wlan0", none⟩, .deactivate cafeProfile,
      .activate cafeProfile ⟨.wifi, "wlan0", none⟩]
    ((addedPaths (countingEngine.networks calls 0).world.calls).filter fun path =>
      removals (countingEngine.networks calls 0).world.calls path = 0).length ≤ 1 :=
  (network_ledger countingEngine _ 0 (by decide)).2.1

end NetworkManager
