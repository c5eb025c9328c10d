import NetworkManager.Connection.Activation

/-!
# Connection — SupplicantEngine

`connection/supplicant_engine.rs`: bringing the Wi-Fi link of one profile up and down, over any
control of a supplicant (`linux/supplicant.rs`) and any secret provider that act on a world `W`.

`activate_spec` and `deactivate_spec` say what the engine remembers after each call.
-/

namespace NetworkManager

open Effects

/-- What the supplicant client can fail with. -/
inductive SupplicantError where
  | bus (error : String)
  | interfaceNotFound (name : String)
  | networkRejected (reason : String)
  | disassociated (reason : Int32)
  | notConnected (state : String)
  | associationTimeout
  deriving DecidableEq

instance : ToString SupplicantError where
  toString
    | .bus err => "wpa_supplicant D-Bus failure: " ++ err
    | .interfaceNotFound name =>
      "wireless interface " ++ name ++ " is not registered with wpa_supplicant"
    | .networkRejected reason =>
      "wpa_supplicant rejected the network configuration: " ++ reason
    | .disassociated reason =>
      "wpa_supplicant disassociated (reason code " ++ toString reason ++ ")"
    | .notConnected state =>
      "wpa_supplicant stopped connecting while in state " ++ Text.debug state
    | .associationTimeout => "wpa_supplicant did not complete association within the timeout"

/-- The control of a supplicant on one wireless interface. -/
structure SupplicantControl (W : Type) where
  ifname : String
  addNetwork : Ssid → String → Option (List UInt8) → Option String → Option Bssid → Bool →
    EStateM SupplicantError W String
  selectNetwork : String → EStateM SupplicantError W Unit
  removeNetwork : String → EStateM SupplicantError W Unit
  disconnect : EStateM SupplicantError W Unit
  waitForCompleted : ℕ → EStateM SupplicantError W Unit

/-- Retrieves the secret bytes for a reference, if there are any. -/
abbrev SecretProvider (W : Type) := SecretReference → EStateM SecretError W (Option (List UInt8))

/-- The timeout is in milliseconds. -/
structure WpaSupplicantActivationEngine (W : Type) where
  control : SupplicantControl W
  secrets : SecretProvider W
  timeout : ℕ := 30000

/-- The world, with the profile the supplicant associates for and the path of its network. -/
structure SupplicantState (W : Type) where
  world : W
  activeNetwork : Option (ProfileId × String) := none

/-- The supplicant's name for the key management. -/
def supplicantKeyMgmt : KeyManagement → String
  | .open => "NONE"
  | .wpaPsk => "WPA-PSK"
  | .wpaEap => "WPA-EAP"
  | .sae => "SAE"
  | .owe => "OWE"

/-- `engine_err`. -/
def supplicantErr (err : SupplicantError) : ActivationError := .engine (toString err)

variable {W : Type}

namespace SupplicantState

/-- A call of the world behind the engine. -/
def onWorld {ε α : Type} (x : EStateM ε W α) : EStateM ε (SupplicantState W) α :=
  zoom SupplicantState.world (fun w s => { s with world := w }) x

end SupplicantState

open SupplicantState (onWorld)

/-- The secret that the profile refers to, from its provider. -/
def retrievePassphrase (secrets : SecretProvider W) (security : WifiSecurity) :
    EStateM ActivationError W (List UInt8) := do
  match security.secret with
  | none => throw (.engine "profile is missing a secret reference")
  | some reference =>
    match ← attempt (secrets reference) with
    | .ok (some secret) => return secret
    | .ok none | .error .notFound =>
      throw (.engine "no secret is available for this profile's authentication")
    | .error .unavailable => throw (.engine "the secret provider is unavailable")

namespace WpaSupplicantActivationEngine

variable (engine : WpaSupplicantActivationEngine W)

/-- A step of the association: when it fails the network is removed again. -/
def orRemove (networkPath : String) (x : EStateM SupplicantError W Unit) :
    EStateM ActivationError W Unit := do
  match ← attempt x with
  | .ok _ => return
  | .error err =>
    let _ ← attempt (engine.control.removeNetwork networkPath)
    throw (supplicantErr err)

/-- Adds the network of `settings` and associates with it; returns its path. -/
def associate (settings : WifiSettings) (device : DeviceInfo) :
    EStateM ActivationError W String := do
  if engine.control.ifname ≠ device.interfaceName then
    throw (.engine ("the supplicant control is bound to interface " ++ engine.control.ifname ++
      " but the profile was requested for " ++ device.interfaceName))
  let security := settings.security
  let passphrase ← match security.keyManagement with
    | .wpaEap => throw (.engine "enterprise (WPA-EAP) authentication is not yet implemented")
    | .wpaPsk | .sae => some <$> retrievePassphrase engine.secrets security
    | .open | .owe => pure none
  let networkPath ← EStateM.adaptExcept supplicantErr (engine.control.addNetwork settings.ssid
    (supplicantKeyMgmt security.keyManagement) passphrase security.identity settings.bssid
    settings.hidden)
  engine.orRemove networkPath (engine.control.selectNetwork networkPath)
  engine.orRemove networkPath (engine.control.waitForCompleted engine.timeout)
  return networkPath

/-- Associates, and remembers the network for the profile. -/
def activate (profile : ConnectionProfile) (device : DeviceInfo) :
    EStateM ActivationError (SupplicantState W) ActivationOutcome := do
  if (← get).activeNetwork.isSome then throw (.engine "an activation is already in progress")
  match profile.connectionType with
  | .ethernet _ => throw (.engine "the supplicant engine only activates Wi-Fi profiles")
  | .wifi settings =>
    let networkPath ← onWorld (engine.associate settings device)
    modify fun s => { s with activeNetwork := some (profile.id, networkPath) }
    return {}

/-- Disconnects and removes the network; both are attempted, and the first error is returned. -/
def dissociate (networkPath : String) : EStateM ActivationError W (Except ActivationError Unit) := do
  let disconnected ← attempt (EStateM.adaptExcept supplicantErr engine.control.disconnect)
  let removed ← attempt (EStateM.adaptExcept supplicantErr (engine.control.removeNetwork networkPath))
  return disconnected.bind fun _ => removed

/-- Dissociates the network that is remembered for the profile; it is forgotten even if that fails.
-/
def deactivate (profile : ConnectionProfile) :
    EStateM ActivationError (SupplicantState W) Unit := do
  match (← get).activeNetwork with
  | none => throw (.engine "there is no active supplicant network for this profile")
  | some (activeProfile, networkPath) =>
    if activeProfile ≠ profile.id then
      throw (.engine "the active supplicant network belongs to a different profile")
    let answer ← onWorld (engine.dissociate networkPath)
    modify fun s => { s with activeNetwork := none }
    MonadExcept.ofExcept answer

/-! ### What the engine remembers -/

variable {engine} {profile : ConnectionProfile} {device : DeviceInfo} {s s' : SupplicantState W}

/-- After an activation the network is remembered. -/
theorem activate_of_ok {outcome : ActivationOutcome}
    (h : engine.activate profile device s = .ok outcome s') :
    ∃ networkPath, s'.activeNetwork = some (profile.id, networkPath) := by
  rw [activate, get_bind] at h
  split at h
  · cases h
  · split at h
    · cases h
    · obtain ⟨networkPath, s₁, -, h⟩ := bind_eq_ok.mp h
      cases h
      exact ⟨networkPath, rfl⟩

/-- A failed activation remembers nothing. -/
theorem activate_of_error {err : ActivationError}
    (h : engine.activate profile device s = .error err s') :
    s'.activeNetwork = s.activeNetwork := by
  rw [activate, get_bind] at h
  split at h
  · cases h
    rfl
  · split at h
    · cases h
      rfl
    · next settings _ =>
      obtain h | ⟨networkPath, s₁, -, h⟩ := bind_eq_error.mp h
      · rw [← after_of_error h, SupplicantState.onWorld, after_zoom]
      · cases h

/-- What may be removed afterwards returns only if it did in the first place. -/
theorem orRemove_eq_ok {networkPath : String} {x : EStateM SupplicantError W Unit} {w w' : W}
    (h : engine.orRemove networkPath x w = .ok () w') : x w = .ok () w' := by
  rw [orRemove] at h
  cases hx : x w with
  | ok _ w₁ =>
      rw [bind_of_ok (attempt_of_ok hx)] at h
      cases h
      rfl
  | error err w₁ =>
      rw [bind_of_ok (attempt_of_error hx)] at h
      obtain ⟨_, _, _, h⟩ := bind_eq_ok.mp h
      cases h

/-- A secret is one that the provider has under the reference of the profile. -/
theorem retrievePassphrase_eq_ok {secrets : SecretProvider W} {security : WifiSecurity}
    {secret : List UInt8} {w w' : W}
    (h : retrievePassphrase secrets security w = .ok secret w') :
    ∃ reference, security.secret = some reference ∧ secrets reference w = .ok (some secret) w' := by
  rw [retrievePassphrase] at h
  cases hsecret : security.secret with
  | none =>
      rw [hsecret] at h
      cases h
  | some reference =>
      rw [hsecret] at h
      dsimp only at h
      refine ⟨reference, rfl, ?_⟩
      cases hx : secrets reference w with
      | ok found w₁ =>
          rw [bind_of_ok (attempt_of_ok hx)] at h
          cases found <;> cases h
          rfl
      | error err w₁ =>
          rw [bind_of_ok (attempt_of_error hx)] at h
          cases err <;> cases h

/-- An association that returns has added a network, selected it and waited. -/
theorem associate_eq_ok {settings : WifiSettings} {device : DeviceInfo} {networkPath : String}
    {w w' : W} (h : engine.associate settings device w = .ok networkPath w') :
    ∃ passphrase w₀ w₁ w₂, (w₀ = w ∨ ∃ reference secret, engine.secrets reference w = .ok secret w₀) ∧
      engine.control.addNetwork settings.ssid (supplicantKeyMgmt settings.security.keyManagement)
        passphrase settings.security.identity settings.bssid settings.hidden w₀ =
          .ok networkPath w₁ ∧
      engine.control.selectNetwork networkPath w₁ = .ok () w₂ ∧
      engine.control.waitForCompleted engine.timeout w₂ = .ok () w' := by
  -- what follows the passphrase is the same for every key management
  have hjoin {passphrase : Option (List UInt8)} {w₀ : W} (h : (do
      let networkPath ← EStateM.adaptExcept supplicantErr (engine.control.addNetwork settings.ssid
        (supplicantKeyMgmt settings.security.keyManagement) passphrase settings.security.identity
        settings.bssid settings.hidden)
      engine.orRemove networkPath (engine.control.selectNetwork networkPath)
      engine.orRemove networkPath (engine.control.waitForCompleted engine.timeout)
      return networkPath) w₀ = .ok networkPath w') :
      ∃ w₁ w₂, engine.control.addNetwork settings.ssid
          (supplicantKeyMgmt settings.security.keyManagement) passphrase settings.security.identity
          settings.bssid settings.hidden w₀ = .ok networkPath w₁ ∧
        engine.control.selectNetwork networkPath w₁ = .ok () w₂ ∧
        engine.control.waitForCompleted engine.timeout w₂ = .ok () w' := by
    obtain ⟨path, w₁, hadd, h⟩ := bind_eq_ok.mp h
    obtain ⟨_, w₂, hselect, h⟩ := bind_eq_ok.mp h
    obtain ⟨_, w₃, hwait, h⟩ := bind_eq_ok.mp h
    cases h
    exact ⟨w₁, w₂, adaptExcept_eq_ok.mp hadd, orRemove_eq_ok hselect, orRemove_eq_ok hwait⟩
  have hretrieved {f : Option (List UInt8) → EStateM ActivationError W String}
      (h : (some <$> retrievePassphrase engine.secrets settings.security >>= f) w =
        .ok networkPath w') : ∃ passphrase w₀, (∃ reference secret,
          engine.secrets reference w = .ok secret w₀) ∧ f passphrase w₀ = .ok networkPath w' := by
    obtain ⟨passphrase, w₀, hpassphrase, h⟩ := bind_eq_ok.mp h
    obtain ⟨secret, hsecret, -⟩ := map_eq_ok.mp hpassphrase
    obtain ⟨reference, -, hfound⟩ := retrievePassphrase_eq_ok hsecret
    exact ⟨passphrase, w₀, ⟨reference, _, hfound⟩, h⟩
  unfold associate at h
  dsimp only at h
  split at h
  · cases h
  · cases hkey : settings.security.keyManagement with
    -- EAP is refused
    | wpaEap =>
        rw [hkey] at h
        cases h
    | wpaPsk | sae =>
        rw [hkey] at h hjoin
        obtain ⟨passphrase, w₀, hfound, h⟩ := hretrieved h
        obtain ⟨w₁, w₂, hrest⟩ := hjoin h
        exact ⟨passphrase, w₀, w₁, w₂, .inr hfound, hrest⟩
    | «open» | owe =>
        rw [hkey] at h hjoin
        obtain ⟨w₁, w₂, hrest⟩ := hjoin h
        exact ⟨none, w, w₁, w₂, .inl rfl, hrest⟩

/-- Dissociating always returns, with the answer it got. -/
theorem dissociate_returns (networkPath : String) (w : W) :
    ∃ answer w', engine.dissociate networkPath w = .ok answer w' := by
  rw [dissociate, attempt_bind, attempt_bind]
  exact ⟨_, _, rfl⟩

/-- Whatever fails, the engine forgets the network of the profile it deactivates. -/
theorem after_deactivate {networkPath : String}
    (h : s.activeNetwork = some (profile.id, networkPath)) :
    (after (engine.deactivate profile) s).activeNetwork = none := by
  obtain ⟨answer, w', hanswer⟩ := engine.dissociate_returns networkPath s.world
  have hworld : onWorld (engine.dissociate networkPath) s = .ok answer { s with world := w' } :=
    zoom_of_ok hanswer
  have hrun : engine.deactivate profile s =
      (MonadExcept.ofExcept answer : EStateM ActivationError (SupplicantState W) Unit)
        { world := w', activeNetwork := none } := by
    rw [deactivate, get_bind, h]
    dsimp only
    rw [if_neg (not_not_intro rfl)]
    exact bind_of_ok hworld
  rw [after_congr hrun, after_ofExcept]

end WpaSupplicantActivationEngine

end NetworkManager
