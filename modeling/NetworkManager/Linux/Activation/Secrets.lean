import NetworkManager.Linux.Activation
import NetworkManager.Linux.IpEngine.Alike
import NetworkManager.Linux.Supplicant

/-!
# Linux — Activation — Secrets

Two activation engines whose supplicants take whatever passphrase they are given, and whose secret
providers return different bytes: they answer alike.

* `SupplicantControl.Blind`: an answer depends on whether there is a passphrase, not on its bytes.
* `LinuxActivationEngine.activate_alike`, `deactivate_alike`: so do the answers of the engines.
-/

namespace NetworkManager

open Effects

variable {W W' : Type}

/-- The supplicants answer alike, whatever passphrases they are given. -/
structure SupplicantControl.Blind (R : W → W' → Prop) (control : SupplicantControl W)
    (control' : SupplicantControl W') : Prop where
  ifname : control'.ifname = control.ifname
  addNetwork (ssid : Ssid) (keyMgmt : String) (psk psk' : Option (List UInt8))
    (identity : Option String) (bssid : Option Bssid) (hidden : Bool)
    (h : psk.isSome = psk'.isSome) :
    Alike R (control.addNetwork ssid keyMgmt psk identity bssid hidden)
      (control'.addNetwork ssid keyMgmt psk' identity bssid hidden)
  selectNetwork (path : String) : Alike R (control.selectNetwork path) (control'.selectNetwork path)
  removeNetwork (path : String) : Alike R (control.removeNetwork path) (control'.removeNetwork path)
  disconnect : Alike R control.disconnect control'.disconnect
  waitForCompleted (timeout : ℕ) :
    Alike R (control.waitForCompleted timeout) (control'.waitForCompleted timeout)

/-- The supplicants on the bus answer alike, whatever `psk` a network comes with. -/
structure SupplicantBus.Blind (R : W → W' → Prop) (bus : SupplicantBus W)
    (bus' : SupplicantBus W') : Prop where
  ownedPath (path : String) : bus'.ownedPath path = bus.ownedPath path
  getInterface (ifname : String) : Alike R (bus.getInterface ifname) (bus'.getInterface ifname)
  addNetwork (config config' : List (String × ConfigValue))
    (h : List.Forall₂ (fun v v' => v.1 = v'.1 ∧ (v.1 ≠ "psk" → v.2 = v'.2)) config config') :
    Alike R (bus.addNetwork config) (bus'.addNetwork config')
  selectNetwork (path : String) : Alike R (bus.selectNetwork path) (bus'.selectNetwork path)
  removeNetwork (path : String) : Alike R (bus.removeNetwork path) (bus'.removeNetwork path)
  disconnect : Alike R bus.disconnect bus'.disconnect
  state : Alike R bus.state bus'.state
  disconnectReason : Alike R bus.disconnectReason bus'.disconnectReason
  patience (timeout : ℕ) (w : W) (w' : W') (h : R w w') :
    bus'.patience timeout w' = bus.patience timeout w

/-- The secret providers have the same secrets, with different bytes. -/
def SecretProvider.Blind (R : W → W' → Prop) (secrets : SecretProvider W)
    (secrets' : SecretProvider W') : Prop :=
  ∀ reference, Alike R (Option.isSome <$> secrets reference) (Option.isSome <$> secrets' reference)

/-- The engines differ in their supplicants and in the secrets only. -/
structure WpaSupplicantActivationEngine.Blind (R : W → W' → Prop)
    (engine : WpaSupplicantActivationEngine W) (engine' : WpaSupplicantActivationEngine W') :
    Prop where
  control : engine.control.Blind R engine'.control
  secrets : SecretProvider.Blind R engine.secrets engine'.secrets
  timeout : engine'.timeout = engine.timeout

/-! ### The supplicant -/

namespace SupplicantBus

variable {R : W → W' → Prop} {bus : SupplicantBus W} {bus' : SupplicantBus W'}
  (h : bus.Blind R bus')

include h in
/-- A call on an interface is alike where the call is. -/
theorem interface_alike {α : Type} (ifname : String) (err : String → SupplicantError)
    {x : EStateM String W α} {y : EStateM String W' α} (hx : Alike R x y) :
    Alike R (bus.interface ifname err x) (bus'.interface ifname err y) :=
  ((h.getInterface ifname).adaptExcept _).bind fun _ => hx.adaptExcept err

include h in
/-- A call about a network is alike where the call is. -/
theorem onNetwork_alike (ifname path : String) {x : EStateM String W Unit}
    {y : EStateM String W' Unit} (hx : Alike R x y) :
    Alike R (bus.onNetwork ifname path x) (bus'.onNetwork ifname path y) := by
  unfold onNetwork
  rw [h.ownedPath]
  exact ((Alike.ofExcept _).adaptExcept _).bind fun _ => interface_alike h ifname _ hx

include h in
/-- One look at the supplicant is alike. -/
theorem poll_alike {x : EStateM SupplicantError W Unit} {y : EStateM SupplicantError W' Unit}
    (hx : Alike R x y) : Alike R (bus.poll x) (bus'.poll y) := by
  refine (h.state.adaptExcept _).bind fun state =>
    (h.disconnectReason.adaptExcept _).bind fun reason => ?_
  cases classifyState state reason with
  | none => exact hx
  | some result => exact .ofExcept result

include h in
/-- Waiting is alike, however long. -/
theorem waitForCompleted_alike (patience : ℕ) :
    Alike R (bus.waitForCompleted patience) (bus'.waitForCompleted patience) := by
  induction patience with
  | zero => exact poll_alike h (.throw _)
  | succ patience ih => exact poll_alike h ih

/-- The passphrase is in the dictionary under `psk`, and nowhere else. -/
theorem networkConfigDict_psk (ssid : Ssid) (keyMgmt : String) {psk psk' : Option (List UInt8)}
    (identity : Option String) (bssid : Option Bssid) (hidden : Bool)
    (hpsk : psk.isSome = psk'.isSome) :
    List.Forall₂ (fun v v' => v.1 = v'.1 ∧ (v.1 ≠ "psk" → v.2 = v'.2))
      (networkConfigDict ssid keyMgmt psk identity bssid hidden)
      (networkConfigDict ssid keyMgmt psk' identity bssid hidden) := by
  have hsame (config : List (String × ConfigValue)) :
      List.Forall₂ (fun v v' => v.1 = v'.1 ∧ (v.1 ≠ "psk" → v.2 = v'.2)) config config :=
    List.forall₂_same.mpr fun _ _ => ⟨rfl, fun _ => rfl⟩
  unfold networkConfigDict
  refine List.rel_append (List.rel_append (List.rel_append (List.rel_append (hsame _) ?_)
    (hsame _)) (hsame _)) (hsame _)
  cases psk <;> cases psk' <;> cases hpsk
  · exact .nil
  · exact .cons ⟨rfl, fun hne => absurd rfl hne⟩ .nil

include h in
/-- The control only hands the passphrase over. -/
theorem wpaSupplicant_blind (ifname : String) :
    (bus.wpaSupplicant ifname).Blind R (bus'.wpaSupplicant ifname) where
  ifname := rfl
  addNetwork ssid keyMgmt _ _ identity bssid hidden hpsk := interface_alike h ifname _
    (h.addNetwork _ _ (networkConfigDict_psk ssid keyMgmt identity bssid hidden hpsk))
  selectNetwork path := onNetwork_alike h ifname path (h.selectNetwork path)
  removeNetwork path := onNetwork_alike h ifname path (h.removeNetwork path)
  disconnect := interface_alike h ifname _ h.disconnect
  waitForCompleted timeout := ((h.getInterface ifname).adaptExcept _).bind fun _ =>
    .get_bind fun w w' hw => by
      rw [h.patience timeout w w' hw]
      exact waitForCompleted_alike h _

end SupplicantBus

/-- The same is remembered of related worlds. -/
def SupplicantState.Rel (R : W → W' → Prop) (s : SupplicantState W) (t : SupplicantState W') :
    Prop := R s.world t.world ∧ t.activeNetwork = s.activeNetwork

variable {R : W → W' → Prop} {ε α : Type}

theorem SupplicantState.onWorld_alike {x : EStateM ε W α} {y : EStateM ε W' α}
    (h : Alike R x y) : Alike (SupplicantState.Rel R) (onWorld x) (onWorld y) :=
  h.zoom (fun _ _ hst => hst.1) fun _ _ _ _ hst hw => ⟨hw, hst.2⟩

/-- Whether there is a passphrase is told, and the errors are; its bytes are not. -/
theorem retrievePassphrase_alike {secrets : SecretProvider W} {secrets' : SecretProvider W'}
    (h : SecretProvider.Blind R secrets secrets') (security : WifiSecurity) :
    Alike R ((fun _ => ()) <$> retrievePassphrase secrets security)
      ((fun _ => ()) <$> retrievePassphrase secrets' security) := by
  unfold retrievePassphrase
  cases security.secret with
  | none => exact (Alike.throw _).map _
  | some reference =>
      have hanswer : Alike (ε := ActivationError) R
          (Except.map Option.isSome <$> attempt (secrets reference))
          (Except.map Option.isSome <$> attempt (secrets' reference)) := (h reference).attempt_map
      rw [map_bind, map_bind]
      refine hanswer.bind_of_map fun answer answer' hsame => ?_
      rcases answer with error | (_ | secret) <;> rcases answer' with error' | (_ | secret') <;>
        cases hsame
      · cases error <;> exact (Alike.throw _).map _
      · exact (Alike.throw _).map _
      · exact .pure ()

namespace WpaSupplicantActivationEngine

variable {engine : WpaSupplicantActivationEngine W} {engine' : WpaSupplicantActivationEngine W'}
  (h : engine.Blind R engine')

include h in
/-- What may be removed afterwards is alike. -/
theorem orRemove_alike (path : String) {x : EStateM SupplicantError W Unit}
    {y : EStateM SupplicantError W' Unit} (hx : Alike R x y) :
    Alike R (engine.orRemove path x) (engine'.orRemove path y) := by
  refine hx.attempt.bind fun answer => ?_
  cases answer with
  | ok _ => exact .pure _
  | error err => exact (h.control.removeNetwork path).attempt.bind fun _ => .throw _

include h in
/-- Associating is alike where the supplicant is. -/
theorem associate_alike (settings : WifiSettings) (device : DeviceInfo) :
    Alike R (engine.associate settings device) (engine'.associate settings device) := by
  have hadd (psk psk' : Option (List UInt8)) (hpsk : psk.isSome = psk'.isSome) :=
    (h.control.addNetwork settings.ssid (supplicantKeyMgmt settings.security.keyManagement) psk psk'
      settings.security.identity settings.bssid settings.hidden hpsk).adaptExcept supplicantErr
  have hselect (path : String) := orRemove_alike h path (h.control.selectNetwork path)
  have hwait (path : String) := orRemove_alike h path (h.control.waitForCompleted engine.timeout)
  have hrest (psk psk' : Option (List UInt8)) (hpsk : psk.isSome = psk'.isSome) :=
    (hadd psk psk' hpsk).bind fun path => (hselect path).bind fun _ => (hwait path).bind fun _ =>
      Alike.pure (ε := ActivationError) (R := R) path
  unfold associate
  dsimp only
  rw [h.control.ifname, h.timeout]
  split
  · exact .throw _
  · cases hkey : settings.security.keyManagement with
    | wpaEap => exact .throw _
    | wpaPsk | sae =>
        rw [hkey] at hrest
        have hsecret : Alike R (Option.isSome <$> some <$>
              retrievePassphrase engine.secrets settings.security)
            (Option.isSome <$> some <$> retrievePassphrase engine'.secrets settings.security) := by
          have htrue := (retrievePassphrase_alike h.secrets settings.security).map fun _ => true
          simp only [Functor.map_map] at htrue ⊢
          exact htrue
        exact hsecret.bind_of_map hrest
    | «open» | owe =>
        rw [hkey] at hrest
        exact hrest none none rfl

include h in
/-- An activation is alike where the supplicant is. -/
theorem activate_alike (profile : ConnectionProfile) (device : DeviceInfo) :
    Alike (SupplicantState.Rel R) (engine.activate profile device)
      (engine'.activate profile device) := by
  refine .get_bind fun s t ⟨_, hactive⟩ => ?_
  dsimp only
  rw [hactive]
  by_cases hbusy : s.activeNetwork.isSome
  · rw [if_pos hbusy, if_pos hbusy]
    exact .throw _
  · rw [if_neg hbusy, if_neg hbusy]
    cases profile.connectionType with
    | ethernet _ => exact .throw _
    | wifi settings =>
        refine (SupplicantState.onWorld_alike (associate_alike h settings device)).bind fun path => ?_
        exact (Alike.modify fun _ _ hst => ⟨hst.1, rfl⟩).bind fun _ => .pure _

include h in
/-- Dissociating is alike where the supplicant is. -/
theorem dissociate_alike (path : String) :
    Alike R (engine.dissociate path) (engine'.dissociate path) :=
  (h.control.disconnect.adaptExcept _).attempt.bind fun _ =>
    ((h.control.removeNetwork path).adaptExcept _).attempt.bind fun _ => .pure _

include h in
/-- A deactivation is alike where the supplicant is. -/
theorem deactivate_alike (profile : ConnectionProfile) :
    Alike (SupplicantState.Rel R) (engine.deactivate profile) (engine'.deactivate profile) := by
  refine .get_bind fun s t ⟨_, hactive⟩ => ?_
  rw [hactive]
  cases s.activeNetwork with
  | none => exact .throw _
  | some network =>
      dsimp only
      split
      · exact .throw _
      · exact (SupplicantState.onWorld_alike (dissociate_alike h network.2)).bind fun answer =>
          (Alike.modify fun _ _ hst => ⟨hst.1, rfl⟩).bind fun _ => .ofExcept _

end WpaSupplicantActivationEngine

/-! ### The engine -/

/-- The engines differ in their supplicants and in the secrets only; the backends of the IP engines
and the kernel answer alike. -/
structure LinuxActivationEngine.Blind (R : W → W' → Prop) (engine : LinuxActivationEngine W)
    (engine' : LinuxActivationEngine W') : Prop where
  supplicant : engine.supplicant.Blind R engine'.supplicant
  ip : engine.ip.Alike R engine'.ip
  getLinks : Alike R engine.getLinks engine'.getLinks

/-- The same is remembered of related worlds. -/
def LinuxActivationState.Rel (R : W → W' → Prop) (s : LinuxActivationState W)
    (t : LinuxActivationState W') : Prop :=
  SupplicantState.Rel R s.supplicant t.supplicant ∧ t.active = s.active

namespace LinuxActivationEngine

open LinuxActivationState (onSupplicant onWorld Rel)

theorem onSupplicant_alike {x : EStateM ε (SupplicantState W) α}
    {y : EStateM ε (SupplicantState W') α} (h : Alike (SupplicantState.Rel R) x y) :
    Alike (Rel R) (onSupplicant x) (onSupplicant y) :=
  h.zoom (fun _ _ hst => hst.1) fun _ _ _ _ hst hu => ⟨hu, hst.2⟩

theorem onWorld_alike {x : EStateM ε W α} {y : EStateM ε W' α} (h : Alike R x y) :
    Alike (Rel R) (onWorld x) (onWorld y) :=
  onSupplicant_alike (SupplicantState.onWorld_alike h)

variable {engine : LinuxActivationEngine W} {engine' : LinuxActivationEngine W'}
  (h : engine.Blind R engine')

include h in
theorem teardownActive_alike (active : Option (ProfileId × ActiveIpState)) :
    Alike (Rel R) (engine.teardownActive active) (engine'.teardownActive active) := by
  cases active with
  | none => exact .pure _
  | some active =>
      exact (onWorld_alike (LinuxIpEngine.teardown_alike h.ip active.2)).attempt.bind
        fun _ => .pure _

include h in
/-- A rollback is alike. -/
theorem rollback_alike (profile : ConnectionProfile) :
    Alike (Rel R) (engine.rollback profile) (engine'.rollback profile) := by
  refine .get_bind fun s t ⟨_, hactive⟩ => ?_
  rw [hactive]
  refine (Alike.modify fun _ _ hst => ⟨hst.1, rfl⟩).bind fun _ =>
    (teardownActive_alike h s.active).bind fun torn => ?_
  exact (onSupplicant_alike (WpaSupplicantActivationEngine.deactivate_alike h.supplicant
    profile)).attempt.bind fun _ => .ofExcept _

include h in
theorem finishActivation_alike (profile : ConnectionProfile)
    (answer : Except IpEngineError (ActivationOutcome × ActiveIpState)) :
    Alike (Rel R) (engine.finishActivation profile answer)
      (engine'.finishActivation profile answer) := by
  cases answer with
  | ok result => exact (Alike.modify fun _ _ hst => ⟨hst.1, rfl⟩).bind fun _ => .pure _
  | error err =>
      exact (onSupplicant_alike (WpaSupplicantActivationEngine.deactivate_alike h.supplicant
        profile)).attempt.bind fun _ => .throw _

/-- The interface is found alike. -/
theorem resolveInterfaceIndex_alike {getLinks : EStateM NetlinkError W (List Link)}
    {getLinks' : EStateM NetlinkError W' (List Link)} (h : Alike R getLinks getLinks')
    (name : String) :
    Alike R (resolveInterfaceIndex getLinks name) (resolveInterfaceIndex getLinks' name) := by
  refine (h.adaptExcept _).bind fun links => ?_
  cases links.find? fun link => link.name == name with
  | none => exact .throw _
  | some link => exact .pure _

include h in
/-- An activation of the whole engine is alike where its parts are. -/
theorem activate_alike (profile : ConnectionProfile) (device : DeviceInfo) :
    Alike (Rel R) (engine.activate profile device) (engine'.activate profile device) := by
  refine .get_bind fun s t ⟨_, hactive⟩ => ?_
  rw [hactive]
  split
  · exact .throw _
  · refine ((onWorld_alike (resolveInterfaceIndex_alike h.getLinks _)).adaptExcept _).bind
      fun index => ?_
    refine (onSupplicant_alike (WpaSupplicantActivationEngine.activate_alike h.supplicant profile
      device)).bind fun _ => ?_
    exact (onWorld_alike (LinuxIpEngine.activate_alike h.ip _ _ _ _ _)).attempt.bind fun answer =>
      finishActivation_alike h profile answer

include h in
/-- A deactivation of the whole engine is alike where its parts are. -/
theorem deactivate_alike (profile : ConnectionProfile) :
    Alike (Rel R) (engine.deactivate profile) (engine'.deactivate profile) := by
  refine .get_bind fun s t ⟨_, hactive⟩ => ?_
  rw [hactive]
  cases s.active with
  | none => exact .throw _
  | some active =>
      dsimp only
      split
      · exact .throw _
      · exact rollback_alike h profile

end LinuxActivationEngine

end NetworkManager
