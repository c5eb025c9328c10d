import NetworkManager.Connection.SupplicantEngine
import NetworkManager.Linux.IpEngine

/-!
# Linux — Activation

`linux/activation.rs`: the engine that brings the Wi-Fi link of a profile up through the
supplicant, then its IP configuration, and takes both down again.
-/

namespace NetworkManager

open Effects

/-- The parts the engine drives.  `getLinks` is `netlink::get_links`, which the code calls
directly. -/
structure LinuxActivationEngine (W : Type) where
  supplicant : WpaSupplicantActivationEngine W
  ip : LinuxIpEngine W
  getLinks : EStateM NetlinkError W (List Link)

/-- What the engine remembers: the supplicant's part, and the profile that is up with its IP
state. -/
structure LinuxActivationState (W : Type) where
  supplicant : SupplicantState W
  active : Option (ProfileId × ActiveIpState) := none

variable {W : Type}

namespace LinuxActivationState

/-- An engine that has nothing active. -/
def new (w : W) : LinuxActivationState W := { supplicant := { world := w } }

/-- A call of the supplicant engine. -/
def onSupplicant {ε α : Type} (x : EStateM ε (SupplicantState W) α) :
    EStateM ε (LinuxActivationState W) α :=
  zoom LinuxActivationState.supplicant (fun u s => { s with supplicant := u }) x

/-- A call of the world behind the engine. -/
def onWorld {ε α : Type} (x : EStateM ε W α) : EStateM ε (LinuxActivationState W) α :=
  onSupplicant (SupplicantState.onWorld x)

end LinuxActivationState

namespace LinuxActivationEngine

open LinuxActivationState (onSupplicant onWorld)

/-- `engine_err`. -/
def ipErr (err : IpEngineError) : ActivationError := .engine (toString err)

/-- The text of a failure, if there is one. -/
def failure {ε α : Type} [ToString ε] : Except ε α → List String
  | .ok _ => []
  | .error err => [toString err]

/-- One failure is reported as it is; several are put in one text. -/
def report : List String → Except ActivationError Unit
  | [] => .ok ()
  | [failure] => .error (.engine failure)
  | failure :: others =>
    .error (.engine (failure ++ " (and also " ++ "; ".intercalate others ++ ")"))

variable (engine : LinuxActivationEngine W)

/-- Takes the IP configuration down, if there is one; returns the failure, if there is one. -/
def teardownActive : Option (ProfileId × ActiveIpState) →
    EStateM ActivationError (LinuxActivationState W) (List String)
  | none => return []
  | some (_, state) => do return failure (← attempt (onWorld (engine.ip.teardown state)))

/-- Takes the IP configuration down, and the link regardless. -/
def rollback (profile : ConnectionProfile) :
    EStateM ActivationError (LinuxActivationState W) Unit := do
  let active := (← get).active
  modify fun s => { s with active := none }
  let torn ← engine.teardownActive active
  let parted ← attempt (onSupplicant (engine.supplicant.deactivate profile))
  MonadExcept.ofExcept (report (torn ++ failure parted))

/-- Brings the IP configuration of the profile up. -/
def configure (profile : ConnectionProfile) (device : DeviceInfo) (interfaceIndex : Int32) :
    EStateM IpEngineError W (ActivationOutcome × ActiveIpState) :=
  let dnsOwner := "nmd/" ++ profile.id ++ "/" ++ device.interfaceName
  engine.ip.activate interfaceIndex device.interfaceName profile.ipv4 profile.ipv6 dnsOwner

/-- The end of `activate`, once the IP engine has answered: the link goes down with it. -/
def finishActivation (profile : ConnectionProfile) :
    Except IpEngineError (ActivationOutcome × ActiveIpState) →
      EStateM ActivationError (LinuxActivationState W) ActivationOutcome
  | .ok (outcome, state) => do
    modify fun s => { s with active := some (profile.id, state) }
    return outcome
  | .error err => do
    let _ ← attempt (onSupplicant (engine.supplicant.deactivate profile))
    throw (ipErr err)

/-- Finds the interface, associates, and configures it; if configuring fails, it is rolled back. -/
def activate (profile : ConnectionProfile) (device : DeviceInfo) :
    EStateM ActivationError (LinuxActivationState W) ActivationOutcome := do
  if (← get).active.isSome then throw (.engine "an activation is already in progress")
  let interfaceIndex ← EStateM.adaptExcept ipErr
    (onWorld (resolveInterfaceIndex engine.getLinks device.interfaceName))
  let _ ← onSupplicant (engine.supplicant.activate profile device)
  engine.finishActivation profile (← attempt (onWorld (engine.configure profile device
    interfaceIndex)))

/-- Rolls back what is active for the profile. -/
def deactivate (profile : ConnectionProfile) :
    EStateM ActivationError (LinuxActivationState W) Unit := do
  match (← get).active with
  | none => throw (.engine "there is no active connection to deactivate")
  | some (activeProfile, _) =>
    if activeProfile ≠ profile.id then
      throw (.engine "the active connection belongs to a different profile")
    engine.rollback profile

/-- The engine as the manager drives it. -/
def activationEngine : ActivationEngine (LinuxActivationState W) where
  activate := engine.activate
  deactivate := engine.deactivate

end LinuxActivationEngine

/-! ### What the engine remembers -/

namespace LinuxActivationState

/-- The profile that is up. -/
def running (s : LinuxActivationState W) : Option ProfileId := s.active.map Prod.fst

/-- The supplicant's part names the same profile. -/
def Linked (s : LinuxActivationState W) : Prop :=
  s.supplicant.activeNetwork.map Prod.fst = s.running

/-- Neither part remembers anything else than before. -/
def Still (s s' : LinuxActivationState W) : Prop :=
  s'.active = s.active ∧ s'.supplicant.activeNetwork = s.supplicant.activeNetwork

/-- A call of the world leaves what is active. -/
theorem onWorld_still {ε α : Type} (x : EStateM ε W α) : Keeps Still (onWorld x) := fun s => by
  rw [onWorld, onSupplicant, after_zoom, SupplicantState.onWorld, after_zoom]
  exact ⟨rfl, rfl⟩

end LinuxActivationState

namespace LinuxActivationEngine

open LinuxActivationState

variable {engine : LinuxActivationEngine W} {profile : ConnectionProfile} {device : DeviceInfo}
  {s s' : LinuxActivationState W}

/-- A link that is up stays up with its configuration, and goes down without it. -/
theorem finishActivation_spec (engine : LinuxActivationEngine W) {path : String}
    (hpath : s.supplicant.activeNetwork = some (profile.id, path)) (hidle : s.active = none)
    (answer : Except IpEngineError (ActivationOutcome × ActiveIpState)) :
    match engine.finishActivation profile answer s with
    | .ok _ s' => s'.running = some profile.id ∧ s'.Linked
    | .error _ s' => s'.running = none ∧ s'.Linked := by
  cases answer with
  | ok result =>
      refine ⟨rfl, ?_⟩
      show s.supplicant.activeNetwork.map Prod.fst = some profile.id
      rw [hpath]
      rfl
  | error err =>
      have hend : engine.finishActivation profile (.error err) s =
          .error (ipErr err) (after (onSupplicant (engine.supplicant.deactivate profile)) s) := by
        rw [finishActivation, attempt_bind, settle_snd]
        rfl
      rw [hend, onSupplicant, after_zoom]
      have hdown : (after (engine.supplicant.deactivate profile) s.supplicant).activeNetwork = none :=
        WpaSupplicantActivationEngine.after_deactivate hpath
      simp [running, Linked, hdown, hidle]

/-- An activation makes the profile the running one, or leaves what ran. -/
theorem activate_spec (engine : LinuxActivationEngine W) (profile : ConnectionProfile)
    (device : DeviceInfo) (hlinked : s.Linked) :
    match engine.activate profile device s with
    | .ok _ s' => s.running = none ∧ s'.running = some profile.id ∧ s'.Linked
    | .error _ s' => s'.running = s.running ∧ s'.Linked := by
  by_cases hidle : s.active = none
  · have hkeep : Keeps Still (EStateM.adaptExcept ipErr
        (onWorld (resolveInterfaceIndex engine.getLinks device.interfaceName))) :=
      (onWorld_still _).adaptExcept
    rw [activate, get_bind, if_neg (by simp [hidle])]
    dsimp only
    cases hindex : EStateM.adaptExcept ipErr
        (onWorld (resolveInterfaceIndex engine.getLinks device.interfaceName)) s with
    | error err s₁ =>
        obtain ⟨hactive, hnetwork⟩ := hkeep.of_error hindex
        rw [bind_of_error hindex]
        exact ⟨congrArg (Option.map Prod.fst) hactive, by rwa [Linked, hnetwork, running, hactive]⟩
    | ok index s₁ =>
        obtain ⟨hactive, hnetwork⟩ := hkeep.of_ok hindex
        rw [bind_of_ok hindex]
        cases hlink : onSupplicant (engine.supplicant.activate profile device) s₁ with
        | error err s₂ =>
            obtain ⟨u, hu, rfl⟩ := zoom_eq_error hlink
            have hsame := WpaSupplicantActivationEngine.activate_of_error hu
            rw [bind_of_error hlink]
            exact ⟨congrArg (Option.map Prod.fst) hactive, by
              rwa [Linked, hsame, hnetwork, running, hactive]⟩
        | ok _ s₂ =>
            obtain ⟨u, hu, rfl⟩ := zoom_eq_ok hlink
            obtain ⟨path, hpath⟩ := WpaSupplicantActivationEngine.activate_of_ok hu
            -- configuring addresses touches neither the network nor what is recorded as running
            obtain ⟨hactive', hnetwork'⟩ := onWorld_still (engine.configure profile device index)
              { s₁ with supplicant := u }
            have hend := engine.finishActivation_spec (hnetwork'.trans hpath)
              (hactive'.trans (hactive.trans hidle))
              (settle (onWorld (engine.configure profile device index))
                { s₁ with supplicant := u }).1
            have hstop : s.running = none := by rw [running, hidle]; rfl
            rw [bind_of_ok hlink, attempt_bind, settle_snd, hstop]
            split at hend
            · exact ⟨rfl, hend⟩
            · exact hend
  -- an engine that already runs a profile refuses
  · have hbusy : engine.activate profile device s =
        .error (.engine "an activation is already in progress") s := by
      rw [activate, get_bind, if_pos (Option.isSome_iff_ne_none.mpr hidle)]
      rfl
    rw [hbusy]
    exact ⟨rfl, hlinked⟩

/-- After an activation the profile is the running one. -/
theorem activate_of_ok {outcome : ActivationOutcome} (hlinked : s.Linked)
    (h : engine.activate profile device s = .ok outcome s') :
    s.running = none ∧ s'.running = some profile.id ∧ s'.Linked := by
  have hspec := engine.activate_spec profile device hlinked
  rwa [h] at hspec

/-- A failed activation leaves what ran. -/
theorem activate_of_error {err : ActivationError} (hlinked : s.Linked)
    (h : engine.activate profile device s = .error err s') :
    s'.running = s.running ∧ s'.Linked := by
  have hspec := engine.activate_spec profile device hlinked
  rwa [h] at hspec

/-- Taking down the active connection never fails; its error is returned. -/
theorem teardownActive_some (engine : LinuxActivationEngine W) (id : ProfileId)
    (state : ActiveIpState) (s : LinuxActivationState W) :
    engine.teardownActive (some (id, state)) s =
      .ok (failure (settle (onWorld (engine.ip.teardown state)) s).1)
        (after (onWorld (engine.ip.teardown state)) s) := by
  rw [← settle_snd]
  exact attempt_bind _ _ _

/-- A rollback takes down the addresses first, and then the association, whether that fails or not.
-/
theorem rollback_eq (engine : LinuxActivationEngine W) {id : ProfileId} {state : ActiveIpState}
    (hactive : s.active = some (id, state)) :
    ∃ r, engine.rollback profile s =
      (MonadExcept.ofExcept r : EStateM ActivationError (LinuxActivationState W) Unit)
        (after (onSupplicant (engine.supplicant.deactivate profile))
          (after (onWorld (engine.ip.teardown state)) { s with active := none })) := by
  rw [rollback, get_bind, modify_bind, hactive, bind_of_ok (engine.teardownActive_some id state _),
    attempt_bind, settle_snd]
  exact ⟨_, rfl⟩

/-- Whatever fails, nothing is remembered of a profile that is taken down. -/
theorem after_deactivate (hlinked : s.Linked) (hrunning : s.running = some profile.id) :
    (after (engine.deactivate profile) s).running = none ∧
      (after (engine.deactivate profile) s).Linked := by
  obtain ⟨⟨id, state⟩, hactive, hid⟩ := Option.map_eq_some_iff.mp hrunning
  obtain rfl : id = profile.id := hid
  obtain ⟨⟨id, path⟩, hpath, hid⟩ := Option.map_eq_some_iff.mp (hlinked.trans hrunning)
  obtain rfl : id = profile.id := hid
  obtain ⟨r, hrollback⟩ := engine.rollback_eq hactive
  have hrun : engine.deactivate profile s = engine.rollback profile s := by
    rw [deactivate, get_bind, hactive]
    dsimp only
    rw [if_neg (not_not_intro rfl)]
  obtain ⟨hgone, hnetwork⟩ := onWorld_still (engine.ip.teardown state) { s with active := none }
  have hdown : (after (engine.supplicant.deactivate profile)
      (after (onWorld (engine.ip.teardown state)) { s with active := none }).supplicant).activeNetwork
        = none := WpaSupplicantActivationEngine.after_deactivate (hnetwork.trans hpath)
  rw [after_congr (hrun.trans hrollback), after_ofExcept, onSupplicant, after_zoom]
  simp [running, Linked, hgone, hdown]

end LinuxActivationEngine

end NetworkManager
