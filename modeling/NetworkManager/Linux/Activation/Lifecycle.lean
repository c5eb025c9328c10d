import NetworkManager.Linux.Activation.Agreement
import NetworkManager.Linux.Activation.Machine

/-!
# Linux — Activation — Lifecycle

Whole lives of the manager on a machine: any number of activations and deactivations, each of which
may fail at any point, with a supplicant, a DHCP server and a kernel that answer as they like.

* `Machinery.activate_settles`, `Machinery.deactivate_settles`: what one call of the engine leaves
  once the running activation, if there is one, is taken down as well.
* `History.run_settles`: what that has, all through a life of the manager.
* `History.host_restored`: a host that has nothing under the names of what is activated is as it was
  whenever no connection is up.
-/

namespace NetworkManager

open Transactions Effects

/-! ### What the supplicant leaves alone -/

section

variable {W β : Type} {f : W → β}

/-- The control and the secrets leave what `f` sees. -/
structure WpaSupplicantActivationEngine.Spares (f : W → β)
    (engine : WpaSupplicantActivationEngine W) : Prop where
  addNetwork (ssid : Ssid) (keyMgmt : String) (passphrase : Option (List UInt8))
    (identity : Option String) (bssid : Option Bssid) (hidden : Bool) : Keeps (Same f)
      (engine.control.addNetwork ssid keyMgmt passphrase identity bssid hidden)
  selectNetwork (networkPath : String) : Keeps (Same f) (engine.control.selectNetwork networkPath)
  removeNetwork (networkPath : String) : Keeps (Same f) (engine.control.removeNetwork networkPath)
  disconnect : Keeps (Same f) engine.control.disconnect
  waitForCompleted (timeout : ℕ) : Keeps (Same f) (engine.control.waitForCompleted timeout)
  secrets (reference : SecretReference) : Keeps (Same f) (engine.secrets reference)

namespace WpaSupplicantActivationEngine

variable {engine : WpaSupplicantActivationEngine W} (h : engine.Spares f)

include h

/-- Looking for a secret leaves what the supplicant's calls leave. -/
theorem retrievePassphrase_keeps (security : WifiSecurity) :
    Keeps (Same f) (retrievePassphrase engine.secrets security) := by
  unfold retrievePassphrase
  cases security.secret with
  | none => exact .throw _
  | some reference =>
      refine (h.secrets reference).attempt.bind fun answer => ?_
      obtain ⟨err⟩ | ⟨found⟩ := answer
      · cases err <;> exact .throw _
      · cases found with
        | none => exact .throw _
        | some secret => exact .pure _

/-- So does the removal of a network. -/
theorem orRemove_keeps (networkPath : String) {x : EStateM SupplicantError W Unit}
    (hx : Keeps (Same f) x) : Keeps (Same f) (engine.orRemove networkPath x) := by
  refine hx.attempt.bind fun answer => ?_
  cases answer with
  | ok _ => exact .pure _
  | error err => exact (h.removeNetwork networkPath).attempt.bind fun _ => .throw _

/-- An association leaves what the supplicant's calls leave. -/
theorem associate_keeps (settings : WifiSettings) (device : DeviceInfo) :
    Keeps (Same f) (engine.associate settings device) := by
  have hjoin : ∀ passphrase, Keeps (Same f) (do
      let networkPath ← EStateM.adaptExcept supplicantErr (engine.control.addNetwork settings.ssid
        (supplicantKeyMgmt settings.security.keyManagement) passphrase settings.security.identity
        settings.bssid settings.hidden)
      engine.orRemove networkPath (engine.control.selectNetwork networkPath)
      engine.orRemove networkPath (engine.control.waitForCompleted engine.timeout)
      return networkPath) := fun passphrase =>
    (h.addNetwork _ _ _ _ _ _).adaptExcept.bind fun networkPath =>
      (orRemove_keeps h networkPath (h.selectNetwork networkPath)).bind fun _ =>
        (orRemove_keeps h networkPath (h.waitForCompleted _)).bind fun _ => .pure _
  unfold associate
  dsimp only
  split
  · exact .throw _
  · cases hkey : settings.security.keyManagement with
    | wpaEap => exact .throw _
    | wpaPsk | sae =>
        rw [hkey] at hjoin
        exact ((retrievePassphrase_keeps h _).map some).bind hjoin
    | «open» | owe =>
        rw [hkey] at hjoin
        exact hjoin none

/-- So does a dissociation. -/
theorem dissociate_keeps (networkPath : String) :
    Keeps (Same f) (engine.dissociate networkPath) :=
  h.disconnect.adaptExcept.attempt.bind fun _ =>
    (h.removeNetwork networkPath).adaptExcept.attempt.bind fun _ => .pure _

omit h in
/-- A call of the world leaves what it leaves of the world. -/
theorem onWorld_keeps {ε α : Type} {x : EStateM ε W α} (hx : Keeps (Same f) x) :
    Keeps (Same fun s : SupplicantState W => f s.world) (SupplicantState.onWorld x) := fun s => by
  rw [SupplicantState.onWorld, after_zoom]
  exact hx s.world

omit h in
theorem remember_keeps (network : Option (ProfileId × String)) :
    Keeps (Same fun s : SupplicantState W => f s.world) (modify fun s =>
      { s with activeNetwork := network } : EStateM ActivationError (SupplicantState W) PUnit) :=
  fun _ => rfl

/-- An activation leaves what the supplicant's calls leave. -/
theorem activate_keeps (profile : ConnectionProfile) (device : DeviceInfo) :
    Keeps (Same fun s : SupplicantState W => f s.world) (engine.activate profile device) := by
  refine .get_bind fun s => ?_
  dsimp only
  split
  · exact .throw _
  · cases profile.connectionType with
    | ethernet _ => exact .throw _
    | wifi settings =>
        exact (onWorld_keeps (associate_keeps h settings device)).bind fun _ =>
          (remember_keeps _).bind fun _ => .pure _

/-- So does a deactivation. -/
theorem deactivate_keeps (profile : ConnectionProfile) :
    Keeps (Same fun s : SupplicantState W => f s.world) (engine.deactivate profile) := by
  refine .get_bind fun s => ?_
  cases s.activeNetwork with
  | none => exact .throw _
  | some network =>
      dsimp only
      split
      · exact .throw _
      · exact (onWorld_keeps (dissociate_keeps h _)).bind fun _ =>
          (remember_keeps none).bind fun _ => .ofExcept _

end WpaSupplicantActivationEngine

end

/-! ### The state of the engine on a machine -/

/-- What the engine is called with on an interface. -/
def IpRequest.of (profile : ConnectionProfile) (device : DeviceInfo) (index : Int32) : IpRequest where
  interfaceIndex := index
  interfaceName := device.interfaceName
  ipv4 := profile.ipv4
  ipv6 := profile.ipv6
  dnsOwner := "nmd/" ++ profile.id ++ "/" ++ device.interfaceName

/-- The name has no whitespace, as the kernel wants it. -/
def DeviceInfo.Plain (device : DeviceInfo) : Prop :=
  ∀ c ∈ device.interfaceName.toList, Text.isWhitespace c = false

/-- A valid id has no whitespace. -/
theorem ConnectionProfile.isWhitespace_of_validId {id : ProfileId} (h : ValidId id) :
    ∀ c ∈ id.toList, Text.isWhitespace c = false := by
  intro c hc
  have hchar := List.all_eq_true.mp h.2 c hc
  have hrange : 45 ≤ c.toNat ∧ c.toNat ≤ 122 := by
    simp [Text.isAsciiAlphanumeric, Char.le_def, UInt32.le_iff_toNat_le] at hchar
    rcases hchar with (hletter | rfl) | rfl
    · omega
    · decide
    · decide
  simp [Text.isWhitespace]
  omega

/-- The request for a valid profile on a plain device is valid. -/
theorem IpRequest.valid_of {profile : ConnectionProfile} {device : DeviceInfo}
    (hprofile : profile.validate = .ok ()) (hdevice : device.Plain) (index : Int32) :
    (IpRequest.of profile device index).Valid := by
  obtain ⟨hid, -, -, hipv4, hipv6⟩ := ConnectionProfile.validate_eq_ok.mp hprofile
  refine ⟨hipv4, hipv6, ?_, ?_⟩
  · intro hempty
    have hlength := congrArg String.length hempty
    simp [IpRequest.of] at hlength
  · have hnmd : ("nmd/".toList.all fun c => !Text.isWhitespace c) = true := rfl
    have hslash : ("/".toList.all fun c => !Text.isWhitespace c) = true := rfl
    intro c hc
    simp only [IpRequest.of, String.toList_append, List.mem_append] at hc
    rcases hc with ((hc | hc) | hc) | hc
    · simpa using List.all_eq_true.mp hnmd c hc
    · exact ConnectionProfile.isWhitespace_of_validId hid c hc
    · simpa using List.all_eq_true.mp hslash c hc
    · exact hdevice c hc

namespace LinuxActivationState

section

variable {W ε α : Type} (s : LinuxActivationState W)

/-- The same memory of another world. -/
def withWorld (w : W) : LinuxActivationState W := ⟨⟨w, s.supplicant.activeNetwork⟩, s.active⟩

variable {s} {x : EStateM ε W α} {w : W}

theorem onWorld_of_ok {a : α} (h : x s.supplicant.world = .ok a w) :
    onWorld x s = .ok a (s.withWorld w) := by
  rw [onWorld, onSupplicant, SupplicantState.onWorld]
  exact zoom_of_ok (zoom_of_ok h)

theorem onWorld_of_error {e : ε} (h : x s.supplicant.world = .error e w) :
    onWorld x s = .error e (s.withWorld w) := by
  rw [onWorld, onSupplicant, SupplicantState.onWorld]
  exact zoom_of_error (zoom_of_error h)

/-- A call of the world changes the world only. -/
theorem after_onWorld (x : EStateM ε W α) (s : LinuxActivationState W) :
    after (onWorld x) s = s.withWorld (after x s.supplicant.world) := by
  rw [onWorld, onSupplicant, after_zoom, SupplicantState.onWorld, after_zoom]
  rfl

end

/-- What the engine would take down. -/
def ipState {W : Type} (s : LinuxActivationState W) : ActiveIpState := s.active.elim {} Prod.snd

variable {U : Type}

/-- The machine that the engine runs on. -/
abbrev machine (s : LinuxActivationState (Machine U)) : Machine U := s.supplicant.world

/-- The host, without the running activation. -/
def settled (s : LinuxActivationState (Machine U)) : Host := s.machine.world.host.undo s.ipState

/-- The host with its journal, and the IP state that is up. -/
def seen (s : LinuxActivationState (Machine U)) : World × Option (ProfileId × ActiveIpState) :=
  (s.machine.world, s.active)

/-- The host without the running activation has this property with the journal. -/
def Settles (P : Host → List Item → Prop) (s : LinuxActivationState (Machine U)) : Prop :=
  P s.settled s.machine.world.journal

/-- What is settled shows in what is seen. -/
theorem settles_congr {P : Host → List Item → Prop} {s t : LinuxActivationState (Machine U)}
    (h : t.seen = s.seen) : t.Settles P ↔ s.Settles P := by
  obtain ⟨hworld, hactive⟩ := Prod.mk.inj h
  unfold Settles settled ipState
  rw [hworld, hactive]

/-- With nothing up, the host is what it is. -/
theorem settles_of_idle {P : Host → List Item → Prop} {s : LinuxActivationState (Machine U)}
    (h : s.active = none) : s.Settles P ↔ P s.machine.world.host s.machine.world.journal := by
  unfold Settles settled ipState
  rw [h, Option.elim_none, Env.undo_empty]
  rfl

/-- The supplicant does not show on the host. -/
theorem onSupplicant_seen {ε α : Type} {x : EStateM ε (SupplicantState (Machine U)) α}
    (hx : Keeps (Same fun s : SupplicantState (Machine U) => s.world.world) x) :
    Keeps (Same seen) (onSupplicant x) := fun s => by
  rw [onSupplicant, after_zoom]
  exact Prod.ext (hx s.supplicant) rfl

theorem onWorld_seen {ε α : Type} {x : EStateM ε (Machine U) α} (hx : Keeps (Same Machine.world) x) :
    Keeps (Same seen) (onWorld x) :=
  onSupplicant_seen (WpaSupplicantActivationEngine.onWorld_keeps hx)

end LinuxActivationState

namespace Machinery

open LinuxActivationState

variable {U : Type} (machinery : Machinery U)

/-- The rest of the machine does not show on the host. -/
theorem onRest_keeps {ε α : Type} (x : EStateM ε U α) :
    Keeps (Same Machine.world) (Machine.onRest x) := .zoom fun _ _ => rfl

/-- The supplicant, the secrets and the links have no hold of the host. -/
theorem supplicant_spares : machinery.engine.supplicant.Spares Machine.world where
  addNetwork _ _ _ _ _ _ := onRest_keeps _
  selectNetwork _ := onRest_keeps _
  removeNetwork _ := onRest_keeps _
  disconnect := onRest_keeps _
  waitForCompleted _ := onRest_keeps _
  secrets _ := onRest_keeps _

/-- Finding the interface does not show on the host. -/
theorem resolve_seen (name : String) : Keeps (Same seen) (EStateM.adaptExcept
    LinuxActivationEngine.ipErr (onWorld (resolveInterfaceIndex machinery.engine.getLinks name))) := by
  refine (onWorld_seen ?_).adaptExcept
  refine (onRest_keeps _).adaptExcept.bind fun links => ?_
  cases links.find? fun link => link.name == name with
  | none => exact .throw _
  | some link => exact .pure _

/-- Associating does not show on the host. -/
theorem supplicantActivate_seen (profile : ConnectionProfile) (device : DeviceInfo) :
    Keeps (Same seen) (onSupplicant (machinery.engine.supplicant.activate profile device)) :=
  onSupplicant_seen
    (WpaSupplicantActivationEngine.activate_keeps machinery.supplicant_spares profile device)

/-- Dissociating does not show on the host. -/
theorem supplicantDeactivate_seen (profile : ConnectionProfile) :
    Keeps (Same seen) (onSupplicant (machinery.engine.supplicant.deactivate profile)) :=
  onSupplicant_seen
    (WpaSupplicantActivationEngine.deactivate_keeps machinery.supplicant_spares profile)

/-! ### One call of the engine -/

variable {P : Host → List Item → Prop}

/-- `P` is kept by putting items in place and undoing what was recorded of them, for every request
that may be made for the profile on the device. -/
def Closed (P : Host → List Item → Prop) (profile : ConnectionProfile) (device : DeviceInfo) :
    Prop :=
  ∀ (u : U) (index : Int32) (gs : List Item) (host : Host) (journal : List Item),
    let req := IpRequest.of profile device index
    gs <+: req.forwardSteps (machinery.env u) → P host journal →
      P ((host.putAll gs).undo (req.recorded (machinery.env u) gs)) (journal ++ gs)

/-- The end of an activation whose link is up: what the IP engine left is settled. -/
theorem finish_settles {profile : ConnectionProfile} {device : DeviceInfo} {index : Int32}
    (hvalid : ∀ index, (IpRequest.of profile device index).Valid)
    (hclosed : machinery.Closed P profile device) {s : LinuxActivationState (Machine U)}
    (hidle : s.active = none) (h : s.Settles P) :
    (after (do
      machinery.engine.finishActivation profile
        (← attempt (onWorld (machinery.engine.configure profile device index)))) s).Settles P := by
  rw [settles_of_idle hidle] at h
  have hrun := machinery.activate_machine (hvalid index) s.machine
  obtain ⟨gs, clock, hgs, ⟨outcome, hok⟩ | ⟨e, herror⟩⟩ := hrun
  · have hup : onWorld (machinery.engine.configure profile device index) s = .ok _ _ :=
      onWorld_of_ok hok
    rw [after_bind_of_ok (attempt_of_ok hup)]
    exact hclosed s.machine.rest index gs _ _ hgs h
  · have hcut : onWorld (machinery.engine.configure profile device index) s = .error _ _ :=
      onWorld_of_error herror
    rw [after_bind_of_ok (attempt_of_error hcut)]
    have hend : ∀ t, after (machinery.engine.finishActivation profile (.error e)) t =
        after (onSupplicant (machinery.engine.supplicant.deactivate profile)) t := fun t => by
      rw [LinuxActivationEngine.finishActivation, after_congr (attempt_bind _ _ t), settle_snd]
      rfl
    rw [hend]
    refine (settles_congr (machinery.supplicantDeactivate_seen profile _)).mpr ?_
    have hidle' : ∀ m, (s.withWorld m).active = none := fun _ => hidle
    rw [settles_of_idle (hidle' _)]
    exact hclosed s.machine.rest index gs _ _ hgs h

/-- An activation leaves the host settled, whatever of it fails. -/
theorem activate_settles {profile : ConnectionProfile} {device : DeviceInfo}
    (hvalid : ∀ index, (IpRequest.of profile device index).Valid)
    (hclosed : machinery.Closed P profile device) {s : LinuxActivationState (Machine U)}
    (h : s.Settles P) : (after (machinery.engine.activate profile device) s).Settles P := by
  by_cases hidle : s.active = none
  · rw [LinuxActivationEngine.activate, after_congr (get_bind _ s), if_neg (by simp [hidle])]
    dsimp only
    cases hindex : EStateM.adaptExcept LinuxActivationEngine.ipErr
        (onWorld (resolveInterfaceIndex machinery.engine.getLinks device.interfaceName)) s with
    | error err s₁ =>
        rw [after_of_error (bind_of_error hindex)]
        exact (settles_congr ((machinery.resolve_seen _).of_error hindex)).mpr h
    | ok index s₁ =>
        have hseen₁ := (machinery.resolve_seen _).of_ok hindex
        rw [after_bind_of_ok hindex]
        cases hlink : onSupplicant (machinery.engine.supplicant.activate profile device) s₁ with
        | error err s₂ =>
            rw [after_of_error (bind_of_error hlink)]
            have hseen₂ := (machinery.supplicantActivate_seen profile device).of_error hlink
            exact (settles_congr (hseen₂.trans hseen₁)).mpr h
        | ok _ s₂ =>
            have hseen₂ := (machinery.supplicantActivate_seen profile device).of_ok hlink
            rw [after_bind_of_ok hlink]
            exact machinery.finish_settles hvalid hclosed
              ((congrArg Prod.snd (hseen₂.trans hseen₁)).trans hidle)
              ((settles_congr (hseen₂.trans hseen₁)).mpr h)
  · have hbusy : machinery.engine.activate profile device s =
        .error (.engine "an activation is already in progress") s := by
      rw [LinuxActivationEngine.activate, get_bind, if_pos (Option.isSome_iff_ne_none.mpr hidle)]
      rfl
    rwa [after_of_error hbusy]

/-- A deactivation leaves the host settled. -/
theorem deactivate_settles (profile : ConnectionProfile) {s : LinuxActivationState (Machine U)}
    (h : s.Settles P) : (after (machinery.engine.deactivate profile) s).Settles P := by
  cases hactive : s.active with
  | none =>
      have hrefused : machinery.engine.deactivate profile s =
          .error (.engine "there is no active connection to deactivate") s := by
        rw [LinuxActivationEngine.deactivate, get_bind, hactive]
        rfl
      rwa [after_of_error hrefused]
  | some active =>
      obtain ⟨id, st⟩ := active
      by_cases hid : id ≠ profile.id
      · have hrefused : machinery.engine.deactivate profile s =
            .error (.engine "the active connection belongs to a different profile") s := by
          rw [LinuxActivationEngine.deactivate, get_bind, hactive]
          dsimp only
          rw [if_pos hid]
          rfl
        rwa [after_of_error hrefused]
      · obtain ⟨r, hrollback⟩ :=
          @LinuxActivationEngine.rollback_eq _ profile _ machinery.engine _ _ hactive
        have hrun : machinery.engine.deactivate profile s = machinery.engine.rollback profile s := by
          rw [LinuxActivationEngine.deactivate, get_bind, hactive]
          dsimp only
          rw [if_neg hid]
        rw [after_congr (hrun.trans hrollback), after_ofExcept]
        -- the network side of the machine is not looked at
        refine (settles_congr (machinery.supplicantDeactivate_seen profile _)).mpr ?_
        have hdown : after (machinery.engine.ip.teardown st) s.machine = _ :=
          machinery.teardown_machine st s.machine
        rw [after_onWorld]
        show ({ s with active := none }.withWorld
          (after (machinery.engine.ip.teardown st) s.machine)).Settles P
        rw [hdown, settles_of_idle rfl]
        -- a settled host with a recorded state is one that the teardown of the state settles
        have hsettled : s.settled = s.machine.world.host.undo st := by
          rw [settled, ipState, hactive]
          rfl
        rw [Settles, hsettled] at h
        exact h

end Machinery

/-! ### What is settled -/

namespace Host

variable {st : ActiveIpState} {items : List Item} {h : Host}

/-- What was not there is not there after items are put in place and undone again. -/
theorem not_present_undo_putAll_of_not (hcover : Covers st items) {i : Item} (hi : ¬ i.Present h) :
    ¬ i.Present ((h.putAll items).undo st) := by
  cases i with
  | lease l =>
      show l.record ∉ _
      rw [undo_putAll_leases hcover, Finset.mem_sdiff]
      exact fun hl => hi hl.1
  | address a =>
      show a ∉ _
      rw [undo_putAll_addresses hcover, Finset.mem_sdiff]
      exact fun ha => hi ha.1
  | route r =>
      have hnone : h.routes r.key = none := not_not.mp hi
      show ¬ _ ≠ none
      rw [undo_putAll_routes, not_not]
      by_cases hput : ∃ p ∈ routesOf items, p.key = r.key
      · obtain ⟨p, hp, hkey⟩ := hput
        rw [← hkey]
        exact Tables.dropAll_putAll_of_mem (fun r _ => Route.deletes_self r)
          (mem_removals_of_mem_routesOf hcover) hp
      · rw [Tables.dropAll_putAll_of_ne fun p hp hkey => hput ⟨p, hp, hkey⟩]
        exact Tables.dropAll_of_none hnone
  | resolvConf content =>
      by_cases hfile : ∃ content, .resolvConf content ∈ items
      · obtain ⟨content', hc⟩ := hfile
        rintro ⟨text, owner, htext, -, -⟩
        rw [undo_putAll_resolvConf_of_mem hcover hc] at htext
        cases htext
      · rintro ⟨text, owner, htext, hnames⟩
        rw [undo_putAll_resolvConf_of_not_mem hcover fun content hc => hfile ⟨content, hc⟩] at htext
        exact hi ⟨text, owner, htext, hnames⟩

end Host

/-- Nothing of the journal is on the host. -/
def Clean (host : Host) (journal : List Item) : Prop := ∀ i ∈ journal, ¬ i.Present host

/-- The host has nothing under the names of what the request, carried out in full, records, and no
file where it writes one. -/
structure IpRequest.Vacant (req : IpRequest) (env : Env) (host : Host) : Prop where
  leases : ∀ l ∈ (req.intent6 env).leases, l ∉ host.leases
  addresses : ∀ a ∈ (req.intent6 env).addresses, a ∉ host.addresses
  routes : ∀ r ∈ (req.intent6 env).removals, host.routes r.key = none
  file : ∀ content, .resolvConf content ∈ req.forwardSteps env → host.resolvConf = .absent

namespace IpRequest

variable {req : IpRequest} {env : Env} {gs : List Item}

/-- What is recorded on the way is part of what is recorded in the end. -/
theorem recorded_sub (req : IpRequest) (env : Env) (gs : List Item) :
    (∀ l ∈ (req.recorded env gs).leases, l ∈ (req.intent6 env).leases) ∧
    (∀ a ∈ (req.recorded env gs).addresses, a ∈ (req.intent6 env).addresses) ∧
    ∀ r ∈ (req.recorded env gs).removals, r ∈ (req.intent6 env).removals := by
  unfold recorded
  split
  · split
    · exact ⟨fun _ h => h, fun _ h => h, fun _ h => h⟩
    · refine ⟨fun _ h => h, fun a ha => ?_, fun r hr => ?_⟩
      · have hipv4 : a ∈ ((req.intent4 env).ipv4.map (·.ifAddr)).toList := by
          simpa [ActiveIpState.addresses, intent4] using ha
        exact List.mem_append_left _ hipv4
      · have hipv4 : r ∈ (req.intent4 env).ipv4.elim [] (·.removals) := by
          simpa [ActiveIpState.removals, intent4] using hr
        exact List.mem_append_left _ hipv4
  · simp [ActiveIpState.leases, ActiveIpState.addresses, ActiveIpState.removals]

/-- Bringing up and taking down leaves a host without the names as it was, wherever it is cut. -/
theorem Vacant.restored {host : Host} (h : req.Vacant env host)
    (howner : LinuxDnsManager.PlainOwner req.dnsOwner) (hgs : gs <+: req.forwardSteps env) :
    (host.putAll gs).undo (req.recorded env gs) = host := by
  obtain ⟨hleases, haddresses, hremovals⟩ := req.recorded_sub env gs
  have hcover := recorded_covers howner hgs
  refine (Host.undo_putAll_eq_self_iff hcover).mpr ⟨fun l hl => h.leases l (hleases l hl),
    fun a ha => h.addresses a (haddresses a ha), ?_, fun r hr => ?_, fun content hc => ?_⟩
  · rintro r hr ⟨entry, hentry, -⟩
    rw [h.routes r (hremovals r hr)] at hentry
    cases hentry
  · exact h.routes r (hremovals r (hcover.route r hr))
  · exact h.file content (hgs.subset hc)

end IpRequest

namespace Machinery

variable {U : Type} (machinery : Machinery U) {profile : ConnectionProfile} {device : DeviceInfo}

/-- Every activation leaves a clean host clean. -/
theorem closed_clean (hvalid : ∀ index, (IpRequest.of profile device index).Valid) :
    machinery.Closed Clean profile device := by
  intro u index gs host journal req hgs hclean i hi
  have hcover := IpRequest.recorded_covers (hvalid index).owner hgs
  rcases List.mem_append.mp hi with hold | hnew
  · exact Host.not_present_undo_putAll_of_not hcover (hclean i hold)
  · exact Host.not_present_undo_putAll hcover hnew

/-- Every activation leaves a host as it was, once it is taken down. -/
theorem closed_restored {host : Host} (hvalid : ∀ index, (IpRequest.of profile device index).Valid)
    (hvacant : ∀ u index, (IpRequest.of profile device index).Vacant (machinery.env u) host) :
    machinery.Closed (fun h _ => h = host) profile device := by
  rintro u index gs _ journal req hgs rfl
  exact (hvacant u index).restored (hvalid index).owner hgs

/-- What a profile and a device may be for calls that keep `P`. -/
def Fit (P : Host → List Item → Prop) (profile : ConnectionProfile) (device : DeviceInfo) : Prop :=
  (∀ index, (IpRequest.of profile device index).Valid) ∧ machinery.Closed P profile device

/-- A move of the manager leaves the host settled. -/
theorem moves_settles {P : Host → List Item → Prop} {op : Operation}
    {r : Except ActivationError Reply} {m m' : ActivationManager (LinuxActivationState (Machine U))}
    (hmove : ActivationManager.Moves machinery.engine.activationEngine m op r m')
    (hfit : ∀ profile device, op.Offers profile device → machinery.Fit P profile device)
    (h : m.engine.Settles P) : m'.engine.Settles P := by
  cases hmove with
  | refused hown => exact h
  | drained => exact h
  | activated hfresh hcall hoffers =>
      obtain ⟨hvalid, hclosed⟩ := hfit _ _ hoffers
      have hup : (after (machinery.engine.activationEngine.activate _ _) m.engine).Settles P :=
        machinery.activate_settles hvalid hclosed h
      rwa [after_of_ok hcall] at hup
  | stillborn hfresh hcall hoffers =>
      obtain ⟨hvalid, hclosed⟩ := hfit _ _ hoffers
      have hcut : (after (machinery.engine.activationEngine.activate _ _) m.engine).Settles P :=
        machinery.activate_settles hvalid hclosed h
      rwa [after_of_error hcall] at hcut
  | deactivated hsplit hstate hcall =>
      have hdown : ∀ profile, (after (machinery.engine.activationEngine.deactivate profile)
        m.engine).Settles P := fun profile => machinery.deactivate_settles profile h
      exact after_of_ok hcall ▸ hdown _
  | broken hsplit hstate hcall =>
      have hdown : ∀ profile, (after (machinery.engine.activationEngine.deactivate profile)
        m.engine).Settles P := fun profile => machinery.deactivate_settles profile h
      exact after_of_error hcall ▸ hdown _

end Machinery

/-! ### Lives of the manager -/

/-- After every run the host is settled. -/
theorem History.run_settles {U : Type} (machinery : Machinery U) {P : Host → List Item → Prop}
    {e : LinuxActivationState (Machine U)} (h : e.Settles P) {ops : List Operation}
    (hfit : ∀ op ∈ ops, ∀ profile device, op.Offers profile device →
      machinery.Fit P profile device) :
    (run machinery.engine.activationEngine e ops).manager.engine.Settles P :=
  run_induction (P := fun h => h.manager.engine.Settles P)
    (C := fun op => ∀ profile device, op.Offers profile device → machinery.Fit P profile device) h
    (fun _ _ _ _ hop h hmove => machinery.moves_settles hmove hop h) hfit

/-- **The host is given back.**  When the host had nothing under the names of whatever may be
activated, and the profiles are valid, it is as it was after every run that leaves no connection up,
whichever forward steps failed on the way. -/
theorem History.host_restored {U : Type} (machinery : Machinery U) (host : Host) (rest : U)
    (ops : List Operation)
    (hops : ∀ op ∈ ops, ∀ profile device, op.Offers profile device →
      profile.validate = .ok () ∧ device.Plain ∧
        ∀ u index, (IpRequest.of profile device index).Vacant (machinery.env u) host) :
    let m := (run machinery.engine.activationEngine (.new ⟨.start host, rest⟩) ops).manager
    (m.activated = [] → m.engine.machine.world.host = host) ∧
      ∀ id st, m.engine.active = some (id, st) →
        (after (machinery.engine.ip.teardown st) m.engine.machine).world.host = host := by
  intro m
  have hsettles : m.engine.Settles fun h _ => h = host := by
    refine run_settles machinery ?_ fun op hop profile device hoffers => ?_
    · exact (LinuxActivationState.settles_of_idle rfl).mpr rfl
    · obtain ⟨hvalid, hplain, hvacant⟩ := hops op hop profile device hoffers
      have hrequest := IpRequest.valid_of hvalid hplain
      exact ⟨hrequest, machinery.closed_restored hrequest hvacant⟩
  constructor
  · intro hdown
    -- nothing is activated for the manager, so nothing is up for the engine
    have hidle : m.engine.active = none := by
      cases hactive : m.engine.active with
      | none => rfl
      | some active =>
          obtain ⟨hagree, -⟩ := agreement machinery.engine ⟨.start host, rest⟩ ops
          obtain ⟨a, ha, -⟩ := ((hagree active.1).2.mp ⟨active.2, hactive⟩)
          rw [hdown] at ha
          cases ha
    exact (LinuxActivationState.settles_of_idle hidle).mp hsettles
  · intro id st hactive
    have hdown : after (machinery.engine.ip.teardown st) m.engine.machine = _ :=
      machinery.teardown_machine st m.engine.machine
    rw [hdown]
    rwa [LinuxActivationState.Settles, LinuxActivationState.settled, LinuxActivationState.ipState,
      hactive] at hsettles

/-! ### A machine to run on -/

namespace Sample

/-- A machine on which everything goes through. -/
def machinery : Machinery Unit where
  env _ := env fun _ => false
  control := {
    ifname := "wlan0"
    addNetwork := fun _ _ _ _ _ _ => pure "/networks/0"
    selectNetwork := fun _ => pure ()
    removeNetwork := fun _ => pure ()
    disconnect := pure ()
    waitForCompleted := fun _ => pure () }
  secrets _ := pure none
  getLinks := pure [⟨3, "wlan0", 1⟩]

/-- An open network with a manual address. -/
def cafe : ConnectionProfile where
  id := "cafe"
  name := "cafe"
  connectionType := .wifi { ssid := ⟨[99, 97, 102, 101]⟩ }
  ipv4 := request.ipv4

/-- A wireless device. -/
def wlan0 : DeviceInfo := ⟨.wifi, "wlan0", none⟩

theorem plain_wlan0 : wlan0.Plain := by
  have hall : (wlan0.interfaceName.toList.all fun c => !Text.isWhitespace c) = true := rfl
  intro c hc
  simpa using List.all_eq_true.mp hall c hc

/-- The store of this one profile. -/
def cafeStore : ProfileStore := ⟨.ok [cafe], fun _ => .ok cafe⟩

/-- The empty host has nothing under the names of any request. -/
theorem vacant_emptyHost (req : IpRequest) (env : Env) : req.Vacant env emptyHost where
  leases l _ := Finset.notMem_empty l
  addresses a _ := Finset.notMem_empty a
  routes _ _ := rfl
  file _ _ := rfl

end Sample

/-- A Wi-Fi profile is activated and taken down. -/
theorem History.host_restored_cafe :
    let ops := [.activateProfile Sample.cafeStore "cafe" Sample.wlan0, .deactivate ⟨1⟩]
    let m := (run Sample.machinery.engine.activationEngine (.new ⟨.start Sample.emptyHost, ()⟩)
      ops).manager
    (m.activated = [] → m.engine.machine.world.host = Sample.emptyHost) ∧
      ∀ id st, m.engine.active = some (id, st) →
        (after (Sample.machinery.engine.ip.teardown st) m.engine.machine).world.host =
          Sample.emptyHost := by
  refine host_restored Sample.machinery Sample.emptyHost () _ ?_
  rintro op hop profile device hoffers
  have hvacant : ∀ u index, (IpRequest.of profile device index).Vacant (Sample.machinery.env u)
      Sample.emptyHost := fun _ _ => Sample.vacant_emptyHost _ _
  rcases List.mem_cons.mp hop with rfl | hop
  · obtain ⟨rfl, -, id, ⟨⟩⟩ := hoffers
    exact ⟨rfl, Sample.plain_wlan0, hvacant⟩
  · obtain rfl := List.mem_singleton.mp hop
    exact hoffers.elim

end NetworkManager
