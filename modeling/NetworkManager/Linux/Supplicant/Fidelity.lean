import NetworkManager.Linux.Identifiers
import NetworkManager.Linux.Supplicant
import NetworkManager.Support.Tracing
import NetworkManager.Support.Utf8

/-!
# Linux — Supplicant — Fidelity

What the dictionaries that activations send to the supplicant say of the profiles they are for.

* `Recorded`: an activation sends nothing, or one dictionary with the secret it was given.
* `network_config_iff`: the dictionaries determine the settings and the secrets, and carry the
  secrets as they are, exactly when the secrets are UTF-8.
-/

namespace NetworkManager

open Effects
open Paths (osStr)
open SupplicantState (onWorld)

/-- A configuration as it is sent: names and values. -/
abbrev NetworkConfig := List (String × ConfigValue)

/-! ### The entries of a dictionary -/

/-- What there is to read under each key. -/
theorem lookup_networkConfigDict (ssid : Ssid) (keyMgmt : String) (psk : Option (List UInt8))
    (identity : Option String) (bssid : Option Bssid) (hidden : Bool) :
    let config := networkConfigDict ssid keyMgmt psk identity bssid hidden
    config.lookup "ssid" = some (.bytes ssid.bytes) ∧
    config.lookup "key_mgmt" = some (.str keyMgmt) ∧
    config.lookup "psk" =
      psk.map (fun secret => .str (String.ofList (Text.fromUtf8Lossy secret))) ∧
    config.lookup "identity" = identity.map .str ∧
    config.lookup "bssid" = bssid.map (fun bssid => .str (formatMacAddress bssid.octets)) ∧
    config.lookup "scan_ssid" = if hidden then some (.u32 1) else none := by
  cases psk <;> cases identity <;> cases bssid <;> cases hidden <;>
    exact ⟨rfl, rfl, rfl, rfl, rfl, rfl⟩

/-- The text of a MAC address determines it. -/
theorem formatMacAddress_injective : Function.Injective formatMacAddress := by
  intro mac mac' h
  have hparse := congrArg parseMacAddress h
  rw [parseMacAddress_formatMacAddress, parseMacAddress_formatMacAddress] at hparse
  exact Option.some.inj hparse

/-- The key management of the supplicant determines that of the profile. -/
theorem supplicantKeyMgmt_injective : Function.Injective supplicantKeyMgmt := by
  intro mode mode' h
  cases mode <;> cases mode' <;> first | rfl | exact absurd h (by decide)

/-- The modes that take a passphrase. -/
def KeyManagement.UsesPassphrase (mode : KeyManagement) : Prop := mode = .wpaPsk ∨ mode = .sae

/-- The dictionary for the settings and a passphrase. -/
def WifiSettings.networkConfig (settings : WifiSettings) (psk : Option (List UInt8)) :
    NetworkConfig :=
  networkConfigDict settings.ssid (supplicantKeyMgmt settings.security.keyManagement) psk
    settings.security.identity settings.bssid settings.hidden

/-! ### Activations -/

/-- What an activation gets from the secret provider, or sends to the supplicant. -/
inductive ConfigEvent where
  | retrieved (secret : Option (List UInt8))
  | sent (config : NetworkConfig)

/-- The bus, with a record of the dictionaries that are sent. -/
def SupplicantBus.traced {W : Type} (bus : SupplicantBus W) :
    SupplicantBus (Traced ConfigEvent W) where
  ownedPath := bus.ownedPath
  getInterface := fun ifname => quiet (bus.getInterface ifname)
  addNetwork := fun config => record (.sent config) (bus.addNetwork config)
  selectNetwork := fun path => quiet (bus.selectNetwork path)
  removeNetwork := fun path => quiet (bus.removeNetwork path)
  disconnect := quiet bus.disconnect
  state := quiet bus.state
  disconnectReason := quiet bus.disconnectReason
  patience := fun timeout t => bus.patience timeout t.state

/-- An activation of a Wi-Fi profile, with what it starts from. -/
structure WpaActivation (W : Type) where
  bus : SupplicantBus W
  ifname : String
  secrets : SecretProvider W
  timeout : ℕ
  profile : ConnectionProfile
  settings : WifiSettings
  isWifi : profile.connectionType = .wifi settings
  device : DeviceInfo
  state : SupplicantState W

namespace WpaActivation

variable {W : Type}

/-- The engine, with a record of the secrets and the dictionaries. -/
def engine (a : WpaActivation W) : WpaSupplicantActivationEngine (Traced ConfigEvent W) where
  control := a.bus.traced.wpaSupplicant a.ifname
  secrets := fun reference => recordOk .retrieved (a.secrets reference)
  timeout := a.timeout

/-- The state before, with nothing recorded. -/
def start (a : WpaActivation W) : SupplicantState (Traced ConfigEvent W) :=
  ⟨⟨a.state.world, []⟩, a.state.activeNetwork⟩

/-- What the activation retrieved and sent. -/
def events (a : WpaActivation W) : List ConfigEvent :=
  (after (a.engine.activate a.profile a.device) a.start).world.calls

/-- The activation ends with success. -/
def Succeeds (a : WpaActivation W) : Prop :=
  ∃ outcome s, a.engine.activate a.profile a.device a.start = .ok outcome s

/-- The activation sends this configuration. -/
def Sends (a : WpaActivation W) (config : NetworkConfig) : Prop := .sent config ∈ a.events

/-- The secret that the provider returned, if it was asked and had one. -/
def secret (a : WpaActivation W) : Option (List UInt8) :=
  a.events.findSome? fun
    | .retrieved secret => secret
    | .sent _ => none

end WpaActivation

/-! ### What an activation sends -/

/-- The records of activations for these settings. -/
inductive Recorded (settings : WifiSettings) : List ConfigEvent → Prop where
  | nothing : Recorded settings []
  | asked (secret : Option (List UInt8)) : Recorded settings [.retrieved secret]
  | keyed (secret : List UInt8) (h : settings.security.keyManagement.UsesPassphrase) :
      Recorded settings [.retrieved (some secret), .sent (settings.networkConfig (some secret))]
  | keyless (h : ¬ settings.security.keyManagement.UsesPassphrase) :
      Recorded settings [.sent (settings.networkConfig none)]

namespace WpaActivation

variable {W : Type} (a : WpaActivation W)

/-- Nothing is retrieved or sent. -/
abbrev Silent {ε α : Type} (x : EStateM ε (Traced ConfigEvent W) α) : Prop :=
  Yields x fun _ events => events = []

/-- Retrieving the passphrase records it once it is found; every failure is an error. -/
theorem yields_retrievePassphrase (security : WifiSecurity) :
    Yields (retrievePassphrase a.engine.secrets security) fun r events =>
      match r with
      | .ok secret => events = [.retrieved (some secret)]
      | .error _ => events = [] ∨ ∃ secret, events = [.retrieved secret] := by
  unfold retrievePassphrase
  cases security.secret with
  | none => exact .throw (.inl rfl)
  | some reference =>
      have hask : Yields (a.engine.secrets reference) fun r events =>
          match r with
          | .ok secret => events = [.retrieved secret]
          | .error _ => events = [] :=
        .recordOk _ (fun _ => rfl) fun _ => rfl
      refine hask.attempt_bind fun r events hevents => ?_
      rcases r with (_ | _) | (_ | _) <;> obtain rfl := hevents
      · exact .throw (.inl rfl)
      · exact .throw (.inl rfl)
      · exact .throw (.inr ⟨none, rfl⟩)
      · exact .pure rfl

theorem silent_interface {α : Type} (err : String → SupplicantError) {call : EStateM String _ α}
    (h : Silent call) : Silent (a.bus.traced.interface a.ifname err call) :=
  Yields.bind_of_nil (.adaptExcept (.quiet _ fun _ => rfl)) (fun _ => .adaptExcept h) fun _ => rfl

theorem silent_onNetwork (path : String) {call : EStateM String _ Unit} (h : Silent call) :
    Silent (a.bus.traced.onNetwork a.ifname path call) := by
  refine Yields.bind_of_nil (.adaptExcept ?_) (fun _ => a.silent_interface .bus h) fun _ => rfl
  cases a.bus.traced.ownedPath path with
  | ok _ => exact .pure rfl
  | error err => exact .throw rfl

/-- Polling records neither a secret nor a configuration. -/
theorem silent_waitForCompleted : ∀ patience : ℕ, Silent (a.bus.traced.waitForCompleted patience)
  | 0 => silent_poll (.throw rfl)
  | patience + 1 => silent_poll (silent_waitForCompleted patience)
where
  silent_poll {next : EStateM SupplicantError (Traced ConfigEvent W) Unit} (h : Silent next) :
      Silent (a.bus.traced.poll next) := by
    refine Yields.bind_of_nil (.adaptExcept (.quiet _ fun _ => rfl)) (fun state => ?_) fun _ => rfl
    refine Yields.bind_of_nil (.adaptExcept (.quiet _ fun _ => rfl)) (fun reason => ?_) fun _ => rfl
    cases classifyState state reason with
    | none => exact h
    | some result =>
        cases result with
        | ok _ => exact .pure rfl
        | error err => exact .throw rfl

theorem silent_orRemove (path : String) {x : EStateM SupplicantError (Traced ConfigEvent W) Unit}
    (h : Silent x) : Silent (a.engine.orRemove path x) := by
  refine Yields.attempt_bind h fun r events hevents => ?_
  subst hevents
  cases r with
  | ok _ => exact .pure rfl
  | error err =>
      have hremove : Silent (a.engine.control.removeNetwork path) :=
        a.silent_onNetwork path (.quiet _ fun _ => rfl)
      refine hremove.attempt_bind fun r events hevents => ?_
      subst hevents
      exact .throw rfl

/-- Nor does the whole wait. -/
theorem silent_wait : Silent (a.engine.control.waitForCompleted a.engine.timeout) := by
  refine Yields.bind_of_nil (.adaptExcept (.quiet _ fun _ => rfl)) (fun _ => ?_) fun _ => rfl
  exact fun t => a.silent_waitForCompleted (a.bus.traced.patience a.timeout t) t

/-- The dictionary is sent, or what comes before it fails. -/
theorem yields_addNetwork (psk : Option (List UInt8)) :
    Yields (do
      let networkPath ← EStateM.adaptExcept supplicantErr (a.engine.control.addNetwork
        a.settings.ssid (supplicantKeyMgmt a.settings.security.keyManagement) psk
        a.settings.security.identity a.settings.bssid a.settings.hidden)
      a.engine.orRemove networkPath (a.engine.control.selectNetwork networkPath)
      a.engine.orRemove networkPath (a.engine.control.waitForCompleted a.engine.timeout)
      return networkPath) fun r events =>
        events = [.sent (a.settings.networkConfig psk)] ∨ events = [] ∧ ∃ err, r = .error err := by
  have hadd : Yields (EStateM.adaptExcept supplicantErr (a.engine.control.addNetwork
      a.settings.ssid (supplicantKeyMgmt a.settings.security.keyManagement) psk
      a.settings.security.identity a.settings.bssid a.settings.hidden)) fun r events =>
        events = [.sent (a.settings.networkConfig psk)] ∨ events = [] ∧ ∃ err, r = .error err :=
    .adaptExcept <| Yields.bind_of_nil (.adaptExcept (.quiet _ fun _ => rfl))
      (fun _ => .adaptExcept (.record _ fun _ => .inl rfl)) fun err => .inr ⟨rfl, _, rfl⟩
  refine hadd.bind (fun path events hevents => ?_) fun err events hevents =>
    hevents.imp_right fun h => ⟨h.1, err, rfl⟩
  obtain rfl | ⟨-, err, herr⟩ := hevents
  · have hselect : Silent (a.engine.control.selectNetwork path) :=
      a.silent_onNetwork path (.quiet _ fun _ => rfl)
    refine Yields.bind_of_nil (a.silent_orRemove path hselect) (fun _ => ?_) fun _ => .inl rfl
    refine Yields.bind_of_nil (a.silent_orRemove path a.silent_wait) (fun _ => ?_) fun _ => .inl rfl
    exact .pure (.inl rfl)
  · cases herr

/-- What is recorded when the result is `r`. -/
def Told (r : Except ActivationError String) (events : List ConfigEvent) : Prop :=
  Recorded a.settings events ∧ ((∃ path, r = .ok path) → ∃ config, .sent config ∈ events)

/-- A key management with a passphrase sends the configuration that the passphrase makes, or fails.
-/
theorem yields_keyed (h : a.settings.security.keyManagement.UsesPassphrase)
    {f : Option (List UInt8) → EStateM ActivationError (Traced ConfigEvent W) String}
    (hf : ∀ psk, Yields (f psk) fun r events =>
      events = [.sent (a.settings.networkConfig psk)] ∨ events = [] ∧ ∃ err, r = .error err) :
    Yields (some <$> retrievePassphrase a.engine.secrets a.settings.security >>= f) a.Told := by
  rw [map_eq_pure_bind, bind_assoc]
  refine (a.yields_retrievePassphrase _).bind (fun secret events hevents => ?_)
    fun err events hevents => ?_
  · obtain rfl : events = [.retrieved (some secret)] := hevents
    rw [pure_bind]
    intro t
    obtain ⟨events, hcalls, rfl | ⟨rfl, err, herr⟩⟩ := hf (some secret) t
    · exact ⟨_, hcalls, .keyed secret h, fun _ =>
        ⟨_, List.mem_cons_of_mem _ (List.mem_singleton_self _)⟩⟩
    · refine ⟨_, hcalls, .asked _, ?_⟩
      rintro ⟨path, hpath⟩
      cases herr.symm.trans hpath
  · obtain rfl | ⟨secret, rfl⟩ := hevents
    · exact ⟨.nothing, fun ⟨_, h⟩ => nomatch h⟩
    · exact ⟨.asked secret, fun ⟨_, h⟩ => nomatch h⟩

/-- Associating sends the configuration of the profile once at most, with the secret it retrieved.
-/
theorem yields_associate : Yields (a.engine.associate a.settings a.device) a.Told := by
  have hkeyless (h : ¬ a.settings.security.keyManagement.UsesPassphrase) : Yields _ a.Told :=
    fun t =>
      have ⟨events, hcalls, hevents⟩ := a.yields_addNetwork none t
      ⟨events, hcalls, by
        obtain rfl | ⟨rfl, err, herr⟩ := hevents
        · exact ⟨.keyless h, fun _ => ⟨_, List.mem_singleton_self _⟩⟩
        · refine ⟨.nothing, ?_⟩
          rintro ⟨path, hpath⟩
          cases herr.symm.trans hpath⟩
  have hkeyed (h : a.settings.security.keyManagement.UsesPassphrase) : Yields _ a.Told :=
    a.yields_keyed h a.yields_addNetwork
  unfold WpaSupplicantActivationEngine.associate
  dsimp only
  split
  · exact .throw ⟨.nothing, fun ⟨_, h⟩ => nomatch h⟩
  · cases hmode : a.settings.security.keyManagement with
    | wpaEap => exact .throw ⟨.nothing, fun ⟨_, h⟩ => nomatch h⟩
    | wpaPsk =>
        rw [hmode] at hkeyed
        exact hkeyed (.inl rfl)
    | sae =>
        rw [hmode] at hkeyed
        exact hkeyed (.inr rfl)
    | «open» | owe =>
        rw [hmode] at hkeyless
        exact hkeyless (by simp [KeyManagement.UsesPassphrase])

/-- The recorded events are a secret where one is needed and the configuration, and a success has
sent it. -/
theorem recorded_events :
    Recorded a.settings a.events ∧ (a.Succeeds → ∃ config, a.Sends config) := by
  obtain ⟨events, hcalls, hrecorded, hsent⟩ := a.yields_associate a.start.world
  have hevents : (settle (a.engine.associate a.settings a.device) a.start.world).2.calls = events :=
    hcalls
  have hrun : a.engine.activate a.profile a.device a.start =
      if a.start.activeNetwork.isSome then
        .error (.engine "an activation is already in progress") a.start
      else (do
        let networkPath ← onWorld (a.engine.associate a.settings a.device)
        modify fun s : SupplicantState (Traced ConfigEvent W) =>
          { s with activeNetwork := some (a.profile.id, networkPath) }
        return ({} : ActivationOutcome)) a.start := by
    rw [WpaSupplicantActivationEngine.activate, get_bind, a.isWifi]
    split <;> rfl
  -- an engine that is busy refuses before anything is retrieved or sent
  by_cases hactive : a.start.activeNetwork.isSome
  · rw [if_pos hactive] at hrun
    have hnone : a.events = [] := by
      rw [WpaActivation.events, after_of_error hrun]
      rfl
    rw [hnone]
    refine ⟨.nothing, ?_⟩
    rintro ⟨_, _, hok⟩
    cases hrun.symm.trans hok
  · rw [if_neg hactive] at hrun
    cases hassociate : a.engine.associate a.settings a.device a.start.world with
    | ok path t =>
        have hworld : onWorld (a.engine.associate a.settings a.device) a.start =
            .ok path { a.start with world := t } := zoom_of_ok hassociate
        rw [settle_of_ok hassociate] at hevents hsent
        have hafter : a.events = events := by
          rw [WpaActivation.events, after_of_ok (hrun.trans (bind_of_ok hworld))]
          exact hevents
        rw [hafter]
        refine ⟨hrecorded, fun _ => ?_⟩
        obtain ⟨config, hconfig⟩ := hsent ⟨path, rfl⟩
        refine ⟨config, ?_⟩
        rw [Sends, hafter]
        exact hconfig
    | error err t =>
        have hworld : onWorld (a.engine.associate a.settings a.device) a.start =
            .error err { a.start with world := t } := zoom_of_error hassociate
        rw [settle_of_error hassociate] at hevents
        have hfailed := hrun.trans (bind_of_error hworld)
        have hafter : a.events = events := by
          rw [WpaActivation.events, after_of_error hfailed]
          exact hevents
        rw [hafter]
        refine ⟨hrecorded, ?_⟩
        rintro ⟨_, _, hok⟩
        cases hfailed.symm.trans hok

variable {a} {config : NetworkConfig}

/-- What is sent is the configuration of the profile with the secret, and there is one exactly where
the key management uses it. -/
theorem config_of_sends (h : a.Sends config) :
    config = a.settings.networkConfig a.secret ∧
      (a.secret.isSome ↔ a.settings.security.keyManagement.UsesPassphrase) := by
  obtain ⟨hrecorded, -⟩ := a.recorded_events
  rw [Sends] at h
  rw [WpaActivation.secret]
  generalize a.events = events at h hrecorded
  cases hrecorded with
  | nothing => cases h
  | asked secret => simp at h
  | keyed secret hmode => exact ⟨by simpa using h, iff_of_true rfl hmode⟩
  | keyless hmode => exact ⟨by simpa using h, iff_of_false Bool.false_ne_true hmode⟩

/-- There is a passphrase exactly in the modes that take one, and it is the secret. -/
def CarriesSecret (a : WpaActivation W) (config : NetworkConfig) : Prop :=
  ((config.lookup "psk").isSome ↔ a.settings.security.keyManagement.UsesPassphrase) ∧
    ∀ value ∈ config.lookup "psk", ∃ secret text,
      a.secret = some secret ∧ value = .str text ∧ osStr text = secret

/-- The secret, if there is one, is that of a text. -/
def HasTextSecret (a : WpaActivation W) : Prop := ∀ secret ∈ a.secret, Text.IsUtf8 secret

/-- The configuration carries the secret exactly if it is text. -/
theorem carriesSecret_iff (h : a.Sends config) : a.CarriesSecret config ↔ a.HasTextSecret := by
  obtain ⟨rfl, hmode⟩ := config_of_sends h
  obtain ⟨-, -, hpsk, -⟩ := lookup_networkConfigDict a.settings.ssid
    (supplicantKeyMgmt a.settings.security.keyManagement) a.secret a.settings.security.identity
    a.settings.bssid a.settings.hidden
  rw [CarriesSecret, WifiSettings.networkConfig, hpsk, Option.isSome_map, HasTextSecret]
  cases hsecret : a.secret with
  | none =>
      rw [hsecret] at hmode
      exact iff_of_true ⟨hmode, nofun⟩ nofun
  | some secret =>
      rw [hsecret] at hmode
      constructor
      · rintro ⟨-, hvalue⟩ _ ⟨⟩
        obtain ⟨_, text, ⟨⟩, htext, hbytes⟩ := hvalue _ rfl
        exact ⟨text, hbytes⟩
      · intro htext
        refine ⟨hmode, ?_⟩
        rintro _ ⟨⟩
        exact ⟨secret, _, rfl, rfl, Text.osStr_fromUtf8Lossy_iff.mpr (htext secret rfl)⟩

end WpaActivation

/-- Dictionaries with the same entries are of the same settings, and of secrets that read the
same. -/
theorem settings_of_lookup {settings settings' : WifiSettings} {psk psk' : Option (List UInt8)}
    (h : ∀ key, (settings.networkConfig psk).lookup key = (settings'.networkConfig psk').lookup key) :
    settings.ssid = settings'.ssid ∧
    settings.security.keyManagement = settings'.security.keyManagement ∧
    psk.map Text.fromUtf8Lossy = psk'.map Text.fromUtf8Lossy ∧
    settings.security.identity = settings'.security.identity ∧
    settings.bssid = settings'.bssid ∧ settings.hidden = settings'.hidden := by
  obtain ⟨hssid, hmode, hpsk, hidentity, hbssid, hhidden⟩ := lookup_networkConfigDict settings.ssid
    (supplicantKeyMgmt settings.security.keyManagement) psk settings.security.identity
    settings.bssid settings.hidden
  obtain ⟨hssid', hmode', hpsk', hidentity', hbssid', hhidden'⟩ := lookup_networkConfigDict
    settings'.ssid (supplicantKeyMgmt settings'.security.keyManagement) psk'
    settings'.security.identity settings'.bssid settings'.hidden
  have hstr : Function.Injective ConfigValue.str := fun _ _ heq => ConfigValue.str.inj heq
  -- each optional entry is there in both dictionaries or in neither
  have hsame {α : Type} {f : α → ConfigValue} (hf : Function.Injective f) {x y : Option α}
      (key : String) (hx : (settings.networkConfig psk).lookup key = x.map f)
      (hy : (settings'.networkConfig psk').lookup key = y.map f) : x = y :=
    Option.map_injective hf (hx.symm.trans ((h key).trans hy))
  refine ⟨?_, ?_, ?_, ?_, ?_, ?_⟩
  · have hbytes := hssid.symm.trans ((h "ssid").trans hssid')
    simp only [Option.some.injEq, ConfigValue.bytes.injEq] at hbytes
    exact congrArg Ssid.mk hbytes
  · have htext := hmode.symm.trans ((h "key_mgmt").trans hmode')
    simp only [Option.some.injEq, ConfigValue.str.injEq] at htext
    exact supplicantKeyMgmt_injective htext
  · have htext : Function.Injective fun cs => ConfigValue.str (String.ofList cs) :=
      fun _ _ heq => String.ofList_injective (hstr heq)
    refine hsame htext "psk" ?_ ?_ <;> rw [Option.map_map]
    · exact hpsk
    · exact hpsk'
  · exact hsame hstr "identity" hidentity hidentity'
  · refine hsame (fun bssid bssid' heq => ?_) "bssid" hbssid hbssid'
    exact congrArg Bssid.mk (formatMacAddress_injective (hstr heq))
  · have hscan := hhidden.symm.trans ((h "scan_ssid").trans hhidden')
    cases hx : settings.hidden <;> cases hy : settings'.hidden <;> rw [hx, hy] at hscan <;>
      first | rfl | cases hscan

/-- **Configurations.**  An activation that succeeds has sent a dictionary; the dictionaries of two
activations tell their settings and secrets apart, and carry the secrets, exactly when the secrets
are UTF-8. -/
theorem network_config_iff {W W' : Type} (a : WpaActivation W) (b : WpaActivation W') :
    (a.Succeeds → ∃ config, a.Sends config) ∧
    ∀ config config', a.Sends config → b.Sends config' →
      (((∀ key, config.lookup key = config'.lookup key) →
          a.settings.ssid = b.settings.ssid ∧
          a.settings.security.keyManagement = b.settings.security.keyManagement ∧
          a.secret = b.secret ∧
          a.settings.security.identity = b.settings.security.identity ∧
          a.settings.bssid = b.settings.bssid ∧ a.settings.hidden = b.settings.hidden) ∧
        a.CarriesSecret config ∧ b.CarriesSecret config' ↔
      a.HasTextSecret ∧ b.HasTextSecret) := by
  refine ⟨a.recorded_events.2, fun config config' ha hb => ?_⟩
  rw [WpaActivation.carriesSecret_iff ha, WpaActivation.carriesSecret_iff hb]
  refine and_iff_right_of_imp fun ⟨htext, htext'⟩ hsame => ?_
  obtain ⟨rfl, -⟩ := WpaActivation.config_of_sends ha
  obtain ⟨rfl, -⟩ := WpaActivation.config_of_sends hb
  obtain ⟨hssid, hmode, hsecret, hrest⟩ := settings_of_lookup hsame
  refine ⟨hssid, hmode, ?_, hrest⟩
  cases hx : a.secret with
  | none =>
      rw [hx] at hsecret
      exact (Option.map_eq_none_iff.mp hsecret.symm).symm
  | some secret =>
      rw [hx] at hsecret
      obtain ⟨secret', hy, hlossy⟩ := Option.map_eq_some_iff.mp hsecret.symm
      rw [hy, ← Text.osStr_fromUtf8Lossy_iff.mpr (htext secret hx), ← hlossy,
        Text.osStr_fromUtf8Lossy_iff.mpr (htext' secret' hy)]

namespace WpaActivation

/-- A WPA-PSK network named `home`, and a supplicant that completes at once. -/
def home (secret : List UInt8) : WpaActivation Unit where
  bus := {
    ownedPath := fun _ => .ok ()
    getInterface := fun _ => pure ()
    addNetwork := fun _ => pure "Networks/0"
    selectNetwork := fun _ => pure ()
    removeNetwork := fun _ => pure ()
    disconnect := pure ()
    state := pure "completed"
    disconnectReason := pure 0
    patience := fun _ _ => 0 }
  ifname := "wlan0"
  secrets := fun _ => pure (some secret)
  timeout := 30000
  profile := {
    id := "home"
    name := "Home"
    connectionType := .wifi ⟨⟨[0x68, 0x6f, 0x6d, 0x65]⟩, none, false, .psk (.keyring "home")⟩ }
  settings := ⟨⟨[0x68, 0x6f, 0x6d, 0x65]⟩, none, false, .psk (.keyring "home")⟩
  isWifi := rfl
  device := ⟨.wifi, "wlan0", none⟩
  state := { world := () }

/-- The home network sends its configuration with the secret. -/
theorem sends_home (secret : List UInt8) :
    (home secret).Sends ((home secret).settings.networkConfig (some secret)) :=
  List.mem_cons_of_mem _ (List.mem_singleton_self _)

end WpaActivation

open WpaActivation

/-- A passphrase of two letters reaches the supplicant. -/
theorem network_config_iff_home : ∃ config, (home [0x61, 0x62]).Sends config ∧
    (home [0x61, 0x62]).CarriesSecret config := by
  have htext : (home [0x61, 0x62]).HasTextSecret := by
    rintro _ ⟨⟩
    exact ⟨"ab", rfl⟩
  have hsends := sends_home [0x61, 0x62]
  exact ⟨_, hsends, (((network_config_iff _ _).2 _ _ hsends hsends).mpr ⟨htext, htext⟩).2.1⟩

/-- Two secrets that are no text send one dictionary. -/
theorem secrets_confused : ∃ config, (home [0xFF]).Sends config ∧ (home [0xFE]).Sends config ∧
    (home [0xFF]).secret ≠ (home [0xFE]).secret := by
  have hlossy : Text.fromUtf8Lossy [0xFF] = Text.fromUtf8Lossy [0xFE] := by
    rw [Text.fromUtf8Lossy, Text.fromUtf8Lossy]
    rfl
  have hconfig : (home [0xFF]).settings.networkConfig (some [0xFF]) =
      (home [0xFE]).settings.networkConfig (some [0xFE]) := by
    show networkConfigDict _ _ (some [0xFF]) _ _ _ = networkConfigDict _ _ (some [0xFE]) _ _ _
    simp only [networkConfigDict, Option.map_some, hlossy]
    rfl
  exact ⟨_, sends_home [0xFF], hconfig ▸ sends_home [0xFE], by decide⟩

end NetworkManager
