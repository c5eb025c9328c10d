import NetworkManager.Dbus.Facade.Access
import NetworkManager.Dbus.Facade.Engines
import NetworkManager.Dbus.Properties
import NetworkManager.Linux.Activation.Secrets

/-!
# Dbus — Facade — Secrets

Two runs of the facade that differ in secrets only: in what the dictionaries say under the keys of
`802-11-wireless-security` besides `key-mgmt`, and in the bytes that the secret provider returns.

* `settingsToProfile_congr`: the dictionaries give the same profile, or the same error.
* `Shared.secrets_stay_inside`: the runs cannot be told apart from outside the engine.
-/

namespace NetworkManager

open Effects

variable {S E V W W' : Type}

/-! ### Dictionaries -/

/-- The entries have the same key, and differ in secrets only. -/
def SettingsSection.SameEntry (e e' : String × SettingsSection V) : Prop :=
  e.1 = e'.1 ∧ if e.1 = "802-11-wireless-security" then
    List.Forall₂ (fun v v' => v.1 = v'.1 ∧ (v.1 = "key-mgmt" → v.2 = v'.2)) e.2 e'.2
  else e.2 = e'.2

/-- The dictionaries differ in values under keys of `802-11-wireless-security` besides `key-mgmt`
only. -/
def SettingsDict.ButSecrets (dict dict' : SettingsDict V) : Prop :=
  List.Forall₂ SettingsSection.SameEntry dict dict'

namespace SettingsDict.ButSecrets

variable {dict dict' : SettingsDict V}

theorem eq_nil_iff (h : ButSecrets dict dict') : dict = [] ↔ dict' = [] := by
  cases h with
  | nil => exact Iff.rfl
  | cons _ _ => exact iff_of_false (List.cons_ne_nil _ _) (List.cons_ne_nil _ _)

/-- The other sections are the same. -/
theorem lookup_eq (h : ButSecrets dict dict') {key : String}
    (hkey : key ≠ "802-11-wireless-security") : dict.lookup key = dict'.lookup key := by
  induction h with
  | nil => rfl
  | @cons e e' rest rest' hentry _ ih =>
      obtain ⟨k, sec⟩ := e
      obtain ⟨k', sec'⟩ := e'
      obtain ⟨rfl, hsame⟩ : k = k' ∧ _ := hentry
      rw [SettingsSection.lookup_cons, SettingsSection.lookup_cons, ih]
      split
      · next heq =>
          rw [if_neg (heq ▸ hkey)] at hsame
          rw [show sec = sec' from hsame]
      · rfl

/-- The key management is told alike. -/
theorem keyMgmt_eq {sec sec' : SettingsSection V}
    (h : List.Forall₂ (fun v v' => v.1 = v'.1 ∧ (v.1 = "key-mgmt" → v.2 = v'.2)) sec sec') :
    sec.lookup "key-mgmt" = sec'.lookup "key-mgmt" := by
  induction h with
  | nil => rfl
  | @cons v v' rest rest' hvalue _ ih =>
      obtain ⟨k, a⟩ := v
      obtain ⟨k', a'⟩ := v'
      obtain ⟨rfl, hsame⟩ : k = k' ∧ (k = "key-mgmt" → a = a') := hvalue
      rw [SettingsSection.lookup_cons, SettingsSection.lookup_cons, ih]
      split
      · next heq => rw [hsame heq.symm]
      · rfl

/-- So is the key management. -/
theorem keyManagement_eq (h : ButSecrets dict dict') (z : Zvariant V) :
    ((dict.lookup "802-11-wireless-security").bind fun sec => z.getStr sec "key-mgmt") =
      (dict'.lookup "802-11-wireless-security").bind fun sec => z.getStr sec "key-mgmt" := by
  induction h with
  | nil => rfl
  | @cons e e' rest rest' hentry _ ih =>
      obtain ⟨k, sec⟩ := e
      obtain ⟨k', sec'⟩ := e'
      obtain ⟨rfl, hsame⟩ : k = k' ∧ _ := hentry
      rw [SettingsSection.lookup_cons, SettingsSection.lookup_cons]
      split
      · next heq =>
          rw [if_pos heq.symm] at hsame
          show (sec.lookup "key-mgmt").bind z.toStr = (sec'.lookup "key-mgmt").bind z.toStr
          rw [keyMgmt_eq hsame]
      · exact ih

end SettingsDict.ButSecrets

/-- Nothing else of the security section is read. -/
theorem settingsToProfile_congr {dict dict' : SettingsDict V} (h : dict.ButSecrets dict')
    (z : Zvariant V) (ip : IpText) :
    settingsToProfile z ip dict = settingsToProfile z ip dict' := by
  have hconnection : dict.lookup "connection" = dict'.lookup "connection" := h.lookup_eq (by decide)
  have hwifi : dict.lookup "802-11-wireless" = dict'.lookup "802-11-wireless" :=
    h.lookup_eq (by decide)
  -- of the security section only the key management is looked at
  have htyped (typeName id name : String) :
      typedProfile z dict typeName id name = typedProfile z dict' typeName id name := by
    unfold typedProfile
    rw [hwifi, h.keyManagement_eq z]
  have hsection (key : String) (hkey : key ≠ "802-11-wireless-security") (expectV4 : Bool)
      (default : IpConfig) : parseIpSection z ip dict key expectV4 default =
        parseIpSection z ip dict' key expectV4 default := by
    unfold parseIpSection
    rw [h.lookup_eq hkey]
  unfold settingsToProfile
  simp only [hconnection, htyped, hsection "ipv4" (by decide), hsection "ipv6" (by decide)]

/-! ### Calls -/

namespace Method

/-- The dictionary that a method is called with. -/
def settings? : Method V → Option (SettingsDict V)
  | .activateConnection settings _ | .addAndActivateConnection settings _
  | .addAndActivateConnection2 settings _ | .addConnection settings
  | .addConnectionUnsaved settings | .addConnection2 settings | .update _ settings
  | .updateUnsaved _ settings => some settings
  | _ => none

/-- The method, called with another dictionary. -/
def withSettings (settings : SettingsDict V) : Method V → Method V
  | .activateConnection _ device => .activateConnection settings device
  | .addAndActivateConnection _ device => .addAndActivateConnection settings device
  | .addAndActivateConnection2 _ device => .addAndActivateConnection2 settings device
  | .addConnection _ => .addConnection settings
  | .addConnectionUnsaved _ => .addConnectionUnsaved settings
  | .addConnection2 _ => .addConnection2 settings
  | .update profileId _ => .update profileId settings
  | .updateUnsaved profileId _ => .updateUnsaved profileId settings
  | other => other

/-- The methods differ in the secrets of their dictionaries only. -/
def ButSecrets (method method' : Method V) : Prop :=
  ∃ settings', method' = method.withSettings settings' ∧
    ∀ settings, method.settings? = some settings → settings.ButSecrets settings'

/-- A method does the same, whatever the secrets in its dictionary. -/
theorem perform_congr {method method' : Method V} (h : method.ButSecrets method')
    (svc : Services S E V) (env : Environment) (sender : Option String) :
    (method'.perform svc env sender : Handler S E (MethodReply V)) =
      method.perform svc env sender := by
  obtain ⟨settings', rfl, hsettings⟩ := h
  have hprofile (settings : SettingsDict V) (h : settings.ButSecrets settings') :
      svc.profileOf settings' = svc.profileOf settings :=
    (settingsToProfile_congr h svc.zvariant svc.ipText).symm
  have hactivate (settings : SettingsDict V) (device : String)
      (h : settings.ButSecrets settings') :
      RootIface.activate svc env settings' device = RootIface.activate svc env settings device := by
    unfold RootIface.activate
    simp only [hprofile settings h, h.eq_nil_iff]
  -- each method sees its dictionary through the profile that it is parsed to
  cases method with
  | activateConnection settings device =>
      simp only [withSettings, perform, RootIface.activateConnection,
        hactivate settings device (hsettings settings rfl)]
  | addAndActivateConnection settings device | addAndActivateConnection2 settings device =>
      simp only [withSettings, perform, RootIface.addAndActivateConnection,
        RootIface.addAndActivate, hprofile settings (hsettings settings rfl),
        hactivate settings device (hsettings settings rfl)]
  | addConnection settings | addConnectionUnsaved settings | addConnection2 settings =>
      simp only [withSettings, perform, SettingsIface.addConnection,
        SettingsIface.addConnectionUnsaved, SettingsIface.addConnection2,
        SettingsIface.addConnectionWith, hprofile settings (hsettings settings rfl)]
  | update profileId settings | updateUnsaved profileId settings =>
      simp only [withSettings, perform, SettingsConnectionIface.update,
        SettingsConnectionIface.updateInner, hprofile settings (hsettings settings rfl)]
  | _ => rfl

end Method

/-- The calls differ in secrets only; the sender is the same, and so is what answers from
outside. -/
structure MethodCall.ButSecrets (call call' : MethodCall V) : Prop where
  env : call'.env = call.env
  sender : call'.sender = call.sender
  method : call.method.ButSecrets call'.method

/-! ### Runs -/

namespace Shared

/-- What the calls of a run return. -/
def replies (svc : Services S E V) (s : Shared S E) :
    List (MethodCall V) → List (Except FacadeError (MethodReply V))
  | [] => []
  | call :: calls => (settle (call.perform svc) s).1 :: replies svc (step svc s call) calls

variable {R : E → E' → Prop} {svc : Services S E V} {engine : ActivationEngine E'}
  {s : Shared S E} {t : Shared S E'}

/-- A call answers alike and leaves indistinguishable states. -/
theorem step_indist (h : svc.engine.Alike R engine) (hst : Indist R s t)
    {call call' : MethodCall V} (hcall : call.ButSecrets call') :
    (settle (call.perform svc) s).1 = (settle (call'.perform (svc.withEngine engine)) t).1 ∧
      Indist R (step svc s call) (step (svc.withEngine engine) t call') := by
  obtain ⟨env, sender, method⟩ := call
  obtain ⟨env', sender', method'⟩ := call'
  obtain ⟨rfl, rfl, hmethod⟩ := hcall
  have hblind : Blind S R (method.perform svc env' sender')
      (method.perform (svc.withEngine engine) env' sender') := Method.alike h sender' method
  have halike := hblind s t hst
  rw [settle_snd, settle_snd] at halike
  unfold MethodCall.perform step MethodCall.perform
  dsimp only at hmethod ⊢
  rw [Method.perform_congr hmethod]
  exact halike

/-- The same replies, and states that differ in the states of their engines only. -/
theorem run_indist (h : svc.engine.Alike R engine) {calls calls' : List (MethodCall V)}
    (hcalls : List.Forall₂ MethodCall.ButSecrets calls calls') (hst : Indist R s t) :
    replies svc s calls = replies (svc.withEngine engine) t calls' ∧
      Indist R (run svc s calls) (run (svc.withEngine engine) t calls') := by
  induction hcalls generalizing s t with
  | nil => exact ⟨rfl, hst⟩
  | @cons call call' calls calls' hcall _ ih =>
      obtain ⟨hreply, hnext⟩ := step_indist h hst hcall
      obtain ⟨hreplies, hend⟩ := ih hnext
      exact ⟨by rw [replies, replies, hreply, hreplies], hend⟩

/-- Everything but the state of the engine. -/
theorem Indist.withEngine_eq (h : Indist R s t) : s.withEngine () = t.withEngine () := by
  obtain ⟨e, -, rfl⟩ := h
  rfl

/-- No property shows the engine. -/
theorem Indist.get_eq (h : Indist R s t) (env : Environment) (p : Property) :
    p.get svc env s = p.get (svc.withEngine engine) env t := by
  obtain ⟨e, -, rfl⟩ := h
  cases p <;> rfl

/-- **Secrets stay inside.**  Runs that differ in secrets only return the same, show the same
properties, and differ in the states of their engines only: in neither the signals, the pending
events, nor the stored profiles. -/
theorem secrets_stay_inside (z : Zvariant V) (ip : IpText) (store : ProfileStoreOps S)
    (engine : LinuxActivationEngine W) (engine' : LinuxActivationEngine W') (R : W → W' → Prop)
    (hengine : engine.Blind R engine') (calls calls' : List (MethodCall V))
    (hcalls : List.Forall₂ MethodCall.ButSecrets calls calls')
    (s : Shared S (LinuxActivationState W)) (t : Shared S (LinuxActivationState W'))
    (hst : Indist (LinuxActivationState.Rel R) s t) :
    let svc : Services S (LinuxActivationState W) V := ⟨z, ip, store, engine.activationEngine⟩
    let svc' : Services S (LinuxActivationState W') V := ⟨z, ip, store, engine'.activationEngine⟩
    replies svc s calls = replies svc' t calls' ∧
      (run svc s calls).withEngine () = (run svc' t calls').withEngine () ∧
      ∀ env p, Property.get svc env (run svc s calls) p =
        Property.get svc' env (run svc' t calls') p := by
  intro svc svc'
  have halike : svc.engine.Alike (LinuxActivationState.Rel R) engine'.activationEngine :=
    ⟨LinuxActivationEngine.activate_alike hengine, LinuxActivationEngine.deactivate_alike hengine⟩
  obtain ⟨hreplies, hend⟩ := run_indist halike hcalls hst
  exact ⟨hreplies, hend.withEngine_eq, fun env p => hend.get_eq env p⟩

end Shared

namespace Sample

/-- The passphrases that a supplicant was given. -/
abbrev Given := List (Option (List UInt8))

/-- A supplicant on `wlan0` that takes every network and keeps the passphrases. -/
def keeper : SupplicantControl Given where
  ifname := "wlan0"
  addNetwork := fun _ _ psk _ _ _ => do
    modify fun given => given ++ [psk]
    return "Networks/1"
  selectNetwork := fun _ => return
  removeNetwork := fun _ => return
  disconnect := return
  waitForCompleted := fun _ => return

/-- An engine whose secret provider knows this passphrase; the wireless link has the index 3. -/
def knowing (passphrase : List UInt8) : LinuxActivationEngine Given where
  supplicant := { control := keeper, secrets := fun _ => return some passphrase }
  ip := {
    ip := ⟨fun _ _ => return, fun _ _ => return, fun _ _ => return, fun _ _ => return,
      fun _ => return, fun _ => return⟩
    dhcp := ⟨fun request => throw (.timeout request.interfaceName), fun _ => return⟩
    dns := ⟨fun owner _ => return ⟨owner, "/etc/resolv.conf"⟩, fun _ => return⟩
    getAddresses := return [] }
  getLinks := return [⟨3, "wlan0", 1⟩]

/-- Engines that know different passphrases cannot be told apart. -/
theorem knowing_blind (passphrase passphrase' : List UInt8) :
    (knowing passphrase).Blind (fun given given' => given.map Option.isSome =
      given'.map Option.isSome) (knowing passphrase') where
  supplicant := {
    control := {
      ifname := rfl
      addNetwork := fun _ _ psk psk' _ _ _ hpsk =>
        (Alike.modify fun given given' h => by simp [h, hpsk]).bind fun _ => .pure _
      selectNetwork := fun _ => .pure _
      removeNetwork := fun _ => .pure _
      disconnect := .pure _
      waitForCompleted := fun _ => .pure _ }
    secrets := fun _ => .pure true
    timeout := rfl }
  ip := {
    configureIpv4 := fun _ _ => .pure _
    removeIpv4 := fun _ _ => .pure _
    configureIpv6 := fun _ _ => .pure _
    removeIpv6 := fun _ _ => .pure _
    addRoute := fun _ => .pure _
    removeRoute := fun _ => .pure _
    acquire := fun _ => .throw _
    release := fun _ => .pure _
    apply := fun _ _ => .pure _
    remove := fun _ => .pure _
    getAddresses := .pure _ }
  getLinks := .pure _

/-- A wireless network with this passphrase. -/
def cafeDict (passphrase : String) : SettingsDict Value :=
  [("connection", [("id", .str "cafe"), ("type", .str "802-11-wireless")]),
    ("802-11-wireless", [("ssid", .array [.u8 0x63])]),
    ("802-11-wireless-security", [("key-mgmt", .str "wpa-psk"), ("psk", .str passphrase)]),
    ("ipv4", [("method", .str "disabled")])]

/-- The call that adds the network and activates it on the link. -/
def addCafe (passphrase : String) : MethodCall Value :=
  ⟨environment allowAllAuthorization, some ":1.7",
    .addAndActivateConnection (cafeDict passphrase) (devicePath 3)⟩

/-- The two calls differ in the passphrase only. -/
theorem addCafe_butSecrets (passphrase passphrase' : String) :
    (addCafe passphrase).ButSecrets (addCafe passphrase') where
  env := rfl
  sender := rfl
  method := by
    refine ⟨cafeDict passphrase', rfl, ?_⟩
    rintro settings ⟨⟩
    refine .cons ⟨rfl, rfl⟩ (.cons ⟨rfl, rfl⟩ (.cons ⟨rfl, ?_⟩ (.cons ⟨rfl, rfl⟩ .nil)))
    exact .cons ⟨rfl, fun _ => rfl⟩ (.cons ⟨rfl, fun h => absurd h (by simp)⟩ .nil)

end Sample

namespace Shared

/-- The profile of a Wi-Fi network is added with either passphrase. -/
theorem secrets_stay_inside_cafe :
    let svc (passphrase : List UInt8) :
        Services InMemoryProfileStore (LinuxActivationState Sample.Given) Value :=
      ⟨dbus, fullText, InMemoryProfileStore.ops, (Sample.knowing passphrase).activationEngine⟩
    let s : Shared InMemoryProfileStore (LinuxActivationState Sample.Given) :=
      { daemon := .withComponents ∅ (.new []) }
    replies (svc [0x61]) s [Sample.addCafe "hunter2"] =
      replies (svc [0x62, 0x63]) s [Sample.addCafe "hunter3"] :=
  (secrets_stay_inside dbus fullText InMemoryProfileStore.ops (Sample.knowing [0x61])
    (Sample.knowing [0x62, 0x63]) _ (Sample.knowing_blind _ _) [Sample.addCafe "hunter2"]
    [Sample.addCafe "hunter3"] (.cons (Sample.addCafe_butSecrets _ _) .nil) _ _
    ⟨_, ⟨⟨rfl, rfl⟩, rfl⟩, rfl⟩).1

end Shared

end NetworkManager
