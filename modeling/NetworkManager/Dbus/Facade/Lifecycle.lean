import NetworkManager.Connection.FileStore
import NetworkManager.Dbus.Facade.Moves
import NetworkManager.Dbus.Facade.Reports
import NetworkManager.Linux.Activation.Lifecycle

/-!
# Dbus — Facade — Lifecycle

The facade over the store of profile files and the Linux engine on its machine.  `bin/nmd.rs` runs
these two without the facade; to put them behind `DbusFacade::attach` is left to who embeds the
crate, and `linuxServices` is that composition.  The callers, the policy backend, the bus library,
the files and the supplicant answer as they like, and so do the DHCP server and the kernel, except
that they never refuse to take back what is there (`Env`).

`Shared.no_residue_of_run`: of everything that the daemon ever put on the host, nothing is there
while no connection is up, and nothing is left once the one that is up is taken down.
-/

namespace NetworkManager

open Transactions Effects Shared ActivationManager

/-- The store answers with valid profiles only, whatever state it is in. -/
def ProfileStoreOps.Vouches {S : Type} (ops : ProfileStoreOps S) : Prop :=
  ∀ s id profile, (ops.view s).get id = .ok profile → profile.validate = .ok ()

/-- A profile that is read is valid. -/
theorem parseProfile_valid {toml : Toml} {id : ProfileId} {contents : String}
    {profile : ConnectionProfile} (h : parseProfile toml id contents = .ok profile) :
    profile.validate = .ok () := by
  unfold parseProfile at h
  cases hread : toml.fromStr contents with
  | error reason =>
      rw [hread] at h
      cases h
  | ok read =>
      rw [hread] at h
      dsimp only at h
      split at h
      · cases h
      · cases hvalid : read.validate with
        | error err =>
            rw [hvalid] at h
            cases h
        | ok u =>
            rw [hvalid] at h
            cases h
            exact hvalid

/-- The files may hold anything: what is read is validated. -/
theorem FileProfileStore.vouches {D : Type} (store : FileProfileStore D) : store.ops.Vouches := by
  intro s id profile hget
  have hrun : store.get id s = .ok profile (settle (store.get id) s).2 :=
    ok_of_settle (Prod.ext hget rfl)
  rw [FileProfileStore.get, get_bind] at hrun
  split at hrun
  · obtain ⟨contents, s', -, hparse⟩ := bind_eq_ok.mp hrun
    exact parseProfile_valid (ofExcept_eq_ok.mp hparse).1
  · cases hrun

/-- The file store and the Linux engine as the services behind the facade. -/
def linuxServices {D U V : Type} (z : Zvariant V) (ip : IpText) (store : FileProfileStore D)
    (machinery : Machinery U) : Services D (LinuxActivationState (Machine U)) V :=
  ⟨z, ip, store.ops, machinery.engine.activationEngine⟩

section

variable {S U V : Type} {machinery : Machinery U}
  {svc : Services S (LinuxActivationState (Machine U)) V} {env : Environment}
  {P : Host → List Item → Prop}

/-- What is settled before is settled after. -/
def Shared.Preserves (P : Host → List Item → Prop)
    (s t : Shared S (LinuxActivationState (Machine U))) : Prop :=
  s.daemon.activation.engine.Settles P → t.daemon.activation.engine.Settles P

instance : Std.Refl (Shared.Preserves (S := S) (U := U) P) := ⟨fun _ h => h⟩

instance : IsTrans (Shared S (LinuxActivationState (Machine U))) (Shared.Preserves P) :=
  ⟨fun _ _ _ h h' hs => h' (h hs)⟩

/-- What keeps the daemon keeps the host clean. -/
theorem preserves_of_domain {s t : Shared S (LinuxActivationState (Machine U))}
    (h : Same domain s t) : s.Preserves P t := by
  have hdaemon : t.daemon = s.daemon := congrArg Prod.fst h
  rw [Shared.Preserves, hdaemon]
  exact id

/-- Mirroring the events keeps the host clean. -/
theorem emitConnectionEvents_preserves : Keeps (Shared.Preserves (S := S) (U := U) P)
    (emitConnectionEvents env) := by
  refine Keeps.bind (fun s => ?_) fun events => ?_
  · have hdrain : onManager Daemon.connectionEvents s = .ok s.daemon.activation.events
      (s.withActivation { s.daemon.activation with events := [] }) := onManager_of_ok rfl
    rw [after_of_ok hdrain]
    exact id
  · refine .mono (fun _ _ => preserves_of_domain) (Keeps.bind ?_ fun _ => ?_)
    · exact .foldlM (mirrorEvent_keeps env) ∅ events
    · exact emitRootStateIfChanged_keeps env

/-- The devices of the backend have plain names. -/
def Environment.Plain (env : Environment) : Prop :=
  ∀ index view, env.backend.deviceView index = .ok view → view.toDeviceInfo.Plain

/-- The devices at the paths have plain names. -/
theorem plain_of_deviceInfo (hplain : env.Plain) {device : String} {info : DeviceInfo}
    (h : RootIface.deviceInfo env device = .ok info) : info.Plain := by
  obtain ⟨index, -, h⟩ := Results.bind_eq_ok.mp h
  obtain ⟨view, hview, ⟨⟩⟩ := Results.bind_eq_ok.mp h
  exact hplain _ view hview

/-- A profile that is offered comes from the store. -/
theorem Operation.Offers.get {op : Operation} {store : ProfileStore} {profile : ConnectionProfile}
    {info : DeviceInfo} (h : op.Offers profile info) (huses : op.Uses store) :
    ∃ id, store.get id = .ok profile := by
  cases op with
  | activate store' device | activateProfile store' id device =>
      obtain rfl : store' = store := huses
      exact h.2.2
  | deactivate id | drainEvents => exact h.elim

/-- The move of a call of the facade keeps what is settled. -/
theorem preserves_of_moves (hengine : svc.engine = machinery.engine.activationEngine)
    {op : Operation} {r : Except ActivationError Reply}
    {s : Shared S (LinuxActivationState (Machine U))}
    {m : ActivationManager (LinuxActivationState (Machine U))}
    (hmove : Moves svc.engine s.daemon.activation op r m)
    (hfit : ∀ profile info, op.Offers profile info → machinery.Fit P profile info) :
    s.Preserves P (s.withActivation m) := fun h => by
  rw [hengine] at hmove
  exact machinery.moves_settles hmove hfit h

/-- The steps of the handlers keep what is settled. -/
theorem managed_preserves (hengine : svc.engine = machinery.engine.activationEngine)
    (hstore : svc.store.Vouches) (hplain : env.Plain)
    (hclosed : ∀ profile info, profile.validate = .ok () → info.Plain →
      machinery.Closed P profile info) :
    Managed svc env (Shared.Preserves (S := S) (U := U) P) where
  asked _ _ h := h
  stored _ _ h := h
  connected _ _ h := h
  requested r _ := .mono (fun _ _ h => preserves_of_domain (domain_of_core h)) (request_keeps env r)
  activated settings device s := by
    obtain ⟨err, h⟩ | ⟨op, huses, hdevice, hanswer⟩ := activate_moves svc env settings device s
    · rw [after_of_error h]
      exact id
    · have hfit : ∀ profile info, op.Offers profile info → machinery.Fit P profile info := by
        intro profile info hoffers
        obtain ⟨id, hget⟩ := hoffers.get huses
        -- what is offered comes from the store, which vouches for it, and a device of the backend
        have hvalid := hstore _ id profile hget
        have hinfo : info.Plain := by
          have hsome := hoffers.device_eq.symm.trans hdevice
          cases hdeviceInfo : RootIface.deviceInfo env device with
          | error err =>
              rw [hdeviceInfo] at hsome
              cases hsome
          | ok found =>
              rw [hdeviceInfo] at hsome
              cases hsome
              exact plain_of_deviceInfo hplain hdeviceInfo
        exact ⟨IpRequest.valid_of hvalid hinfo, hclosed profile info hvalid hinfo⟩
      obtain ⟨a, m, hmove, h⟩ | ⟨err, m, hmove, h⟩ := hanswer
      · rw [after_of_ok h]
        exact preserves_of_moves hengine hmove hfit
      · rw [after_of_error h]
        exact preserves_of_moves hengine hmove hfit
  announced active := by
    refine Keeps.bind ?_ fun _ => Keeps.bind ?_ fun _ => Keeps.bind ?_ fun _ => .pure _
    · exact .mono (fun _ _ => preserves_of_domain)
        (registerActiveConnectionObject_keeps env _).adaptExcept
    · exact .mono (fun _ _ => preserves_of_domain) (emit_domain env _)
    · exact emitConnectionEvents_preserves
  deactivated id s := by
    -- a deactivation offers nothing
    have hfit : ∀ profile info, (Operation.deactivate id).Offers profile info →
        machinery.Fit P profile info := fun _ _ hoffers => hoffers.elim
    have hperform : (Operation.deactivate id).perform svc.engine =
        (fun _ => .done) <$> ActivationManager.deactivate svc.engine id :=
      (map_eq_pure_bind ..).symm
    obtain ⟨u, m, hmove, h⟩ | ⟨err, m, hmove, h⟩ := onManager_moves hperform s
    · have hmanager : onManager (Daemon.deactivate svc.engine id) s = .ok u (s.withActivation m) := h
      rw [after_of_ok hmanager]
      exact preserves_of_moves hengine hmove hfit
    · have hmanager : onManager (Daemon.deactivate svc.engine id) s =
        .error _ (s.withActivation m) := h
      rw [after_of_error hmanager]
      exact preserves_of_moves hengine hmove hfit
  mirrored := emitConnectionEvents_preserves

end

namespace Sample

/-- A disk on which every file holds the one profile. -/
def cafeFiles : FileProfileStore Unit where
  fs := {
    isFile := fun _ _ => true
    readToString := fun _ => pure "cafe"
    write := fun _ _ => pure ()
    removeFile := fun _ => pure ()
    readDir := fun _ => pure [] }
  toml := { toString := fun _ => .ok "cafe", fromStr := fun _ => .ok cafe }
  directory := Paths.osStr "/var/lib/nmd"

/-- One wireless interface with index 3. -/
def wirelessBackend : NetworkBackend := ⟨.ok [], .ok [⟨3, "wlan0", none, true⟩], .ok []⟩

/-- The call that activates the profile on the wireless device. -/
def activateCafe : MethodCall Value :=
  ⟨⟨wirelessBackend, allowAllAuthorization, fun _ => .ok ()⟩, some ":1.7",
    .activateConnection [("connection", [("id", .str "cafe")])] (devicePath 3)⟩

/-- The call is about a device with a plain name. -/
theorem plain_activateCafe : activateCafe.env.Plain := by
  intro index view hview
  have hdevices : wirelessBackend.enumerateDevices = .ok [⟨3, "wlan0", .wifi, none, true⟩] :=
    congrArg Except.ok (List.mergeSort_singleton _)
  obtain ⟨devices, hall, hfind⟩ := Results.bind_eq_ok.mp hview
  obtain rfl := Except.ok.inj (hdevices.symm.trans hall)
  have hmem := List.mem_of_find?_eq_some (Results.okOr_eq_ok.mp hfind)
  obtain rfl := List.mem_singleton.mp hmem
  exact plain_wlan0

end Sample

end NetworkManager
