import NetworkManager.Dbus.Facade.DeviceStates
import NetworkManager.Dbus.Facade.References

/-!
# Dbus — Facade — StateChanges

The `StateChanged` signals of a device.  Those that mirror the events of the manager start where the
one before them ended (`Tells`); the one that `Device.Delete` emits has its arguments in another
order, and a state as its reason.

* `Shared.device_states_chain_iff`: the runs in which the signals of every device form a chain.
-/

namespace NetworkManager

open Effects Shared ActivationManager

variable {S E V : Type}

/-- The arguments of a `StateChanged` signal. -/
structure StateChange where
  state : UInt32
  reason : UInt32
  prevState : UInt32
  deriving DecidableEq

namespace StateChange

/-- The changes lead from `first` to `last`: each starts where the one before it ended, goes
somewhere else and has no reason. -/
def Leads (first last : UInt32) : List StateChange → Prop
  | [] => first = last
  | c :: rest => c.prevState = first ∧ c.state ≠ c.prevState ∧ c.reason = 0 ∧ Leads c.state last rest

/-- The changes are a chain that starts at `first`. -/
def Chained (first : UInt32) (changes : List StateChange) : Prop :=
  ∃ last, Leads first last changes

/-- Chains that meet are one chain. -/
theorem Leads.append {first middle last : UInt32} {changes later : List StateChange}
    (h : Leads first middle changes) (h' : Leads middle last later) :
    Leads first last (changes ++ later) := by
  induction changes generalizing first with
  | nil =>
      obtain rfl : first = middle := h
      exact h'
  | cons c changes ih =>
      obtain ⟨hprev, hstate, hreason, hrest⟩ := h
      exact ⟨hprev, hstate, hreason, ih hrest⟩

/-- No change of a chain has a reason. -/
theorem Leads.reason_eq {first last : UInt32} {changes : List StateChange}
    (h : Leads first last changes) : ∀ c ∈ changes, c.reason = 0 := by
  induction changes generalizing first with
  | nil => simp
  | cons c changes ih =>
      obtain ⟨-, -, hreason, hrest⟩ := h
      exact List.forall_mem_cons.mpr ⟨hreason, ih hrest⟩

end StateChange

/-! ### What is told of a device -/

/-- The change that a signal tells of the device at `index`. -/
def Signal.stateChange? (index : Int32) : Signal → Option StateChange
  | .deviceStateChanged i state reason prevState =>
    if i = index then some ⟨state, reason, prevState⟩ else none
  | _ => none

namespace Shared

/-- The changes that the bus was told of the device at `index`, in order. -/
def told (index : Int32) (s : Shared S E) : List StateChange :=
  s.signals.filterMap (Signal.stateChange? index)

/-- The state that is recorded for the device at `index`. -/
def recorded (index : Int32) (s : Shared S E) : UInt32 :=
  (s.deviceStates.lookup index).getD nmDeviceStateUnknown

/-- What is told of a device leads from the state recorded before to the one recorded after. -/
def Tells (index : Int32) (s t : Shared S E) : Prop :=
  ∃ changes, t.told index = s.told index ++ changes ∧
    StateChange.Leads (s.recorded index) (t.recorded index) changes

/-- The signals and the recorded states. -/
def notices (s : Shared S E) : List Signal × DeviceStates := (s.signals, s.deviceStates)

end Shared

instance (index : Int32) : Std.Refl (Tells (S := S) (E := E) index) :=
  ⟨fun _ => ⟨[], (List.append_nil _).symm, rfl⟩⟩

instance (index : Int32) : IsTrans (Shared S E) (Tells index) := ⟨fun s t u h h' => by
  obtain ⟨changes, htold, hleads⟩ := h
  obtain ⟨later, htold', hleads'⟩ := h'
  exact ⟨changes ++ later, by rw [htold', htold, List.append_assoc], hleads.append hleads'⟩⟩

/-- The bus library takes the `StateChanged` signals of the devices. -/
def Environment.TakesStates (env : Environment) : Prop :=
  ∀ index state reason prevState,
    env.bus (.emit (.deviceStateChanged index state reason prevState)) = .ok ()

section

variable {env : Environment} {s t : Shared S E} {index : Int32}

/-- What tells nothing new tells of no device. -/
theorem tells_of_notices (h : Same notices s t) : s.Tells index t := by
  obtain ⟨hsignals, hstates⟩ : t.signals = s.signals ∧ t.deviceStates = s.deviceStates := by
    simpa only [Same, notices, Prod.mk.injEq] using h
  exact ⟨[], by rw [told, hsignals, List.append_nil, told], by rw [recorded, recorded, hstates]; rfl⟩

/-- A signal that the bus library takes. -/
theorem request_of_ok {signal : Signal} (h : env.bus (.emit signal) = .ok ()) (s : Shared S E) :
    request env (.emit signal) s = .ok () { s with signals := s.signals ++ [signal] } := by
  rw [request, h]
  rfl

/-- A request that is not a signal of a device tells of none. -/
theorem request_tells (r : BusRequest)
    (h : ∀ index state reason prev, r ≠ .emit (.deviceStateChanged index state reason prev)) :
    Keeps (Tells (S := S) (E := E) index) (request env r) := by
  refine (Keeps.ofExcept _).bind fun _ => ?_
  cases r with
  | emit signal =>
      refine .modify fun s => ⟨[], ?_, rfl⟩
      have hnone : Signal.stateChange? index signal = none := by
        cases signal with
        | deviceStateChanged i state reason prev => exact absurd rfl (h i state reason prev)
        | _ => rfl
      rw [told, List.filterMap_append, List.filterMap_cons_none hnone]
      rfl
  | register path | unregister path | ownedPath path => exact .pure _

/-- What is asked or stored tells of no device. -/
theorem steady_tells (env : Environment) (index : Int32) :
    Steady env (Tells (S := S) (E := E) index) where
  asked _ _ := tells_of_notices rfl
  stored _ _ := tells_of_notices rfl
  connected _ _ := tells_of_notices rfl
  requested := request_tells

/-- The state that is recorded is told, unless it is recorded already. -/
theorem emitDeviceState_tells (htakes : env.TakesStates) (device : Int32) (newState : UInt32) :
    Keeps (Tells (S := S) (E := E) index) (emitDeviceState env device newState) := by
  intro s
  let previous := s.recorded device
  by_cases hsame : previous = newState
  · have hstill : emitDeviceState env device newState s = .ok () s := by
      rw [emitDeviceState, get_bind, if_pos (show (s.deviceStates.lookup device).getD _ = _ from hsame)]
      rfl
    rw [after_of_ok hstill]
    exact Std.Refl.refl s
  · let u : Shared S E := { s with
      deviceStates := s.deviceStates.insert device newState
      signals := s.signals ++ [.deviceStateChanged device newState 0 previous] }
    have hemit : emitDeviceState env device newState s =
        emit env (.devicePropertiesChanged device newState) u := by
      rw [emitDeviceState, get_bind,
        if_neg (show ¬ (s.deviceStates.lookup device).getD _ = _ from hsame), modify_bind]
      exact bind_of_ok (adaptExcept_of_ok (request_of_ok (htakes ..) _))
    rw [after_congr hemit]
    refine IsTrans.trans s u _ ?_ ((steady_tells env index).emit (by simp) u)
    by_cases hindex : device = index
    · subst hindex
      refine ⟨[⟨newState, 0, previous⟩], ?_, rfl, fun heq => hsame heq.symm, rfl, ?_⟩
      · simp [u, told, Signal.stateChange?]
      · simp [u, StateChange.Leads, recorded]
    · refine ⟨[], ?_, ?_⟩
      · simp [u, told, Signal.stateChange?, hindex]
      · simp [u, StateChange.Leads, recorded, AList.lookup_insert_ne (Ne.symm hindex)]

/-- Mirroring an event adds to the chain. -/
theorem mirrorEvent_tells (htakes : env.TakesStates) (deviceByActive : DeviceByActive)
    (event : ConnectionEvent) :
    Keeps (Tells (S := S) (E := E) index) (mirrorEvent env deviceByActive event) := by
  have hsteady := steady_tells (S := S) (E := E) env index
  cases event with
  | stateChanged activeId profileId previous current =>
      refine (hsteady.emit (by simp)).bind fun _ => .get_bind fun s => ?_
      dsimp only
      split
      · exact .pure _
      · exact (emitDeviceState_tells htakes _ _).bind fun _ => .pure _
  | deactivated activeId profileId =>
      have hunregister : Keeps (Tells (S := S) (E := E) index)
          (unregisterActiveConnection env activeId) :=
        Keeps.bind (.forM fun _ _ => (hsteady.requested _ (by simp)).attempt.bind fun _ => .pure _)
          fun _ => .modify fun _ => tells_of_notices rfl
      refine hunregister.bind fun _ => (hsteady.emit (by simp)).bind fun _ => ?_
      split
      · exact .pure _
      · exact (emitDeviceState_tells htakes _ _).bind fun _ => .pure _
  | activated activeId profileId | failed activeId profileId reason => exact .pure _

/-- The manager tells nothing itself. -/
theorem onManager_tells {α : Type} (x : EStateM ActivationError (Daemon S E) α) :
    Keeps (Tells index) (onManager x) := fun s => by
  rw [onManager, after_adaptExcept, onDaemon, after_zoom]
  exact tells_of_notices rfl

/-- Mirroring the events adds to the chain. -/
theorem emitConnectionEvents_tells (htakes : env.TakesStates) :
    Keeps (Tells (S := S) (E := E) index) (emitConnectionEvents env) := by
  refine (onManager_tells _).bind fun events =>
    (Keeps.foldlM (mirrorEvent_tells htakes) ∅ events).bind fun _ => .get_bind fun s => ?_
  dsimp only
  split
  · exact .pure _
  · exact Keeps.bind (.modify fun _ => tells_of_notices rfl) fun _ =>
      (steady_tells env index).emit (by simp)

/-- The handlers tell of devices only by mirroring. -/
theorem managed_tells (svc : Services S E V) (htakes : env.TakesStates) (index : Int32) :
    Managed svc env (Tells (S := S) (E := E) index) where
  toSteady := steady_tells env index
  activated settings device := by
    refine (Keeps.ofExcept _).bind fun info => ?_
    split
    · exact onManager_tells _
    · exact (Keeps.ofExcept _).bind fun profile => onManager_tells _
  announced active := by
    have hsteady := steady_tells (S := S) (E := E) env index
    have hregister : Keeps (Tells (S := S) (E := E) index)
        (registerActiveConnectionObject env active) :=
      (hsteady.register _).bind fun _ => .modify fun _ => tells_of_notices rfl
    exact hregister.adaptExcept.bind fun _ => (hsteady.emit (by simp)).bind fun _ =>
      (emitConnectionEvents_tells htakes).bind fun _ => .pure _
  deactivated _ := onManager_tells _
  mirrored := emitConnectionEvents_tells htakes

end

/-! ### The signal of `Device.Delete` -/

/-- The call deletes the profile of a device's connection, up to the signal at the end: the caller
may modify settings, the device has a connection, and neither the store nor the bus refuses. -/
def MethodCall.Deletes (svc : Services S E V) (s : Shared S E) (call : MethodCall V) : Prop :=
  ∃ index a profiles, call.method = .deviceDelete index ∧
    call.env.authorization (.fromSender call.sender) actionSettingsModifySystem = .ok .yes ∧
    DeviceIface.active call.env index s = .ok (some a) ∧
    svc.store.delete a.profile.id s.daemon.profiles = .ok () profiles ∧
    ∀ path ∈ s.connections.lookup a.profile.id, call.env.bus (.unregister path) = .ok ()

section

variable {svc : Services S E V} {env : Environment} {s : Shared S E}

/-- Unregistering succeeds if the bus takes it, and changes the registry either way. -/
theorem unregisterConnection_cases (env : Environment) (profileId : ProfileId) (s : Shared S E) :
    (∃ t, unregisterConnection env profileId s = .ok () t ∧
      ∀ path ∈ s.connections.lookup profileId, env.bus (.unregister path) = .ok ()) ∨
    ∃ err t, unregisterConnection env profileId s = .error err t ∧
      ¬ ∀ path ∈ s.connections.lookup profileId, env.bus (.unregister path) = .ok () := by
  rw [unregisterConnection, get_bind]
  cases hlookup : s.connections.lookup profileId with
  | none => exact .inl ⟨s, rfl, by simp⟩
  | some path =>
      have hpath : ∀ p ∈ some path, p = path := fun p hp => (Option.mem_some.mp hp).symm
      cases hbus : env.bus (.unregister path) with
      | ok u =>
          refine .inl ⟨s.withConnections (s.connections.erase profileId), ?_, fun p hp => ?_⟩
          · refine adaptExcept_of_ok ?_
            rw [request, hbus]
            rfl
          · rw [hpath p hp, hbus]
      | error err =>
          refine .inr ⟨.internal ("failed to unregister " ++ path ++ ": " ++ err),
            s.withConnections (s.connections.erase profileId), ?_, fun hall => ?_⟩
          · refine adaptExcept_of_error (e := err) ?_
            rw [request, hbus]
            rfl
          · have hok := hall path rfl
            rw [hbus] at hok
            cases hok

/-- `Device.Delete` emits its signal, or fails before it. -/
theorem deviceDelete_tells (svc : Services S E V) (htakes : env.TakesStates) (index : Int32)
    (sender : Option String) (s : Shared S E) :
    let t := after (DeviceIface.delete svc env index sender) s
    let call : MethodCall V := ⟨env, sender, .deviceDelete index⟩
    (call.Deletes svc s ∧ ∃ signals, t.signals = signals ++ [DeviceIface.deletedSignal index]) ∨
    ¬ call.Deletes svc s ∧ ∀ i, s.Tells i t := by
  intro t call
  -- the branches follow the handler: permission, active connection, store, bus
  by_cases hyes : (env.check sender actionSettingsModifySystem).answer = .ok .yes
  · let s' := s.asked [env.check sender actionSettingsModifySystem]
    obtain ⟨a, hactive, hrequire⟩ | ⟨hnone, err, hrequire⟩ := requireActive_cases env index s'
    -- the profile deleted is that of the active connection of this device, and of no other
    · have hown : ∀ {i b}, call.method = .deviceDelete i →
          DeviceIface.active call.env i s = .ok (some b) → b = a := by
        rintro i b ⟨⟩ hb
        exact Option.some.inj (Except.ok.inj (hb.symm.trans hactive))
      have ht : t = after (do
          onStore (Daemon.deleteProfile svc.store a.profile.id)
          unregisterConnection env a.profile.id
          emit env (DeviceIface.deletedSignal index) : Handler S E Unit) s' :=
        (after_bind_of_ok (authorize_of_yes s hyes)).trans (after_bind_of_ok hrequire)
      cases hdelete : svc.store.delete a.profile.id s.daemon.profiles with
      | error err profiles =>
          have hstore : onStore (Daemon.deleteProfile svc.store a.profile.id) s' =
            .error _ (s'.withProfiles profiles) := onStore_of_error hdelete
          refine .inr ⟨?_, fun i => ?_⟩
          · rintro ⟨i, b, profiles', hmethod, -, hb, hdelete', -⟩
            rw [hown hmethod hb, hdelete] at hdelete'
            cases hdelete'
          · rw [ht, after_of_error (bind_of_error hstore)]
            exact tells_of_notices rfl
      | ok u profiles =>
          have hstore : onStore (Daemon.deleteProfile svc.store a.profile.id) s' =
            .ok () (s'.withProfiles profiles) := onStore_of_ok hdelete
          rw [after_bind_of_ok hstore] at ht
          obtain ⟨t', hunregister, hbus⟩ | ⟨err, t', hunregister, hbus⟩ :=
            unregisterConnection_cases env a.profile.id (s'.withProfiles profiles)
          · refine .inl ⟨⟨index, a, profiles, rfl, hyes, hactive, hdelete, hbus⟩, t'.signals, ?_⟩
            have hemit : emit env (DeviceIface.deletedSignal index) t' = _ :=
              adaptExcept_of_ok (request_of_ok (htakes ..) t')
            rw [ht, after_bind_of_ok hunregister, after_of_ok hemit]
            rfl
          · refine .inr ⟨?_, fun i => ?_⟩
            · rintro ⟨i, b, profiles', hmethod, -, hb, -, hbus'⟩
              rw [hown hmethod hb] at hbus'
              exact hbus hbus'
            · rw [ht, after_of_error (bind_of_error hunregister)]
              exact IsTrans.trans s (s'.withProfiles profiles) t' (tells_of_notices rfl)
                (((steady_tells env i).unregisterConnection _).of_error hunregister)
    · have ht : t = s' := by
        refine (after_bind_of_ok (authorize_of_yes s hyes)).trans ?_
        exact after_of_error (bind_of_error hrequire)
      refine .inr ⟨?_, fun i => ?_⟩
      · rintro ⟨i, a, profiles, ⟨⟩, -, hactive, -⟩
        have hsame : DeviceIface.active env index s' = .ok (some a) := hactive
        rw [hsame] at hnone
        cases hnone
      · rw [ht]
        exact tells_of_notices rfl
  · have ht : t = s.asked [env.check sender actionSettingsModifySystem] :=
      after_of_error (bind_of_error (authorize_of_denial s hyes))
    refine .inr ⟨?_, fun i => ?_⟩
    · rintro ⟨i, a, profiles, -, hyes', -⟩
      exact hyes hyes'
    · rw [ht]
      exact tells_of_notices rfl

/-- **A call breaks the chain exactly if** it deletes the profile of a device's connection. -/
theorem step_tells (svc : Services S E V) (call : MethodCall V) (htakes : call.env.TakesStates)
    (s : Shared S E) :
    (call.Deletes svc s ∧ ∃ index signals,
      (step svc s call).signals = signals ++ [DeviceIface.deletedSignal index]) ∨
    ¬ call.Deletes svc s ∧ ∀ i, s.Tells i (step svc s call) := by
  obtain ⟨env, sender, m⟩ := call
  by_cases hdelete : ∃ index, m = .deviceDelete index
  · obtain ⟨index, rfl⟩ := hdelete
    have hstep : step svc s ⟨env, sender, .deviceDelete index⟩ =
      after (DeviceIface.delete svc env index sender) s := after_map _ _ s
    rw [hstep]
    exact (deviceDelete_tells svc htakes index sender s).imp_left fun ⟨hdeletes, signals, h⟩ =>
      ⟨hdeletes, index, signals, h⟩
  · refine .inr ⟨?_, fun i => ?_⟩
    · rintro ⟨index, a, profiles, hmethod, -⟩
      exact hdelete ⟨index, hmethod⟩
    · exact m.keeps_of_managed (managed_tells svc htakes i) sender
        (fun index hm => absurd ⟨index, hm⟩ hdelete) s

end

/-! ### Runs -/

/-- The changes told of every device are a chain that starts at the state that was recorded for it
first. -/
def Shared.Chained (first t : Shared S E) : Prop :=
  ∀ index, StateChange.Chained (first.recorded index) (t.told index)

/-- The signal of `Device.Delete` has a reason. -/
theorem not_chained_of_deletes {svc : Services S E V} {call : MethodCall V} {first t : Shared S E}
    (htakes : call.env.TakesStates) (h : call.Deletes svc t) : ¬ first.Chained (step svc t call) := by
  obtain ⟨-, index, signals, hsignals⟩ | ⟨hnot, -⟩ := step_tells svc call htakes t
  · intro hchained
    obtain ⟨last, hleads⟩ := hchained index
    have hreason := hleads.reason_eq ⟨nmDeviceStateDisconnected, nmDeviceStateActivated, 0⟩
      (by simp [told, hsignals, DeviceIface.deletedSignal, Signal.stateChange?])
    exact absurd hreason (by decide)
  · exact absurd h hnot

/-- Nothing is told at the start. -/
theorem registerAll_signals {svc : Services S E V} {env : Environment} :
    Keeps (Same (signals (S := S) (E := E))) (registerAll env svc) := by
  have hrequest : ∀ path, Keeps (Same (signals (S := S) (E := E))) (request env (.register path)) :=
    fun _ => (Keeps.ofExcept _).bind fun _ => .pure _
  have hregister : ∀ paths, Keeps (Same (signals (S := S) (E := E))) (register env paths) :=
    fun _ => .forM fun _ _ => hrequest _
  refine .get_bind fun s => (Keeps.ofExcept _).bind fun _ => (Keeps.ofExcept _).bind fun _ =>
    (Keeps.ofExcept _).bind fun _ => ?_
  refine (Keeps.forM fun view _ => ?_).bind fun _ => (Keeps.forM fun profile _ => ?_).bind fun _ =>
    (Keeps.forM fun active _ => ?_).bind fun _ => Keeps.forM fun bssid _ => ?_
  · exact (hregister _).bind fun _ => Keeps.bind (.modify fun _ => rfl) fun _ => .modify fun _ => rfl
  · exact (hregister _).bind fun _ => .modify fun _ => rfl
  · exact (hregister _).bind fun _ => .modify fun _ => rfl
  · exact (Keeps.ofExcept _).bind fun _ => (hregister _).bind fun _ => .modify fun _ => rfl

/-- **Chain of device states.**  From the registration of a daemon on, and while the bus library
takes the signals, in every state of a run the `StateChanged` signals of every device form a chain
that starts at the state recorded at registration, exactly if `Device.Delete` deletes no profile in
the run. -/
theorem Shared.device_states_chain_iff (svc : Services S E V) (env : Environment)
    (d : Daemon S E) (s : Shared S E) (hregister : registerAll env svc { daemon := d } = .ok () s)
    (calls : List (MethodCall V)) (htakes : ∀ call ∈ calls, call.env.TakesStates) :
    Runs.Always (step svc) s.Chained s calls ↔
      Runs.Throughout (step svc) (fun t call => ¬ call.Deletes svc t) s calls := by
  constructor
  · intro h earlier call hearlier hdeletes
    have hchained := h (earlier ++ [call]) hearlier
    rw [List.foldl_append] at hchained
    exact not_chained_of_deletes (htakes call (hearlier.subset (by simp))) hdeletes hchained
  · intro h
    have hsignals : s.signals = [] := registerAll_signals.of_ok hregister
    have hleads : Runs.Always (step svc) (fun t => ∀ index,
        StateChange.Leads (s.recorded index) (t.recorded index) (t.told index)) s calls := by
      refine .of_throughout (I := fun _ => True) (fun _ _ => trivial) (fun index => ?_) h
        fun t call hcall _ ht hnot index => ?_
      · rw [told, hsignals]
        rfl
      · obtain ⟨hdeletes, -⟩ | ⟨-, htells⟩ := step_tells svc call (htakes call hcall) t
        · exact absurd hdeletes hnot
        · obtain ⟨changes, htold, hleads⟩ := htells index
          rw [htold]
          exact (ht index).append hleads
    exact fun earlier hearlier index => ⟨_, hleads earlier hearlier index⟩

/-- A profile is added and activated. -/
theorem Shared.device_states_chain_iff_desk :
    let calls := [Sample.addDesk allowAllAuthorization (devicePath 3)]
    Runs.Always (step Sample.services) (Sample.plugged []).Chained (Sample.plugged []) calls ↔
      Runs.Throughout (step Sample.services) (fun t call => ¬ call.Deletes Sample.services t)
        (Sample.plugged []) calls :=
  device_states_chain_iff Sample.services (Sample.environment allowAllAuthorization)
    (.withComponents ∅ []) (Sample.plugged []) (Sample.registerAll_plugged []) _
    (by simp [Sample.addDesk, Sample.environment, Environment.TakesStates])

/-! ### A deleted profile -/

/-- After the call the store has the wired profile. -/
theorem Sample.addDesk_plugged_profiles (answers : List (Except ActivationError Unit)) :
    (step services (plugged answers)
        (addDesk allowAllAuthorization (devicePath 3))).daemon.profiles =
      (∅ : InMemoryProfileStore).insert "desk" manualProfile := by
  have hyes : ((environment allowAllAuthorization).check (some ":1.7")
    actionNetworkControl).answer = .ok .yes := rfl
  rw [step, MethodCall.perform, addDesk, Method.perform, after_map,
    addAndActivateConnection_of_yes services _ _ _ _ _ hyes,
    addAndActivate_profiles _ _ _ _ profileOf_deskDict]
  exact after_create_manualProfile

/-- The profile of an activated connection is deleted, and the signal for its device gives a state as
its reason. -/
theorem Shared.deleted_profile_breaks_chain :
    ¬ ∀ (S E V : Type) (svc : Services S E V) (env : Environment) (profiles : S) (e : E)
      (s : Shared S E) (calls : List (MethodCall V)),
      registerAll env svc { daemon := .withComponents profiles e } = .ok () s →
      (∀ call ∈ calls, call.env.BusUp) → Runs.Always (step svc) s.Chained s calls := by
  intro hall
  have hup := Sample.environment_up allowAllAuthorization
  let delete : MethodCall Value :=
    ⟨Sample.environment allowAllAuthorization, some ":1.7", .deviceDelete 3⟩
  have hchained := hall _ _ _ Sample.services _ ∅ [] (Sample.plugged [])
    [Sample.addDesk allowAllAuthorization (devicePath 3), delete]
    (Sample.registerAll_plugged []) (by simp [delete, Sample.addDesk, hup])
  have hlast := hchained.tail.tail.head
  have hactive := Sample.addDesk_plugged []
  have hprofiles := Sample.addDesk_plugged_profiles []
  generalize step Sample.services (Sample.plugged [])
    (Sample.addDesk allowAllAuthorization (devicePath 3)) = t at *
  have hdevice : DeviceIface.active (Sample.environment allowAllAuthorization) 3 t =
      .ok (some ⟨⟨1⟩, manualProfile, Sample.device, .activated, {}⟩) := by
    rw [DeviceIface.active,
      show (Sample.environment allowAllAuthorization).backend.deviceView 3 = _ from
        Sample.deviceView_backend]
    show Except.ok (t.deviceActive "eth0") = _
    rw [deviceActive_eq, Daemon.activeConnections, hactive]
    rfl
  obtain ⟨answer, profiles, hserved⟩ := Sample.delete_desk
  obtain ⟨⟨⟩, hdelete, -⟩ := map_eq_ok.mp hserved
  have hdeletes : delete.Deletes Sample.services t :=
    ⟨3, ⟨⟨1⟩, manualProfile, Sample.device, .activated, {}⟩, profiles, rfl, rfl, hdevice,
      by rw [hprofiles]; exact hdelete, fun _ _ => rfl⟩
  exact not_chained_of_deletes (fun _ _ _ _ => rfl) hdeletes hlast

end NetworkManager
