import NetworkManager.Dbus.Locks.Audit

/-!
# Dbus — Locks — Interleavings

What the bus is told while handlers are served together, whichever of them moves when.

* `Shared.Accounted`: what the bus is still to be told is what some handler owes it.
* `signals_of_interleaving`: the events of the manager are all mirrored, and each once.
* `device_states_of_interleaving`: the `StateChanged` signals of a device form a chain.
-/

namespace NetworkManager

open Locks Locks.Thread Effects Shared

variable {S E V : Type}

/-! ### The signals of the active connections -/

/-- The signal tells of an active connection. -/
def Signal.tellsActive : Signal → Bool
  | .activeStateChanged _ _ _ _ | .activeConnectionRemoved _ => true
  | _ => false

/-- What the bus is told of an event. -/
def ConnectionEvent.mirrored : ConnectionEvent → Multiset Signal
  | .stateChanged id _ previous current =>
    {.activeStateChanged id (activeNmState current) 0 (activeNmState previous)}
  | .deactivated id _ => {.activeConnectionRemoved (activePath id)}
  | .activated _ _ | .failed _ _ _ => 0

/-- What the bus is told of the events. -/
def mirrors (events : List ConnectionEvent) : Multiset Signal :=
  (events.map ConnectionEvent.mirrored).sum

/-- Two lists of events are mirrored by the signals of both. -/
theorem mirrors_append (events later : List ConnectionEvent) :
    mirrors (events ++ later) = mirrors events + mirrors later := by
  rw [mirrors, List.map_append, List.sum_append, mirrors, mirrors]

namespace Shared

/-- What the bus was told of the active connections. -/
def toldActive (s : Shared S E) : Multiset Signal := (s.signals.filter Signal.tellsActive : List _)

/-- A run of calls leads to the manager, and the bus was told of the events that they drained, but
for the signals `owed`. -/
def Accounted (engine : ActivationEngine E) (e : E) (s : Shared S E) (owed : Multiset Signal) :
    Prop :=
  ∃ ops : List Operation, s.daemon.activation = (History.run engine e ops).manager ∧
    mirrors (History.run engine e ops).drained = s.toldActive + owed

/-- All that is accounted for. -/
def accounts (s : Shared S E) : ActivationManager E × Multiset Signal :=
  (s.daemon.activation, s.toldActive)

end Shared

section

variable {engine : ActivationEngine E} {e : E} {s t : Shared S E} {env : Environment}

/-- What keeps the manager and the signals of active connections keeps the accounts. -/
theorem passes_of_accounts (h : Same accounts s t) : Passes (Accounted engine e) s t := by
  obtain ⟨hactivation, htold⟩ := Prod.mk.inj h
  rintro owed ⟨ops, hops, hdrained⟩
  exact ⟨ops, hactivation.trans hops, by rw [hdrained, htold]⟩

/-- A request that tells of no active connection keeps the accounts. -/
theorem request_accounts (r : BusRequest)
    (h : ∀ signal, r = .emit signal → signal.tellsActive = false) :
    Keeps (Same (accounts (S := S) (E := E))) (request env r) := by
  refine (Keeps.ofExcept _).bind fun _ => ?_
  cases r with
  | emit signal =>
      refine .modify fun s => Prod.ext rfl ?_
      simp [accounts, toldActive, List.filter_append, h signal rfl]
  | register path | unregister path | ownedPath path => exact .pure _

theorem History.run_concat (engine : ActivationEngine E) (e : E) (ops : List Operation)
    (op : Operation) : History.run engine e (ops ++ [op]) =
      History.step engine (History.run engine e ops) op := by
  rw [History.run, List.foldl_append, List.foldl_cons, List.foldl_nil, History.run]

/-- Only `drainEvents` hands out events. -/
theorem drainedBy_perform {op : Operation} (hop : op ≠ .drainEvents) (m : ActivationManager E) :
    Reply.drainedBy (settle (op.perform engine) m).1 = [] := by
  have hmap {α : Type} (x : EStateM ActivationError (ActivationManager E) α) (f : α → Reply)
      (hf : ∀ a, Reply.drainedBy (.ok (f a)) = []) :
      Reply.drainedBy (settle (x >>= fun a => pure (f a)) m).1 = [] := by
    rw [settle_bind]
    rcases settle x m with ⟨error | a, m'⟩
    · rfl
    · exact hf a
  cases op with
  | activate store device => exact hmap _ _ fun _ => rfl
  | activateProfile store profileId device => exact hmap _ _ fun _ => rfl
  | deactivate id => exact hmap _ _ fun _ => rfl
  | drainEvents => exact absurd rfl hop

/-- A call of the manager that drains nothing owes nothing. -/
theorem operated_accounted {α : Type} {x : EStateM ActivationError (ActivationManager E) α}
    (op : Operation) (hop : op ≠ .drainEvents)
    (hx : ∀ m, after (op.perform engine) m = after x m) :
    Keeps (Passes (Accounted (S := S) engine e)) (onManager (Daemon.onActivation x)) := by
  rintro s owed ⟨ops, hops, hdrained⟩
  -- the history goes on by this one operation
  refine ⟨ops ++ [op], ?_, ?_⟩
  · rw [onManager, after_adaptExcept, onDaemon, after_zoom, Daemon.onActivation, after_zoom,
      History.run_concat, History.step, settle_snd, ← hops]
    exact (hx _).symm
  · rw [History.run_concat, History.step, drainedBy_perform hop, List.append_nil, hdrained,
      onManager, after_adaptExcept, onDaemon, after_zoom]
    rfl

/-- A step that does not fail and leaves the accounts. -/
theorem settles_still {ε α : Type} {x : EStateM ε (Shared S E) α} (htotal : Total x)
    (hkeeps : Keeps (Same accounts) x) :
    Settles (Accounted engine e) 0 (lift x : Prog Mutex ε (Shared S E) α) := by
  refine .lift fun s => ?_
  obtain ⟨a, t, h⟩ := htotal s
  refine ⟨⟨a, by rw [settle_of_ok h]⟩, fun others => ?_⟩
  rw [zero_add]
  exact passes_of_accounts (hkeeps s) others

/-- A look at the state pays nothing. -/
theorem settles_looking {α : Type} (f : Shared S E → α) :
    Settles (Accounted engine e) 0 (lift (Locking.looking f) : Locking S E α) :=
  settles_still (fun s => ⟨f s, s, rfl⟩) fun _ => rfl

/-- Telling of an active connection pays that signal. -/
theorem settles_emit (hup : env.BusUp) {signal : Signal} (h : signal.tellsActive = true) :
    Settles (Accounted engine e) {signal} (lift (emit env signal) : Locking S E Unit) := by
  refine .lift fun s => ?_
  have hemit : emit env signal s = .ok () { s with signals := s.signals ++ [signal] } :=
    adaptExcept_of_ok (request_of_ok (hup _) s)
  refine ⟨⟨(), by rw [settle_of_ok hemit]⟩, ?_⟩
  rintro others ⟨ops, hops, hdrained⟩
  rw [after_of_ok hemit]
  refine ⟨ops, hops, hdrained.trans ?_⟩
  simp only [toldActive, List.filter_append, List.filter_cons_of_pos h, List.filter_nil,
    ← Multiset.coe_add, Multiset.coe_singleton, add_assoc]

/-- The state of a device pays nothing. -/
theorem settles_emitDeviceState (hup : env.BusUp) (index : Int32) (newState : UInt32) :
    Settles (Accounted engine e) 0
      (Locking.emitDeviceState (S := S) (E := E) env index newState) := by
  refine Settles.guarded (settles_still (fun s => ?_) (.get_bind fun s => ?_)) _
  · obtain ⟨t, h, -⟩ := emitDeviceState_up hup index newState s
    exact ⟨(), t, h⟩
  · have hemit (signal : Signal) (h : signal.tellsActive = false) :
        Keeps (Same (accounts (S := S) (E := E))) (emit env signal) :=
      (request_accounts _ (by rintro _ ⟨⟩; exact h)).adaptExcept
    dsimp only
    split
    · exact .pure _
    · exact Keeps.bind (.modify fun _ => rfl) fun _ =>
        (hemit _ rfl).bind fun _ => hemit _ rfl

/-- The objects of a connection pay nothing. -/
theorem settles_unregisterActiveConnection (id : ActiveConnectionId) :
    Settles (Accounted engine e) 0
      (Locking.unregisterActiveConnection (S := S) (E := E) env id) := by
  refine (settles_still (.forM (fun path => ?_) _) (.forM fun path _ => ?_)).bind_quiet
    fun _ => Settles.guarded (settles_still (Total.modify _) (.modify fun _ => rfl)) _
  · exact (Total.attempt _).bind fun _ => .pure _
  · exact (request_accounts _ (by simp)).attempt.bind fun _ => .pure _

/-- Mirroring an event pays what the bus is to be told of it. -/
theorem settles_mirrorEvent (hup : env.BusUp) (deviceByActive : Shared.DeviceByActive)
    (event : ConnectionEvent) : Settles (Accounted engine e) event.mirrored
      (Locking.mirrorEvent (S := S) (E := E) env deviceByActive event) := by
  cases event with
  | stateChanged id profileId previous current =>
      refine (settles_emit hup rfl).bind_quiet fun _ =>
        ((settles_looking _).guarded _).bind_quiet fun active => ?_
      cases active with
      | none => exact .pure _
      | some active =>
          refine (Settles.guarded (.pure _) _).bind_quiet fun index => ?_
          cases index with
          | none => exact .pure _
          | some index => exact (settles_emitDeviceState hup _ _).bind_quiet fun _ => .pure _
  | deactivated id profileId =>
      have hrest : Settles (Accounted (S := S) engine e)
          (0 + {.activeConnectionRemoved (activePath id)})
          (Locking.mirrorEvent env deviceByActive (.deactivated id profileId)) := by
        refine (settles_unregisterActiveConnection id).bind fun _ =>
          (settles_emit hup rfl).bind_quiet fun _ => ?_
        cases deviceByActive.lookup id with
        | none => exact .pure _
        | some index => exact (settles_emitDeviceState hup _ _).bind_quiet fun _ => .pure _
      rwa [zero_add] at hrest
  | activated id profileId | failed id profileId reason => exact .pure _

/-- Who drains the events takes on their signals, and pays them. -/
theorem emitConnectionEvents_accounted (hup : env.BusUp) :
    Solvent (Accounted engine e) (Locking.emitConnectionEvents (S := S) (E := E) env) := by
  -- who drains the events holds them, and owes a signal for each
  let drains (owed : Multiset Signal) (r : Except FacadeError (List ConnectionEvent)) : Prop :=
    ∃ events, r = .ok events ∧ owed = mirrors events
  have hdrain : Owes (Accounted (S := S) engine e) drains 0
      (lift (onManager Daemon.connectionEvents) : Locking S E _) := by
    refine owes_lift fun s => ⟨mirrors s.daemon.activation.events, ?_, _, rfl, rfl⟩
    rintro others ⟨ops, hops, hdrained⟩
    refine ⟨ops ++ [.drainEvents], ?_, ?_⟩
    · rw [History.run_concat, History.step, settle_snd, ← hops]
      rfl
    · have hstep : (History.step engine (History.run engine e ops) .drainEvents).drained =
          (History.run engine e ops).drained ++ s.daemon.activation.events := by
        rw [hops]
        rfl
      rw [History.run_concat, hstep, mirrors_append, hdrained]
      simp only [zero_add, add_assoc, add_comm others]
      rfl
  refine Owes.andThen (Owes.andThen hdrain fun _ _ hr => hr) ?_
  rintro _ _ ⟨events, rfl, rfl⟩
  refine (Settles.foldlM (settles_mirrorEvent hup) ∅ events).andThen ?_
  rintro _ _ ⟨rfl, _, rfl⟩
  refine Solvent.bind ((Locking.looking_solvent _).guarded _) fun newState =>
    (Solvent.lift (.get_bind fun s => ?_)).guarded _
  split
  · exact .pure _
  · have hemit : Keeps (Same (accounts (S := S) (E := E))) (emit env (.stateChanged newState)) :=
      (request_accounts _ (by rintro _ ⟨⟩; rfl)).adaptExcept
    exact .mono (fun _ _ => passes_of_accounts) (Keeps.bind (.modify fun _ => rfl) fun _ => hemit)

/-- The steps of the handlers keep the accounts. -/
theorem accounted_audited (svc : Services S E V) (e : E) (hup : env.BusUp) :
    Locking.Audited svc env (Accounted svc.engine e) where
  asked _ _ := passes_of_accounts rfl
  stored _ _ := passes_of_accounts rfl
  connected _ _ := passes_of_accounts rfl
  enlisted _ _ := passes_of_accounts rfl
  requested r h := .mono (fun _ _ => passes_of_accounts)
    (request_accounts r fun signal hr => by
      have := h signal hr
      cases signal <;> simp_all [Signal.tellsState, Signal.tellsActive])
  operated := operated_accounted
  mirrored := emitConnectionEvents_accounted hup

end

/-- **No signal is lost, and none is told twice**, in whatever order the handlers move.  At any time
the manager is one that a run of calls leads to, and the bus was told nothing of the active
connections but what mirrors an event that this run drained; when all handlers have ended, it was
told all of it. -/
theorem signals_of_interleaving (svc : Services S E V) (e : E) (ops : List Operation)
    (s : Shared S E) (hs : s.daemon.activation = (History.run svc.engine e ops).manager)
    (htold : s.toldActive = mirrors (History.run svc.engine e ops).drained)
    (requests : List (FacadeRequest V))
    (hup : ∀ request ∈ requests, request.Under Environment.BusUp)
    (c : Config Mutex (Shared S E) (Except FacadeError (FacadeAnswer V)))
    (h : Relation.ReflTransGen Step (s.serving svc requests) c) :
    ∃ ops', c.state.daemon.activation = (History.run svc.engine e ops').manager ∧
      c.state.toldActive ≤ mirrors (History.run svc.engine e ops').drained ∧
      ((∀ t ∈ c.threads, t.Finished) →
        c.state.toldActive = mirrors (History.run svc.engine e ops').drained) := by
  have hstart : (s.serving svc requests).Balanced (Accounted svc.engine e) fun m _ => m = 0 := by
    refine serving_balanced ⟨ops, hs, by rw [htold, add_zero]⟩ fun request hrequest => ?_
    refine request.solvent (fun env => accounted_audited svc e) (hup request hrequest)
      fun call index _ _ => .mono (fun _ _ => passes_of_accounts) ?_
    exact (request_accounts _ (by rintro _ ⟨⟩; rfl)).adaptExcept
  have hbalanced := balanced_steps hstart h
  by_cases hdone : ∀ t ∈ c.threads, t.Finished
  · obtain ⟨ops', hops', hdrained⟩ := hbalanced.paid (fun _ _ => id) hdone
    rw [add_zero] at hdrained
    exact ⟨ops', hops', hdrained.ge, fun _ => hdrained.symm⟩
  · obtain ⟨owed, ops', hops', hdrained⟩ := hbalanced.books
    refine ⟨ops', hops', ?_, fun hall => absurd hall hdone⟩
    rw [hdrained]
    exact Multiset.le_add_right _ _

/-- A profile is added and activated on a device that is then disconnected, and both handlers run to
their ends. -/
theorem signals_of_interleaving_desk :
    let calls := [Sample.addDesk allowAllAuthorization (devicePath 3), Sample.disconnectDesk]
    ∃ c, Relation.ReflTransGen Step
        ((Sample.shared []).serving Sample.services (calls.map .method)) c ∧
      (∀ t ∈ c.threads, t.Finished) ∧
      c.state = Shared.run Sample.services (Sample.shared []) calls ∧
      ∃ ops, c.state.daemon.activation = (History.run Sample.scripted [] ops).manager ∧
        c.state.toldActive = mirrors (History.run Sample.scripted [] ops).drained := by
  intro calls
  obtain ⟨c, hsteps, hended, hstate⟩ :=
    serving_in_turn Sample.services (Sample.shared []) calls
  obtain ⟨ops, hops, -, htold⟩ := signals_of_interleaving Sample.services [] [] (Sample.shared [])
    rfl rfl (calls.map .method) (by
      simp [calls, FacadeRequest.Under, Sample.addDesk, Sample.disconnectDesk,
        Sample.environment_up]) c hsteps
  exact ⟨c, hsteps, hended, hstate, ops, hops, htold hended⟩

/-! ### The signals of the devices -/

section

variable {env : Environment} {s₀ : Shared S E} {index : Int32}

/-- What is told of a device leads from the state recorded at `s₀`; nobody owes anything. -/
def Shared.TellsFrom (index : Int32) (s₀ s : Shared S E) (_ : Unit) : Prop := s₀.Tells index s

/-- What adds to the chain keeps it one. -/
theorem passes_of_tells {s t : Shared S E} (h : s.Tells index t) :
    Passes (TellsFrom index s₀) s t := fun _ hs => IsTrans.trans s₀ s t hs h

/-- Mirroring the events keeps the chain one. -/
theorem emitConnectionEvents_tellsFrom (htakes : env.TakesStates) :
    Solvent (TellsFrom index s₀) (Locking.emitConnectionEvents (S := S) (E := E) env) := by
  have hsteady := steady_tells (S := S) (E := E) env index
  refine Locking.emitConnectionEvents_solvent
    ⟨fun s checks => passes_of_tells (hsteady.asked s checks),
      fun s profiles => passes_of_tells (hsteady.stored s profiles),
      fun s connections => passes_of_tells (hsteady.connected s connections),
      fun r h => .mono (fun _ _ => passes_of_tells) (hsteady.requested r h)⟩ ?_ ?_ ?_ ?_
  · exact .mono (fun _ _ => passes_of_tells) (onManager_tells _)
  · exact fun _ _ => passes_of_tells (tells_of_notices rfl)
  · exact fun _ _ => passes_of_tells (tells_of_notices rfl)
  · exact fun device newState =>
      .mono (fun _ _ => passes_of_tells) (emitDeviceState_tells htakes device newState)

/-- The steps of the handlers keep the chain one. -/
theorem tellsFrom_audited (svc : Services S E V) (htakes : env.TakesStates) :
    Locking.Audited svc env (TellsFrom index s₀) where
  asked _ _ := passes_of_tells (tells_of_notices rfl)
  stored _ _ := passes_of_tells (tells_of_notices rfl)
  connected _ _ := passes_of_tells (tells_of_notices rfl)
  enlisted _ _ := passes_of_tells (tells_of_notices rfl)
  requested r h := by
    refine .mono (fun _ _ => passes_of_tells) (request_tells r ?_)
    rintro device state reason prev rfl
    cases h _ rfl
  operated _ _ _ := .mono (fun _ _ => passes_of_tells) (onManager_tells _)
  mirrored := emitConnectionEvents_tellsFrom htakes

end

/-- **The signals of a device form a chain**, in whatever order the handlers move: each starts at
the state where the one before it ended, and the last ends at the state that is recorded, unless
somebody calls `Device.Delete`. -/
theorem device_states_of_interleaving (svc : Services S E V) (s : Shared S E)
    (requests : List (FacadeRequest V))
    (htakes : ∀ request ∈ requests, request.Under Environment.TakesStates)
    (hdelete : ∀ call, .method call ∈ requests → ∀ index, call.method ≠ .deviceDelete index)
    (c : Config Mutex (Shared S E) (Except FacadeError (FacadeAnswer V)))
    (h : Relation.ReflTransGen Step (s.serving svc requests) c) (index : Int32) :
    ∃ changes, c.state.told index = s.told index ++ changes ∧
      StateChange.Leads (s.recorded index) (c.state.recorded index) changes := by
  have hstart : (s.serving svc requests).Balanced (TellsFrom index s) fun m _ => m = 0 := by
    refine serving_balanced (Std.Refl.refl (r := Tells index) s) fun request hrequest => ?_
    refine request.solvent (fun env => tellsFrom_audited svc) (htakes request hrequest) ?_
    rintro call device rfl hmethod
    exact absurd hmethod (hdelete call hrequest device)
  obtain ⟨_, htells⟩ := (balanced_steps hstart h).books
  exact htells

/-- The same two handlers, on the device that they are about. -/
theorem device_states_of_interleaving_desk :
    let calls := [Sample.addDesk allowAllAuthorization (devicePath 3), Sample.disconnectDesk]
    ∃ c, Relation.ReflTransGen Step
        ((Sample.plugged []).serving Sample.services (calls.map .method)) c ∧
      (∀ t ∈ c.threads, t.Finished) ∧
      c.state = Shared.run Sample.services (Sample.plugged []) calls ∧
      ∃ changes, c.state.told 3 = (Sample.plugged []).told 3 ++ changes ∧
        StateChange.Leads ((Sample.plugged []).recorded 3) (c.state.recorded 3) changes := by
  intro calls
  obtain ⟨c, hsteps, hended, hstate⟩ :=
    serving_in_turn Sample.services (Sample.plugged []) calls
  refine ⟨c, hsteps, hended, hstate, device_states_of_interleaving Sample.services
    (Sample.plugged []) (calls.map .method) ?_ ?_ c hsteps 3⟩
  · simp only [calls, List.forall_mem_map, List.forall_mem_cons]
    exact ⟨fun _ _ _ _ => rfl, fun _ _ _ _ => rfl, by simp⟩
  · intro call hcall index
    simp only [calls, List.map_cons, List.map_nil, List.mem_cons, List.not_mem_nil, or_false,
      FacadeRequest.method.injEq] at hcall
    obtain rfl | rfl := hcall <;> simp [Sample.addDesk, Sample.disconnectDesk]

end NetworkManager
