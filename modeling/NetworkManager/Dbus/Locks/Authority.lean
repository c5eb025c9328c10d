import NetworkManager.Dbus.Locks.Audit
import NetworkManager.Support.Licences

/-!
# Dbus — Locks — Authority

Who may change what, while handlers are served together.  The licence of a handler is the answer
that it was given for the action of its method (`FacadeRequest.Granted`); answers are not taken back,
and until it has one a handler changes nothing (`FacadeRequest.waits`).

* `interleaved_effects_authorized`: a step that changes anything is made by a handler whose own
  sender was granted the action of the method before.
-/

namespace NetworkManager

open Locks Locks.Thread Effects Shared

variable {S E V : Type}

namespace Shared

/-- All but what the policy backend was asked. -/
def unaudited (s : Shared S E) : Shared S E := { s with checks := [] }

/-- What the policy backend was asked is kept. -/
def Remembers (s t : Shared S E) : Prop := s.checks <+: t.checks

instance reflRemembers : Std.Refl (Remembers (S := S) (E := E)) := ⟨fun _ => List.prefix_rfl⟩

instance transRemembers : IsTrans (Shared S E) Remembers := ⟨fun _ _ _ h h' => h.trans h'⟩

/-- What keeps the daemon forgets no answer. -/
theorem remembers_of_domain {s t : Shared S E} (h : Same domain s t) : s.Remembers t := by
  have hchecks : t.checks = s.checks := congrArg Prod.snd h
  rw [Remembers, hchecks]

end Shared

/-- The sender of the call was granted the action of its method. -/
def FacadeRequest.Granted (request : FacadeRequest V) (s : Shared S E) : Prop :=
  ∃ call action, request = .method call ∧ call.method.action = some action ∧
    call.env.check call.sender action ∈ s.checks ∧
      call.env.authorization (.fromSender call.sender) action = .ok .yes

/-- Leave that was given stays given. -/
theorem FacadeRequest.granted_of_remembers {request : FacadeRequest V} {s t : Shared S E}
    (h : s.Remembers t) (hs : request.Granted s) : request.Granted t := by
  obtain ⟨call, action, hcall, haction, hmem, hyes⟩ := hs
  exact ⟨call, action, hcall, haction, h.subset hmem, hyes⟩

/-! ### Answers are kept -/

section

variable {svc : Services S E V} {env : Environment} {s₀ : Shared S E}

theorem passes_of_remembers {s t : Shared S E} (h : s.Remembers t) :
    Passes (fun u (_ : Unit) => s₀.Remembers u) s t := fun _ hs => IsTrans.trans s₀ s t hs h

/-- What is asked, stored or told forgets no answer. -/
theorem remembers_steady (env : Environment) : Steady env (Remembers (S := S) (E := E)) where
  asked s checks := List.prefix_append s.checks checks
  stored _ _ := List.prefix_rfl
  connected _ _ := List.prefix_rfl
  requested r _ := .mono (fun _ _ h => remembers_of_domain (domain_of_core h))
    (request_keeps env r)

/-- The manager forgets no answer. -/
theorem onManager_remembers {α : Type} (x : EStateM ActivationError (Daemon S E) α) :
    Keeps Remembers (onManager x) := fun s => by
  rw [onManager, after_adaptExcept, onDaemon, after_zoom]
  exact List.prefix_rfl

/-- No step of a handler forgets an answer. -/
theorem remembers_audited (svc : Services S E V) (env : Environment) (s₀ : Shared S E) :
    Locking.Audited svc env fun s (_ : Unit) => s₀.Remembers s := by
  have hsteady := remembers_steady (S := S) (E := E) env
  have hpasses {ε α : Type} {x : EStateM ε (Shared S E) α} (h : Keeps Remembers x) :
      Keeps (Passes fun s (_ : Unit) => s₀.Remembers s) x :=
    .mono (fun _ _ => passes_of_remembers) h
  refine ⟨fun s checks => passes_of_remembers (hsteady.asked s checks),
    fun s profiles => passes_of_remembers (hsteady.stored s profiles),
    fun s connections => passes_of_remembers (hsteady.connected s connections),
    fun s ids => passes_of_remembers List.prefix_rfl, fun r _ => hpasses ?_,
    fun _ _ _ => hpasses (onManager_remembers _), ?_⟩
  · exact .mono (fun _ _ h => remembers_of_domain (domain_of_core h)) (request_keeps env r)
  · refine Locking.emitConnectionEvents_solvent ⟨fun s checks =>
      passes_of_remembers (hsteady.asked s checks),
      fun s profiles => passes_of_remembers (hsteady.stored s profiles),
      fun s connections => passes_of_remembers (hsteady.connected s connections),
      fun r h => hpasses (hsteady.requested r h)⟩ (hpasses (onManager_remembers _))
      (fun _ _ => passes_of_remembers List.prefix_rfl)
      (fun _ _ => passes_of_remembers List.prefix_rfl) fun index newState => hpasses ?_
    exact .mono (fun _ _ => remembers_of_domain) (emitDeviceState_keeps env index newState)

/-- No handler forgets an answer. -/
theorem FacadeRequest.acts (svc : Services S E V) (request : FacadeRequest V) :
    (request.locking svc).Acts (Remembers (S := S) (E := E)) := by
  refine acts_of_solvent fun s₀ => request.solvent (P := fun _ => True)
    (fun env _ => remembers_audited svc env s₀) ?_ fun call index _ _ => ?_
  · cases request <;> exact trivial
  · exact .mono (fun _ _ h => passes_of_remembers (remembers_of_domain h)) (emit_domain call.env _)

end

/-! ### Nothing before the answer -/

section

variable {svc : Services S E V} {env : Environment}

/-- Who only looks at the state needs no leave. -/
theorem waits_of_solvent {L ρ : Type} {licence : Shared S E → Prop} {Q : Unit → ρ → Prop}
    {p : Thread L (Shared S E) ρ}
    (h : ∀ s₀, Owes (fun s (_ : Unit) => Same unaudited s₀ s) Q () p) :
    p.Waits licence (Same unaudited) fun _ => True :=
  (acts_of_solvent h).waits

/-- A handler that asks for its action, and does no more. -/
theorem waits_asking {α : Type} {call : MethodCall V} {action : String}
    (haction : call.method.action = some action) {x : Handler S E α}
    (hafter : ∀ s, after x s = s.asked [call.env.check call.sender action])
    (hno : call.env.authorization (.fromSender call.sender) action ≠ .ok .yes →
      ∀ s, ∃ e, (settle x s).1 = .error e) :
    Waits (FacadeRequest.Granted (.method call)) (Same unaudited) (fun r => ∃ e, r = .error e)
      (lift x : Locking S E α) := by
  refine waits_lift (fun s => ?_) fun s => ?_
  · rw [hafter]
    rfl
  · by_cases hyes : call.env.authorization (.fromSender call.sender) action = .ok .yes
    · refine .inl ⟨call, action, rfl, haction, ?_, hyes⟩
      rw [hafter]
      exact List.mem_append_right _ List.mem_cons_self
    · exact .inr (hno hyes s)

/-- The check itself waits for nobody, and fails where leave is denied. -/
theorem waits_authorize {call : MethodCall V} {action : String}
    (haction : call.method.action = some action) :
    Waits (FacadeRequest.Granted (.method call)) (Same unaudited) (fun r => ∃ e, r = .error e)
      (lift (authorize call.env call.sender action) : Locking S E Unit) := by
  refine waits_asking haction (fun s => ?_) fun hno s => ?_
  · by_cases hyes : (call.env.check call.sender action).answer = .ok .yes
    · exact after_of_ok (authorize_of_yes s hyes)
    · exact after_of_error (authorize_of_denial s hyes)
  · exact ⟨_, congrArg Prod.fst (settle_of_error (authorize_of_denial s hno))⟩

/-- A handler that answers as soon as it is granted its action. -/
theorem waits_answer {call : MethodCall V} {action : String} {α : Type}
    (haction : call.method.action = some action) (a : α) :
    Waits (FacadeRequest.Granted (.method call)) (Same unaudited) (fun r => ∃ e, r = .error e)
      (lift (do authorize call.env call.sender action; return a) : Locking S E α) := by
  refine waits_asking haction (fun s => ?_) fun hno s => ?_
  · by_cases hyes : (call.env.check call.sender action).answer = .ok .yes
    · exact after_bind_of_ok (authorize_of_yes s hyes)
    · exact after_of_error (bind_of_error (authorize_of_denial s hyes))
  · exact ⟨_, congrArg Prod.fst (settle_of_error (bind_of_error (authorize_of_denial s hno)))⟩

/-- A method does nothing before its sender is granted its action. -/
theorem Locking.method_waits (svc : Services S E V) (call : MethodCall V) :
    Waits (FacadeRequest.Granted (.method call)) (Same unaudited) (fun _ => True)
      (Locking.method (S := S) (E := E) svc call.env call.sender call.method) := by
  cases hopen : call.method.action with
  | none =>
      exact waits_of_solvent fun s₀ =>
        Locking.method_solvent_of_open (fun s checks _ h => h) call.sender hopen
  | some action =>
      have hwaits := waits_authorize (S := S) (E := E) hopen
      have hanswer {α : Type} (a : α) := waits_answer (S := S) (E := E) hopen a
      obtain ⟨env, sender, m⟩ := call
      refine Waits.mono (fun _ _ => trivial) (Q := fun r => ∃ e, r = .error e) ?_
      cases m with
      | activateConnection | addAndActivateConnection | addAndActivateConnection2
      | deactivateConnection | addConnection | addConnectionUnsaved | addConnection2 | update
      | updateUnsaved | delete | deviceDisconnect | deviceDelete =>
          cases hopen
          exact (hwaits.bind _).bind _
      | sleep | enable | reload | saveHostname =>
          cases hopen
          exact hwaits.bind _
      | loadConnections | reloadConnections =>
          cases hopen
          exact (hanswer _).bind _
      | _ => cases hopen

/-- A handler changes nothing before it has leave. -/
theorem FacadeRequest.waits (svc : Services S E V) (request : FacadeRequest V) :
    Waits request.Granted (Same unaudited) (fun _ => True)
      (request.locking svc : Locking S E (FacadeAnswer V)) := by
  cases request with
  | method call => exact (Locking.method_waits svc call).andThen fun r _ => by cases r <;> trivial
  | property env p =>
      exact waits_of_solvent fun s₀ => (Locking.property_solvent p).map _
  | accessPoints env index =>
      exact waits_of_solvent fun s₀ => (Locking.allAccessPoints_solvent index).map _
  | requestScan answer =>
      exact waits_of_solvent fun s₀ => Solvent.map ((Solvent.ofExcept _).guarded _) _

end

/-! ### Handlers that are served together -/

/-- **Nobody acts without leave**, in whatever order the handlers move: a step that changes anything
but the record of the policy backend's answers is made by the handler of a method call whose own
sender was granted the action of the method before. -/
theorem interleaved_effects_authorized (svc : Services S E V) (s : Shared S E)
    (requests : List (FacadeRequest V))
    (c c' : Config Mutex (Shared S E) (Except FacadeError (FacadeAnswer V)))
    (h : Relation.ReflTransGen Step (s.serving svc requests) c) (hstep : Step c c')
    (hchanged : c'.state.unaudited ≠ c.state.unaudited) :
    ∃ i t call action, c'.threads = c.threads.set i t ∧ requests[i]? = some (.method call) ∧
      call.method.action = some action ∧
        call.env.check call.sender action ∈ c.state.checks ∧
          call.env.authorization (.fromSender call.sender) action = .ok .yes := by
  have hgrows : ∀ licence ∈ requests.map FacadeRequest.Granted, ∀ s t : Shared S E,
      s.Remembers t → licence s → licence t := by
    intro licence hmem s t hremembers
    obtain ⟨request, -, rfl⟩ := List.mem_map.mp hmem
    exact request.granted_of_remembers hremembers
  have hquiet : ∀ s : Shared S E, Same unaudited s s := fun _ => rfl
  have hstart : (s.serving svc requests).Licensed (Same unaudited) Remembers
      (requests.map FacadeRequest.Granted) :=
    .start (fun request _ => request.acts svc) (fun request _ => request.waits svc) s
  have hlicensed := licensed_steps hgrows hquiet hstart h
  obtain ⟨-, hsame | ⟨i, t, licence, hthreads, hlicence, hgranted⟩⟩ :=
    licensed_step hgrows hquiet hlicensed hstep
  · exact absurd hsame hchanged
  · rw [List.getElem?_map, Option.map_eq_some_iff] at hlicence
    obtain ⟨request, hrequest, rfl⟩ := hlicence
    obtain ⟨call, action, rfl, haction, hmem, hyes⟩ := hgranted
    exact ⟨i, t, call, action, hthreads, hrequest, haction, hmem, hyes⟩

/-- A profile is stored once its sender was granted the control of the network. -/
theorem interleaved_effects_authorized_desk :
    let call := Sample.addDesk allowAllAuthorization (devicePath 3)
    ∃ c c', Relation.ReflTransGen Step
        ((Sample.shared []).serving Sample.services [.method call]) c ∧ Step c c' ∧
      c'.state.unaudited ≠ c.state.unaudited ∧
      ∃ i t call' action, c'.threads = c.threads.set i t ∧
        [FacadeRequest.method call][i]? = some (.method call') ∧
          call'.method.action = some action ∧
            call'.env.check call'.sender action ∈ c.state.checks ∧
              call'.env.authorization (.fromSender call'.sender) action = .ok .yes := by
  intro call
  have hstored : after (onStore (Daemon.createProfile Sample.services.store manualProfile))
      (after (authorize call.env call.sender actionNetworkControl) (Sample.shared [])) =
        (after (authorize call.env call.sender actionNetworkControl) (Sample.shared [])).withProfiles
          ((∅ : InMemoryProfileStore).insert "desk" manualProfile) := by
    rw [Daemon.createProfile, after_onStore]
    exact congrArg (withProfiles _) Sample.after_create_manualProfile
  have hreach : ∃ c c', Relation.ReflTransGen Step
      ((Sample.shared []).serving Sample.services [.method call]) c ∧ Step c c' ∧
        c'.state.unaudited ≠ c.state.unaudited := by
    refine ⟨_, _, .tail (.single (.step [] [])) (.acquire [] [] ?_), .step [] [], ?_⟩
    · simp
    · intro hsame
      have hprofiles := congrArg (·.daemon.profiles) hsame
      exact Sample.insert_desk_ne ((congrArg (·.daemon.profiles) hstored).symm.trans hprofiles)
  obtain ⟨c, c', hsteps, hstep, hchanged⟩ := hreach
  exact ⟨c, c', hsteps, hstep, hchanged, interleaved_effects_authorized Sample.services
    (Sample.shared []) _ c c' hsteps hstep hchanged⟩

end NetworkManager
