import NetworkManager.Connection.Activation

/-!
# Connection — Activation — Steps

What one call of the manager can do.  `perform_moves` says it once: the call is refused and changes
nothing, or drains the events, or makes one engine call, whose answer decides which log of events
is written and which entry of the tracked connections is added, removed or marked failed.  The
results about runs follow from that.
-/

namespace NetworkManager

open Effects

/-! ### Logs -/

namespace ConnectionEvent

variable (id : ActiveConnectionId) (profileId : ProfileId)

/-- The events of an activation that succeeds. -/
def upLog : List ConnectionEvent :=
  [.stateChanged id profileId .disconnected .preparing,
    .stateChanged id profileId .preparing .configuring,
    .stateChanged id profileId .configuring .activating,
    .stateChanged id profileId .activating .activated,
    .activated id profileId]

/-- The events of an activation that fails. -/
def stillbornLog (reason : String) : List ConnectionEvent :=
  [.stateChanged id profileId .disconnected .preparing,
    .stateChanged id profileId .preparing .failed,
    .failed id profileId reason]

/-- The events of a deactivation that succeeds. -/
def downLog : List ConnectionEvent :=
  [.stateChanged id profileId .activated .deactivating,
    .stateChanged id profileId .deactivating .disconnected,
    .deactivated id profileId]

/-- The events of a deactivation that fails. -/
def brokenLog (reason : String) : List ConnectionEvent :=
  [.stateChanged id profileId .activated .deactivating,
    .stateChanged id profileId .deactivating .failed,
    .failed id profileId reason]

end ConnectionEvent

namespace ActivationManager

variable {E : Type} {engine : ActivationEngine E} {m m' : ActivationManager E}

/-! ### The methods -/

/-- The engine accepts, and the call is recorded. -/
theorem callEngine_of_ok {α : Type} {id : ActiveConnectionId} {op : EngineOp}
    {x : EStateM ActivationError E α} {a : α} {e : E} (h : x m.engine = .ok a e) :
    callEngine id op x m =
      .ok (.ok a) { m with engine := e, calls := m.calls ++ [⟨id, op, .ok ()⟩] } :=
  bind_of_ok (attempt_of_ok (zoom_of_ok h))

/-- The engine refuses, and the call is recorded. -/
theorem callEngine_of_error {α : Type} {id : ActiveConnectionId} {op : EngineOp}
    {x : EStateM ActivationError E α} {err : ActivationError} {e : E}
    (h : x m.engine = .error err e) :
    callEngine id op x m =
      .ok (.error err) { m with engine := e, calls := m.calls ++ [⟨id, op, .error err⟩] } :=
  bind_of_ok (attempt_of_error (zoom_of_error h))

/-- A transition that the state machine has moves the connection, and queues an event. -/
theorem transition_of_allowed {a : ActiveConnection} {next : ConnectionState}
    (h : a.state.canTransitionTo next = true) :
    transition a next m = .ok { a with state := next } { m with
      events := m.events ++ [.stateChanged a.id a.profile.id a.state next] } := by
  have hnext : a.state.transitionTo next = .ok next := if_pos h
  simp only [transition, hnext]
  rfl

section ActivateMatching

variable {profile : ConnectionProfile} {device : DeviceInfo} {e : E}

/-- The engine accepts: the connection walks all its states and is tracked. -/
theorem activateMatching_of_ok {outcome : ActivationOutcome}
    (h : engine.activate profile device m.engine = .ok outcome e) :
    let active : ActiveConnection := ⟨⟨m.nextId⟩, profile, device, .activated, outcome⟩
    activateMatching engine profile device m = .ok active {
      engine := e, nextId := m.nextId + 1, active := m.active ++ [active]
      events := m.events ++ ConnectionEvent.upLog ⟨m.nextId⟩ profile.id
      calls := m.calls ++ [⟨⟨m.nextId⟩, .activate, .ok ()⟩] } := by
  intro active
  have hcall : callEngine ⟨m.nextId⟩ .activate (engine.activate profile device) { m with
      nextId := m.nextId + 1
      events := m.events ++ [.stateChanged ⟨m.nextId⟩ profile.id .disconnected .preparing] } = _ :=
    callEngine_of_ok h
  have hlog : m.events ++ ConnectionEvent.upLog ⟨m.nextId⟩ profile.id =
      ((((m.events ++ [.stateChanged ⟨m.nextId⟩ profile.id .disconnected .preparing]) ++
        [.stateChanged ⟨m.nextId⟩ profile.id .preparing .configuring]) ++
        [.stateChanged ⟨m.nextId⟩ profile.id .configuring .activating]) ++
        [.stateChanged ⟨m.nextId⟩ profile.id .activating .activated]) ++
        [.activated ⟨m.nextId⟩ profile.id] := by simp [ConnectionEvent.upLog]
  rw [hlog]
  exact (bind_of_ok hcall).trans rfl

/-- The engine refuses: the connection fails, and is tracked nevertheless. -/
theorem activateMatching_of_error {err : ActivationError}
    (h : engine.activate profile device m.engine = .error err e) :
    activateMatching engine profile device m = .error err {
      engine := e, nextId := m.nextId + 1
      active := m.active ++ [⟨⟨m.nextId⟩, profile, device, .failed, {}⟩]
      events := m.events ++ ConnectionEvent.stillbornLog ⟨m.nextId⟩ profile.id (toString err)
      calls := m.calls ++ [⟨⟨m.nextId⟩, .activate, .error err⟩] } := by
  have hcall : callEngine ⟨m.nextId⟩ .activate (engine.activate profile device) { m with
      nextId := m.nextId + 1
      events := m.events ++ [.stateChanged ⟨m.nextId⟩ profile.id .disconnected .preparing] } = _ :=
    callEngine_of_error h
  have hlog : m.events ++ ConnectionEvent.stillbornLog ⟨m.nextId⟩ profile.id (toString err) =
      ((m.events ++ [.stateChanged ⟨m.nextId⟩ profile.id .disconnected .preparing]) ++
        [.stateChanged ⟨m.nextId⟩ profile.id .preparing .failed]) ++
        [.failed ⟨m.nextId⟩ profile.id (toString err)] := by simp [ConnectionEvent.stillbornLog]
  rw [hlog]
  exact (bind_of_ok hcall).trans rfl

end ActivateMatching

section Deactivate

variable {id : ActiveConnectionId} {before after : List ActiveConnection} {a : ActiveConnection}
  {e : E}

/-- The tracked connection of an id, by where it stands. -/
theorem find_split (h : m.active.find? (fun active => active.id == id) = some a) :
    ∃ before after, m.active = before ++ a :: after ∧ a.id = id ∧
      m.active.findIdx (fun active => active.id == id) = before.length := by
  obtain ⟨hid, before, after, hsplit, hbefore⟩ := List.find?_eq_some_iff_append.mp h
  refine ⟨before, after, hsplit, by simpa using hid, ?_⟩
  have hnone : ∀ b ∈ before, (b.id == id) = false := fun b hb => by simpa using hbefore b hb
  rw [hsplit, List.findIdx_append, if_neg, List.findIdx_cons, hid]
  · simp
  · rw [List.findIdx_lt_length]
    rintro ⟨b, hb, he⟩
    rw [hnone b hb] at he
    cases he

/-- A transition of the tracked connection between `before` and `after`. -/
theorem transitionAt_of_split {b : ActiveConnection} {next : ConnectionState}
    (hsplit : m.active = before ++ a :: after) (h : b.state.canTransitionTo next = true) :
    transitionAt before.length b next m = .ok { b with state := next } { m with
      active := before ++ { b with state := next } :: after
      events := m.events ++ [.stateChanged b.id b.profile.id b.state next] } := by
  have hset : m.active.set before.length { b with state := next } =
      before ++ { b with state := next } :: after := by simp [hsplit]
  rw [← hset]
  exact (bind_of_ok (transition_of_allowed h)).trans rfl

/-- A deactivation that is not refused, up to the engine's answer. -/
theorem deactivate_eq (hsplit : m.active = before ++ a :: after)
    (hfind : m.active.find? (fun active => active.id == id) = some a)
    (hindex : m.active.findIdx (fun active => active.id == id) = before.length)
    (hstate : a.state = .activated) :
    deactivate engine id m =
      (callEngine a.id .deactivate (engine.deactivate a.profile) >>=
        finishDeactivation before.length { a with state := .deactivating })
      { m with
        active := before ++ { a with state := .deactivating } :: after
        events := m.events ++ [.stateChanged a.id a.profile.id .activated .deactivating] } := by
  have hleave : transitionAt before.length a .deactivating m = _ :=
    transitionAt_of_split hsplit (by rw [hstate]; rfl)
  rw [hstate] at hleave
  unfold deactivate
  rw [get_bind]
  simp only [hfind, hindex]
  rw [if_neg (not_not_intro hstate), bind_of_ok (adaptExcept_of_ok hleave)]

/-- The engine lets go: the connection is no longer tracked. -/
theorem deactivate_of_ok (hsplit : m.active = before ++ a :: after)
    (hfind : m.active.find? (fun active => active.id == id) = some a)
    (hindex : m.active.findIdx (fun active => active.id == id) = before.length)
    (hstate : a.state = .activated) (h : engine.deactivate a.profile m.engine = .ok () e) :
    deactivate engine id m = .ok () { m with
      engine := e, active := before ++ after
      events := m.events ++ ConnectionEvent.downLog a.id a.profile.id
      calls := m.calls ++ [⟨a.id, .deactivate, .ok ()⟩] } := by
  have hcall : callEngine a.id .deactivate (engine.deactivate a.profile) { m with
      active := before ++ { a with state := .deactivating } :: after
      events := m.events ++ [.stateChanged a.id a.profile.id .activated .deactivating] } = _ :=
    callEngine_of_ok h
  rw [deactivate_eq hsplit hfind hindex hstate, bind_of_ok hcall]
  have herase : (before ++ { a with state := .disconnected } :: after).eraseIdx before.length =
      before ++ after := by
    rw [List.eraseIdx_append_of_length_le (Nat.le_refl _), Nat.sub_self]
    rfl
  have hlog : m.events ++ ConnectionEvent.downLog a.id a.profile.id =
      ((m.events ++ [.stateChanged a.id a.profile.id .activated .deactivating]) ++
        [.stateChanged a.id a.profile.id .deactivating .disconnected]) ++
        [.deactivated a.id a.profile.id] := by simp [ConnectionEvent.downLog]
  rw [hlog, ← herase]
  exact (bind_of_ok (adaptExcept_of_ok (transitionAt_of_split rfl rfl))).trans rfl

/-- The engine does not let go: the connection stays, as failed. -/
theorem deactivate_of_error {err : ActivationError} (hsplit : m.active = before ++ a :: after)
    (hfind : m.active.find? (fun active => active.id == id) = some a)
    (hindex : m.active.findIdx (fun active => active.id == id) = before.length)
    (hstate : a.state = .activated) (h : engine.deactivate a.profile m.engine = .error err e) :
    deactivate engine id m = .error err { m with
      engine := e, active := before ++ { a with state := .failed } :: after
      events := m.events ++ ConnectionEvent.brokenLog a.id a.profile.id (toString err)
      calls := m.calls ++ [⟨a.id, .deactivate, .error err⟩] } := by
  have hcall : callEngine a.id .deactivate (engine.deactivate a.profile) { m with
      active := before ++ { a with state := .deactivating } :: after
      events := m.events ++ [.stateChanged a.id a.profile.id .activated .deactivating] } = _ :=
    callEngine_of_error h
  rw [deactivate_eq hsplit hfind hindex hstate, bind_of_ok hcall]
  have hlog : m.events ++ ConnectionEvent.brokenLog a.id a.profile.id (toString err) =
      ((m.events ++ [.stateChanged a.id a.profile.id .activated .deactivating]) ++
        [.stateChanged a.id a.profile.id .deactivating .failed]) ++
        [.failed a.id a.profile.id (toString err)] := by simp [ConnectionEvent.brokenLog]
  rw [hlog]
  exact (bind_of_ok (adaptExcept_of_ok (transitionAt_of_split rfl rfl))).trans rfl

end Deactivate

/-! ### The calls -/

end ActivationManager

/-- The store that an activation is called with answers with the profile, and it matches the device
of the call. -/
def Operation.Offers (profile : ConnectionProfile) (info : DeviceInfo) : Operation → Prop
  | .activate store device | .activateProfile store _ device =>
    info = device ∧ profile.matches device = true ∧ ∃ id, store.get id = .ok profile
  | .deactivate _ | .drainEvents => False

namespace ActivationManager

variable {E : Type} {engine : ActivationEngine E} {m m' : ActivationManager E}

/-- What a call can do to the manager, with what it returns. -/
inductive Moves (engine : ActivationEngine E) (m : ActivationManager E) (op : Operation) :
    Except ActivationError Reply → ActivationManager E → Prop where
  | refused {err : ActivationError} (hown : ∀ e, err ≠ .state e) : Moves engine m op (.error err) m
  | drained : Moves engine m op (.ok (.drained m.events)) { m with events := [] }
  | activated {profile : ConnectionProfile} {device : DeviceInfo} {outcome : ActivationOutcome}
      {e : E} (hfresh : op.Keyed → m.isActive profile.id = false)
      (hcall : engine.activate profile device m.engine = .ok outcome e)
      (hoffers : op.Offers profile device) :
      Moves engine m op (.ok (.connected ⟨⟨m.nextId⟩, profile, device, .activated, outcome⟩)) {
        engine := e, nextId := m.nextId + 1
        active := m.active ++ [⟨⟨m.nextId⟩, profile, device, .activated, outcome⟩]
        events := m.events ++ ConnectionEvent.upLog ⟨m.nextId⟩ profile.id
        calls := m.calls ++ [⟨⟨m.nextId⟩, .activate, .ok ()⟩] }
  | stillborn {profile : ConnectionProfile} {device : DeviceInfo} {err : ActivationError} {e : E}
      (hfresh : op.Keyed → m.isActive profile.id = false)
      (hcall : engine.activate profile device m.engine = .error err e)
      (hoffers : op.Offers profile device) :
      Moves engine m op (.error err) {
        engine := e, nextId := m.nextId + 1
        active := m.active ++ [⟨⟨m.nextId⟩, profile, device, .failed, {}⟩]
        events := m.events ++ ConnectionEvent.stillbornLog ⟨m.nextId⟩ profile.id (toString err)
        calls := m.calls ++ [⟨⟨m.nextId⟩, .activate, .error err⟩] }
  | deactivated {before after : List ActiveConnection} {a : ActiveConnection} {e : E}
      (hsplit : m.active = before ++ a :: after) (hstate : a.state = .activated)
      (hcall : engine.deactivate a.profile m.engine = .ok () e) :
      Moves engine m op (.ok .done) { m with
        engine := e, active := before ++ after
        events := m.events ++ ConnectionEvent.downLog a.id a.profile.id
        calls := m.calls ++ [⟨a.id, .deactivate, .ok ()⟩] }
  | broken {before after : List ActiveConnection} {a : ActiveConnection} {err : ActivationError}
      {e : E} (hsplit : m.active = before ++ a :: after) (hstate : a.state = .activated)
      (hcall : engine.deactivate a.profile m.engine = .error err e) :
      Moves engine m op (.error err) { m with
        engine := e, active := before ++ { a with state := .failed } :: after
        events := m.events ++ ConnectionEvent.brokenLog a.id a.profile.id (toString err)
        calls := m.calls ++ [⟨a.id, .deactivate, .error err⟩] }

variable {op : Operation}

/-- A candidate is stored, matches the device and is not active. -/
theorem candidate_spec {store : ProfileStore} {device : DeviceInfo}
    {profiles : List ConnectionProfile} {profile : ConnectionProfile}
    (h : m.candidate store device profiles = some profile) :
    (∃ id, store.get id = .ok profile) ∧ profile.matches device = true ∧
      m.isActive profile.id = false := by
  obtain ⟨id, -, hid⟩ := List.exists_of_findSome?_eq_some h
  split at hid
  · next found hget =>
      split at hid
      · next hmatch =>
          cases hid
          obtain ⟨hmatches, hfresh⟩ := Bool.and_eq_true_iff.mp hmatch
          exact ⟨⟨id, hget⟩, hmatches, by simpa using hfresh⟩
      · cases hid
  · cases hid

variable (engine m) in
/-- `activate` is refused, or activates a profile of the store that matches and has no tracked
connection. -/
theorem activate_cases (store : ProfileStore) (device : DeviceInfo) :
    (∃ err, (∀ e, err ≠ .state e) ∧ activate engine store device m = .error err m) ∨
    ∃ profile, (∃ id, store.get id = .ok profile) ∧ profile.matches device = true ∧
      m.isActive profile.id = false ∧
      activate engine store device m = activateMatching engine profile device m := by
  obtain ⟨listed, hlist⟩ : ∃ listed, store.list = listed := ⟨_, rfl⟩
  cases listed with
  | error err =>
      refine .inl ⟨.store err, by simp, ?_⟩
      simp only [activate, hlist]
      rfl
  | ok profiles =>
      cases hcandidate : m.candidate store device profiles with
      | none =>
          refine .inl ⟨.noSuitableProfile device, by simp, ?_⟩
          simp only [activate, hlist, get_bind, hcandidate]
          rfl
      | some profile =>
          obtain ⟨hget, hmatch, hfresh⟩ := candidate_spec hcandidate
          refine .inr ⟨profile, hget, hmatch, hfresh, ?_⟩
          simp only [activate, hlist, get_bind, hcandidate]

variable (engine m) in
/-- `activateProfile` is refused, or activates the profile the store answers with. -/
theorem activateProfile_cases (store : ProfileStore) (id : ProfileId) (device : DeviceInfo) :
    (∃ err, (∀ e, err ≠ .state e) ∧ activateProfile engine store id device m = .error err m) ∨
    ∃ profile, store.get id = .ok profile ∧ profile.matches device = true ∧
      m.isActive id = false ∧
      activateProfile engine store id device m = activateMatching engine profile device m := by
  obtain ⟨found, hfound⟩ : ∃ found, store.get id = found := ⟨_, rfl⟩
  cases found with
  | error err =>
      left
      -- only a missing profile has an error of its own
      cases err with
      | notFound id' =>
          refine ⟨.profileNotFound id, by simp, ?_⟩
          simp only [activateProfile, hfound]
          rfl
      | alreadyExists _ | invalid _ | malformed _ _ | io _ =>
          refine ⟨_, ?_, by simp only [activateProfile, hfound]; rfl⟩
          simp
  | ok profile =>
      cases hmatch : profile.matches device with
      | false =>
          refine .inl ⟨.deviceIncompatible id device, by simp, ?_⟩
          simp only [activateProfile, hfound, hmatch]
          rfl
      | true =>
          obtain ⟨tracked, htracked⟩ : ∃ tracked, m.isActive id = tracked := ⟨_, rfl⟩
          cases tracked with
          | true =>
              refine .inl ⟨.alreadyActive id, by simp, ?_⟩
              simp only [activateProfile, hfound, hmatch]
              rw [if_neg (by simp), get_bind, if_pos htracked]
              rfl
          | false =>
              refine .inr ⟨profile, hfound, hmatch, htracked, ?_⟩
              simp only [activateProfile, hfound, hmatch]
              rw [if_neg (by simp), get_bind, if_neg (by simp [htracked])]

/-- An activation as the caller of either method sees it. -/
theorem Moves.activateMatching {profile : ConnectionProfile} {device : DeviceInfo}
    {x : EStateM ActivationError (ActivationManager E) ActiveConnection}
    (hfresh : op.Keyed → m.isActive profile.id = false) (hoffers : op.Offers profile device)
    (hx : x m = ActivationManager.activateMatching engine profile device m) :
    let call := settle (return Reply.connected (← x)) m
    Moves engine m op call.1 call.2 := by
  intro call
  cases h : engine.activate profile device m.engine with
  | ok outcome e =>
      have hcall : call = _ := settle_of_ok (bind_of_ok (hx.trans (activateMatching_of_ok h)))
      rw [hcall]
      exact .activated hfresh h hoffers
  | error err e =>
      have hcall : call = _ :=
        settle_of_error (bind_of_error (hx.trans (activateMatching_of_error h)))
      rw [hcall]
      exact .stillborn hfresh h hoffers

/-- A deactivation makes one of the moves. -/
theorem Moves.deactivate (id : ActiveConnectionId) :
    let call := settle ((Operation.deactivate id).perform engine) m
    Moves engine m op call.1 call.2 := by
  intro call
  cases hfind : m.active.find? (fun active => active.id == id) with
  | none =>
      have hcall : call = (.error (.unknownActiveConnection id), m) := by
        refine settle_of_error (bind_of_error ?_)
        rw [ActivationManager.deactivate, get_bind]
        simp only [hfind]
        rfl
      rw [hcall]
      exact .refused (by simp)
  | some a =>
      obtain ⟨before, after, hsplit, hid, hindex⟩ := find_split hfind
      -- a failed connection cannot be deactivated
      by_cases hstate : a.state = .activated
      · cases h : engine.deactivate a.profile m.engine with
        | ok _ e =>
            have hcall : call = _ :=
              settle_of_ok (bind_of_ok (deactivate_of_ok hsplit hfind hindex hstate h))
            rw [hcall]
            exact .deactivated hsplit hstate h
        | error err e =>
            have hcall : call = _ :=
              settle_of_error (bind_of_error (deactivate_of_error hsplit hfind hindex hstate h))
            rw [hcall]
            exact .broken hsplit hstate h
      · have hcall : call = (.error (.invalidState id a.state), m) := by
          refine settle_of_error (bind_of_error ?_)
          rw [ActivationManager.deactivate, get_bind]
          simp only [hfind]
          rw [if_pos hstate]
          rfl
        rw [hcall]
        exact .refused (by simp)

/-- Every call is one of the moves. -/
theorem perform_moves (engine : ActivationEngine E) (m : ActivationManager E) (op : Operation) :
    let call := settle (op.perform engine) m
    Moves engine m op call.1 call.2 := by
  cases op with
  | activate store device =>
      obtain ⟨err, hown, h⟩ | ⟨profile, hget, hmatch, hfresh, h⟩ :=
        activate_cases engine m store device
      · intro call
        have hcall : call = (.error err, m) := settle_of_error (bind_of_error h)
        rw [hcall]
        exact .refused hown
      · exact Moves.activateMatching (fun _ => hfresh) ⟨rfl, hmatch, hget⟩ h
  | activateProfile store id device =>
      obtain ⟨err, hown, h⟩ | ⟨profile, hget, hmatch, hfresh, h⟩ :=
        activateProfile_cases engine m store id device
      · intro call
        have hcall : call = (.error err, m) := settle_of_error (bind_of_error h)
        rw [hcall]
        exact .refused hown
      · refine Moves.activateMatching (fun hkeyed => ?_) ⟨rfl, hmatch, id, hget⟩ h
        rwa [hkeyed id profile hget]
  | deactivate id => exact Moves.deactivate id
  | drainEvents => exact .drained

end ActivationManager

namespace History

open ActivationManager

variable {E : Type} {engine : ActivationEngine E}

/-- What holds of a new manager, and is kept by every move of a call that meets `C`, holds after
every run of such calls. -/
theorem run_induction {P : History E → Prop} {C : Operation → Prop} {e : E} {ops : List Operation}
    (hnew : P ⟨ActivationManager.new e, []⟩)
    (hmove : ∀ h op r m', C op → P h → Moves engine h.manager op r m' →
      P ⟨m', h.drained ++ Reply.drainedBy r⟩)
    (hops : ∀ op ∈ ops, C op) : P (run engine e ops) :=
  List.foldlRecOn ops (step engine) hnew fun h hP op hop =>
    hmove h op _ _ (hops op hop) hP (perform_moves engine h.manager op)

end History

end NetworkManager
