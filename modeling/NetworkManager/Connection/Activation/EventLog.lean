import NetworkManager.Connection.Activation.Invariant

/-!
# Connection — Activation — Event log

What the events say about one active connection.  Between calls its life is in one of five stages
(`Life`), and the stage fixes everything recorded about it: its events, drained or pending, the
engine calls made for it, and its entry among the tracked connections.  A call moves the life of
one connection a stage on and leaves all others (`Lives.moves`).
-/

namespace NetworkManager

/-! ### Reading a log -/

namespace ConnectionEvent

/-- The connection that the event is about. -/
def activeId : ConnectionEvent → ActiveConnectionId
  | .stateChanged id _ _ _ | .activated id _ | .deactivated id _ | .failed id _ _ => id

/-- The two states of a `StateChanged` event. -/
def change : ConnectionEvent → Option (ConnectionState × ConnectionState)
  | .stateChanged _ _ previous current => some (previous, current)
  | .activated _ _ | .deactivated _ _ | .failed _ _ _ => none

/-- The event reports an activation. -/
def isActivated : ConnectionEvent → Bool
  | .activated _ _ => true
  | _ => false

/-- The event reports a deactivation. -/
def isDeactivated : ConnectionEvent → Bool
  | .deactivated _ _ => true
  | _ => false

/-- The event reports a failure. -/
def isFailed : ConnectionEvent → Bool
  | .failed _ _ _ => true
  | _ => false

end ConnectionEvent

/-- The changes lead from `s` to `t`: each starts where the one before it ended, and is allowed. -/
def ConnectionState.Leads (s t : ConnectionState) : List (ConnectionState × ConnectionState) → Prop
  | [] => s = t
  | (previous, current) :: rest =>
    previous = s ∧ previous.canTransitionTo current = true ∧ Leads current t rest

/-- The engine answered the call with `Ok`. -/
def EngineCall.succeeded (c : EngineCall) : Bool := c.answer.isOk

/-- The state of the tracked connection with this id, or `disconnected`. -/
def ActivationManager.trackedState {E : Type} (m : ActivationManager E)
    (id : ActiveConnectionId) : ConnectionState :=
  ((m.active.find? fun active => active.id == id).map (·.state)).getD .disconnected

namespace History

variable {E : Type}

/-- The events of one connection. -/
def eventsOf (h : History E) (id : ActiveConnectionId) : List ConnectionEvent :=
  h.log.filter fun event => event.activeId == id

/-- The engine calls for one connection. -/
def callsOf (h : History E) (id : ActiveConnectionId) : List EngineCall :=
  h.manager.calls.filter fun call => call.activeId == id

end History

/-! ### Lives -/

/-- How far an active connection got, with its entry among the tracked ones. -/
inductive Life where
  | unborn
  | up (a : ActiveConnection)
  | stillborn (a : ActiveConnection) (err : ActivationError)
  | down (profileId : ProfileId)
  | broken (a : ActiveConnection) (err : ActivationError)

namespace Life

open ConnectionEvent

/-- The events that such a life leaves behind. -/
def events (id : ActiveConnectionId) : Life → List ConnectionEvent
  | unborn => []
  | up a => upLog id a.profile.id
  | stillborn a err => stillbornLog id a.profile.id (toString err)
  | down profileId => upLog id profileId ++ downLog id profileId
  | broken a err => upLog id a.profile.id ++ brokenLog id a.profile.id (toString err)

/-- The engine calls of such a life. -/
def calls (id : ActiveConnectionId) : Life → List EngineCall
  | unborn => []
  | up _ => [⟨id, .activate, .ok ()⟩]
  | stillborn _ err => [⟨id, .activate, .error err⟩]
  | down _ => [⟨id, .activate, .ok ()⟩, ⟨id, .deactivate, .ok ()⟩]
  | broken _ err => [⟨id, .activate, .ok ()⟩, ⟨id, .deactivate, .error err⟩]

/-- Where the connection is tracked. -/
def tracked : Life → List ActiveConnection
  | unborn | down _ => []
  | up a | stillborn a _ | broken a _ => [a]

/-- The state that the connection is in. -/
def state : Life → ConnectionState
  | unborn | down _ => .disconnected
  | up _ => .activated
  | stillborn _ _ | broken _ _ => .failed

variable (id : ActiveConnectionId) (life : Life)

/-- The state changes of a life lead from `disconnected` to the state it ends in. -/
theorem events_lead :
    ConnectionState.Leads .disconnected life.state ((life.events id).filterMap change) := by
  cases life with
  | unborn => exact rfl
  | up a => exact ⟨rfl, rfl, rfl, rfl, rfl, rfl, rfl, rfl, rfl⟩
  | stillborn a err => exact ⟨rfl, rfl, rfl, rfl, rfl⟩
  | down profileId => exact ⟨rfl, rfl, rfl, rfl, rfl, rfl, rfl, rfl, rfl, rfl, rfl, rfl, rfl⟩
  | broken a err => exact ⟨rfl, rfl, rfl, rfl, rfl, rfl, rfl, rfl, rfl, rfl, rfl, rfl, rfl⟩

/-- A life is reported as activated as often as its activation succeeded. -/
theorem countP_isActivated : (life.events id).countP isActivated =
    if (life.calls id).any fun c => c.op == .activate && c.succeeded then 1 else 0 := by
  cases life <;> rfl

/-- It is reported as deactivated as often as its deactivation succeeded. -/
theorem countP_isDeactivated : (life.events id).countP isDeactivated =
    if (life.calls id).any fun c => c.op == .deactivate && c.succeeded then 1 else 0 := by
  cases life <;> rfl

/-- It is reported as failed as often as a call failed. -/
theorem countP_isFailed : (life.events id).countP isFailed =
    if (life.calls id).any fun c => !c.succeeded then 1 else 0 := by
  cases life <;> rfl

/-- The `Activated` event comes before the `Deactivated` one. -/
theorem activated_first {l : List ConnectionEvent} (hl : l <+: life.events id)
    (h : l.any isDeactivated = true) : l.any isActivated = true := by
  have hwhole : (life.events id).any isDeactivated = true := by
    obtain ⟨event, hevent, hdown⟩ := List.any_eq_true.mp h
    exact List.any_eq_true.mpr ⟨event, hl.subset hevent, hdown⟩
  cases life with
  | unborn | up a | stillborn a err | broken a err => cases hwhole
  | down profileId =>
      obtain hup | hup := List.prefix_or_prefix_of_prefix hl (List.prefix_append _ _)
      · obtain ⟨event, hevent, hdown⟩ := List.any_eq_true.mp h
        have hearly : (upLog id profileId).any isDeactivated = true :=
          List.any_eq_true.mpr ⟨event, hup.subset hevent, hdown⟩
        cases hearly
      · exact List.any_eq_true.mpr ⟨.activated id profileId, hup.subset (by simp [upLog]), rfl⟩

end Life

/-! ### Runs -/

/-- The history `h` records this life of the connection `id`. -/
structure History.Lives {E : Type} (h : History E) (id : ActiveConnectionId) (life : Life) :
    Prop where
  events : h.eventsOf id = life.events id
  calls : h.callsOf id = life.calls id
  tracked : h.manager.active.filter (fun active => active.id == id) = life.tracked
  settled : ∀ a ∈ life.tracked, a.state = life.state
  born : h.manager.nextId ≤ id.value → life = .unborn

namespace History

open ActivationManager ConnectionEvent

variable {E : Type} {engine : ActivationEngine E} {h : History E} {id : ActiveConnectionId}
  {life : Life}

/-- A new manager has seen no life. -/
theorem lives_new (e : E) (id : ActiveConnectionId) :
    Lives ⟨ActivationManager.new e, []⟩ id .unborn :=
  ⟨rfl, rfl, rfl, by simp [Life.tracked], fun _ => rfl⟩

/-- `h'` is `h` with these events and calls added. -/
structure Adds (h h' : History E) (events : List ConnectionEvent) (calls : List EngineCall) :
    Prop where
  log : h'.log = h.log ++ events
  calls : h'.manager.calls = h.manager.calls ++ calls

variable {h' : History E} {events : List ConnectionEvent} {calls : List EngineCall}

/-- What is added about other connections leaves a life as it is. -/
theorem Lives.other (hlife : h.Lives id life) (hadds : Adds h h' events calls)
    (hevents : ∀ ev ∈ events, ev.activeId ≠ id) (hcalls : ∀ c ∈ calls, c.activeId ≠ id)
    (htracked : h'.manager.active.filter (fun active => active.id == id) =
      h.manager.active.filter fun active => active.id == id)
    (hnext : h.manager.nextId ≤ h'.manager.nextId) : h'.Lives id life where
  events := by
    have hnone : events.filter (fun ev => ev.activeId == id) = [] :=
      List.filter_eq_nil_iff.mpr fun ev hev => by simpa using hevents ev hev
    rw [← hlife.events, eventsOf, hadds.log, List.filter_append, hnone, List.append_nil]
    rfl
  calls := by
    have hnone : calls.filter (fun c => c.activeId == id) = [] :=
      List.filter_eq_nil_iff.mpr fun c hc => by simpa using hcalls c hc
    rw [← hlife.calls, callsOf, hadds.calls, List.filter_append, hnone, List.append_nil]
    rfl
  tracked := htracked.trans hlife.tracked
  settled := hlife.settled
  born := fun hborn => hlife.born (hnext.trans hborn)

/-- What is added about a connection moves its own life on. -/
theorem Lives.own {life' : Life} (hlife : h.Lives id life) (hadds : Adds h h' events calls)
    (hevents : ∀ ev ∈ events, ev.activeId = id) (hcalls : ∀ c ∈ calls, c.activeId = id)
    (hlog : life'.events id = life.events id ++ events)
    (hmade : life'.calls id = life.calls id ++ calls)
    (htracked : h'.manager.active.filter (fun active => active.id == id) = life'.tracked)
    (hsettled : ∀ a ∈ life'.tracked, a.state = life'.state)
    (hborn : ¬ h'.manager.nextId ≤ id.value) : h'.Lives id life' where
  events := by
    have hall : events.filter (fun ev => ev.activeId == id) = events :=
      List.filter_eq_self.mpr fun ev hev => by simp [hevents ev hev]
    rw [hlog, ← hlife.events, eventsOf, hadds.log, List.filter_append, hall]
    rfl
  calls := by
    have hall : calls.filter (fun c => c.activeId == id) = calls :=
      List.filter_eq_self.mpr fun c hc => by simp [hcalls c hc]
    rw [hmade, ← hlife.calls, callsOf, hadds.calls, List.filter_append, hall]
    rfl
  tracked := htracked
  settled := hsettled
  born := fun h => absurd h hborn

/-- An activated entry of a connection is its only one, and its life is up. -/
theorem Lives.up_of_activated {before after : List ActiveConnection} {a : ActiveConnection}
    (hlife : h.Lives a.id life) (hsplit : h.manager.active = before ++ a :: after)
    (hstate : a.state = .activated) :
    life = .up a ∧ before.filter (fun active => active.id == a.id) = [] ∧
      after.filter (fun active => active.id == a.id) = [] := by
  have htracked := hlife.tracked
  rw [hsplit, List.filter_append, List.filter_cons_of_pos (by simp)] at htracked
  have hone : ∀ b, life.tracked = [b] → a = b ∧
      before.filter (fun active => active.id == a.id) = [] ∧
      after.filter (fun active => active.id == a.id) = [] := by
    intro b hb
    rw [hb] at htracked
    obtain ⟨hbefore, hrest⟩ | ⟨hbefore, hrest⟩ := List.append_eq_singleton_iff.mp htracked
    · obtain ⟨hab, hafter⟩ := List.cons_eq_cons.mp hrest
      exact ⟨hab, hbefore, hafter⟩
    · cases hrest
  cases life with
  | unborn | down profileId => simp [Life.tracked] at htracked
  | up b =>
      obtain ⟨rfl, hbefore, hafter⟩ := hone b rfl
      exact ⟨rfl, hbefore, hafter⟩
  | stillborn b err | broken b err =>
      obtain ⟨rfl, -, -⟩ := hone b rfl
      rw [hlife.settled a (List.mem_singleton_self a)] at hstate
      cases hstate

/-- The log of an activation is about its own connection. -/
theorem upLog_activeId (profileId : ProfileId) :
    ∀ ev ∈ upLog id profileId, ev.activeId = id := by
  simp [upLog, activeId]

theorem stillbornLog_activeId (profileId : ProfileId) (reason : String) :
    ∀ ev ∈ stillbornLog id profileId reason, ev.activeId = id := by
  simp [stillbornLog, activeId]

theorem downLog_activeId (profileId : ProfileId) :
    ∀ ev ∈ downLog id profileId, ev.activeId = id := by
  simp [downLog, activeId]

theorem brokenLog_activeId (profileId : ProfileId) (reason : String) :
    ∀ ev ∈ brokenLog id profileId reason, ev.activeId = id := by
  simp [brokenLog, activeId]

/-- The life of a connection that is added with the next id begins. -/
theorem Lives.birth {e : E} {a : ActiveConnection} {c : EngineCall} (life' : Life)
    (hlife : h.Lives id life) (hid : a.id = ⟨h.manager.nextId⟩)
    (hevents : ∀ ev ∈ events, ev.activeId = a.id) (hcall : c.activeId = a.id)
    (hlog : life'.events a.id = events) (hmade : life'.calls a.id = [c])
    (htracked : life'.tracked = [a]) (hstate : a.state = life'.state) :
    ∃ life, Lives ⟨⟨e, h.manager.nextId + 1, h.manager.active ++ [a], h.manager.events ++ events,
      h.manager.calls ++ [c]⟩, h.drained ++ []⟩ id life := by
  have hadds : Adds h ⟨⟨e, h.manager.nextId + 1, h.manager.active ++ [a],
      h.manager.events ++ events, h.manager.calls ++ [c]⟩, h.drained ++ []⟩ events [c] :=
    ⟨by simp [log], rfl⟩
  by_cases hown : a.id = id
  · subst hown
    have hunborn : life = .unborn := hlife.born (by rw [hid])
    subst hunborn
    refine ⟨life', hlife.own hadds hevents (by simpa using hcall) hlog hmade ?_ ?_ ?_⟩
    · rw [List.filter_append, hlife.tracked, htracked]
      simp [Life.tracked]
    · rw [htracked]
      simpa using hstate
    · rw [hid]
      exact Nat.not_succ_le_self _
  · refine ⟨life, hlife.other hadds (fun ev hev => ?_) (fun d hd => ?_) ?_ (Nat.le_succ _)⟩
    · rwa [hevents ev hev]
    · rwa [List.mem_singleton.mp hd, hcall]
    · rw [List.filter_append, List.filter_cons_of_neg (by simpa using hown)]
      simp

/-- The life of a connection ends, or breaks, when `rest` takes the place of its entry. -/
theorem Lives.departure {e : E} {before after : List ActiveConnection} {a : ActiveConnection}
    {c : EngineCall} (rest : List ActiveConnection) (life' : Life) (hlife : h.Lives id life)
    (hsplit : h.manager.active = before ++ a :: after) (hstate : a.state = .activated)
    (hrest : ∀ b ∈ rest, b.id = a.id) (hevents : ∀ ev ∈ events, ev.activeId = a.id)
    (hcall : c.activeId = a.id)
    (hlog : life'.events a.id = (Life.up a).events a.id ++ events)
    (hmade : life'.calls a.id = (Life.up a).calls a.id ++ [c])
    (htracked : life'.tracked = rest) (hsettled : ∀ b ∈ rest, b.state = life'.state) :
    ∃ life, Lives ⟨⟨e, h.manager.nextId, before ++ (rest ++ after), h.manager.events ++ events,
      h.manager.calls ++ [c]⟩, h.drained ++ []⟩ id life := by
  have hadds : Adds h ⟨⟨e, h.manager.nextId, before ++ (rest ++ after),
      h.manager.events ++ events, h.manager.calls ++ [c]⟩, h.drained ++ []⟩ events [c] :=
    ⟨by simp [log], rfl⟩
  -- ids are distinct, so the entries beside it are of other connections
  by_cases hown : a.id = id
  · subst hown
    obtain ⟨rfl, hbefore, hafter⟩ := hlife.up_of_activated hsplit hstate
    refine ⟨life', hlife.own hadds hevents (by simpa using hcall) hlog hmade ?_ ?_ ?_⟩
    · rw [List.filter_append, List.filter_append, hbefore, hafter, htracked,
        List.filter_eq_self.mpr fun b hb => by simp [hrest b hb]]
      simp
    · rwa [htracked]
    · intro hborn
      cases hlife.born hborn
  · refine ⟨life, hlife.other hadds (fun ev hev => ?_) (fun d hd => ?_) ?_ (Nat.le_refl _)⟩
    · rwa [hevents ev hev]
    · rwa [List.mem_singleton.mp hd, hcall]
    · have hnone : rest.filter (fun active => active.id == id) = [] :=
        List.filter_eq_nil_iff.mpr fun b hb => by simpa [hrest b hb] using hown
      rw [hsplit, List.filter_append, List.filter_append, hnone, List.filter_append,
        List.filter_cons_of_neg (by simpa using hown), List.nil_append]

/-- A call moves a life on, or leaves it. -/
theorem Lives.moves {op : Operation} {r : Except ActivationError Reply} {m' : ActivationManager E}
    (hlife : h.Lives id life) (hmove : Moves engine h.manager op r m') :
    ∃ life', Lives ⟨m', h.drained ++ Reply.drainedBy r⟩ id life' := by
  cases hmove with
  | refused hown =>
      have hadds : Adds h ⟨h.manager, h.drained ++ []⟩ [] [] := ⟨by simp [log], by simp⟩
      exact ⟨life, hlife.other hadds (by simp) (by simp) rfl (Nat.le_refl _)⟩
  | drained =>
      have hadds : Adds h ⟨{ h.manager with events := [] }, h.drained ++ h.manager.events⟩ [] [] :=
        ⟨by simp [log], by simp⟩
      exact ⟨life, hlife.other hadds (by simp) (by simp) rfl (Nat.le_refl _)⟩
  | @activated profile device outcome e hfresh hcall =>
      exact Lives.birth (.up _) hlife rfl (upLog_activeId _) rfl rfl rfl rfl rfl
  | @stillborn profile device err e hfresh hcall =>
      exact Lives.birth (.stillborn _ err) hlife rfl (stillbornLog_activeId _ _) rfl rfl rfl rfl rfl
  | @deactivated before after a e hsplit hstate hcall =>
      exact Lives.departure [] (.down a.profile.id) hlife hsplit hstate (by simp)
        (downLog_activeId _) rfl rfl rfl rfl (by simp)
  | @broken before after a err e hsplit hstate hcall =>
      exact Lives.departure [{ a with state := .failed }] (.broken { a with state := .failed } err)
        hlife hsplit hstate (by simp) (brokenLog_activeId _ _) rfl rfl rfl rfl (by simp [Life.state])

/-- After every run, every id has one of the lives. -/
theorem run_lives (engine : ActivationEngine E) (e : E) (ops : List Operation)
    (id : ActiveConnectionId) : ∃ life, (run engine e ops).Lives id life :=
  run_induction (C := fun _ => True) (P := fun h => ∃ life, h.Lives id life)
    ⟨.unborn, lives_new e id⟩ (fun _ _ _ _ _ ⟨_, hlife⟩ hmove => hlife.moves hmove)
    fun _ _ => trivial

/-- The state that is tracked is the one of the life. -/
theorem Lives.trackedState (hlife : h.Lives id life) : h.manager.trackedState id = life.state := by
  have hfind : h.manager.active.find? (fun active => active.id == id) = life.tracked.head? := by
    rw [← hlife.tracked, List.head?_filter]
  rw [ActivationManager.trackedState, hfind]
  cases life with
  | unborn | down profileId => rfl
  | up a | stillborn a err | broken a err => exact hlife.settled a (List.mem_singleton_self a)

/-- **Event log.**  What a run reports about an active connection, drained or pending: the changes
lead from `disconnected` to the state it is tracked in, each one allowed; there is one `Activated`
if the engine's activation of it succeeded, one `Deactivated` if its deactivation did, one `Failed`
if one of them failed, and none otherwise; and `Activated` comes before `Deactivated`. -/
theorem event_log (engine : ActivationEngine E) (e : E) (ops : List Operation)
    (id : ActiveConnectionId) :
    let h := run engine e ops
    ConnectionState.Leads .disconnected (h.manager.trackedState id)
      ((h.eventsOf id).filterMap change) ∧
    (h.eventsOf id).countP isActivated =
      (if (h.callsOf id).any fun c => c.op == .activate && c.succeeded then 1 else 0) ∧
    (h.eventsOf id).countP isDeactivated =
      (if (h.callsOf id).any fun c => c.op == .deactivate && c.succeeded then 1 else 0) ∧
    (h.eventsOf id).countP isFailed =
      (if (h.callsOf id).any fun c => !c.succeeded then 1 else 0) ∧
    ∀ l, l <+: h.eventsOf id → l.any isDeactivated = true → l.any isActivated = true := by
  intro h
  obtain ⟨life, hlife⟩ := run_lives engine e ops id
  rw [hlife.trackedState, hlife.events, hlife.calls]
  exact ⟨life.events_lead id, life.countP_isActivated id, life.countP_isDeactivated id,
    life.countP_isFailed id, fun l hl => life.activated_first id hl⟩

end History

end NetworkManager
