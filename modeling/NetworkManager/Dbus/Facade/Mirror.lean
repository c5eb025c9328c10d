import NetworkManager.Connection.Activation.Heads
import NetworkManager.Dbus.Facade.Atomicity
import NetworkManager.Dbus.Facade.Moves

/-!
# Dbus — Facade — Mirror

The objects on the bus and what they stand for: an object for every tracked connection and for
every stored profile (`Mirrors`), and a settings object behind every tracked connection
(`Referenced`).

Both hold once everything has been registered, and are lost only in the ways that
`Shared.bus_mirrors_domain_iff` and `Shared.connections_referenced_iff` list.
-/

namespace NetworkManager

open Effects Shared ActivationManager

variable {S E V : Type}

/-! ### The active connections -/

namespace ActivationManager

variable {engine : ActivationEngine E} {m m' : ActivationManager E} {op : Operation}
  {r : Except ActivationError Reply}

/-- The ids of the connections that are tracked. -/
def activeIds (m : ActivationManager E) : Finset ActiveConnectionId :=
  (m.active.map (·.id)).toFinset

/-- The ids are those of tracked connections. -/
theorem mem_activeIds {id : ActiveConnectionId} :
    id ∈ m.activeIds ↔ ∃ a ∈ m.active, a.id = id := by
  simp [activeIds]

/-- The connections that end with two lists of events end with one of them. -/
theorem ended_append (events events' : List ConnectionEvent) :
    ended (events ++ events') = ended events ∪ ended events' := by
  rw [ended, List.filterMap_append, List.toFinset_append]
  rfl

/-- The connections whose end is still to be mirrored are gone, and their ids are not used again. -/
def EndsGone (m : ActivationManager E) : Prop :=
  ∀ id ∈ ended m.events, id.value < m.nextId ∧ id ∉ m.activeIds

/-- Without events nothing has ended. -/
theorem EndsGone.drained (m : ActivationManager E) : EndsGone { m with events := [] } := by
  simp [EndsGone, ended]

/-- A connection that comes up ends nothing. -/
theorem EndsGone.append {a : ActiveConnection} {e : E} {events : List ConnectionEvent}
    {calls : List EngineCall} (h : m.EndsGone) (hid : a.id = ⟨m.nextId⟩)
    (hevents : ended events = ∅) :
    EndsGone ⟨e, m.nextId + 1, m.active ++ [a], m.events ++ events, calls⟩ := by
  intro id hmem
  rw [ended_append, hevents, Finset.union_empty] at hmem
  obtain ⟨hlt, hgone⟩ := h id hmem
  refine ⟨Nat.lt_succ_of_lt hlt, fun htracked => ?_⟩
  obtain ⟨b, hb, rfl⟩ := mem_activeIds.mp htracked
  obtain hb | hb := List.mem_append.mp hb
  · exact hgone (mem_activeIds.mpr ⟨b, hb, rfl⟩)
  · rw [List.mem_singleton.mp hb, hid] at hlt
    exact Nat.lt_irrefl _ hlt

/-- A connection that comes up adds its id. -/
theorem activeIds_append (a : ActiveConnection) (active : List ActiveConnection) :
    ((active ++ [a]).map (·.id)).toFinset = insert a.id (active.map (·.id)).toFinset := by
  ext id
  simp

/-- A connection that goes takes its id along. -/
theorem activeIds_remove {before after : List ActiveConnection} {a : ActiveConnection}
    (hdistinct : ((before ++ a :: after).map (·.id)).Nodup) :
    ((before ++ after).map (·.id)).toFinset =
      ((before ++ a :: after).map (·.id)).toFinset.erase a.id := by
  ext id
  simp only [List.mem_toFinset, List.mem_map, Finset.mem_erase]
  constructor
  · rintro ⟨b, hb, rfl⟩
    exact ⟨id_ne_of_split hdistinct b hb, b, List.mem_append.mpr
      ((List.mem_append.mp hb).imp_right (List.mem_cons_of_mem a)), rfl⟩
  · rintro ⟨hne, b, hb, rfl⟩
    obtain hb | rfl | hb : b ∈ before ∨ b = a ∨ b ∈ after := by simpa using hb
    · exact ⟨b, List.mem_append_left _ hb, rfl⟩
    · exact absurd rfl hne
    · exact ⟨b, List.mem_append_right _ hb, rfl⟩

/-- Every move keeps the ended connections gone. -/
theorem EndsGone.moves (hm : m.Tracks) (h : m.EndsGone) (hmove : Moves engine m op r m') :
    m'.EndsGone := by
  cases hmove with
  | refused hown => exact h
  | drained => exact .drained m
  | activated hfresh hcall hoffers => exact h.append rfl rfl
  | stillborn hfresh hcall hoffers => exact h.append rfl rfl
  | @deactivated before after a e hsplit hstate hcall =>
      have hdistinct := hm.distinct
      rw [hsplit] at hdistinct
      intro id hmem
      rw [ended_append] at hmem
      -- ended before, or by this move
      obtain hmem | hmem := Finset.mem_union.mp hmem
      · obtain ⟨hlt, hgone⟩ := h id hmem
        refine ⟨hlt, fun htracked => hgone ?_⟩
        rw [activeIds, hsplit]
        rw [activeIds, activeIds_remove hdistinct] at htracked
        exact Finset.mem_of_mem_erase htracked
      · obtain rfl : a.id = id := by simpa [ended, endedBy, ConnectionEvent.downLog] using hmem
        refine ⟨hm.below a (by rw [hsplit]; simp), ?_⟩
        rw [activeIds, activeIds_remove hdistinct]
        exact Finset.notMem_erase _ _
  | @broken before after a err e hsplit hstate hcall =>
      intro id hmem
      rw [ended_append] at hmem
      -- a connection that breaks has not ended
      have hnone : ended (ConnectionEvent.brokenLog a.id a.profile.id (toString err)) = ∅ := rfl
      rw [hnone, Finset.union_empty] at hmem
      obtain ⟨hlt, hgone⟩ := h id hmem
      refine ⟨hlt, ?_⟩
      rw [activeIds, hsplit] at hgone
      simpa [activeIds] using hgone

/-- A set without the connections whose end has been reported. -/
theorem EndsGone.sdiff (h : m.EndsGone) : m.activeIds \ ended m.events = m.activeIds :=
  Finset.sdiff_eq_self_of_disjoint (Finset.disjoint_right.mpr fun id hid => (h id hid).2)

/-- What the runs keep of the manager. -/
def Settled (m : ActivationManager E) : Prop := m.Tracks ∧ m.EndsGone

/-- Every move leaves the manager settled. -/
theorem Settled.moves (h : m.Settled) (hmove : Moves engine m op r m') : m'.Settled :=
  ⟨h.1.moves hmove, h.2.moves h.1 hmove⟩

/-- Draining the events leaves the manager settled. -/
theorem Settled.drained (h : m.Settled) : Settled { m with events := [] } :=
  ⟨⟨h.1.distinct, h.1.below, h.1.settled⟩, .drained m⟩

/-- The engine brings up whatever it is asked to. -/
def BroughtUp (calls : List EngineCall) : Prop :=
  ∀ c ∈ calls, c.op = .activate → c.answer = .ok ()

/-- A move that returns brought up whatever it asked for. -/
theorem Moves.broughtUp {reply : Reply} (hmove : Moves engine m op (.ok reply) m') :
    BroughtUp (m'.calls.drop m.calls.length) := by
  cases hmove <;> simp [BroughtUp]

/-- An activation that returns adds one id. -/
theorem Moves.activeIds_connected {a : ActiveConnection}
    (hmove : Moves engine m op (.ok (.connected a)) m') :
    m'.activeIds = insert a.id m.activeIds := by
  cases hmove with
  | activated hfresh hcall hoffers => exact activeIds_append _ m.active

/-- A deactivation takes the ids that its events end. -/
theorem Moves.activeIds_done (hm : m.Settled) (hmove : Moves engine m op (.ok .done) m') :
    m'.activeIds = m.activeIds \ ended m'.events := by
  cases hmove with
  | @deactivated before after a e hsplit hstate hcall =>
      have hdistinct := hm.1.distinct
      rw [hsplit] at hdistinct
      have hended : ended (ConnectionEvent.downLog a.id a.profile.id) = {a.id} := rfl
      show ((before ++ after).map (·.id)).toFinset = m.activeIds \ ended (m.events ++ _)
      rw [ended_append, hended, Finset.sdiff_union_distrib, hm.2.sdiff,
        Finset.sdiff_singleton_eq_erase, activeIds_remove hdistinct, activeIds, hsplit]
      exact (Finset.inter_eq_right.mpr (Finset.erase_subset _ _)).symm

/-- A call that fails changes the tracked ids exactly if an activation was refused. -/
theorem Moves.activeIds_error_iff (hm : m.Settled) {err : ActivationError}
    (hmove : Moves engine m op (.error err) m') :
    m.activeIds = m'.activeIds ↔ BroughtUp (m'.calls.drop m.calls.length) := by
  cases hmove with
  | refused hown => simp [BroughtUp]
  | stillborn hfresh hcall hoffers =>
      refine iff_of_false (fun heq => ?_) (by simp [BroughtUp])
      have hmem : (⟨m.nextId⟩ : ActiveConnectionId) ∈ m.activeIds := by
        rw [heq]
        exact mem_activeIds.mpr ⟨_, List.mem_append_right _ (List.mem_singleton_self _), rfl⟩
      obtain ⟨b, hb, hid⟩ := mem_activeIds.mp hmem
      have hlt := hm.1.below b hb
      rw [hid] at hlt
      exact Nat.lt_irrefl _ hlt
  | broken hsplit hstate hcall =>
      refine iff_of_true ?_ (by simp [BroughtUp])
      simp [activeIds, hsplit]

end ActivationManager

section

variable {engine : ActivationEngine E} {store : ProfileStore}
  {before later : ActivationManager E × Finset ActiveConnectionId}

/-- What a call leaves of the manager is settled. -/
theorem Manages.settled (h : Manages engine store before later) (hsettled : before.1.Settled) :
    later.1.Settled := by
  cases h with
  | left => exact hsettled
  | failed huses hmove => exact hsettled.moves hmove
  | connected huses hmove => exact (hsettled.moves hmove).drained
  | disconnected huses hmove => exact (hsettled.moves hmove).drained

/-- The objects keep up with the manager as long as no activation is refused. -/
theorem Manages.mirrors_iff (h : Manages engine store before later) (hsettled : before.1.Settled)
    (hids : before.2 = before.1.activeIds) : later.2 = later.1.activeIds ↔
      BroughtUp (later.1.calls.drop before.1.calls.length) := by
  cases h with
  | left => simpa [BroughtUp] using hids
  | failed huses hmove =>
      rw [hids]
      exact hmove.activeIds_error_iff hsettled
  | connected huses hmove =>
      refine iff_of_true ?_ hmove.broughtUp
      dsimp only
      rw [hids, ← hmove.activeIds_connected]
      exact (hsettled.moves hmove).2.sdiff
  | disconnected huses hmove =>
      refine iff_of_true ?_ hmove.broughtUp
      dsimp only
      rw [hids]
      exact (hmove.activeIds_done hsettled).symm

end

/-! ### The stored profiles -/

/-- The ids of the connection objects. -/
def objectIds (connections : AList fun _ : ProfileId => String) : Finset ProfileId :=
  connections.keys.toFinset

/-- The ids with an object are those with a path. -/
theorem mem_objectIds {connections : AList fun _ : ProfileId => String} {id : ProfileId} :
    id ∈ objectIds connections ↔ id ∈ connections := by
  rw [objectIds, List.mem_toFinset, AList.mem_keys]

/-- A store call that succeeds changes the objects as it changes the store. -/
theorem objectIds_register (w : StoreCall) (connections : AList fun _ : ProfileId => String) :
    objectIds (w.register connections) = w.serve (objectIds connections) := by
  cases w with
  | list | get id | update profile => rfl
  | create profile =>
      ext id
      simp [StoreCall.register, StoreCall.serve, mem_objectIds]
  | delete id' =>
      ext id
      simp [StoreCall.register, StoreCall.serve, mem_objectIds]

/-- Every connection object is at the path that its profile's id stands for. -/
def Named (connections : AList fun _ : ProfileId => String) : Prop :=
  ∀ id path, connections.lookup id = some path → path = settingsConnectionPath (stableUuid id)

/-- Paths are registered under the names that their ids make. -/
theorem Named.register {connections : AList fun _ : ProfileId => String} (h : Named connections)
    (w : StoreCall) : Named (w.register connections) := by
  cases w with
  | list | get id | update profile => exact h
  | create profile =>
      intro id path hpath
      by_cases hid : id = profile.id
      · rw [hid, StoreCall.register, AList.lookup_insert] at hpath
        rw [hid]
        exact (Option.some.inj hpath).symm
      · exact h id path ((AList.lookup_insert_ne hid).symm.trans hpath)
  | delete id' =>
      intro id path hpath
      by_cases hid : id = id'
      · rw [hid, StoreCall.register, AList.lookup_erase] at hpath
        cases hpath
      · exact h id path ((AList.lookup_erase_ne hid).symm.trans hpath)

section

variable {svc : Services S E V} (index : svc.store.Index) {w : Option StoreCall}
  {settings : S × AList fun _ : ProfileId => String}

/-- If the store refuses the call, it still has the profiles that it had. -/
def LeavesIds (w : Option StoreCall) (profiles : S) : Prop :=
  ∀ e ∈ w, ∀ err profiles', svc.store.call e profiles = .error err profiles' →
    index.ids profiles' = index.ids profiles

/-- A store call keeps the store valid. -/
theorem valid_stored (hvalid : index.Valid settings.1) :
    index.Valid (svc.stored w settings).1 := by
  cases w with
  | none => exact hvalid
  | some e =>
      have hkeeps := index.keeps e settings.1 hvalid
      rw [Services.stored]
      cases hcall : svc.store.call e settings.1 with
      | ok answer profiles => rwa [after_of_ok hcall] at hkeeps
      | error err profiles => rwa [after_of_error hcall] at hkeeps

/-- A store call keeps the paths named by their ids. -/
theorem named_stored (hnamed : Named settings.2) : Named (svc.stored w settings).2 := by
  cases w with
  | none => exact hnamed
  | some e =>
      rw [Services.stored]
      cases svc.store.call e settings.1 with
      | ok answer profiles => exact hnamed.register e
      | error err profiles => exact hnamed

/-- The objects keep up with the store as long as it leaves its ids when it refuses a call. -/
theorem objectIds_stored_iff (hvalid : index.Valid settings.1)
    (hids : objectIds settings.2 = index.ids settings.1) :
    objectIds (svc.stored w settings).2 = index.ids (svc.stored w settings).1 ↔
      LeavesIds index w settings.1 := by
  cases w with
  | none => exact iff_of_true hids (by simp [LeavesIds])
  | some e =>
      rw [Services.stored]
      cases hcall : svc.store.call e settings.1 with
      | ok answer profiles =>
          refine iff_of_true ?_ (by simp [LeavesIds, hcall])
          rw [index.serves hvalid hcall, ← hids, ← objectIds_register]
      | error err profiles =>
          simp only [hids, LeavesIds, Option.mem_def, Option.some.injEq, forall_eq', hcall,
            EStateM.Result.error.injEq]
          exact ⟨by rintro h _ _ ⟨rfl, rfl⟩; exact h.symm, fun h => (h err profiles ⟨rfl, rfl⟩).symm⟩

end

/-! ### Registration -/

section

variable {svc : Services S E V} {env : Environment} {s t : Shared S E}

/-- The object of a device leaves the core. -/
theorem registerDeviceObject_keeps (view : DeviceView) :
    Keeps (Same (core (S := S) (E := E))) (registerDeviceObject env view) :=
  (register_keeps env _).bind fun _ => Keeps.bind (.modify fun _ => rfl) fun _ => .modify fun _ => rfl

/-- The object of an access point leaves the core. -/
theorem registerAccessPointObject_keeps (bssid : Bssid) :
    Keeps (Same (core (S := S) (E := E))) (registerAccessPointObject env bssid) :=
  (Keeps.ofExcept _).bind fun _ => (register_keeps env _).bind fun _ => .modify fun _ => rfl

/-- The object of a connection is recorded, and nothing else of the core changes. -/
theorem registerConnectionObject_core (s : Shared S E) (profile : ConnectionProfile)
    (h : registerConnectionObject env profile s = .ok () t) :
    t.connections = StoreCall.register (.create profile) s.connections ∧
      t.daemon = s.daemon ∧ t.activeConnections = s.activeConnections := by
  obtain ⟨⟨⟩, u, hregister, ⟨⟩⟩ := bind_eq_ok.mp h
  obtain ⟨hdaemon, -, hconnections, hactive⟩ :=
    core_eq.mp ((register_keeps env _).of_ok hregister)
  exact ⟨congrArg (AList.insert profile.id _) hconnections, hdaemon, hactive⟩

/-- The object of an active connection is recorded, and nothing else of the core changes. -/
theorem registerActiveConnectionObject_core (s : Shared S E) (active : ActiveConnection)
    (h : registerActiveConnectionObject env active s = .ok () t) :
    t.activeConnections = insert active.id s.activeConnections ∧
      t.daemon = s.daemon ∧ t.connections = s.connections := by
  obtain ⟨⟨⟩, u, hregister, ⟨⟩⟩ := bind_eq_ok.mp h
  obtain ⟨hdaemon, -, hconnections, hactive⟩ :=
    core_eq.mp ((register_keeps env _).of_ok hregister)
  exact ⟨congrArg (insert active.id) hactive, hdaemon, hconnections⟩

/-- The objects of connections once all of them have been registered. -/
theorem registerAll_ok {d : Daemon S E} (h : registerAll env svc { daemon := d } = .ok () t) :
    ∃ profiles, d.listProfiles svc.store = .ok profiles ∧ t.daemon = d ∧
      t.connections = profiles.foldl (fun c p => StoreCall.register (.create p) c) ∅ ∧
      t.activeConnections = d.activeConnections.foldl (fun ids a => insert a.id ids) ∅ := by
  rw [registerAll, get_bind] at h
  obtain ⟨devices, s₁, hdevices, h⟩ := bind_eq_ok.mp h
  obtain ⟨-, rfl⟩ := ofExcept_eq_ok.mp hdevices
  obtain ⟨profiles, s₂, hprofiles, h⟩ := bind_eq_ok.mp h
  obtain ⟨hlist, rfl⟩ := ofExcept_eq_ok.mp hprofiles
  obtain ⟨accessPoints, s₃, haccessPoints, h⟩ := bind_eq_ok.mp h
  obtain ⟨-, rfl⟩ := ofExcept_eq_ok.mp haccessPoints
  obtain ⟨⟨⟩, s₄, hdeviceObjects, h⟩ := bind_eq_ok.mp h
  obtain ⟨⟨⟩, s₅, hprofileObjects, h⟩ := bind_eq_ok.mp h
  obtain ⟨⟨⟩, s₆, hactiveObjects, haccessPointObjects⟩ := bind_eq_ok.mp h
  -- each of the four loops registers objects of its own kind, and leaves the other sets
  obtain ⟨hdaemon₄, -, hconnections₄, hactive₄⟩ := core_eq.mp
    ((Keeps.forM fun _ _ => registerDeviceObject_keeps _).of_ok hdeviceObjects)
  obtain ⟨hdaemon₇, -, hconnections₇, hactive₇⟩ := core_eq.mp
    ((Keeps.forM fun _ _ => registerAccessPointObject_keeps _).of_ok haccessPointObjects)
  have hdaemon₅ : s₅.daemon = s₄.daemon := by
    simpa using forM_fold (g := Shared.daemon) (k := fun d _ => d)
      (fun p s t h => (registerConnectionObject_core s p h).2.1) hprofileObjects
  have hactive₅ : s₅.activeConnections = s₄.activeConnections := by
    simpa using forM_fold (g := Shared.activeConnections) (k := fun ids _ => ids)
      (fun p s t h => (registerConnectionObject_core s p h).2.2) hprofileObjects
  have hdaemon₆ : s₆.daemon = s₅.daemon := by
    simpa using forM_fold (g := Shared.daemon) (k := fun d _ => d)
      (fun a s t h => (registerActiveConnectionObject_core s a h).2.1) hactiveObjects
  have hconnections₆ : s₆.connections = s₅.connections := by
    simpa using forM_fold (g := Shared.connections) (k := fun c _ => c)
      (fun a s t h => (registerActiveConnectionObject_core s a h).2.2) hactiveObjects
  have hconnections₅ := forM_fold (g := Shared.connections)
    (k := fun c p => StoreCall.register (.create p) c)
    (fun p s t h => (registerConnectionObject_core s p h).1) hprofileObjects
  have hactive₆ := forM_fold (g := Shared.activeConnections) (k := fun ids a => insert a.id ids)
    (fun a s t h => (registerActiveConnectionObject_core s a h).1) hactiveObjects
  refine ⟨profiles, ?_, ?_, ?_, ?_⟩
  · cases hlisted : d.listProfiles svc.store with
    | ok listed =>
        rw [hlisted] at hlist
        cases hlist
        rfl
    | error err =>
        rw [hlisted] at hlist
        cases hlist
  · rw [hdaemon₇, hdaemon₆, hdaemon₅, hdaemon₄]
  · rw [hconnections₇, hconnections₆, hconnections₅, hconnections₄]
  · rw [hactive₇, hactive₆, hactive₅, hactive₄]

/-! ### Runs -/

/-- There is an object for every tracked connection and for every stored profile, and no other. -/
def Shared.Mirrors (index : svc.store.Index) (s : Shared S E) : Prop :=
  s.activeConnections = s.daemon.activation.activeIds ∧
    objectIds s.connections = index.ids s.daemon.profiles

/-- The engine calls that a call makes, with the engine's answers. -/
def Shared.engineCalls (svc : Services S E V) (s : Shared S E) (call : MethodCall V) :
    List EngineCall :=
  (step svc s call).daemon.activation.calls.drop s.daemon.activation.calls.length

/-- What the calls keep behind the facade. -/
def Shared.Sound (index : svc.store.Index) (s : Shared S E) : Prop :=
  s.daemon.activation.Settled ∧ index.Valid s.daemon.profiles ∧ Named s.connections

/-- Every call keeps the state sound. -/
theorem sound_step (index : svc.store.Index) {call : MethodCall V} (hup : call.env.BusUp)
    (h : s.Sound index) : (step svc s call).Sound index := by
  obtain ⟨hsettled, hvalid, hnamed⟩ := h
  have hsettings : (step svc s call).settings = svc.stored (call.writes svc s) s.settings :=
    step_settings hup s
  refine ⟨(step_activity hup s).settled hsettled, ?_, ?_⟩
  · rw [show (step svc s call).daemon.profiles = _ from congrArg Prod.fst hsettings]
    exact valid_stored index hvalid
  · rw [show (step svc s call).connections = _ from congrArg Prod.snd hsettings]
    exact named_stored hnamed

/-- The stored profiles all get an object at the start. -/
theorem objectIds_registered (profiles : List ConnectionProfile)
    (connections : AList fun _ : ProfileId => String) :
    objectIds (profiles.foldl (fun c p => StoreCall.register (.create p) c) connections) =
      objectIds connections ∪ (profiles.map (·.id)).toFinset := by
  induction profiles generalizing connections with
  | nil => simp
  | cons p profiles ih =>
      rw [List.foldl_cons, ih, objectIds_register]
      ext id
      simp [StoreCall.serve]

/-- And under the names that their ids make. -/
theorem named_registered (profiles : List ConnectionProfile)
    {connections : AList fun _ : ProfileId => String} (h : Named connections) :
    Named (profiles.foldl (fun c p => StoreCall.register (.create p) c) connections) := by
  induction profiles generalizing connections with
  | nil => exact h
  | cons p profiles ih => exact ih (h.register (.create p))

/-- The tracked connections all get an object at the start. -/
theorem activeIds_registered (active : List ActiveConnection) (ids : Finset ActiveConnectionId) :
    active.foldl (fun ids a => insert a.id ids) ids = ids ∪ (active.map (·.id)).toFinset := by
  induction active generalizing ids with
  | nil => simp
  | cons a active ih =>
      rw [List.foldl_cons, ih]
      ext id
      simp

/-- Everything is mirrored once it has been registered. -/
theorem mirrors_registered (index : svc.store.Index) {d : Daemon S E} (hd : d.activation.Settled)
    (hvalid : index.Valid d.profiles) (h : registerAll env svc { daemon := d } = .ok () t) :
    t.Sound index ∧ t.Mirrors index := by
  obtain ⟨profiles, hlist, hdaemon, hconnections, hactive⟩ := registerAll_ok h
  have hids : (profiles.map (·.id)).toFinset = index.ids d.profiles := by
    cases hrun : svc.store.list d.profiles with
    | ok listed s =>
        rw [Daemon.listProfiles, ProfileStoreOps.view, settle_of_ok hrun] at hlist
        cases hlist
        exact index.list hvalid hrun
    | error err s =>
        rw [Daemon.listProfiles, ProfileStoreOps.view, settle_of_error hrun] at hlist
        cases hlist
  refine ⟨⟨?_, ?_, ?_⟩, ?_, ?_⟩
  · rwa [hdaemon]
  · rwa [hdaemon]
  · rw [hconnections]
    exact named_registered profiles (by simp [Named])
  · rw [hactive, hdaemon, activeIds_registered, Finset.empty_union]
    rfl
  · rw [hconnections, hdaemon, objectIds_registered, hids]
    exact Finset.empty_union _

/-- **A call keeps the mirror exactly if** it brings up whatever it asks for and leaves the ids
where its store call fails. -/
theorem mirrors_step_iff (index : svc.store.Index) {call : MethodCall V} (hup : call.env.BusUp)
    (hsound : s.Sound index) (h : s.Mirrors index) : (step svc s call).Mirrors index ↔
      BroughtUp (engineCalls svc s call) ∧ LeavesIds index (call.writes svc s) s.daemon.profiles := by
  have hsettings : (step svc s call).settings = svc.stored (call.writes svc s) s.settings :=
    step_settings hup s
  refine and_congr ((step_activity hup s).mirrors_iff hsound.1 h.1) ?_
  rw [show (step svc s call).connections = _ from congrArg Prod.snd hsettings,
    show (step svc s call).daemon.profiles = _ from congrArg Prod.fst hsettings]
  exact objectIds_stored_iff index hsound.2.1 h.2

/-- Between registration and the next one, the facade stays in a sound state. -/
theorem always_sound (index : svc.store.Index) (h : s.Sound index) {calls : List (MethodCall V)}
    (hup : ∀ call ∈ calls, call.env.BusUp) : Runs.Always (step svc) (Sound index) s calls :=
  .of_invariant h fun _ call hcall hs => sound_step index (hup call hcall) hs

end

/-- After every run the manager is settled. -/
theorem History.run_settled (engine : ActivationEngine E) (e : E) (ops : List Operation) :
    (run engine e ops).manager.Settled :=
  run_induction (C := fun _ => True) (P := fun h => h.manager.Settled)
    ⟨tracks_new e, .drained (ActivationManager.new e)⟩ (fun _ _ _ _ _ h hmove => h.moves hmove)
    fun _ _ => trivial

/-- **Objects and domain.**  From the registration of everything on, the objects of active
connections are those of the tracked ones and the connection objects those of the stored profiles,
after every call of a run, exactly if in no call an activation is refused by the engine or a call of
the store that it refuses changes the ids that it has. -/
theorem Shared.bus_mirrors_domain_iff (svc : Services S E V) (index : svc.store.Index)
    (env : Environment) (e : E) (ops : List Operation) (d : Daemon S E)
    (hd : d.activation = (History.run svc.engine e ops).manager) (hvalid : index.Valid d.profiles)
    (s : Shared S E) (hregister : registerAll env svc { daemon := d } = .ok () s)
    (calls : List (MethodCall V)) (hup : ∀ call ∈ calls, call.env.BusUp) :
    Runs.Always (step svc) (Mirrors index) s calls ↔
      Runs.Throughout (step svc) (fun s call => BroughtUp (engineCalls svc s call) ∧
        LeavesIds index (call.writes svc s) s.daemon.profiles) s calls := by
  obtain ⟨hsound, hmirrors⟩ := mirrors_registered index
    (by rw [hd]; exact History.run_settled svc.engine e ops) hvalid hregister
  exact Runs.always_iff (always_sound index hsound hup) hmirrors
    fun s call hcall hsound hs => mirrors_step_iff index (hup call hcall) hsound hs

/-! ### A refused activation -/

/-- What `AddAndActivateConnection` makes of the manager once the store has created the profile: the
activation of the profile that the store answers with. -/
theorem addAndActivate_manager {svc : Services S E V} {env : Environment}
    {settings : SettingsDict V} {device : String} {s : Shared S E} {p profile : ConnectionProfile}
    {profiles : S} {info : DeviceInfo} (hup : env.BusUp) (hp : svc.profileOf settings = .ok p)
    (hcreate : svc.store.create p s.daemon.profiles = .ok () profiles)
    (hinfo : RootIface.deviceInfo env device = .ok info)
    (hget : (svc.store.view profiles).get p.id = .ok profile)
    (hmatch : profile.matches info = true) (hfresh : s.daemon.activation.isActive p.id = false) :
    let t := after (RootIface.addAndActivate svc env settings device) s
    let m := after (activateMatching svc.engine profile info) s.daemon.activation
    t.daemon.activation.active = m.active ∧ t.daemon.activation.calls = m.calls := by
  intro t m
  obtain ⟨u, hcore, hrun⟩ := addAndActivate_of_created hup device hp hcreate
  have hdaemon : u.daemon = (s.withProfiles profiles).daemon := (core_eq.mp hcore).1
  have hactivate : RootIface.activate svc env settings device u =
      onManager (Daemon.onActivation (activateProfile svc.engine (svc.store.view u.daemon.profiles)
        p.id info)) u := activate_of_device hp hinfo
  have hmatching : activateProfile svc.engine (svc.store.view u.daemon.profiles) p.id info
      u.daemon.activation = activateMatching svc.engine profile info s.daemon.activation := by
    rw [hdaemon]
    exact activateProfile_eq hget hmatch hfresh
  -- announcing the connection leaves the manager; a refusal ends the handler before it
  cases hm : activateMatching svc.engine profile info s.daemon.activation with
  | ok a m' =>
      obtain ⟨path, v, hannounce, hcore'⟩ := announce_up hup a (u.withActivation m')
      have ht : t = v := (after_congr hrun).trans ((after_bind_of_ok
        (hactivate.trans (onManager_of_ok (hmatching.trans hm)))).trans
          ((after_bind_of_ok hannounce).trans rfl))
      have hm' : m = m' := after_of_ok hm
      rw [ht, hm', (core_eq.mp hcore').1]
      exact ⟨rfl, rfl⟩
  | error err m' =>
      have ht : t = u.withActivation m' := (after_congr hrun).trans (after_of_error
        (bind_of_error (hactivate.trans (onManager_of_error (hmatching.trans hm)))))
      have hm' : m = m' := after_of_error hm
      rw [ht, hm']
      exact ⟨rfl, rfl⟩

namespace Sample

/-- An environment with no devices. -/
def bare : Environment := ⟨⟨.ok [], .ok [], .ok []⟩, allowAllAuthorization, fun _ => .ok ()⟩

/-- The store is empty at the start. -/
theorem listProfiles_shared (answers : List (Except ActivationError Unit)) :
    (shared answers).daemon.listProfiles services.store = .ok [] := by
  have hempty : (∅ : InMemoryProfileStore).toList = [] :=
    List.isEmpty_iff.mp (Std.TreeMap.isEmpty_toList.trans Std.TreeMap.isEmpty_emptyc)
  show Except.ok ((∅ : InMemoryProfileStore).toList.map Prod.snd) = .ok []
  rw [hempty]
  rfl

/-- Nothing is registered where there is nothing. -/
theorem registerAll_bare (answers : List (Except ActivationError Unit)) :
    registerAll bare services (shared answers) = .ok () (shared answers) := by
  have hdevices : bare.backend.enumerateDevices = .ok [] := congrArg Except.ok List.mergeSort_nil
  rw [registerAll, get_bind, hdevices, listProfiles_shared]
  rfl

/-- The index of the store in memory. -/
def index : services.store.Index := InMemoryProfileStore.index

/-- The empty store is valid. -/
theorem valid_empty : index.Valid ∅ := by
  show InMemoryProfileStore.Keyed ∅
  simp [InMemoryProfileStore.Keyed]

/-- The profile that is added is activated as the engine answers. -/
theorem addDesk_manager (answers : List (Except ActivationError Unit)) :
    let t := step services (shared answers) (addDesk allowAllAuthorization (devicePath 3))
    let m := after (activateMatching scripted manualProfile device)
      (ActivationManager.new answers)
    t.daemon.activation.active = m.active ∧ t.daemon.activation.calls = m.calls := by
  intro t m
  have ht : t = after (RootIface.addAndActivate services (environment allowAllAuthorization)
      (deskDict 24) (devicePath 3)) ((shared answers).asked [_]) := addDesk_step _ answers rfl
  rw [ht]
  exact addAndActivate_manager (environment_up allowAllAuthorization) profileOf_deskDict
    create_desk (deviceInfo_desk allowAllAuthorization) get_desk (by decide) rfl

/-- At the start the bus mirrors the domain. -/
theorem mirrors_shared (answers : List (Except ActivationError Unit)) :
    (shared answers).Sound index ∧ (shared answers).Mirrors index :=
  mirrors_registered index (d := .withComponents ∅ answers)
    (History.run_settled scripted answers []) valid_empty (registerAll_bare answers)

/-- The engine is asked once, and refuses. -/
theorem addDesk_refused (err : ActivationError) :
    ¬ BroughtUp (engineCalls services (shared [.error err])
      (addDesk allowAllAuthorization (devicePath 3))) := by
  obtain ⟨-, hcalls⟩ := addDesk_manager [.error err]
  have hrefused : (after (activateMatching scripted manualProfile device)
      (ActivationManager.new [.error err])).calls = [⟨⟨1⟩, .activate, .error err⟩] := rfl
  rw [Shared.engineCalls, hcalls, hrefused]
  intro hup
  cases hup ⟨⟨1⟩, .activate, .error err⟩ List.mem_cons_self rfl

end Sample

/-- A profile is added and activated. -/
theorem Shared.bus_mirrors_domain_iff_desk :
    let calls := [Sample.addDesk allowAllAuthorization (devicePath 3)]
    Runs.Always (step Sample.services) (Mirrors Sample.index) (Sample.shared []) calls ↔
      Runs.Throughout (step Sample.services)
        (fun s call => BroughtUp (engineCalls Sample.services s call) ∧
          LeavesIds Sample.index (call.writes Sample.services s) s.daemon.profiles)
        (Sample.shared []) calls :=
  bus_mirrors_domain_iff Sample.services Sample.index Sample.bare [] [] (.withComponents ∅ []) rfl
    Sample.valid_empty (Sample.shared []) (Sample.registerAll_bare []) _
    (by simp [Sample.addDesk, Sample.environment_up])

/-- A refused activation is tracked, and has no object. -/
theorem Shared.refused_activation_not_mirrored :
    ¬ ∀ (S E V : Type) (svc : Services S E V) (index : svc.store.Index) (env : Environment)
      (profiles : S) (e : E) (s : Shared S E) (call : MethodCall V), index.Valid profiles →
      registerAll env svc { daemon := .withComponents profiles e } = .ok () s →
      call.env.BusUp → (step svc s call).Mirrors index := by
  intro hall
  have hmirrors := hall _ _ _ Sample.services Sample.index Sample.bare ∅
    [.error (.engine "busy")] (Sample.shared [.error (.engine "busy")])
    (Sample.addDesk allowAllAuthorization (devicePath 3)) Sample.valid_empty
    (Sample.registerAll_bare _) (Sample.environment_up _)
  obtain ⟨hsound, hbefore⟩ := Sample.mirrors_shared [.error (.engine "busy")]
  exact Sample.addDesk_refused _ ((mirrors_step_iff Sample.index
    (Sample.environment_up allowAllAuthorization) hsound hbefore).mp hmirrors).1

end NetworkManager
