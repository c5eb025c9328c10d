import NetworkManager.Connection.Activation.Steps

/-!
# Connection — Activation — Invariant

What holds of the tracked connections between calls: their ids are distinct and below the next one,
every one is activated or failed, and no profile has two.  A failed one stays where it is: nothing
the manager offers removes it, and until it is removed its profile counts as active.
-/

namespace NetworkManager

open Effects

namespace ActivationManager

variable {E : Type} {engine : ActivationEngine E} {m m' : ActivationManager E} {op : Operation}
  {r : Except ActivationError Reply}

/-- A list stays without repetitions in `f` when an entry with a new `f` is added. -/
theorem nodup_map_append {α β : Type} {f : α → β} {l : List α} {a : α} (h : (l.map f).Nodup)
    (hnew : ∀ b ∈ l, f b ≠ f a) : ((l ++ [a]).map f).Nodup := by
  have hmem : f a ∉ l.map f := by
    intro hmem
    obtain ⟨b, hb, hba⟩ := List.mem_map.mp hmem
    exact hnew b hb hba
  simpa using h.concat hmem

/-- What every call keeps. -/
structure Tracks (m : ActivationManager E) : Prop where
  distinct : (m.active.map (·.id)).Nodup
  below : ∀ a ∈ m.active, a.id.value < m.nextId
  settled : ∀ a ∈ m.active, a.state = .activated ∨ a.state = .failed

/-- A new manager tracks nothing, and that correctly. -/
theorem tracks_new (e : E) : Tracks (new e) :=
  ⟨List.nodup_nil, by simp [new], by simp [new]⟩

/-- Adding a settled connection with the next id. -/
theorem Tracks.append {a : ActiveConnection} {e : E} {events : List ConnectionEvent}
    {calls : List EngineCall} (h : m.Tracks) (hid : a.id = ⟨m.nextId⟩)
    (hstate : a.state = .activated ∨ a.state = .failed) :
    Tracks ⟨e, m.nextId + 1, m.active ++ [a], events, calls⟩ where
  distinct := nodup_map_append h.distinct fun b hb hba => by
    have hlt := h.below b hb
    rw [hba, hid] at hlt
    exact Nat.lt_irrefl _ hlt
  below := by
    intro b hb
    obtain hb | hb := List.mem_append.mp hb
    · exact Nat.lt_succ_of_lt (h.below b hb)
    · rw [List.mem_singleton.mp hb, hid]
      exact Nat.lt_succ_self _
  settled := by
    intro b hb
    obtain hb | hb := List.mem_append.mp hb
    · exact h.settled b hb
    · rwa [List.mem_singleton.mp hb]

/-- Every move keeps what the manager tracks in order. -/
theorem Tracks.moves (h : m.Tracks) (hmove : Moves engine m op r m') : m'.Tracks := by
  cases hmove with
  | refused hown => exact h
  | drained => exact ⟨h.distinct, h.below, h.settled⟩
  | activated hfresh hcall => exact h.append rfl (.inl rfl)
  | stillborn hfresh hcall => exact h.append rfl (.inr rfl)
  | @deactivated before after a _ hsplit hstate hcall =>
      obtain ⟨hdistinct, hbelow, hsettled⟩ := h
      rw [hsplit] at hdistinct hbelow hsettled
      -- what is left is a sublist
      have hsub : (before ++ after).Sublist (before ++ a :: after) :=
        (List.sublist_cons_self _ _).append_left _
      exact ⟨hdistinct.sublist (hsub.map _), fun b hb => hbelow b (hsub.subset hb),
        fun b hb => hsettled b (hsub.subset hb)⟩
  | @broken before after a err e hsplit hstate hcall =>
      obtain ⟨hdistinct, hbelow, hsettled⟩ := h
      rw [hsplit] at hdistinct hbelow hsettled
      -- the entry keeps its id, and only its state changes
      refine ⟨by simpa using hdistinct, fun b hb => ?_, fun b hb => ?_⟩
      · obtain hb | rfl | hb : b ∈ before ∨ b = { a with state := .failed } ∨ b ∈ after := by
          simpa using hb
        · exact hbelow b (by simp [hb])
        · exact hbelow a (by simp)
        · exact hbelow b (by simp [hb])
      · obtain hb | rfl | hb : b ∈ before ∨ b = { a with state := .failed } ∨ b ∈ after := by
          simpa using hb
        · exact hsettled b (by simp [hb])
        · exact .inr rfl
        · exact hsettled b (by simp [hb])

/-- No profile has two tracked connections. -/
def OnePerProfile (m : ActivationManager E) : Prop := (m.active.map (·.profile.id)).Nodup

/-- A connection for a profile that has none keeps it at one a profile. -/
theorem OnePerProfile.append {a : ActiveConnection} {e : E} {events : List ConnectionEvent}
    {calls : List EngineCall} (h : m.OnePerProfile) (hfresh : m.isActive a.profile.id = false) :
    OnePerProfile ⟨e, m.nextId + 1, m.active ++ [a], events, calls⟩ :=
  nodup_map_append h fun b hb hba => by
    -- a second connection of the profile would have refused this one
    have hactive : m.isActive a.profile.id = true := List.any_eq_true.mpr ⟨b, hb, by simp [hba]⟩
    rw [hfresh] at hactive
    cases hactive

/-- Every move keeps it at one connection a profile. -/
theorem OnePerProfile.moves (h : m.OnePerProfile) (hkeyed : op.Keyed)
    (hmove : Moves engine m op r m') : m'.OnePerProfile := by
  cases hmove with
  | refused hown => exact h
  | drained => exact h
  | activated hfresh hcall => exact h.append (hfresh hkeyed)
  | stillborn hfresh hcall => exact h.append (hfresh hkeyed)
  | deactivated hsplit hstate hcall =>
      unfold OnePerProfile at h
      rw [hsplit] at h
      exact h.sublist (((List.sublist_cons_self _ _).append_left _).map _)
  | broken hsplit hstate hcall =>
      unfold OnePerProfile at h ⊢
      rw [hsplit] at h
      simpa using h

/-- A failed connection is still tracked, as it was, after every move. -/
theorem Moves.keeps_failed (hmove : Moves engine m op r m') {a : ActiveConnection}
    (ha : a ∈ m.active) (hfailed : a.state = .failed) : a ∈ m'.active := by
  have hother : ∀ {before after b}, m.active = before ++ b :: after → b.state = .activated →
      a ∈ before ∨ a ∈ after := by
    intro before after b hsplit hstate
    rw [hsplit] at ha
    obtain hb | rfl | hb : a ∈ before ∨ a = b ∨ a ∈ after := by simpa using ha
    · exact .inl hb
    · rw [hfailed] at hstate
      cases hstate
    · exact .inr hb
  cases hmove with
  | refused hown => exact ha
  | drained => exact ha
  | activated hfresh hcall => exact List.mem_append_left _ ha
  | stillborn hfresh hcall => exact List.mem_append_left _ ha
  | deactivated hsplit hstate hcall => exact List.mem_append.mpr (hother hsplit hstate)
  | broken hsplit hstate hcall =>
      obtain hb | hb := hother hsplit hstate
      · exact List.mem_append_left _ hb
      · exact List.mem_append_right _ (List.mem_cons_of_mem _ hb)

/-- A `State` error that a call returns is the answer of the engine to that call. -/
theorem Moves.state_error {err : StateError} (hmove : Moves engine m op (.error (.state err)) m') :
    ∃ id kind, m'.calls = m.calls ++ [⟨id, kind, .error (.state err)⟩] := by
  cases hmove with
  | refused hown => exact absurd rfl (hown err)
  | stillborn hfresh hcall => exact ⟨_, _, rfl⟩
  | broken hsplit hstate hcall => exact ⟨_, _, rfl⟩

/-- A tracked connection is found by its id. -/
theorem find_tracked (h : m.Tracks) {a : ActiveConnection} (ha : a ∈ m.active) :
    m.active.find? (fun active => active.id == a.id) = some a := by
  obtain ⟨b, hb⟩ : ∃ b, m.active.find? (fun active => active.id == a.id) = some b :=
    Option.isSome_iff_exists.mp (List.find?_isSome.mpr ⟨a, ha, by simp⟩)
  have hid : b.id = a.id := by simpa using List.find?_some hb
  rw [hb, List.inj_on_of_nodup_map h.distinct (List.mem_of_find?_eq_some hb) ha hid]

/-- A failed connection cannot be deactivated. -/
theorem deactivate_failed (h : m.Tracks) {a : ActiveConnection} (ha : a ∈ m.active)
    (hfailed : a.state = .failed) :
    deactivate engine a.id m = .error (.invalidState a.id .failed) m := by
  rw [deactivate, get_bind]
  simp only [find_tracked h ha]
  rw [if_pos (by simp [hfailed]), hfailed]
  rfl

/-- A tracked profile cannot be activated again. -/
theorem activateProfile_tracked {a : ActiveConnection} (ha : a ∈ m.active) {store : ProfileStore}
    {profile : ConnectionProfile} {device : DeviceInfo}
    (hget : store.get a.profile.id = .ok profile) (hmatch : profile.matches device = true) :
    activateProfile engine store a.profile.id device m = .error (.alreadyActive a.profile.id) m := by
  have hactive : m.isActive a.profile.id = true := List.any_eq_true.mpr ⟨a, ha, by simp⟩
  simp only [activateProfile, hget, hmatch]
  rw [if_neg (by simp), get_bind, if_pos hactive]
  rfl

end ActivationManager

/-! ### Runs -/

namespace Sample

/-- An engine whose answers are given in advance. -/
def scripted : ActivationEngine (List (Except ActivationError Unit)) where
  activate _ _
    | .error err :: rest => .error err rest
    | answers => .ok {} answers.tail
  deactivate _
    | .error err :: rest => .error err rest
    | answers => .ok () answers.tail

/-- A wired device. -/
def device : DeviceInfo := ⟨.ethernet, "eth0", none⟩

/-- A wired profile. -/
def profile : ConnectionProfile :=
  { id := "wired", name := "Wired", connectionType := .ethernet {} }

/-- A store that holds one profile. -/
def store : ProfileStore where
  list := .ok [profile]
  get id := if id = profile.id then .ok profile else .error (.notFound id)

theorem store_keyed : store.Keyed := by
  intro id p h
  unfold store at h
  dsimp only at h
  split at h
  · next hid =>
      cases h
      exact hid.symm
  · cases h

end Sample

namespace History

open ActivationManager

variable {E : Type} (engine : ActivationEngine E) (e : E)

/-- A longer run goes on from where the shorter one ended. -/
theorem run_append (ops ops' : List Operation) :
    run engine e (ops ++ ops') = ops'.foldl (step engine) (run engine e ops) :=
  List.foldl_append

/-- After every run, the manager tracks its connections in order. -/
theorem run_tracks (ops : List Operation) : (run engine e ops).manager.Tracks :=
  run_induction (C := fun _ => True) (P := fun h => h.manager.Tracks) (tracks_new e)
    (fun _ _ _ _ _ h hmove => h.moves hmove) fun _ _ => trivial

/-- A connection that has failed is tracked, as it was, after every further run. -/
theorem failed_mem_run {ops : List Operation} {a : ActiveConnection}
    (ha : a ∈ (run engine e ops).manager.active) (hfailed : a.state = .failed)
    (ops' : List Operation) : a ∈ (run engine e (ops ++ ops')).manager.active := by
  rw [run_append]
  exact List.foldlRecOn ops' (step engine) (motive := fun h => a ∈ h.manager.active) ha
    fun h ha op _ => (perform_moves engine h.manager op).keeps_failed ha hfailed

/-- **Manager invariant.**  After every run: the tracked connections have distinct ids below the
next one, each is activated or failed, no profile has two, and the next call returns a `State`
error only when the engine answered it with that error. -/
theorem manager_invariant {ops : List Operation} (hops : ∀ op ∈ ops, op.Keyed) :
    let m := (run engine e ops).manager
    m.Tracks ∧ m.OnePerProfile ∧
      ∀ (op : Operation) err m', settle (op.perform engine) m = (.error (.state err), m') →
        ∃ id kind, m'.calls = m.calls ++ [⟨id, kind, .error (.state err)⟩] := by
  refine ⟨run_tracks engine e ops, ?_, ?_⟩
  · exact run_induction (P := fun h => h.manager.OnePerProfile) List.nodup_nil
      (fun _ _ _ _ hkeyed h hmove => h.moves hkeyed hmove) hops
  · intro op err m' h
    have hmove := perform_moves engine (run engine e ops).manager op
    simp only [h] at hmove
    exact hmove.state_error

/-- An activation and its deactivation. -/
theorem manager_invariant_two_calls :
    let ops := [.activateProfile Sample.store "wired" Sample.device, .deactivate ⟨1⟩]
    let m := (run Sample.scripted [.ok (), .error (.engine "busy")] ops).manager
    m.Tracks ∧ m.OnePerProfile ∧
      ∀ (op : Operation) err m', settle (op.perform Sample.scripted) m = (.error (.state err), m') →
        ∃ id kind, m'.calls = m.calls ++ [⟨id, kind, .error (.state err)⟩] :=
  manager_invariant _ _ (by simp [Operation.Keyed, Sample.store_keyed])

/-- An engine may answer with a `State` error of its own, and the manager hands it on. -/
theorem engine_state_error_returned :
    ¬ ∀ (E : Type) (engine : ActivationEngine E) (e : E) (ops : List Operation) (op : Operation),
      (∀ op ∈ ops, op.Keyed) → op.Keyed → ∀ err,
        (settle (op.perform engine) (run engine e ops).manager).1 ≠ .error (.state err) := by
  intro hall
  exact hall _ Sample.scripted [.error (.state (.invalidTransition .unknown .failed))] []
    (.activateProfile Sample.store "wired" Sample.device) (by simp) Sample.store_keyed _ rfl

/-- **Failed connections stay.**  Whatever is called, a failed connection stays tracked as it is;
it cannot be deactivated, and its profile cannot be activated. -/
theorem failed_stays {ops : List Operation} {a : ActiveConnection}
    (ha : a ∈ (run engine e ops).manager.active) (hfailed : a.state = .failed)
    (ops' : List Operation) :
    let m := (run engine e (ops ++ ops')).manager
    a ∈ m.active ∧ deactivate engine a.id m = .error (.invalidState a.id .failed) m ∧
      ∀ store profile device, store.get a.profile.id = .ok profile →
        profile.matches device = true →
        activateProfile engine store a.profile.id device m =
          .error (.alreadyActive a.profile.id) m := by
  have hstays := failed_mem_run engine e ha hfailed ops'
  exact ⟨hstays, deactivate_failed (run_tracks engine e _) hstays hfailed,
    fun store profile device hget hmatch => activateProfile_tracked hstays hget hmatch⟩

/-- The engine fails once: its connection is tracked as failed for good. -/
theorem failed_stays_unreachable :
    let ops : List Operation := [.activateProfile Sample.store "wired" Sample.device]
    let a : ActiveConnection := ⟨⟨1⟩, Sample.profile, Sample.device, .failed, {}⟩
    let m := (run Sample.scripted [.error (.engine "busy")]
      (ops ++ [.deactivate ⟨1⟩, .activate Sample.store Sample.device])).manager
    a ∈ m.active ∧ deactivate Sample.scripted a.id m = .error (.invalidState a.id .failed) m ∧
      ∀ store profile device, store.get a.profile.id = .ok profile →
        profile.matches device = true →
        activateProfile Sample.scripted store a.profile.id device m =
          .error (.alreadyActive a.profile.id) m :=
  failed_stays Sample.scripted _ (by decide) rfl _

/-- A failed connection blocks its profile for good. -/
theorem failed_not_recoverable :
    ¬ ∀ (E : Type) (engine : ActivationEngine E) (e : E) (ops : List Operation)
      (a : ActiveConnection) (store : ProfileStore) (device : DeviceInfo),
      a ∈ (run engine e ops).manager.active → a.state = .failed →
      store.get a.profile.id = .ok a.profile → a.profile.matches device = true →
      ∃ ops', ∀ m', activateProfile engine store a.profile.id device
        (run engine e (ops ++ ops')).manager ≠ .error (.alreadyActive a.profile.id) m' := by
  intro hall
  let ops : List Operation := [.activateProfile Sample.store "wired" Sample.device]
  let a : ActiveConnection := ⟨⟨1⟩, Sample.profile, Sample.device, .failed, {}⟩
  have ha : a ∈ (run Sample.scripted [.error (.engine "busy")] ops).manager.active := by decide
  obtain ⟨ops', hops'⟩ := hall _ _ _ ops a Sample.store Sample.device ha rfl rfl rfl
  exact hops' _ (activateProfile_tracked (failed_mem_run _ _ ha rfl ops') rfl rfl)

end History

end NetworkManager
