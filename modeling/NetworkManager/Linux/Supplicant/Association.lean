import NetworkManager.Linux.Supplicant
import NetworkManager.Support.Tracing

/-!
# Linux — Supplicant — Association

An activation over a supplicant that changes on its own: at every access, its state, disconnect
reason and current network are whatever they have become by then.

* `AssociatedEvents`: the supplicant was completed on the added network when it was polled.
* `reported_association_iff`: an activation that returns means that, unless the first poll that
  reads `completed` finds the supplicant on another network.
-/

namespace NetworkManager

open Effects

/-- What the supplicant shows. -/
structure SupplicantView where
  state : String
  disconnectReason : Int32
  currentNetwork : Option String
  deriving DecidableEq

/-- The supplicant at one access: what it shows, the path it would give a network, and how the
access fails, if it does. -/
structure Moment where
  view : SupplicantView
  path : String
  failure : Option String

/-- The supplicant at each access to come, and how many polls end before the deadline. -/
structure Scenario where
  moments : ℕ → Moment
  patience : ℕ

/-- What an activation sees of the supplicant. -/
inductive SupplicantEvent where
  | added (path : String)
  | selected (path : String)
  | polled (view : SupplicantView)
  deriving DecidableEq

/-- The scenario with the events of the activation so far. -/
abbrev SupplicantWorld := Traced SupplicantEvent Scenario

namespace Scenario

/-- The supplicant after `n` accesses. -/
def skip (env : Scenario) (n : ℕ) : Scenario :=
  { env with moments := fun k => env.moments (k + n) }

/-- One access: `f` is its answer. -/
def access {α : Type} (f : Moment → α) : EStateM String Scenario α := fun env =>
  match (env.moments 0).failure with
  | some err => .error err (env.skip 1)
  | none => .ok (f (env.moments 0)) (env.skip 1)

/-- The bus, with a record of the network added, of the one selected, and of what the supplicant
shows when its state is read. -/
def bus : SupplicantBus SupplicantWorld where
  ownedPath := fun _ => .ok ()
  getInterface := fun _ => quiet (access fun _ => ())
  addNetwork := fun _ => recordOk .added (access Moment.path)
  selectNetwork := fun path => recordOk (fun _ => .selected path) (access fun _ => ())
  removeNetwork := fun _ => quiet (access fun _ => ())
  disconnect := quiet (access fun _ => ())
  state := SupplicantView.state <$> recordOk .polled (access Moment.view)
  disconnectReason := quiet (access fun moment => moment.view.disconnectReason)
  patience := fun _ t => t.state.patience

/-- The engine over the bus, with what the secret provider answers. -/
def engine (ifname : String) (secrets : SecretReference → Except SecretError (Option (List UInt8)))
    (timeout : ℕ) : WpaSupplicantActivationEngine SupplicantWorld where
  control := bus.wpaSupplicant ifname
  secrets := fun reference => MonadExcept.ofExcept (secrets reference)
  timeout := timeout

/-! ### Accesses -/

/-- An access sees the present moment and lets it pass. -/
theorem access_eq_ok {α : Type} {f : Moment → α} {env env' : Scenario} {a : α}
    (h : access f env = .ok a env') : a = f (env.moments 0) ∧ env' = env.skip 1 := by
  rw [access] at h
  split at h <;> cases h
  exact ⟨rfl, rfl⟩

/-- A quiet access records nothing. -/
theorem quiet_access_eq_ok {α : Type} {f : Moment → α} {t t' : SupplicantWorld} {a : α}
    (h : quiet (access f) t = .ok a t') :
    a = f (t.state.moments 0) ∧ t' = ⟨t.state.skip 1, t.calls⟩ := by
  obtain ⟨env, haccess, rfl⟩ := quiet_eq_ok.mp h
  obtain ⟨rfl, rfl⟩ := access_eq_ok haccess
  exact ⟨rfl, rfl⟩

/-- A recorded access adds the event of what it saw. -/
theorem recordOk_access_eq_ok {α : Type} {call : α → SupplicantEvent} {f : Moment → α}
    {t t' : SupplicantWorld} {a : α} (h : recordOk call (access f) t = .ok a t') :
    a = f (t.state.moments 0) ∧ t' = ⟨t.state.skip 1, t.calls ++ [call a]⟩ := by
  obtain ⟨env, haccess, rfl⟩ := recordOk_eq_ok.mp h
  obtain ⟨rfl, rfl⟩ := access_eq_ok haccess
  exact ⟨rfl, rfl⟩

/-- Looking up the interface takes one moment. -/
theorem interface_eq_ok {α : Type} {ifname : String} {err : String → SupplicantError}
    {call : EStateM String SupplicantWorld α} {t t' : SupplicantWorld} {a : α}
    (h : bus.interface ifname err call t = .ok a t') : call ⟨t.state.skip 1, t.calls⟩ = .ok a t' := by
  obtain ⟨_, t₁, hget, h⟩ := bind_eq_ok.mp h
  obtain ⟨-, rfl⟩ := quiet_access_eq_ok (adaptExcept_eq_ok.mp hget)
  exact adaptExcept_eq_ok.mp h

/-! ### Polls -/

/-- What the `i`th poll finds when it reads the state. -/
def polledView (env : Scenario) (i : ℕ) : SupplicantView := (env.moments (2 * i)).view

/-- The `i`th poll finds the connection in progress. -/
def Ongoing (env : Scenario) (i : ℕ) : Prop :=
  classifyState (env.polledView i).state (env.moments (2 * i + 1)).view.disconnectReason = none

/-- A poll finds the connection completed, or in progress and goes on. -/
theorem poll_eq_ok {next : EStateM SupplicantError SupplicantWorld Unit} {t t' : SupplicantWorld}
    (h : bus.poll next t = .ok () t') :
    let t₁ : SupplicantWorld := ⟨t.state.skip 2, t.calls ++ [.polled (t.state.polledView 0)]⟩
    ((t.state.polledView 0).state = "completed" ∧ t' = t₁) ∨
      t.state.Ongoing 0 ∧ next t₁ = .ok () t' := by
  obtain ⟨state, t₁, hstate, h⟩ := bind_eq_ok.mp h
  obtain ⟨view, hview, rfl⟩ := map_eq_ok.mp (adaptExcept_eq_ok.mp hstate)
  obtain ⟨rfl, rfl⟩ := recordOk_access_eq_ok hview
  obtain ⟨reason, t₂, hreason, h⟩ := bind_eq_ok.mp h
  obtain ⟨rfl, rfl⟩ := quiet_access_eq_ok (adaptExcept_eq_ok.mp hreason)
  cases hclass : classifyState (t.state.moments 0).view.state
    (t.state.moments 1).view.disconnectReason with
  | none =>
      refine .inr ⟨hclass, ?_⟩
      rw [show (t.state.skip 1).moments 0 = t.state.moments 1 from rfl, hclass] at h
      exact h
  | some result =>
      rw [show (t.state.skip 1).moments 0 = t.state.moments 1 from rfl, hclass] at h
      cases result with
      | error err => cases h
      | ok _ =>
          cases h
          exact .inl ⟨classifyState_eq_ok.mp hclass, rfl⟩

theorem ongoing_skip {env : Scenario} {i : ℕ} : (env.skip 2).Ongoing i ↔ env.Ongoing (i + 1) :=
  Iff.rfl

theorem polledView_skip (env : Scenario) (i : ℕ) :
    (env.skip 2).polledView i = env.polledView (i + 1) := rfl

/-- Polls that return have found the connection in progress, and then completed. -/
theorem waitForCompleted_eq_ok {patience : ℕ} {t t' : SupplicantWorld}
    (h : bus.waitForCompleted patience t = .ok () t') :
    ∃ i, (∀ j < i, t.state.Ongoing j) ∧ (t.state.polledView i).state = "completed" ∧
      t'.calls = t.calls ++ (List.range (i + 1)).map fun j => .polled (t.state.polledView j) := by
  induction patience generalizing t with
  | zero =>
      rcases poll_eq_ok h with ⟨hcompleted, rfl⟩ | ⟨-, h⟩
      · exact ⟨0, fun j hj => absurd hj (Nat.not_lt_zero j), hcompleted, rfl⟩
      · cases h
  | succ patience ih =>
      rcases poll_eq_ok h with ⟨hcompleted, rfl⟩ | ⟨hongoing, h⟩
      · exact ⟨0, fun j hj => absurd hj (Nat.not_lt_zero j), hcompleted, rfl⟩
      · obtain ⟨i, hbefore, hcompleted, hcalls⟩ := ih h
        refine ⟨i + 1, fun j hj => ?_, (polledView_skip t.state i) ▸ hcompleted, ?_⟩
        · cases j with
          | zero => exact hongoing
          | succ j => exact ongoing_skip.mp (hbefore j (Nat.lt_of_succ_lt_succ hj))
        · rw [hcalls, List.range_succ_eq_map (n := i + 1), List.map_cons, List.map_map,
            List.append_assoc]
          simp only [polledView_skip]
          rfl

end Scenario

/-! ### Reported associations -/

/-- After it was selected, the added network was the current one of a completed supplicant. -/
def AssociatedEvents (events : List SupplicantEvent) : Prop :=
  ∃ path before after view, events = before ++ .selected path :: after ∧ .added path ∈ before ∧
    .polled view ∈ after ∧ view.state = "completed" ∧ view.currentNetwork = some path

/-- The first poll of an activation that reads `completed` finds the supplicant on another network
than the added one.  Before the first poll there are five accesses, of which the second adds the
network. -/
def CompletedElsewhere (env : Scenario) : Prop :=
  ∃ i, (∀ j < i, (env.skip 5).Ongoing j) ∧ ((env.skip 5).polledView i).state = "completed" ∧
    ((env.skip 5).polledView i).currentNetwork ≠ some (env.moments 1).path

section

variable {env : Scenario} {i : ℕ}

/-- A state that keeps the wait going is not `completed`. -/
theorem not_completed_of_ongoing {env : Scenario} {i : ℕ} (h : env.Ongoing i) :
    (env.polledView i).state ≠ "completed" := by
  intro hcompleted
  rw [Scenario.Ongoing, classifyState_eq_ok.mpr hcompleted] at h
  cases h

/-- There is one first poll that finds `completed`. -/
theorem first_completed_unique {i' : ℕ} (hbefore : ∀ j < i, env.Ongoing j)
    (hcompleted : (env.polledView i).state = "completed") (hbefore' : ∀ j < i', env.Ongoing j)
    (hcompleted' : (env.polledView i').state = "completed") : i' = i := by
  rcases Nat.lt_trichotomy i' i with hlt | heq | hlt
  · exact (not_completed_of_ongoing (hbefore i' hlt) hcompleted').elim
  · exact heq
  · exact (not_completed_of_ongoing (hbefore' i hlt) hcompleted).elim

/-- The events of an activation that returns. -/
theorem events_of_activate {ifname : String}
    {secrets : SecretReference → Except SecretError (Option (List UInt8))} {timeout : ℕ}
    {profile : ConnectionProfile} {device : DeviceInfo} {active : Option (ProfileId × String)}
    {outcome : ActivationOutcome} {s' : SupplicantState SupplicantWorld}
    (h : (Scenario.engine ifname secrets timeout).activate profile device ⟨⟨env, []⟩, active⟩ =
      .ok outcome s') :
    ∃ i, (∀ j < i, (env.skip 5).Ongoing j) ∧ ((env.skip 5).polledView i).state = "completed" ∧
      s'.world.calls = [.added (env.moments 1).path, .selected (env.moments 1).path] ++
        (List.range (i + 1)).map fun j => .polled ((env.skip 5).polledView j) := by
  rw [WpaSupplicantActivationEngine.activate, get_bind] at h
  split at h
  · cases h
  · cases htype : profile.connectionType with
    | ethernet settings =>
        rw [htype] at h
        cases h
    | wifi settings =>
        rw [htype] at h
        obtain ⟨networkPath, s₁, hrun, h⟩ := bind_eq_ok.mp h
        cases h
        obtain ⟨w, hassociate, rfl⟩ := zoom_eq_ok hrun
        obtain ⟨passphrase, w₀, w₁, w₂, hsecret, hadd, hselect, hwait⟩ :=
          WpaSupplicantActivationEngine.associate_eq_ok hassociate
        -- looking for the secret takes no time on the bus
        obtain rfl : w₀ = ⟨env, []⟩ := by
          rcases hsecret with rfl | ⟨reference, secret, hsecret⟩
          · rfl
          · exact (after_of_ok hsecret).symm.trans (after_ofExcept _ _)
        obtain ⟨rfl, rfl⟩ := Scenario.recordOk_access_eq_ok (Scenario.interface_eq_ok hadd)
        obtain ⟨_, _, howned, hselect⟩ := bind_eq_ok.mp hselect
        cases howned
        obtain ⟨-, rfl⟩ := Scenario.recordOk_access_eq_ok (Scenario.interface_eq_ok hselect)
        obtain ⟨_, _, hinterface, hwait⟩ := bind_eq_ok.mp hwait
        obtain ⟨-, rfl⟩ := Scenario.quiet_access_eq_ok (adaptExcept_eq_ok.mp hinterface)
        exact Scenario.waitForCompleted_eq_ok hwait

variable (env i) in
/-- The events are those of an association exactly if the poll that ended the wait saw the added
network selected. -/
theorem associatedEvents_iff (path : String) (hbefore : ∀ j < i, env.Ongoing j)
    (hcompleted : (env.polledView i).state = "completed") :
    AssociatedEvents ([.added path, .selected path] ++
        (List.range (i + 1)).map fun j => .polled (env.polledView j)) ↔
      (env.polledView i).currentNetwork = some path := by
  constructor
  · rintro ⟨path', before, after, view, hevents, -, hview, hstate, hcurrent⟩
    have hmem {event : SupplicantEvent} (h : event ∈ before ++ .selected path' :: after) :
        event = .added path ∨ event = .selected path ∨
          ∃ j ≤ i, event = .polled (env.polledView j) := by
      rw [← hevents] at h
      simp only [List.mem_append, List.mem_cons, List.not_mem_nil, or_false, List.mem_map,
        List.mem_range, Nat.lt_succ_iff, or_assoc] at h
      exact h.imp_right (Or.imp_right fun ⟨j, hj, heq⟩ => ⟨j, hj, heq.symm⟩)
    obtain rfl : path' = path := by
      rcases hmem (List.mem_append_right before List.mem_cons_self) with h | h | ⟨j, -, h⟩ <;> cases h
      rfl
    obtain ⟨j, hj, rfl⟩ : ∃ j ≤ i, view = env.polledView j := by
      rcases hmem (List.mem_append_right before (List.mem_cons_of_mem _ hview)) with
        h | h | ⟨j, hj, h⟩ <;> cases h
      exact ⟨j, hj, rfl⟩
    rcases Nat.lt_or_eq_of_le hj with hlt | rfl
    · exact (not_completed_of_ongoing (hbefore j hlt) hstate).elim
    · exact hcurrent
  · intro hcurrent
    exact ⟨path, [.added path], _, env.polledView i, rfl, List.mem_singleton_self _,
      List.mem_map.mpr ⟨i, List.mem_range.mpr (Nat.lt_succ_self i), rfl⟩, hcompleted, hcurrent⟩

end

/-- **Reported associations.**  An activation that returns means an association with the added
network exactly if the supplicant is not found completed elsewhere. -/
theorem reported_association_iff (ifname : String)
    (secrets : SecretReference → Except SecretError (Option (List UInt8))) (timeout : ℕ)
    (profile : ConnectionProfile) (device : DeviceInfo) (env : Scenario)
    (active : Option (ProfileId × String)) (outcome : ActivationOutcome)
    (s' : SupplicantState SupplicantWorld)
    (h : (Scenario.engine ifname secrets timeout).activate profile device ⟨⟨env, []⟩, active⟩ =
      .ok outcome s') :
    AssociatedEvents s'.world.calls ↔ ¬ CompletedElsewhere env := by
  obtain ⟨i, hbefore, hcompleted, hcalls⟩ := events_of_activate h
  rw [hcalls, associatedEvents_iff _ i _ hbefore hcompleted]
  constructor
  · rintro hcurrent ⟨i', hbefore', hcompleted', hother⟩
    rw [first_completed_unique hbefore hcompleted hbefore' hcompleted'] at hother
    exact hother hcurrent
  · intro h
    by_contra hother
    exact h ⟨i, hbefore, hcompleted, hother⟩

/-- A supplicant that stays completed on the network of this path, and gives the next network the
path `Networks/1`. -/
def settledOn (currentNetwork : String) : Scenario where
  moments := fun _ => ⟨⟨"completed", 0, some currentNetwork⟩, "Networks/1", none⟩
  patience := 300

/-- An open network. -/
def openProfile : ConnectionProfile where
  id := "cafe"
  name := "Cafe"
  connectionType := .wifi { ssid := ⟨[0x63, 0x61, 0x66, 0x65]⟩ }

/-- A supplicant that settles on the added network: the association is reported, and it took place.
-/
theorem reported_association_iff_settled : ∃ outcome s',
    (Scenario.engine "wlan0" (fun _ => .ok none) 30000).activate openProfile
      ⟨.wifi, "wlan0", none⟩ ⟨⟨settledOn "Networks/1", []⟩, none⟩ = .ok outcome s' ∧
    AssociatedEvents s'.world.calls := by
  refine ⟨_, _, rfl, (reported_association_iff "wlan0" (fun _ => .ok none) 30000 openProfile
    ⟨.wifi, "wlan0", none⟩ (settledOn "Networks/1") none _ _ rfl).mpr ?_⟩
  rintro ⟨i, -, -, hother⟩
  exact hother rfl

/-- **A false report**: the supplicant stays on the network it was on. -/
theorem stale_completed_reported : ∃ outcome s',
    (Scenario.engine "wlan0" (fun _ => .ok none) 30000).activate openProfile
      ⟨.wifi, "wlan0", none⟩ ⟨⟨settledOn "Networks/0", []⟩, none⟩ = .ok outcome s' ∧
    s'.world.calls = [.added "Networks/1", .selected "Networks/1",
      .polled ⟨"completed", 0, some "Networks/0"⟩] ∧
    ¬ AssociatedEvents s'.world.calls := by
  refine ⟨_, _, rfl, rfl, fun h => ?_⟩
  have hcurrent := (associatedEvents_iff ((settledOn "Networks/0").skip 5) 0 "Networks/1"
    (fun j hj => absurd hj (Nat.not_lt_zero j)) rfl).mp h
  exact absurd hcurrent (by decide)

end NetworkManager
