import NetworkManager.Connection.Activation.Steps
import NetworkManager.Linux.Activation

/-!
# Linux — Activation — Agreement

Three places remember which profile is up: the manager, the engine and the supplicant's part of the
engine.  Between calls they name the same one, or none, whatever failed in between.
-/

namespace NetworkManager

open Effects

variable {W : Type} {engine : LinuxActivationEngine W}

namespace ActivationManager

/-- The tracked connections that are activated. -/
def activated {E : Type} (m : ActivationManager E) : List ActiveConnection :=
  m.active.filter fun active => active.state == .activated

/-- Both parts of the engine and the manager name the same profile as up, or none. -/
structure Agrees (m : ActivationManager (LinuxActivationState W)) : Prop where
  linked : m.engine.Linked
  tracked : m.activated.map (·.profile.id) = m.engine.running.toList

/-- A new manager agrees with its engine. -/
theorem agrees_new (w : W) : Agrees (new (LinuxActivationState.new w)) := ⟨rfl, rfl⟩

variable {m m' : ActivationManager (LinuxActivationState W)}

/-- An activated entry is the only one, and the profile that is up is its own. -/
theorem Agrees.running_of_activated (h : m.Agrees) {before after : List ActiveConnection}
    {a : ActiveConnection} (hsplit : m.active = before ++ a :: after)
    (hstate : a.state = .activated) :
    m.engine.running = some a.profile.id ∧
      before.filter (fun active => active.state == .activated) = [] ∧
      after.filter (fun active => active.state == .activated) = [] := by
  have htracked := h.tracked
  rw [activated, hsplit, List.filter_append, List.filter_cons_of_pos (by simp [hstate]),
    List.map_append, List.map_cons] at htracked
  cases hrunning : m.engine.running with
  | none =>
      rw [hrunning] at htracked
      simp at htracked
  | some id =>
      rw [hrunning] at htracked
      obtain ⟨hbefore, hrest⟩ | ⟨-, hrest⟩ := List.append_eq_singleton_iff.mp htracked
      · obtain ⟨hid, hafter⟩ := List.cons_eq_cons.mp hrest
        exact ⟨congrArg some hid.symm, List.map_eq_nil_iff.mp hbefore, List.map_eq_nil_iff.mp hafter⟩
      · cases hrest

/-- A profile that came up is the only one. -/
theorem Agrees.up (h : m.Agrees) {a : ActiveConnection} {device : DeviceInfo}
    {outcome : ActivationOutcome} {e : LinuxActivationState W}
    (hcall : engine.activate a.profile device m.engine = .ok outcome e) (hstate : a.state = .activated)
    (events : List ConnectionEvent) (calls : List EngineCall) :
    Agrees ⟨e, m.nextId + 1, m.active ++ [a], events, calls⟩ := by
  obtain ⟨hidle, hrunning, hlinked⟩ := LinuxActivationEngine.activate_of_ok h.linked hcall
  have hnone : m.active.filter (fun active => active.state == .activated) = [] := by
    have htracked := h.tracked
    rw [hidle] at htracked
    exact List.map_eq_nil_iff.mp htracked
  refine ⟨hlinked, ?_⟩
  rw [activated, List.filter_append, hnone, List.filter_cons_of_pos (by simp [hstate]), hrunning]
  rfl

/-- A profile that did not come up changes nothing. -/
theorem Agrees.stillborn (h : m.Agrees) {a : ActiveConnection} {device : DeviceInfo}
    {err : ActivationError} {e : LinuxActivationState W}
    (hcall : engine.activate a.profile device m.engine = .error err e) (hstate : a.state = .failed)
    (events : List ConnectionEvent) (calls : List EngineCall) :
    Agrees ⟨e, m.nextId + 1, m.active ++ [a], events, calls⟩ := by
  obtain ⟨hrunning, hlinked⟩ := LinuxActivationEngine.activate_of_error h.linked hcall
  refine ⟨hlinked, ?_⟩
  rw [activated, List.filter_append, List.filter_cons_of_neg (by simp [hstate]), hrunning,
    ← h.tracked]
  simp [activated]

/-- An entry that is taken down, or breaks, leaves none that is activated. -/
theorem Agrees.down (h : m.Agrees) {before after : List ActiveConnection} {a : ActiveConnection}
    {e : LinuxActivationState W} (rest : List ActiveConnection)
    (hsplit : m.active = before ++ a :: after) (hstate : a.state = .activated)
    (hcall : Effects.after (engine.deactivate a.profile) m.engine = e)
    (hrest : rest.filter (fun active => active.state == .activated) = [])
    (events : List ConnectionEvent) (calls : List EngineCall) :
    Agrees ⟨e, m.nextId, before ++ (rest ++ after), events, calls⟩ := by
  obtain ⟨hrunning, hbefore, hafter⟩ := h.running_of_activated hsplit hstate
  obtain ⟨hdown, hlinked⟩ := LinuxActivationEngine.after_deactivate h.linked hrunning
  subst hcall
  refine ⟨hlinked, ?_⟩
  rw [activated, List.filter_append, List.filter_append, hbefore, hrest, hafter, hdown]
  rfl

/-- Every move keeps the manager and its engine agreed. -/
theorem Agrees.moves {op : Operation} {r : Except ActivationError Reply} (h : m.Agrees)
    (hmove : Moves engine.activationEngine m op r m') : m'.Agrees := by
  cases hmove with
  | refused hown => exact h
  | drained => exact ⟨h.linked, h.tracked⟩
  | activated hfresh hcall => exact h.up (a := ⟨_, _, _, .activated, _⟩) hcall rfl _ _
  | stillborn hfresh hcall => exact h.stillborn (a := ⟨_, _, _, .failed, _⟩) hcall rfl _ _
  | deactivated hsplit hstate hcall => exact h.down [] hsplit hstate (after_of_ok hcall) rfl _ _
  | @broken before after a err e hsplit hstate hcall =>
      exact h.down [{ a with state := .failed }] hsplit hstate (after_of_error hcall) rfl _ _

end ActivationManager

namespace History

open ActivationManager

/-- **Agreement.**  After every run of the manager over this engine, whatever the supplicant, the
secrets, the IP backends and the world answer: the engine has a profile up exactly when the
supplicant's part has a network for it, exactly when one tracked connection is activated and is of
that profile; otherwise no tracked connection is activated. -/
theorem agreement (engine : LinuxActivationEngine W) (w : W) (ops : List Operation) :
    let m := (run engine.activationEngine (.new w) ops).manager
    (∀ id, ((∃ state, m.engine.active = some (id, state)) ↔
        ∃ networkPath, m.engine.supplicant.activeNetwork = some (id, networkPath)) ∧
      ((∃ state, m.engine.active = some (id, state)) ↔
        ∃ a, m.activated = [a] ∧ a.profile.id = id)) ∧
      (m.engine.active = none → m.activated = []) := by
  intro m
  -- by induction on the run; each move keeps both engines in step with the manager
  have hagrees : m.Agrees := run_induction (C := fun _ => True) (P := fun h => h.manager.Agrees)
    (agrees_new w) (fun _ _ _ _ _ h hmove => h.moves hmove) fun _ _ => trivial
  have hrunning : ∀ id, (∃ state, m.engine.active = some (id, state)) ↔
      m.engine.running = some id := by simp [LinuxActivationState.running]
  refine ⟨fun id => ⟨?_, ?_⟩, fun hidle => ?_⟩
  · rw [hrunning, ← hagrees.linked]
    simp
  · rw [hrunning]
    constructor
    · intro hid
      have htracked := hagrees.tracked
      rw [hid] at htracked
      exact List.map_eq_singleton_iff.mp htracked
    · rintro ⟨a, ha, rfl⟩
      have htracked := hagrees.tracked
      rw [ha] at htracked
      exact (Option.toList_eq_singleton_iff.mp htracked.symm)
  · have htracked := hagrees.tracked
    rw [LinuxActivationState.running, hidle] at htracked
    exact List.map_eq_nil_iff.mp htracked

end History

end NetworkManager
