import NetworkManager.Connection.Activation.Invariant
import NetworkManager.Support.Runs

/-!
# Connection — Activation — Heads

Which entry comes first among the tracked connections, and among those on one interface.  A failed
entry stays where it is, so the first entry may be a failed one while a later one is activated.

* `HeadUp`: the first entry, if there is one, is activated.
* `FirstUp`: the same, as long as any entry is activated.

For each, a call of the manager leaves it exactly if the engine's answer meets a condition on the
entries that are tracked before the call.
-/

namespace NetworkManager

open Effects

namespace ActivationManager

/-! ### Lists of entries -/

/-- The first connection is activated, if there is one. -/
def HeadUp (active : List ActiveConnection) : Prop := ∀ a ∈ active.head?, a.state = .activated

/-- Some connection is activated. -/
def AnyUp (active : List ActiveConnection) : Prop := ∃ a ∈ active, a.state = .activated

/-- If any connection is activated, the first one is. -/
def FirstUp (active : List ActiveConnection) : Prop := AnyUp active → HeadUp active

section

variable {active before after : List ActiveConnection} {a : ActiveConnection}

/-- An activated connection at the end keeps the first one as it was. -/
theorem headUp_append (ha : a.state = .activated) : HeadUp (active ++ [a]) ↔ HeadUp active := by
  cases active with
  | nil => simp [HeadUp, ha]
  | cons b active => rfl

/-- A failed connection at the end is the first one only where there was none. -/
theorem headUp_append_failed (ha : a.state = .failed) (h : HeadUp active) :
    HeadUp (active ++ [a]) ↔ active ≠ [] := by
  cases active with
  | nil => simp [HeadUp, ha]
  | cons b active => exact iff_of_true h (by simp)

/-- With an activated connection at the end, the first one has to be activated. -/
theorem firstUp_append (ha : a.state = .activated) : FirstUp (active ++ [a]) ↔ HeadUp active := by
  have hany : AnyUp (active ++ [a]) := ⟨a, by simp, ha⟩
  rw [← headUp_append ha]
  exact ⟨fun h => h hany, fun h _ => h⟩

/-- A failed connection at the end is no matter. -/
theorem firstUp_append_failed (ha : a.state = .failed) (h : FirstUp active) :
    FirstUp (active ++ [a]) := by
  rintro ⟨b, hb, hup⟩
  have hany : b ∈ active := by
    obtain hb | hb := List.mem_append.mp hb
    · exact hb
    · rw [List.mem_singleton.mp hb, ha] at hup
      cases hup
  have hhead := h ⟨b, hany, hup⟩
  cases active with
  | nil => cases hany
  | cons c active => exact hhead

/-- The other entries have other ids. -/
theorem id_ne_of_split (hdistinct : ((before ++ a :: after).map (·.id)).Nodup) :
    ∀ b ∈ before ++ after, b.id ≠ a.id := by
  intro b hb heq
  rw [(List.perm_middle.map _).nodup_iff, List.map_cons, List.nodup_cons] at hdistinct
  exact hdistinct.1 (heq ▸ List.mem_map_of_mem hb)

/-- An entry that leaves makes way for the next one only if it is the first one. -/
theorem headUp_remove (hdistinct : ((before ++ a :: after).map (·.id)).Nodup)
    (h : HeadUp (before ++ a :: after)) :
    HeadUp (before ++ after) ↔
      ∀ b ∈ (before ++ a :: after).head?, b.id = a.id → HeadUp (before ++ a :: after).tail := by
  cases before with
  | nil => simp
  | cons b before =>
      have hne := id_ne_of_split hdistinct b List.mem_cons_self
      exact iff_of_true h (by simp [hne])

/-- Where the first connection breaks, it is no longer activated. -/
theorem headUp_break (hdistinct : ((before ++ a :: after).map (·.id)).Nodup)
    (h : HeadUp (before ++ a :: after)) :
    HeadUp (before ++ { a with state := .failed } :: after) ↔
      ∀ b ∈ (before ++ a :: after).head?, b.id ≠ a.id := by
  cases before with
  | nil => simp [HeadUp]
  | cons b before =>
      have hne := id_ne_of_split hdistinct b List.mem_cons_self
      exact iff_of_true h (by simp [hne])

/-- Removing an activated connection matters only if it was the first. -/
theorem firstUp_remove (hdistinct : ((before ++ a :: after).map (·.id)).Nodup)
    (ha : a.state = .activated) (h : FirstUp (before ++ a :: after)) :
    FirstUp (before ++ after) ↔
      ∀ b ∈ (before ++ a :: after).head?, b.id = a.id → FirstUp (before ++ a :: after).tail := by
  have hhead : HeadUp (before ++ a :: after) := h ⟨a, by simp, ha⟩
  cases before with
  | nil => simp
  | cons b before =>
      have hne := id_ne_of_split hdistinct b List.mem_cons_self
      exact iff_of_true (fun _ => hhead) (by simp [hne])

/-- So does breaking it. -/
theorem firstUp_break (hdistinct : ((before ++ a :: after).map (·.id)).Nodup)
    (ha : a.state = .activated) (h : FirstUp (before ++ a :: after)) :
    FirstUp (before ++ { a with state := .failed } :: after) ↔
      ∀ b ∈ (before ++ a :: after).head?, b.id = a.id → ¬ AnyUp (before ++ a :: after).tail := by
  have hhead : HeadUp (before ++ a :: after) := h ⟨a, by simp, ha⟩
  cases before with
  | nil => simp [FirstUp, AnyUp, HeadUp]
  | cons b before =>
      have hne := id_ne_of_split hdistinct b List.mem_cons_self
      exact iff_of_true (fun _ => hhead) (by simp [hne])

end

/-! ### Calls -/

/-- The entries on an interface. -/
def on (interface : String) (active : List ActiveConnection) : List ActiveConnection :=
  active.filter fun a => a.device.interfaceName == interface

section

variable {interface : String} {before after : List ActiveConnection} {a : ActiveConnection}

/-- The connections of an interface, of two lists. -/
theorem on_append (interface : String) (before after : List ActiveConnection) :
    on interface (before ++ after) = on interface before ++ on interface after :=
  List.filter_append _ _

/-- A connection on the interface is one of its connections. -/
theorem on_split_of_eq (h : a.device.interfaceName = interface) :
    on interface (before ++ a :: after) = on interface before ++ a :: on interface after := by
  rw [on_append]
  exact congrArg _ (List.filter_cons_of_pos (by simpa using h))

/-- A connection on another interface is not. -/
theorem on_split_of_ne (h : a.device.interfaceName ≠ interface) :
    on interface (before ++ a :: after) = on interface (before ++ after) := by
  rw [on_append, on_append]
  exact congrArg _ (List.filter_cons_of_neg (by simpa using h))

/-- The connections of an interface are distinct as all are. -/
theorem on_distinct {active : List ActiveConnection} (h : (active.map (·.id)).Nodup)
    (interface : String) : ((on interface active).map (·.id)).Nodup :=
  h.sublist (List.filter_sublist.map _)

/-- A new entry that is activated stands first on its interface if it follows activated ones. -/
theorem firstUp_on_append {active : List ActiveConnection} (ha : a.state = .activated)
    (hup : ∀ interface, FirstUp (on interface active)) :
    (∀ interface, FirstUp (on interface (active ++ [a]))) ↔
      HeadUp (on a.device.interfaceName active) := by
  constructor
  · intro h
    have hown := h a.device.interfaceName
    rw [on_split_of_eq rfl] at hown
    exact (firstUp_append ha).mp hown
  · intro h interface
    by_cases heq : a.device.interfaceName = interface
    · rw [on_split_of_eq heq]
      exact (firstUp_append ha).mpr (heq ▸ h)
    · rw [on_split_of_ne heq, List.append_nil]
      exact hup interface

/-- A failed connection at the end is no matter on any interface. -/
theorem firstUp_on_append_failed {active : List ActiveConnection} (ha : a.state = .failed)
    (hup : ∀ interface, FirstUp (on interface active)) (interface : String) :
    FirstUp (on interface (active ++ [a])) := by
  by_cases heq : a.device.interfaceName = interface
  · rw [on_split_of_eq heq]
    exact firstUp_append_failed ha (hup interface)
  · rw [on_split_of_ne heq, List.append_nil]
    exact hup interface

/-- No entry on another interface has the id of `a`. -/
theorem first_on_ne (hdistinct : ((before ++ a :: after).map (·.id)).Nodup)
    (hne : a.device.interfaceName ≠ interface) :
    ∀ b ∈ (on interface (before ++ a :: after)).head?, b.id ≠ a.id := by
  intro b hb heq
  rw [on_split_of_ne hne] at hb
  exact id_ne_of_split hdistinct b (List.mem_filter.mp (List.mem_of_head? hb)).1 heq

end

end ActivationManager

/-- The device of an activation. -/
def Operation.device? : Operation → Option DeviceInfo
  | .activate _ device | .activateProfile _ _ device => some device
  | .deactivate _ | .drainEvents => none

/-- An operation that offers a device is about this device. -/
theorem Operation.Offers.device_eq {op : Operation} {profile : ConnectionProfile}
    {device : DeviceInfo} (h : op.Offers profile device) : op.device? = some device := by
  cases op with
  | activate store device' | activateProfile store id device' => rw [h.1, device?]
  | deactivate id | drainEvents => exact h.elim

namespace ActivationManager

variable {E : Type}

/-- The engine calls that a call of the manager makes, with their answers. -/
def engineCalls (engine : ActivationEngine E) (m : ActivationManager E) (op : Operation) :
    List EngineCall :=
  (after (op.perform engine) m).calls.drop m.calls.length

/-- When the engine's answer leaves an activated entry first. -/
def LeavesHeadUp (active : List ActiveConnection) (c : EngineCall) : Prop :=
  match c.op, c.answer with
  | .activate, .ok _ => True
  | .activate, .error _ => active ≠ []
  | .deactivate, .ok _ => ∀ a ∈ active.head?, a.id = c.activeId → HeadUp active.tail
  | .deactivate, .error _ => ∀ a ∈ active.head?, a.id ≠ c.activeId

/-- When the engine's answer leaves an activated entry first on every interface that has one. -/
def LeavesFirstUp (op : Operation) (active : List ActiveConnection) (c : EngineCall) : Prop :=
  match c.op, c.answer with
  | .activate, .ok _ => ∀ device ∈ op.device?, HeadUp (on device.interfaceName active)
  | .activate, .error _ => True
  | .deactivate, .ok _ => ∀ interface, ∀ a ∈ (on interface active).head?, a.id = c.activeId →
      FirstUp (on interface active).tail
  | .deactivate, .error _ => ∀ interface, ∀ a ∈ (on interface active).head?, a.id = c.activeId →
      ¬ AnyUp (on interface active).tail

variable {engine : ActivationEngine E} {m m' : ActivationManager E} {op : Operation}
  {r : Except ActivationError Reply}

/-- A move keeps the first connection activated exactly if each of its calls does. -/
theorem headUp_moves (hm : m.Tracks) (hup : HeadUp m.active) (hmove : Moves engine m op r m') :
    HeadUp m'.active ↔ ∀ c ∈ m'.calls.drop m.calls.length, LeavesHeadUp m.active c := by
  cases hmove with
  | refused hown => simpa using hup
  | drained => simpa using hup
  | activated hfresh hcall hoffers =>
      simpa [LeavesHeadUp] using (headUp_append rfl).mpr hup
  | stillborn hfresh hcall hoffers =>
      simpa [LeavesHeadUp] using headUp_append_failed rfl hup
  | deactivated hsplit hstate hcall =>
      have hdistinct := hm.distinct
      rw [hsplit] at hdistinct hup
      simpa [LeavesHeadUp, hsplit] using headUp_remove hdistinct hup
  | broken hsplit hstate hcall =>
      have hdistinct := hm.distinct
      rw [hsplit] at hdistinct hup
      simpa [LeavesHeadUp, hsplit] using headUp_break hdistinct hup

/-- A move keeps the first connection of each interface activated exactly if each of its calls does.
-/
theorem firstUp_moves (hm : m.Tracks) (hup : ∀ interface, FirstUp (on interface m.active))
    (hmove : Moves engine m op r m') : (∀ interface, FirstUp (on interface m'.active)) ↔
      ∀ c ∈ m'.calls.drop m.calls.length, LeavesFirstUp op m.active c := by
  cases hmove with
  | refused hown => simpa using hup
  | drained => simpa using hup
  | activated hfresh hcall hoffers =>
      simpa [LeavesFirstUp, hoffers.device_eq] using firstUp_on_append rfl hup
  | stillborn hfresh hcall hoffers =>
      exact iff_of_true (firstUp_on_append_failed rfl hup) (by simp [LeavesFirstUp])
  | @deactivated before after a e hsplit hstate hcall =>
      have hdistinct := hm.distinct
      rw [hsplit] at hdistinct hup
      simp only [List.drop_left, List.forall_mem_singleton, LeavesFirstUp, hsplit]
      refine forall_congr' fun interface => ?_
      have hbefore := hup interface
      have hown := on_distinct hdistinct interface
      -- only the interface of the connection itself sees it go
      by_cases heq : a.device.interfaceName = interface
      · rw [on_split_of_eq heq] at hbefore hown ⊢
        rw [on_append]
        exact firstUp_remove hown hstate hbefore
      · rw [on_split_of_ne heq] at hbefore
        exact iff_of_true hbefore fun b hb hid => absurd hid (first_on_ne hdistinct heq b hb)
  | @broken before after a err e hsplit hstate hcall =>
      have hdistinct := hm.distinct
      rw [hsplit] at hdistinct hup
      simp only [List.drop_left, List.forall_mem_singleton, LeavesFirstUp, hsplit]
      refine forall_congr' fun interface => ?_
      have hbefore := hup interface
      have hown := on_distinct hdistinct interface
      by_cases heq : a.device.interfaceName = interface
      · rw [on_split_of_eq (a := { a with state := .failed }) heq]
        rw [on_split_of_eq heq] at hbefore hown ⊢
        exact firstUp_break hown hstate hbefore
      · rw [on_split_of_ne (a := { a with state := .failed }) heq]
        rw [on_split_of_ne heq] at hbefore
        exact iff_of_true hbefore fun b hb hid => absurd hid (first_on_ne hdistinct heq b hb)

end ActivationManager

end NetworkManager
