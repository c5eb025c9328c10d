import NetworkManager.Support.Sorting
import NetworkManager.Connection.Activation.Invariant

/-!
# Connection — Activation — Selection

Which profile autoconnect takes.

* `Suitable`: a listed profile that `activate` can take for a device.  `Best`: one with the highest
  priority among these, and with the least id among those.
* `candidate_eq`: the candidate is the first suitable one in autoconnect order.
* `autoconnect_best`: `activate` calls the engine with the best one, in whatever order the profiles
  are listed, and leaves everything as it is only if there is none.
-/

namespace NetworkManager

open Effects

/-- The store lists these profiles, and answers with each under its own id. -/
structure ProfileStore.Agrees (store : ProfileStore) (profiles : List ConnectionProfile) : Prop where
  list : store.list = .ok profiles
  get : ∀ p ∈ profiles, store.get p.id = .ok p

/-- The order of autoconnection: by falling priority, and then by id. -/
theorem autoconnectLe_iff {a b : ConnectionProfile} :
    autoconnectLe a b = true ↔ b.priority < a.priority ∨ a.priority = b.priority ∧ a.id ≤ b.id := by
  simp [autoconnectLe]

/-- The order is transitive. -/
theorem autoconnectLe_trans (a b c : ConnectionProfile) (hab : autoconnectLe a b)
    (hbc : autoconnectLe b c) : autoconnectLe a c := by
  rw [autoconnectLe_iff] at hab hbc ⊢
  rcases hab with hab | ⟨hab, hid⟩
  · rcases hbc with hbc | ⟨hbc, -⟩
    · exact .inl (Int32.lt_trans hbc hab)
    · exact .inl (hbc ▸ hab)
  · rcases hbc with hbc | ⟨hbc, hid'⟩
    · exact .inl (hab ▸ hbc)
    · exact .inr ⟨hab.trans hbc, hid.trans hid'⟩

theorem priority_antisymm {a b : Int32} (hab : ¬ a < b) (hba : ¬ b < a) : a = b :=
  Int32.le_antisymm (Int32.not_lt.mp hba) (Int32.not_lt.mp hab)

/-- The order is total. -/
theorem autoconnectLe_total (a b : ConnectionProfile) :
    (autoconnectLe a b || autoconnectLe b a) = true := by
  rw [Bool.or_eq_true, autoconnectLe_iff, autoconnectLe_iff]
  by_cases hab : a.priority < b.priority
  · exact .inr (.inl hab)
  by_cases hba : b.priority < a.priority
  · exact .inl (.inl hba)
  have heq := priority_antisymm hab hba
  rcases le_total a.id b.id with hid | hid
  · exact .inl (.inr ⟨heq, hid⟩)
  · exact .inr (.inr ⟨heq.symm, hid⟩)

namespace ActivationManager

variable {E : Type} {m : ActivationManager E} {device : DeviceInfo}
  {profiles : List ConnectionProfile} {store : ProfileStore} {p : ConnectionProfile}

/-- A listed profile that can be taken for the device. -/
structure Suitable (m : ActivationManager E) (device : DeviceInfo)
    (profiles : List ConnectionProfile) (p : ConnectionProfile) : Prop where
  listed : p ∈ profiles
  enabled : p.enabled = true
  autoconnect : p.autoconnect = true
  matching : p.matches device = true
  fresh : m.isActive p.id = false

/-- No other suitable profile has a higher priority, or the same one and a smaller id. -/
structure Best (m : ActivationManager E) (device : DeviceInfo) (profiles : List ConnectionProfile)
    (p : ConnectionProfile) : Prop where
  suitable : m.Suitable device profiles p
  first : ∀ q, m.Suitable device profiles q → q ≠ p →
    ¬ p.priority < q.priority ∧ ¬ (q.priority = p.priority ∧ q.id < p.id)

/-- Looked up again, a listed profile is itself. -/
theorem findSome?_map_id (h : store.Agrees profiles) {l : List ConnectionProfile}
    (hl : ∀ p ∈ l, p ∈ profiles) :
    (l.map (·.id)).findSome? (fun id =>
      match store.get id with
      | .ok profile =>
        if profile.matches device && !m.isActive profile.id then some profile else none
      | .error _ => none) = l.find? fun p => p.matches device && !m.isActive p.id := by
  induction l with
  | nil => rfl
  | cons p l ih =>
      rw [List.map_cons, List.findSome?_cons, h.get p (hl p List.mem_cons_self), List.find?_cons,
        ih fun q hq => hl q (List.mem_cons_of_mem p hq)]
      dsimp only
      cases p.matches device && !m.isActive p.id <;> rfl

/-- The candidate is the first profile, in autoconnect order, that can be taken. -/
theorem candidate_eq (h : store.Agrees profiles) :
    m.candidate store device profiles =
      ((profiles.filter fun p => p.enabled && p.autoconnect).mergeSort autoconnectLe).find? fun p =>
        p.matches device && !m.isActive p.id := by
  refine findSome?_map_id h fun p hp => ?_
  exact List.mem_of_mem_filter (List.mem_mergeSort.mp hp)

/-- A profile suits if it is offered by itself, matches the device and is not active. -/
theorem suitable_iff : m.Suitable device profiles p ↔
    (p ∈ profiles.filter fun p => p.enabled && p.autoconnect) ∧
      (p.matches device && !m.isActive p.id) = true := by
  rw [List.mem_filter, Bool.and_eq_true, Bool.and_eq_true, Bool.not_eq_true']
  constructor
  · rintro ⟨hlisted, henabled, hautoconnect, hmatching, hfresh⟩
    exact ⟨⟨hlisted, henabled, hautoconnect⟩, hmatching, hfresh⟩
  · rintro ⟨⟨hlisted, henabled, hautoconnect⟩, hmatching, hfresh⟩
    exact ⟨hlisted, henabled, hautoconnect, hmatching, hfresh⟩

/-- The candidate is the best of the profiles that suit. -/
theorem best_of_candidate (h : store.Agrees profiles)
    (hp : m.candidate store device profiles = some p) : m.Best device profiles p := by
  rw [candidate_eq h] at hp
  obtain ⟨hlisted, htaken, hleast⟩ :=
    Sorting.find?_mergeSort autoconnectLe_trans autoconnectLe_total hp
  refine ⟨suitable_iff.mpr ⟨hlisted, htaken⟩, fun q hq hne => ?_⟩
  obtain ⟨hqlisted, hqtaken⟩ := suitable_iff.mp hq
  rcases (hleast q hqlisted hqtaken).imp_right autoconnectLe_iff.mp with rfl | hlt | ⟨heq, hid⟩
  · exact absurd rfl hne
  -- a higher priority, or the same and a smaller id
  · exact ⟨Int32.lt_asymm hlt, fun heq => Int32.ne_of_lt hlt heq.1⟩
  · exact ⟨heq ▸ Int32.lt_irrefl, fun hlt => absurd hlt.2 hid.not_gt⟩

/-- Without a candidate, no profile suits. -/
theorem not_suitable_of_candidate (h : store.Agrees profiles)
    (hnone : m.candidate store device profiles = none) : ¬ m.Suitable device profiles p := by
  intro hp
  rw [candidate_eq h, List.find?_eq_none] at hnone
  obtain ⟨hlisted, htaken⟩ := suitable_iff.mp hp
  exact hnone p (List.mem_mergeSort.mpr hlisted) htaken

/-- There is one best profile at most. -/
theorem Best.unique {q : ConnectionProfile} (h : store.Agrees profiles)
    (hp : m.Best device profiles p) (hq : m.Best device profiles q) : p = q := by
  by_contra hne
  obtain ⟨hpq, hpqid⟩ := hp.first q hq.suitable (Ne.symm hne)
  obtain ⟨hqp, hqpid⟩ := hq.first p hp.suitable hne
  have hpriority : p.priority = q.priority := priority_antisymm hpq hqp
  have hid : p.id = q.id :=
    le_antisymm (not_lt.mp fun hlt => hpqid ⟨hpriority.symm, hlt⟩)
      (not_lt.mp fun hlt => hqpid ⟨hpriority, hlt⟩)
  -- the store answers an id with one profile
  have hget := h.get p hp.suitable.listed
  rw [hid, h.get q hq.suitable.listed] at hget
  exact hne (Except.ok.inj hget).symm

/-- The best profile does not depend on the order of the list. -/
theorem Best.perm {profiles' : List ConnectionProfile} (hperm : profiles'.Perm profiles)
    (h : m.Best device profiles' p) : m.Best device profiles p := by
  have hsuitable (q : ConnectionProfile) :
      m.Suitable device profiles' q ↔ m.Suitable device profiles q := by
    rw [suitable_iff, suitable_iff, (hperm.filter _).mem_iff]
  exact ⟨(hsuitable p).mp h.suitable, fun q hq => h.first q ((hsuitable q).mpr hq)⟩

/-! ### The call -/

section Call

variable {engine : ActivationEngine E}

/-- An activation by the engine leaves the manager changed, and the engine as its call does. -/
theorem activateMatching_changes (m : ActivationManager E) (profile : ConnectionProfile)
    (device : DeviceInfo) :
    (after (activateMatching engine profile device) m).engine =
        after (engine.activate profile device) m.engine ∧
      (after (activateMatching engine profile device) m).nextId = m.nextId + 1 := by
  cases hcall : engine.activate profile device m.engine with
  | ok outcome e =>
      rw [after_of_ok (activateMatching_of_ok hcall), after_of_ok hcall]
      exact ⟨rfl, rfl⟩
  | error err e =>
      rw [after_of_error (activateMatching_of_error hcall), after_of_error hcall]
      exact ⟨rfl, rfl⟩

/-- The best profile is the one that is activated. -/
theorem activate_of_best (h : store.Agrees profiles) (hp : m.Best device profiles p) :
    activate engine store device m = activateMatching engine p device m := by
  cases hcandidate : m.candidate store device profiles with
  | none => exact absurd hp.suitable (not_suitable_of_candidate h hcandidate)
  | some q =>
      obtain rfl := hp.unique h (best_of_candidate h hcandidate)
      simp only [activate, h.list, get_bind, hcandidate]

/-- Where no profile suits, nothing happens. -/
theorem activate_of_none (h : store.Agrees profiles)
    (hnone : ∀ p, ¬ m.Suitable device profiles p) :
    activate engine store device m = .error (.noSuitableProfile device) m := by
  cases hcandidate : m.candidate store device profiles with
  | none =>
      simp only [activate, h.list, get_bind, hcandidate]
      rfl
  | some q => exact absurd (best_of_candidate h hcandidate).suitable (hnone q)

/-- Where a profile suits, there is a best one. -/
theorem exists_best (h : store.Agrees profiles) (hp : m.Suitable device profiles p) :
    ∃ q, m.Best device profiles q := by
  cases hcandidate : m.candidate store device profiles with
  | none => exact absurd hp (not_suitable_of_candidate h hcandidate)
  | some q => exact ⟨q, best_of_candidate h hcandidate⟩

/-- **Autoconnect takes the best profile**, however they are listed; it fails with nothing changed
exactly if there is none. -/
theorem autoconnect_best (engine : ActivationEngine E) (m : ActivationManager E)
    (store : ProfileStore) (device : DeviceInfo) (profiles : List ConnectionProfile)
    (h : store.Agrees profiles) :
    ((∃ p, m.Suitable device profiles p) → ∃ p, m.Best device profiles p ∧
      activate engine store device m = activateMatching engine p device m ∧
      (after (activate engine store device) m).engine =
        after (engine.activate p device) m.engine) ∧
    (activate engine store device m = .error (.noSuitableProfile device) m ↔
      ¬ ∃ p, m.Suitable device profiles p) ∧
    ∀ (store' : ProfileStore) (profiles' : List ConnectionProfile), store'.Agrees profiles' →
      profiles'.Perm profiles →
        activate engine store' device m = activate engine store device m := by
  refine ⟨?_, ⟨?_, ?_⟩, ?_⟩
  · rintro ⟨p, hp⟩
    obtain ⟨q, hq⟩ := exists_best h hp
    have hactivate : activate engine store device m = activateMatching engine q device m :=
      activate_of_best h hq
    refine ⟨q, hq, hactivate, ?_⟩
    rw [after, hactivate]
    exact (activateMatching_changes m q device).1
  · rintro herror ⟨p, hp⟩
    obtain ⟨q, hq⟩ := exists_best h hp
    rw [activate_of_best h hq] at herror
    -- an attempt on a candidate uses up an id even where it fails
    have hnext : (after (activateMatching engine q device) m).nextId = m.nextId + 1 :=
      (activateMatching_changes m q device).2
    rw [after_of_error herror] at hnext
    omega
  · intro hnone
    exact activate_of_none h fun p hp => hnone ⟨p, hp⟩
  · intro store' profiles' h' hperm
    -- there is only one best profile, so the order of the list does not matter
    by_cases hsome : ∃ p, m.Suitable device profiles' p
    · obtain ⟨p, hp⟩ := hsome
      obtain ⟨q, hq⟩ := exists_best h' hp
      rw [activate_of_best h' hq, activate_of_best h (hq.perm hperm)]
    · have hnone (p : ConnectionProfile) : ¬ m.Suitable device profiles p := by
        intro hp
        obtain ⟨q, hq⟩ := exists_best h hp
        exact hsome ⟨q, (hq.perm hperm.symm).suitable⟩
      rw [activate_of_none h' fun p hp => hsome ⟨p, hp⟩, activate_of_none h hnone]

/-- A store with two wired profiles, of which the second is preferred. -/
def pairProfiles : List ConnectionProfile :=
  [{ Sample.profile with id := "spare" }, { Sample.profile with id := "desk", priority := 5 }]

/-- A store with these two profiles. -/
def pairStore : ProfileStore where
  list := .ok pairProfiles
  get id := match pairProfiles.find? (·.id == id) with
    | some profile => .ok profile
    | none => .error (.notFound id)

theorem agrees_pairStore : pairStore.Agrees pairProfiles := ⟨rfl, by decide⟩

/-- Of two profiles for the device, the one of the higher priority is activated. -/
theorem autoconnect_best_pair :
    let m : ActivationManager (List (Except ActivationError Unit)) := new []
    ∃ p, m.Best Sample.device pairProfiles p ∧
      activate Sample.scripted pairStore Sample.device m =
        activateMatching Sample.scripted p Sample.device m := by
  intro m
  have hspare : m.Suitable Sample.device pairProfiles { Sample.profile with id := "spare" } :=
    ⟨List.mem_cons_self, rfl, rfl, rfl, rfl⟩
  obtain ⟨p, hp, hactivate, -⟩ := (autoconnect_best Sample.scripted m pairStore Sample.device
    pairProfiles agrees_pairStore).1 ⟨_, hspare⟩
  exact ⟨p, hp, hactivate⟩

end Call

end ActivationManager

end NetworkManager
