import NetworkManager.Support.Debts

/-!
# Support — Licences

Threads that may act only when they are licensed to.  A licence is a property of the state, which a
thread gets at one of its steps; `Quiet s t` says that nothing was done that needs one.

* `Thread.Acts R p`: every step of the thread leads along `R`.
* `Thread.Waits licence Quiet p`: the thread is quiet until the licence holds.
* `Config.licensed_step`: where licences are not withdrawn, a step that is not quiet is made by a
  thread whose licence holds, whatever the other threads do.
-/

namespace Locks

open Effects

variable {L ε σ ρ ρ' α β : Type}

namespace Thread

/-- Every step of the thread leads along `R`. -/
def Acts (R : σ → σ → Prop) : Thread L σ ρ → Prop
  | .done _ => True
  | .step f next => ∀ s, R s (f s) ∧ Acts R (next s)
  | .acquire _ next | .release _ next => Acts R next

/-- The thread is quiet until the licence holds; if it ends without, its result is one of `Q`. -/
def Waits (licence : σ → Prop) (Quiet : σ → σ → Prop) (Q : ρ → Prop) : Thread L σ ρ → Prop
  | .done r => Q r
  | .step f next => ∀ s, Quiet s (f s) ∧ (licence (f s) ∨ Waits licence Quiet Q (next s))
  | .acquire _ next | .release _ next => Waits licence Quiet Q next

variable {R Quiet : σ → σ → Prop} {licence : σ → Prop} {Q : ρ → Prop}

/-- What keeps more keeps less. -/
theorem Acts.mono {R' : σ → σ → Prop} (hR : ∀ s t, R s t → R' s t) {p : Thread L σ ρ}
    (h : Acts R p) : Acts R' p := by
  induction p with
  | done r => trivial
  | step f next ih => exact fun s => ⟨hR _ _ (h s).1, ih s (h s).2⟩
  | acquire l next ih | release l next ih => exact ih h

/-- A thread that keeps the books on `R`, whatever they start from, leads along `R`. -/
theorem acts_of_solvent [Std.Refl R] {Q : Unit → ρ → Prop} {p : Thread L σ ρ}
    (h : ∀ s₀, Owes (fun s (_ : Unit) => R s₀ s) Q () p) : Acts R p := by
  induction p with
  | done r => trivial
  | step f next ih =>
      intro s
      obtain ⟨_, hbooks, _⟩ := h s s
      refine ⟨hbooks () (Std.Refl.refl s), ih s fun s₀ => ?_⟩
      obtain ⟨_, _, hnext⟩ := h s₀ s
      exact hnext
  | acquire l next ih | release l next ih => exact ih h

/-- A thread that does nothing needs no licence. -/
theorem Acts.waits {p : Thread L σ ρ} (h : Acts Quiet p) :
    Waits licence Quiet (fun _ => True) p := by
  induction p with
  | done r => trivial
  | step f next ih => exact fun s => ⟨(h s).1, .inr (ih s (h s).2)⟩
  | acquire l next ih | release l next ih => exact ih h

/-- What holds at the end may be weakened. -/
theorem Waits.mono {Q' : ρ → Prop} (hQ : ∀ r, Q r → Q' r) {p : Thread L σ ρ}
    (h : Waits licence Quiet Q p) : Waits licence Quiet Q' p := by
  induction p with
  | done r => exact hQ r h
  | step f next ih => exact fun s => ⟨(h s).1, (h s).2.imp_right (ih s)⟩
  | acquire l next ih | release l next ih => exact ih h

/-- A sequence waits if its first part does, and its second part from wherever the first ends. -/
theorem Waits.andThen {Q' : ρ' → Prop} {p : Thread L σ ρ} {f : ρ → Thread L σ ρ'}
    (h : Waits licence Quiet Q p) (hf : ∀ r, Q r → Waits licence Quiet Q' (f r)) :
    Waits licence Quiet Q' (p.andThen f) := by
  induction p with
  | done r => exact hf r h
  | step g next ih => exact fun s => ⟨(h s).1, (h s).2.imp_right (ih s)⟩
  | acquire l next ih | release l next ih => exact ih h

/-- A computation that is quiet, and gets the licence unless it fails. -/
theorem waits_lift {x : EStateM ε σ α} (hquiet : Keeps Quiet x)
    (hlicence : ∀ s, licence (after x s) ∨ ∃ e, (settle x s).1 = .error e) :
    Waits licence Quiet (fun r => ∃ e, r = .error e) (lift (L := L) x) :=
  fun s => ⟨hquiet s, hlicence s⟩

/-- What follows the licence may do what it likes. -/
theorem Waits.bind {p : Prog L ε σ α} (h : Waits licence Quiet (fun r => ∃ e, r = .error e) p)
    (f : α → Prog L ε σ β) :
    Waits licence Quiet (fun r => ∃ e, r = .error e) (p >>= f : Prog L ε σ β) := by
  refine Waits.andThen h ?_
  rintro _ ⟨e, rfl⟩
  exact ⟨e, rfl⟩

end Thread

/-! ### Threads that run together -/

variable {Quiet Grows : σ → σ → Prop} {licences : List (σ → Prop)} {c c' : Config L σ ρ}

/-- Every thread leads along `Grows`, and has its licence or waits for it. -/
def Config.Licensed (Quiet Grows : σ → σ → Prop) (licences : List (σ → Prop))
    (c : Config L σ ρ) : Prop :=
  ∃ holders : List ((σ → Prop) × Running L σ ρ), c.threads = holders.map Prod.snd ∧
    licences = holders.map Prod.fst ∧ ∀ h ∈ holders, h.2.rest.Acts Grows ∧
      (h.1 c.state ∨ h.2.rest.Waits h.1 Quiet fun _ => True)

/-- Threads that wait for their licences. -/
theorem Config.Licensed.start {ι : Type*} {tasks : List ι} {licence : ι → σ → Prop}
    {thread : ι → Thread L σ ρ} (hacts : ∀ i ∈ tasks, (thread i).Acts Grows)
    (hwaits : ∀ i ∈ tasks, (thread i).Waits (licence i) Quiet fun _ => True) (s : σ) :
    Config.Licensed Quiet Grows (tasks.map licence) ⟨s, tasks.map fun i => .start (thread i)⟩ := by
  refine ⟨tasks.map fun i => (licence i, .start (thread i)), by simp, by simp, ?_⟩
  intro h hh
  obtain ⟨i, hi, rfl⟩ := List.mem_map.mp hh
  exact ⟨hacts i hi, .inr (hwaits i hi)⟩

/-- **A step that is not quiet is licensed**: the thread that makes it has its licence already. -/
theorem licensed_step (hgrows : ∀ licence ∈ licences, ∀ s t, Grows s t → licence s → licence t)
    (hquiet : ∀ s, Quiet s s) (h : c.Licensed Quiet Grows licences) (hstep : Step c c') :
    c'.Licensed Quiet Grows licences ∧ (Quiet c.state c'.state ∨ ∃ i t licence,
      c'.threads = c.threads.set i t ∧ licences[i]? = some licence ∧ licence c.state) := by
  obtain ⟨holders, hthreads, rfl, hholders⟩ := h
  -- the thread that moves leaves the licences of the others
  have hmove {s s' : σ} {before later : List (Running L σ ρ)} {t t' : Running L σ ρ}
      (hthreads : before ++ t :: later = holders.map Prod.snd)
      (hholders : ∀ h ∈ holders, h.2.rest.Acts Grows ∧
        (h.1 s ∨ h.2.rest.Waits h.1 Quiet fun _ => True))
      (hkeep : ∀ licence ∈ holders.map Prod.fst, licence s → licence s')
      (hrest : t.rest.Acts Grows → t'.rest.Acts Grows)
      (hwaits : ∀ licence : σ → Prop, (t.rest.Waits licence Quiet fun _ => True) →
        Quiet s s' ∧ (licence s' ∨ t'.rest.Waits licence Quiet fun _ => True)) :
      Config.Licensed Quiet Grows (holders.map Prod.fst) ⟨s', before ++ t' :: later⟩ ∧
        (Quiet s s' ∨ ∃ i u licence, before ++ t' :: later = (before ++ t :: later).set i u ∧
          (holders.map Prod.fst)[i]? = some licence ∧ licence s) := by
    obtain ⟨earlier, licence, others, rfl, rfl, rfl⟩ := split_of_map_snd hthreads
    simp only [List.map_append, List.map_cons, List.forall_mem_append, List.forall_mem_cons]
      at hkeep hholders ⊢
    obtain ⟨hearlier, ⟨hacts, hlicence⟩, hothers⟩ := hholders
    obtain ⟨hkeepEarlier, hkeepOwn, hkeepOthers⟩ := hkeep
    have hown : licence s' ∨ t'.rest.Waits licence Quiet fun _ => True :=
      hlicence.elim (fun hs => .inl (hkeepOwn hs)) fun hw => (hwaits licence hw).2
    refine ⟨⟨earlier ++ (licence, t') :: others, by simp, by simp, ?_⟩, ?_⟩
    · simp only [List.forall_mem_append, List.forall_mem_cons]
      refine ⟨fun h hh => ⟨(hearlier h hh).1, ?_⟩, ⟨hrest hacts, hown⟩,
        fun h hh => ⟨(hothers h hh).1, ?_⟩⟩
      · exact (hearlier h hh).2.imp_left (hkeepEarlier _ (List.mem_map_of_mem hh))
      · exact (hothers h hh).2.imp_left (hkeepOthers _ (List.mem_map_of_mem hh))
    · refine hlicence.elim (fun hs => .inr ⟨earlier.length, t', licence, ?_, ?_, hs⟩)
        fun hw => .inl (hwaits licence hw).1
      · simp
      · simp
  cases hstep with
  | @step s held f next before later =>
      obtain ⟨earlier, licence, others, rfl, hbefore, hlater⟩ := split_of_map_snd hthreads
      have hacts := (hholders (licence, ⟨held, .step f next⟩) (by simp)).1
      exact hmove hthreads hholders (fun licence' hmem => hgrows licence' hmem _ _ (hacts s).1)
        (fun h => (h s).2) fun licence' hw => hw s
  | acquire before later free =>
      exact hmove hthreads hholders (fun _ _ => id) id fun licence hw => ⟨hquiet _, .inr hw⟩
  | release before later =>
      exact hmove hthreads hholders (fun _ _ => id) id fun licence hw => ⟨hquiet _, .inr hw⟩

/-- In a run, nobody loses a licence, and nobody acts without one. -/
theorem licensed_steps (hgrows : ∀ licence ∈ licences, ∀ s t, Grows s t → licence s → licence t)
    (hquiet : ∀ s, Quiet s s) (h : c.Licensed Quiet Grows licences)
    (hsteps : Relation.ReflTransGen Step c c') : c'.Licensed Quiet Grows licences := by
  induction hsteps with
  | refl => exact h
  | tail _ hstep ih => exact (licensed_step hgrows hquiet ih hstep).1

end Locks
