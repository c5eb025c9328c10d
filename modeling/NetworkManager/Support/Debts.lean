import NetworkManager.Support.Locks

/-!
# Support — Debts

Threads that owe each other nothing.  A thread may take on a debt (in a commutative monoid `M`) when
it acts on the shared state, and has to pay it in later steps; what the other threads owe meanwhile
is left alone.  `Books s m` says that at the state `s` the debt `m` is open.

* `Thread.Owes Books Q m p`: the thread owes `m`, and when it ends it owes what `Q` allows for its
  result.
* `Thread.Settles`: it pays all it owes and does not fail; `Thread.Solvent`: it owes nothing before
  and nothing after.
* `Config.Balanced`: what is open is what the threads owe together.  Steps keep it
  (`balanced_steps`), whatever thread moves, so that nothing is open when all threads have ended
  (`Config.Balanced.paid`).
-/

namespace Locks

open Effects

variable {L ε ε' σ ρ ρ' α β M : Type} [AddCommMonoid M]

/-- What is open at `s` is open at `t`. -/
def Passes (Books : σ → M → Prop) (s t : σ) : Prop := ∀ m, Books s m → Books t m

omit [AddCommMonoid M] in
instance reflPasses (Books : σ → M → Prop) : Std.Refl (Passes Books) := ⟨fun _ _ => id⟩

omit [AddCommMonoid M] in
instance transPasses (Books : σ → M → Prop) : IsTrans σ (Passes Books) :=
  ⟨fun _ _ _ h h' m hm => h' m (h m hm)⟩

namespace Thread

/-! ### What a thread owes -/

section

variable (Books : σ → M → Prop)

/-- The thread owes `m`: where the books allow this beside the debts of the others, they allow after
its next step what it owes then, and it ends as `Q` says. -/
def Owes (Q : M → ρ → Prop) : M → Thread L σ ρ → Prop
  | m, .done r => Q m r
  | m, .step f next => ∀ s, ∃ m',
    (∀ others, Books s (m + others) → Books (f s) (m' + others)) ∧ Owes Q m' (next s)
  | m, .acquire _ next | m, .release _ next => Owes Q m next

/-- The thread pays `m`, and ends without an error. -/
def Settles (m : M) (p : Prog L ε σ α) : Prop :=
  Owes Books (fun m r => m = 0 ∧ ∃ a, r = .ok a) m p

/-- The thread owes nothing, whether it fails or not. -/
def Solvent (p : Prog L ε σ α) : Prop := Owes Books (fun m _ => m = 0) 0 p

end

variable {Books : σ → M → Prop}

/-- A sequence pays what its parts pay. -/
theorem Owes.andThen {Q : M → ρ → Prop} {Q' : M → ρ' → Prop} {p : Thread L σ ρ}
    {f : ρ → Thread L σ ρ'} {m : M} (h : Owes Books Q m p)
    (hf : ∀ m r, Q m r → Owes Books Q' m (f r)) : Owes Books Q' m (p.andThen f) := by
  induction p generalizing m with
  | done r => exact hf m r h
  | step g next ih =>
      intro s
      obtain ⟨m', hbooks, h⟩ := h s
      exact ⟨m', hbooks, ih s h⟩
  | acquire l next ih | release l next ih => exact ih h

/-- What holds at the end may be weakened. -/
theorem Owes.mono {Q Q' : M → ρ → Prop} {p : Thread L σ ρ} {m : M} (h : Owes Books Q m p)
    (hQ : ∀ m r, Q m r → Q' m r) : Owes Books Q' m p := by
  induction p generalizing m with
  | done r => exact hQ m r h
  | step g next ih =>
      intro s
      obtain ⟨m', hbooks, h⟩ := h s
      exact ⟨m', hbooks, ih s h⟩
  | acquire l next ih | release l next ih => exact ih h

/-- A debt that the thread does not touch is open after it. -/
theorem Owes.frame {Q : M → ρ → Prop} {p : Thread L σ ρ} {m : M} (h : Owes Books Q m p) (k : M) :
    Owes Books (fun m r => ∃ m₀, m = m₀ + k ∧ Q m₀ r) (m + k) p := by
  induction p generalizing m with
  | done r => exact ⟨m, rfl, h⟩
  | step g next ih =>
      intro s
      obtain ⟨m', hbooks, h⟩ := h s
      refine ⟨m' + k, fun others => ?_, ih s h⟩
      -- the open debt counts among those of the others
      rw [add_assoc, add_assoc]
      exact hbooks (k + others)
  | acquire l next ih | release l next ih => exact ih h

/-- A step that takes on the debt `m`, which may depend on the state. -/
theorem owes_lift {Q : M → Except ε α → Prop} {x : EStateM ε σ α} {m : M}
    (h : ∀ s, ∃ m', (∀ others, Books s (m + others) → Books (after x s) (m' + others)) ∧
      Q m' (settle x s).1) : Owes Books Q m (lift (L := L) x) := h

/-! ### Threads that pay and do not fail -/

namespace Settles

variable {p : Prog L ε σ α} {m k : M}

theorem pure (a : α) : Settles Books 0 (Pure.pure a : Prog L ε σ α) := ⟨rfl, a, rfl⟩

/-- The debts of the parts add up. -/
theorem bind {f : α → Prog L ε σ β} (h : Settles Books m p) (hf : ∀ a, Settles Books k (f a)) :
    Settles Books (m + k) (p >>= f) := by
  refine (h.frame k).andThen ?_
  rintro _ _ ⟨_, rfl, rfl, a, rfl⟩
  rw [zero_add]
  exact hf a

/-- The debt is paid before `f`. -/
theorem bind_quiet {f : α → Prog L ε σ β} (h : Settles Books m p)
    (hf : ∀ a, Settles Books 0 (f a)) : Settles Books m (p >>= f) :=
  add_zero m ▸ h.bind hf

/-- A step that returns, and pays all it owes, settles. -/
theorem lift {x : EStateM ε σ α} (h : ∀ s, (∃ a, (settle x s).1 = .ok a) ∧
    ∀ others, Books s (m + others) → Books (after x s) others) :
    Settles Books m (Thread.lift (L := L) x) :=
  owes_lift fun s => ⟨0, fun others hbooks => (zero_add others).symm ▸ (h s).2 others hbooks,
    rfl, (h s).1⟩

/-- A guard owes nothing and pays nothing. -/
theorem guarded (h : Settles Books m p) (l : L) : Settles Books m (Thread.guarded l p) :=
  Owes.andThen h fun _ _ hr => hr

/-- A loop pays the debts of its rounds. -/
theorem foldlM {f : α → β → Prog L ε σ α} {debt : β → M}
    (h : ∀ a b, Settles Books (debt b) (f a b)) (a : α) (bs : List β) :
    Settles Books (bs.map debt).sum (bs.foldlM f a) := by
  induction bs generalizing a with
  | nil => exact .pure a
  | cons b bs ih =>
      rw [List.map_cons, List.sum_cons]
      exact (h a b).bind fun a' => ih a'

end Settles

/-! ### Threads that owe nothing -/

namespace Solvent

variable {p : Prog L ε σ α}

theorem pure (a : α) : Solvent Books (Pure.pure a : Prog L ε σ α) := rfl

theorem ofExcept (r : Except ε α) : Solvent Books (Thread.ofExcept (L := L) (σ := σ) r) := rfl

/-- A step is solvent if it keeps every debt of the others. -/
theorem lift {x : EStateM ε σ α} (h : Keeps (Passes Books) x) :
    Solvent Books (Thread.lift (L := L) x) :=
  owes_lift fun s => ⟨0, fun others => h s (0 + others), rfl⟩

/-- A sequence of solvent parts is solvent. -/
theorem bind {f : α → Prog L ε σ β} (h : Solvent Books p) (hf : ∀ a, Solvent Books (f a)) :
    Solvent Books (p >>= f) :=
  Owes.andThen h fun m r hm => by
    cases r with
    | ok a =>
        rw [hm]
        exact hf a
    | error e => exact hm

theorem adaptExcept (h : Solvent Books p) (f : ε → ε') :
    Solvent Books (Thread.adaptExcept f p) := Owes.andThen h fun _ _ hm => hm

/-- A guard owes nothing. -/
theorem guarded (h : Solvent Books p) (l : L) : Solvent Books (Thread.guarded l p) :=
  Owes.andThen h fun _ _ hm => hm

/-- A loop of solvent rounds is solvent. -/
theorem foldlM {f : α → β → Prog L ε σ α} (h : ∀ a b, Solvent Books (f a b)) (a : α)
    (bs : List β) : Solvent Books (bs.foldlM f a) := by
  induction bs generalizing a with
  | nil => exact .pure a
  | cons b bs ih => exact (h a b).bind fun a' => ih a'

theorem map (h : Solvent Books p) (f : α → β) : Solvent Books (f <$> p) :=
  h.bind fun a => .pure (f a)

end Solvent

end Thread

/-! ### Threads that run together -/

variable {Books : σ → M → Prop} {Q : M → ρ → Prop}

/-- What each thread owes; together it is what is open. -/
def Config.Balanced (Books : σ → M → Prop) (Q : M → ρ → Prop) (c : Config L σ ρ) : Prop :=
  ∃ accounts : List (M × Running L σ ρ), c.threads = accounts.map Prod.snd ∧
    (∀ a ∈ accounts, a.2.rest.Owes Books Q a.1) ∧ Books c.state (accounts.map Prod.fst).sum

/-- Threads that owe nothing yet. -/
theorem Config.Balanced.start {c : Config L σ ρ} (hstate : Books c.state 0)
    (h : ∀ t ∈ c.threads, t.rest.Owes Books Q 0) : c.Balanced Books Q := by
  let accounts : List (M × Running L σ ρ) := c.threads.map fun t => (0, t)
  have hsum : (accounts.map Prod.fst).sum = 0 := List.sum_eq_zero (by simp [accounts])
  refine ⟨accounts, by simp [accounts], ?_, hsum ▸ hstate⟩
  simpa [accounts] using h

/-- A step of any thread keeps the books balanced. -/
theorem balanced_step {c c' : Config L σ ρ} (h : c.Balanced Books Q) (hstep : Step c c') :
    c'.Balanced Books Q := by
  obtain ⟨accounts, hthreads, howes, hbooks⟩ := h
  -- the thread that moves owes `m` before, and `m'` after
  have hmove {s s' : σ} {before later : List (Running L σ ρ)} {t t' : Running L σ ρ}
      (hthreads : before ++ t :: later = accounts.map Prod.snd)
      (hbooks : Books s (accounts.map Prod.fst).sum)
      (ht : ∀ m, t.rest.Owes Books Q m → ∃ m', t'.rest.Owes Books Q m' ∧
        ∀ others, Books s (m + others) → Books s' (m' + others)) :
      Config.Balanced Books Q ⟨s', before ++ t' :: later⟩ := by
    obtain ⟨earlier, m, others, rfl, rfl, rfl⟩ := split_of_map_snd hthreads
    simp only [List.forall_mem_append, List.forall_mem_cons] at howes
    obtain ⟨hearlier, hm, hothers⟩ := howes
    obtain ⟨m', hm', hpays⟩ := ht m hm
    refine ⟨earlier ++ (m', t') :: others, by simp, ?_, ?_⟩
    · simp only [List.forall_mem_append, List.forall_mem_cons]
      exact ⟨hearlier, hm', hothers⟩
    · simp only [List.map_append, List.map_cons, List.sum_append, List.sum_cons] at hbooks ⊢
      rw [add_left_comm] at hbooks ⊢
      exact hpays _ hbooks
  cases hstep with
  | step before later =>
      refine hmove hthreads hbooks fun m howes => ?_
      obtain ⟨m', hpays, hnext⟩ := howes _
      exact ⟨m', hnext, hpays⟩
  | acquire before later free =>
      exact hmove hthreads hbooks fun m howes => ⟨m, howes, fun _ => id⟩
  | release before later =>
      exact hmove hthreads hbooks fun m howes => ⟨m, howes, fun _ => id⟩

/-- So does a run. -/
theorem balanced_steps {c c' : Config L σ ρ} (h : c.Balanced Books Q)
    (hsteps : Relation.ReflTransGen Step c c') : c'.Balanced Books Q := by
  induction hsteps with
  | refl => exact h
  | tail _ hstep ih => exact balanced_step ih hstep

/-- Some debt is open. -/
theorem Config.Balanced.books {c : Config L σ ρ} (h : c.Balanced Books Q) :
    ∃ m, Books c.state m := by
  obtain ⟨accounts, -, -, hbooks⟩ := h
  exact ⟨_, hbooks⟩

/-- Threads that owe nothing at their ends owe nothing together when all have ended. -/
theorem Config.Balanced.paid {c : Config L σ ρ} (h : c.Balanced Books Q)
    (hQ : ∀ m r, Q m r → m = 0) (hdone : ∀ t ∈ c.threads, t.Finished) : Books c.state 0 := by
  obtain ⟨accounts, hthreads, howes, hbooks⟩ := h
  have hzero : ∀ m ∈ accounts.map Prod.fst, m = 0 := by
    intro m hm
    obtain ⟨⟨m, t⟩, ha, rfl⟩ := List.mem_map.mp hm
    obtain ⟨r, hr⟩ := hdone t (hthreads ▸ List.mem_map.mpr ⟨_, ha, rfl⟩)
    have hm := howes _ ha
    rw [hr] at hm
    exact hQ m r hm
  rwa [List.sum_eq_zero hzero] at hbooks

end Locks
