import NetworkManager.Support.Effects

/-!
# Support — Locks

Threads that share a state and take locks.  A lock blocks for as long as any thread holds it, the
one that asks for it included.

* `Thread L σ ρ`: a thread that ends in a `ρ`, and between its accesses to the locks acts on the
  state `σ`.  What it does next may depend on the state it finds.
* `Thread.guarded l p`: `p` under a guard of `l`, which is dropped at the end of `p`, also when `p`
  fails.
* `Thread.Nested rank held p`: `p` takes its locks in the order of their ranks, above the ones that
  are held, and gives them back.
* `Thread.Does rank held p x`: moreover, run alone, `p` does what the computation `x` does.
* `no_deadlock`: threads that are nested do not block each other, and every run of them ends
  (`step_wellFounded`).
* `steps_in_turn`: they may also run one after another.
-/

namespace Locks

/-- A thread that ends in a `ρ`.  After a step it goes on as the state tells it that it found. -/
inductive Thread (L σ ρ : Type) where
  | done (result : ρ)
  | step (f : σ → σ) (next : σ → Thread L σ ρ)
  | acquire (l : L) (next : Thread L σ ρ)
  | release (l : L) (next : Thread L σ ρ)

/-- A thread that returns an `α` or fails. -/
def Prog (L ε σ α : Type) : Type := Thread L σ (Except ε α)

namespace Thread

variable {L ε ε' σ ρ ρ' α β : Type}

/-- Goes on with `f` from the result. -/
def andThen (f : ρ → Thread L σ ρ') : Thread L σ ρ → Thread L σ ρ'
  | .done r => f r
  | .step g next => .step g fun s => (next s).andThen f
  | .acquire l next => .acquire l (next.andThen f)
  | .release l next => .release l (next.andThen f)

/-- What follows is run on a result, and left out on an error. -/
def bind (p : Prog L ε σ α) (f : α → Prog L ε σ β) : Prog L ε σ β :=
  p.andThen fun
    | .ok a => f a
    | .error e => .done (.error e)

instance : Monad (Prog L ε σ) where
  pure a := .done (.ok a)
  bind := bind

/-- A thread that has ended. -/
def ofExcept (r : Except ε α) : Prog L ε σ α := .done r

/-- A computation on the state, in one step. -/
def lift (x : EStateM ε σ α) : Prog L ε σ α :=
  .step (Effects.after x) fun s => .done (Effects.settle x s).1

/-- The same thread, with its error rewritten. -/
def adaptExcept (f : ε → ε') (p : Prog L ε σ α) : Prog L ε' σ α :=
  p.andThen fun r => .done (r.mapError f)

/-- `p` under a guard of `l`. -/
def guarded (l : L) (p : Prog L ε σ α) : Prog L ε σ α :=
  .acquire l (p.andThen fun r => .release l (.done r))

/-- The result of the thread when it runs alone, and the state after it. -/
def exec : Thread L σ ρ → σ → ρ × σ
  | .done r, s => (r, s)
  | .step f next, s => (next s).exec (f s)
  | .acquire _ next, s | .release _ next, s => next.exec s

/-- Alone, a sequence runs its parts one after the other. -/
theorem exec_andThen (p : Thread L σ ρ) (f : ρ → Thread L σ ρ') (s : σ) :
    (p.andThen f).exec s = (f (p.exec s).1).exec (p.exec s).2 := by
  induction p generalizing s with
  | done r => rfl
  | step g next ih => exact ih s (g s)
  | acquire l next ih | release l next ih => exact ih s

/-! ### Nested locks -/

section

variable (rank : L → ℕ)

/-- From the locks `held`, the thread takes only locks of a higher rank than all it holds, gives
back the last one it took, and ends with the locks `base`. -/
def NestedFrom (base : List L) : List L → Thread L σ ρ → Prop
  | held, .done _ => held = base
  | held, .step _ next => ∀ s, NestedFrom base held (next s)
  | held, .acquire l next => (∀ l' ∈ held, rank l' < rank l) ∧ NestedFrom base (l :: held) next
  | held, .release l next => ∃ rest, held = l :: rest ∧ NestedFrom base rest next

/-- The thread takes its locks above `held`, and ends with these. -/
def Nested (held : List L) (p : Thread L σ ρ) : Prop := NestedFrom rank held held p

variable {rank}

/-- A sequence is nested if its parts are. -/
theorem nestedFrom_andThen {base base' held : List L} {p : Thread L σ ρ}
    {f : ρ → Thread L σ ρ'} (h : NestedFrom rank base held p)
    (hf : ∀ r, NestedFrom rank base' base (f r)) : NestedFrom rank base' held (p.andThen f) := by
  induction p generalizing held with
  | done r =>
      obtain rfl : held = base := h
      exact hf r
  | step g next ih => exact fun s => ih s (h s)
  | acquire l next ih => exact ⟨h.1, ih h.2⟩
  | release l next ih =>
      obtain ⟨rest, rfl, h⟩ := h
      exact ⟨rest, rfl, ih h⟩

end

/-! ### What a thread does -/

/-- The thread takes its locks above `held`, and does what `x` does. -/
structure Does (rank : L → ℕ) (held : List L) (p : Prog L ε σ α) (x : EStateM ε σ α) : Prop where
  nested : Nested rank held p
  exec_eq (s : σ) : exec p s = Effects.settle x s

namespace Does

open Effects

variable {rank : L → ℕ} {held : List L} {p : Prog L ε σ α} {x : EStateM ε σ α}

theorem ofExcept (r : Except ε α) :
    Does rank held (Thread.ofExcept r) (MonadExcept.ofExcept r : EStateM ε σ α) where
  nested := rfl
  exec_eq s := by cases r <;> rfl

theorem pure (a : α) : Does rank held (Pure.pure a) (Pure.pure a : EStateM ε σ α) where
  nested := rfl
  exec_eq _ := rfl

theorem lift (x : EStateM ε σ α) : Does rank held (Thread.lift x) x where
  nested _ := rfl
  exec_eq s := by
    show ((settle x s).1, after x s) = settle x s
    rw [← settle_snd]

/-- A sequence does what its parts do. -/
theorem bind {f : α → Prog L ε σ β} {g : α → EStateM ε σ β} (h : Does rank held p x)
    (hf : ∀ a, Does rank held (f a) (g a)) : Does rank held (p >>= f) (x >>= g) where
  nested := nestedFrom_andThen h.nested fun r => by
    cases r with
    | ok a => exact (hf a).nested
    | error e => rfl
  exec_eq s := by
    refine (exec_andThen p _ s).trans ?_
    rw [h.exec_eq]
    cases hx : x s with
    | ok a s' =>
        have hbind : settle (x >>= g) s = settle (g a) s' := by
          simp only [settle, bind_of_ok hx]
        rw [settle_of_ok hx, hbind]
        exact (hf a).exec_eq s'
    | error e s' =>
        rw [settle_of_error hx, settle_of_error (bind_of_error hx)]
        rfl

theorem adaptExcept (h : Does rank held p x) (f : ε → ε') :
    Does rank held (Thread.adaptExcept f p) (EStateM.adaptExcept f x) where
  nested := nestedFrom_andThen h.nested fun _ => rfl
  exec_eq s := by
    refine (exec_andThen p _ s).trans ?_
    rw [h.exec_eq]
    cases hx : x s with
    | ok a s' => rw [settle_of_ok hx, settle_of_ok (adaptExcept_of_ok hx)]; rfl
    | error e s' => rw [settle_of_error hx, settle_of_error (adaptExcept_of_error hx)]; rfl

/-- A guard is taken above the locks that are held. -/
theorem guarded {l : L} (hrank : ∀ l' ∈ held, rank l' < rank l)
    (h : Does rank (l :: held) p x) : Does rank held (Thread.guarded l p) x where
  nested := ⟨hrank, nestedFrom_andThen h.nested fun _ => ⟨held, rfl, rfl⟩⟩
  exec_eq s := (exec_andThen p _ s).trans (h.exec_eq s)

theorem map (h : Does rank held p x) (f : α → β) :
    Does rank held (f <$> p) (f <$> x) := by
  rw [map_eq_pure_bind (m := EStateM ε σ)]
  exact h.bind fun a => .pure (f a)

/-- A loop does what its rounds do. -/
theorem foldlM {f : α → β → Prog L ε σ α} {g : α → β → EStateM ε σ α}
    (h : ∀ a b, Does rank held (f a b) (g a b)) (a : α) (bs : List β) :
    Does rank held (bs.foldlM f a) (bs.foldlM g a) := by
  induction bs generalizing a with
  | nil => exact .pure a
  | cons b bs ih => exact (h a b).bind fun a' => ih a'

end Does

end Thread

/-! ### Threads that run together -/

variable {L σ ρ : Type}

/-- The locks that a thread holds, and what is left of it. -/
structure Running (L σ ρ : Type) where
  held : List L
  rest : Thread L σ ρ

/-- A thread that starts, without locks. -/
def Running.start (p : Thread L σ ρ) : Running L σ ρ := ⟨[], p⟩

/-- The state that the threads share, and the threads. -/
structure Config (L σ ρ : Type) where
  state : σ
  threads : List (Running L σ ρ)

/-- One of the threads moves on.  It takes a lock only if nobody holds it, itself included. -/
inductive Step : Config L σ ρ → Config L σ ρ → Prop where
  | step {s : σ} {held : List L} {f : σ → σ} {next : σ → Thread L σ ρ}
      (before later : List (Running L σ ρ)) :
      Step ⟨s, before ++ ⟨held, .step f next⟩ :: later⟩ ⟨f s, before ++ ⟨held, next s⟩ :: later⟩
  | acquire {s : σ} {held : List L} {l : L} {next : Thread L σ ρ}
      (before later : List (Running L σ ρ))
      (free : ∀ t ∈ before ++ ⟨held, .acquire l next⟩ :: later, l ∉ t.held) :
      Step ⟨s, before ++ ⟨held, .acquire l next⟩ :: later⟩
        ⟨s, before ++ ⟨l :: held, next⟩ :: later⟩
  | release {s : σ} {held : List L} {l : L} {next : Thread L σ ρ}
      (before later : List (Running L σ ρ)) :
      Step ⟨s, before ++ ⟨l :: held, .release l next⟩ :: later⟩
        ⟨s, before ++ ⟨held, next⟩ :: later⟩

/-- Where threads come with something each, the one that moves has its own. -/
theorem split_of_map_snd {M : Type*} {accounts : List (M × Running L σ ρ)}
    {before later : List (Running L σ ρ)} {t : Running L σ ρ}
    (h : before ++ t :: later = accounts.map Prod.snd) :
    ∃ earlier m others, accounts = earlier ++ (m, t) :: others ∧
      earlier.map Prod.snd = before ∧ others.map Prod.snd = later := by
  obtain ⟨earlier, rest, rfl, hearlier, hrest⟩ := List.map_eq_append_iff.mp h.symm
  obtain ⟨⟨m, t'⟩, others, rfl, rfl, hothers⟩ := List.map_eq_cons_iff.mp hrest
  exact ⟨earlier, m, others, rfl, hearlier, hothers⟩

namespace Running

/-- The thread has ended. -/
def Finished (t : Running L σ ρ) : Prop := ∃ r, t.rest = .done r

/-- The thread asks for the lock next. -/
def Wants (t : Running L σ ρ) (l : L) : Prop := ∃ next, t.rest = .acquire l next

/-- What is left of the thread is nested, and gives all locks back. -/
def Nested (rank : L → ℕ) (t : Running L σ ρ) : Prop := t.rest.NestedFrom rank [] t.held

end Running

/-- No thread can move on, although some have not ended. -/
def Config.Deadlocked (c : Config L σ ρ) : Prop :=
  (∃ t ∈ c.threads, ¬ t.Finished) ∧ ∀ c', ¬ Step c c'

section

variable {rank : L → ℕ} {c c' : Config L σ ρ}

/-- Steps keep the threads nested. -/
theorem nested_step (h : ∀ t ∈ c.threads, t.Nested rank) (hstep : Step c c') :
    ∀ t ∈ c'.threads, t.Nested rank := by
  have hreplace {before later : List (Running L σ ρ)} {t t' : Running L σ ρ}
      (hall : ∀ u ∈ before ++ t :: later, u.Nested rank) (ht' : t.Nested rank → t'.Nested rank) :
      ∀ u ∈ before ++ t' :: later, u.Nested rank := by
    simp only [List.forall_mem_append, List.forall_mem_cons] at hall ⊢
    exact ⟨hall.1, ht' hall.2.1, hall.2.2⟩
  cases hstep with
  | step before later => exact hreplace h fun ht => ht _
  | acquire before later free => exact hreplace h fun ht => ht.2
  | release before later =>
      refine hreplace h fun ht => ?_
      obtain ⟨rest, heq, ht⟩ := ht
      cases heq
      exact ht

/-- Runs keep the threads nested. -/
theorem nested_steps (h : ∀ t ∈ c.threads, t.Nested rank)
    (hsteps : Relation.ReflTransGen Step c c') : ∀ t ∈ c'.threads, t.Nested rank := by
  induction hsteps with
  | refl => exact h
  | tail _ hstep ih => exact nested_step ih hstep

/-- A nested thread asks for no lock that it holds, nor for one below. -/
theorem rank_lt_of_wants {t : Running L σ ρ} (h : t.Nested rank) {l l' : L} (hwants : t.Wants l)
    (hheld : l' ∈ t.held) : rank l' < rank l := by
  obtain ⟨held, rest⟩ := t
  obtain ⟨next, rfl⟩ := hwants
  exact h.1 l' hheld

/-- A thread that holds a lock has not ended. -/
theorem not_finished_of_held {t : Running L σ ρ} (h : t.Nested rank) {l : L} (hheld : l ∈ t.held) :
    ¬ t.Finished := by
  obtain ⟨held, rest⟩ := t
  rintro ⟨r, rfl⟩
  obtain rfl : held = [] := h
  cases hheld

/-- A thread that cannot move on has ended, or asks for a lock that some thread holds. -/
theorem blocked (hstuck : ∀ c', ¬ Step c c') (h : ∀ t ∈ c.threads, t.Nested rank)
    {t : Running L σ ρ} (ht : t ∈ c.threads) (hactive : ¬ t.Finished) :
    ∃ l, t.Wants l ∧ ∃ u ∈ c.threads, l ∈ u.held := by
  obtain ⟨s, threads⟩ := c
  obtain ⟨before, later, rfl⟩ := List.append_of_mem ht
  have hnested := h t ht
  obtain ⟨held, rest⟩ := t
  cases rest with
  | done r => exact absurd ⟨r, rfl⟩ hactive
  | step f next => exact absurd (Step.step before later) (hstuck _)
  | acquire l next =>
      refine ⟨l, ⟨next, rfl⟩, ?_⟩
      by_contra hfree
      exact hstuck _ (.acquire before later fun t ht hl => hfree ⟨t, ht, hl⟩)
  | release l next =>
      obtain ⟨rest, heq, -⟩ := hnested
      cases heq
      exact absurd (Step.release before later) (hstuck _)

/-- **No deadlock.**  The thread that asks for the lock of the highest rank asks for one that no
thread holds. -/
theorem no_deadlock (h : ∀ t ∈ c.threads, t.Nested rank) : ¬ c.Deadlocked := by
  rintro ⟨⟨t, ht, hactive⟩, hstuck⟩
  -- every lock that is asked for is below another one
  have hclimb (n : ℕ) : ∃ t ∈ c.threads, ∃ l, t.Wants l ∧ n ≤ rank l := by
    induction n with
    | zero =>
        obtain ⟨l, hwants, -⟩ := blocked hstuck h ht hactive
        exact ⟨t, ht, l, hwants, Nat.zero_le _⟩
    | succ n ih =>
        obtain ⟨t, ht, l, hwants, hle⟩ := ih
        have hactive : ¬ t.Finished := by
          rintro ⟨r, hr⟩
          obtain ⟨next, hnext⟩ := hwants
          rw [hr] at hnext
          cases hnext
        obtain ⟨l₀, hwants₀, u, hu, hheld⟩ := blocked hstuck h ht hactive
        obtain rfl : l = l₀ := by
          obtain ⟨next, hnext⟩ := hwants
          obtain ⟨next₀, hnext₀⟩ := hwants₀
          rw [hnext] at hnext₀
          cases hnext₀
          rfl
        obtain ⟨l', hwants', -⟩ := blocked hstuck h hu (not_finished_of_held (h u hu) hheld)
        exact ⟨u, hu, l', hwants', hle.trans_lt (rank_lt_of_wants (h u hu) hwants' hheld)⟩
  -- but there are only so many threads
  have hbound : ∃ bound, ∀ t ∈ c.threads, ∀ l, t.Wants l → rank l < bound := by
    generalize c.threads = threads
    induction threads with
    | nil => exact ⟨0, by simp⟩
    | cons t threads ih =>
        obtain ⟨bound, hbound⟩ := ih
        obtain ⟨held, rest⟩ := t
        by_cases hwants : ∃ l next, rest = .acquire l next
        · obtain ⟨l, next, rfl⟩ := hwants
          refine ⟨max bound (rank l + 1), List.forall_mem_cons.mpr ⟨?_, fun t ht l' hl' =>
            (hbound t ht l' hl').trans_le (le_max_left _ _)⟩⟩
          rintro l' ⟨next', hnext'⟩
          cases hnext'
          exact Nat.lt_of_lt_of_le (Nat.lt_succ_self _) (le_max_right _ _)
        · refine ⟨bound, List.forall_mem_cons.mpr ⟨fun l ⟨next, hnext⟩ => ?_, hbound⟩⟩
          exact absurd ⟨l, next, hnext⟩ hwants
  obtain ⟨bound, hbound⟩ := hbound
  obtain ⟨t, ht, l, hwants, hle⟩ := hclimb bound
  exact absurd (hbound t ht l hwants) (Nat.not_lt.mpr hle)

/-! ### One after another -/

/-- Where the others hold no lock, a nested thread can run to its end, and does what it does alone. -/
theorem steps_alone {p : Thread L σ ρ} {held : List L} (h : p.NestedFrom rank [] held) (s : σ)
    (before later : List (Running L σ ρ)) (hothers : ∀ t ∈ before ++ later, t.held = []) :
    Relation.ReflTransGen Step ⟨s, before ++ ⟨held, p⟩ :: later⟩
      ⟨(p.exec s).2, before ++ ⟨[], .done (p.exec s).1⟩ :: later⟩ := by
  induction p generalizing held s with
  | done r =>
      obtain rfl : held = [] := h
      exact .refl
  | step f next ih => exact .head (.step before later) (ih s (h s) (f s))
  | acquire l next ih =>
      obtain ⟨habove, hnext⟩ := h
      refine .head (.acquire before later ?_) (ih hnext s)
      -- the others hold nothing, and the thread itself only locks of a lower rank
      intro t ht hl
      obtain rfl | ht := List.mem_cons.mp (List.perm_middle.mem_iff.mp ht)
      · exact absurd (habove l hl) (Nat.lt_irrefl _)
      · rw [hothers t ht] at hl
        cases hl
  | release l next ih =>
      obtain ⟨rest, rfl, hnext⟩ := h
      exact .head (.release before later) (ih hnext s)

/-- Nested threads can run one after another, each to its end. -/
theorem steps_in_turn {ι : Type*} {thread : ι → Thread L σ ρ} (h : ∀ i, (thread i).Nested rank [])
    (s : σ) (is : List ι) (before : List (Running L σ ρ))
    (hbefore : ∀ t ∈ before, t.held = [] ∧ t.Finished) :
    ∃ ended, Relation.ReflTransGen Step ⟨s, before ++ is.map fun i => .start (thread i)⟩
        ⟨is.foldl (fun s i => ((thread i).exec s).2) s, ended⟩ ∧ ∀ t ∈ ended, t.Finished := by
  induction is generalizing s before with
  | nil => exact ⟨before, by simpa using .refl, fun t ht => (hbefore t ht).2⟩
  | cons i is ih =>
      have halone := steps_alone (h i) s before (is.map fun i => .start (thread i)) (by
        simp only [List.forall_mem_append, List.forall_mem_map]
        exact ⟨fun t ht => (hbefore t ht).1, fun _ _ => rfl⟩)
      obtain ⟨ended, hsteps, hended⟩ := ih ((thread i).exec s).2
        (before ++ [⟨[], .done ((thread i).exec s).1⟩]) (by
          rw [List.forall_mem_append, List.forall_mem_singleton]
          exact ⟨hbefore, rfl, _, rfl⟩)
      rw [List.append_assoc] at hsteps
      exact ⟨ended, halone.trans hsteps, hended⟩

end

/-! ### Every run ends -/

/-- What may be left of a thread after one step. -/
inductive Thread.Next : Thread L σ ρ → Thread L σ ρ → Prop where
  | step (f : σ → σ) (next : σ → Thread L σ ρ) (s : σ) : Next (next s) (.step f next)
  | acquire (l : L) (next : Thread L σ ρ) : Next next (.acquire l next)
  | release (l : L) (next : Thread L σ ρ) : Next next (.release l next)

/-- A thread has no infinite run. -/
theorem Thread.next_wellFounded : WellFounded (Thread.Next (L := L) (σ := σ) (ρ := ρ)) := by
  refine ⟨fun p => ?_⟩
  induction p with
  | done r => exact ⟨_, by rintro _ ⟨⟩⟩
  | step f next ih => exact ⟨_, by rintro _ ⟨⟩; exact ih _⟩
  | acquire l next ih | release l next ih => exact ⟨_, by rintro _ ⟨⟩; exact ih⟩

/-- There is no infinite run. -/
theorem step_wellFounded : WellFounded fun c' c : Config L σ ρ => Step c c' := by
  let left (c : Config L σ ρ) : Multiset (Thread L σ ρ) := c.threads.map Running.rest
  refine Subrelation.wf (r := InvImage (Relation.CutExpand Thread.Next) left) ?_
    (InvImage.wf left Thread.next_wellFounded.cutExpand)
  have hreplace {s s' : σ} {held held' : List L} {p p' : Thread L σ ρ} (hnext : Thread.Next p' p)
      (before later : List (Running L σ ρ)) :
      Relation.CutExpand Thread.Next (left ⟨s', before ++ ⟨held', p'⟩ :: later⟩)
        (left ⟨s, before ++ ⟨held, p⟩ :: later⟩) := by
    refine ⟨{p'}, p, by simpa using hnext, ?_⟩
    simp only [left, List.map_append, List.map_cons, ← Multiset.coe_add, ← Multiset.cons_coe,
      ← Multiset.singleton_add]
    abel
  rintro c' c hstep
  cases hstep with
  | step before later => exact hreplace (.step _ _ _) before later
  | acquire before later _ => exact hreplace (.acquire _ _) before later
  | release before later => exact hreplace (.release _ _) before later

end Locks
