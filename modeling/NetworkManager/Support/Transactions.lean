import NetworkManager.Support.Effects

/-!
# Support — Transactions

A list of forward steps against a host, any of which may be refused; the first refusal ends the
list.  A step is refused because the backend fails it (`Backend.fails`, by the number of the step)
or because the host does not allow it (`Backend.clashes`); a refused step changes nothing.  The
`World` keeps, next to the host, the number of steps that went through and their journal.

* `tryAll` runs the list.
* `granted` says, from the host before the first step, which steps go through.
* `tryAll_eq`: when no step of the list makes another one clash, `tryAll` puts exactly the
  granted steps, and runs to the end exactly when all of them are granted.
* `Performs x is a`: the computation `x` tries the steps `is` in order and returns `a` if they all
  go through.  A program is proved to perform a list of steps from its parts, by the rules of
  `Performs`.
* `Changes x f` and `Returns x f`: the computation `x` changes the host by `f` and is no forward
  step.  An undo is made of such computations.
-/

namespace Transactions

/-- The host, the number of steps that went through, and these steps. -/
structure World (H ι : Type) where
  host : H
  clock : ℕ
  journal : List ι

/-- A host's forward steps: which ones are failed, which ones the host refuses, what they do. -/
structure Backend (H ι : Type) where
  fails : ℕ → Bool
  clashes : ι → H → Bool
  put : ι → H → H

variable {H ι : Type} (b : Backend H ι)

/-- A world in which nothing has been tried yet. -/
def World.start (h : H) : World H ι := ⟨h, 0, []⟩

/-- One forward step: its effect, and whether it went through. -/
def tryOne (i : ι) (w : World H ι) : World H ι × Bool :=
  if b.fails w.clock || b.clashes i w.host then (w, false)
  else (⟨b.put i w.host, w.clock + 1, w.journal ++ [i]⟩, true)

/-- The steps in order, up to the first refusal. -/
def tryAll : List ι → World H ι → World H ι × Bool
  | [], w => (w, true)
  | i :: is, w =>
    match tryOne b i w with
    | (w', true) => tryAll is w'
    | (w', false) => (w', false)

/-- Puts all the steps, whatever they clash with. -/
def putAll (h : H) (is : List ι) : H := is.foldl (fun h i => b.put i h) h

/-- The steps that go through when the first one is number `n` and the host is `h`. -/
def granted (h : H) : ℕ → List ι → List ι
  | _, [] => []
  | n, i :: is => if b.fails n || b.clashes i h then [] else i :: granted h (n + 1) is

/-- Putting `i` does not change whether `j` clashes. -/
def Independent (i j : ι) : Prop := ∀ h, b.clashes j (b.put i h) = b.clashes j h

variable {b}

/-- The steps of two lists are tried one list after the other; a refusal in the first ends it. -/
theorem tryAll_append (is js : List ι) (w : World H ι) :
    tryAll b (is ++ js) w =
      match tryAll b is w with
      | (w', true) => tryAll b js w'
      | (w', false) => (w', false) := by
  induction is generalizing w with
  | nil => rfl
  | cons i is ih =>
      simp only [List.cons_append, tryAll]
      rcases tryOne b i w with ⟨w', _ | _⟩
      · rfl
      · exact ih w'

theorem putAll_append (h : H) (is js : List ι) :
    putAll b h (is ++ js) = putAll b (putAll b h is) js := List.foldl_append

/-! ### The granted steps -/

/-- The steps that go through come first. -/
theorem granted_isPrefix (h : H) : ∀ (n : ℕ) (is : List ι), granted b h n is <+: is
  | _, [] => List.prefix_rfl
  | n, i :: is => by
      unfold granted
      split
      · exact List.nil_prefix
      · exact (List.prefix_cons_inj i).mpr (granted_isPrefix h (n + 1) is)

/-- A granted step did not clash. -/
theorem clashes_of_mem_granted {h : H} {i : ι} : ∀ {n : ℕ} {is : List ι},
    i ∈ granted b h n is → b.clashes i h = false
  | _, [], hi => by cases hi
  | n, j :: is, hi => by
      unfold granted at hi
      split at hi
      · cases hi
      · rename_i hr
        rcases List.mem_cons.mp hi with rfl | hi
        · exact (Bool.or_eq_false_iff.mp (Bool.eq_false_iff.mpr hr)).2
        · exact clashes_of_mem_granted hi

/-- If all of the first list goes through, the second one follows. -/
theorem granted_append_of_eq {h : H} : ∀ {n : ℕ} {is js : List ι}, granted b h n is = is →
    granted b h n (is ++ js) = is ++ granted b h (n + is.length) js
  | _, [], _, _ => rfl
  | n, i :: is, js, he => by
      unfold granted at he
      split at he
      · cases he
      · rename_i hr
        rw [List.cons_append, granted, if_neg hr, granted_append_of_eq (List.cons.inj he).2,
          List.length_cons, Nat.add_assoc, Nat.add_comm 1]
        rfl

/-- If the first list is cut short, so is the whole. -/
theorem granted_append_of_ne {h : H} : ∀ {n : ℕ} {is js : List ι}, granted b h n is ≠ is →
    granted b h n (is ++ js) = granted b h n is
  | _, [], _, he => absurd rfl he
  | n, i :: is, js, he => by
      simp only [List.cons_append, granted] at he ⊢
      split
      · rfl
      · rename_i hr
        rw [if_neg hr] at he
        rw [granted_append_of_ne fun e => he (congrArg (i :: ·) e)]

/-- The granted steps reach past the first list exactly when all of it goes through. -/
theorem prefix_granted_iff {h : H} {n : ℕ} {is js : List ι} :
    is <+: granted b h n (is ++ js) ↔ granted b h n is = is := by
  by_cases he : granted b h n is = is
  · simp only [granted_append_of_eq he, List.prefix_append, he]
  · rw [granted_append_of_ne he]
    exact ⟨fun h' => (granted_isPrefix h n is).eq_of_length_le h'.length_le, fun h' => absurd h' he⟩

/-- The host may be exchanged for one that clashes with the same steps. -/
theorem granted_congr {h h' : H} : ∀ {n : ℕ} {is : List ι},
    (∀ i ∈ is, b.clashes i h' = b.clashes i h) → granted b h' n is = granted b h n is
  | _, [], _ => rfl
  | n, i :: is, hc => by
      simp only [granted, hc i List.mem_cons_self]
      rw [granted_congr (n := n + 1) fun j hj => hc j (List.mem_cons_of_mem i hj)]

/-- **The run of a list of independent steps.**  The granted steps are put and journalled; the
list runs to its end exactly when every step is granted. -/
theorem tryAll_eq : ∀ {is : List ι} {w : World H ι}, is.Pairwise (Independent b) →
    ∃ c ok, tryAll b is w =
      (⟨putAll b w.host (granted b w.host w.clock is), c,
        w.journal ++ granted b w.host w.clock is⟩, ok) ∧
      (ok = true ↔ granted b w.host w.clock is = is) ∧ (ok = true → c = w.clock + is.length)
  | [], w, _ => ⟨w.clock, true, by simp [tryAll, granted, putAll], by simp [granted], by simp⟩
  | i :: is, w, hp => by
      obtain ⟨hi, his⟩ := List.pairwise_cons.mp hp
      by_cases hr : (b.fails w.clock || b.clashes i w.host) = true
      · refine ⟨w.clock, false, ?_, ?_, by simp⟩
        · simp [tryAll, tryOne, granted, hr, putAll]
        · simp [granted, hr]
      · obtain ⟨c, ok, hc, hok, hclock⟩ :=
          tryAll_eq (w := ⟨b.put i w.host, w.clock + 1, w.journal ++ [i]⟩) his
        -- the step that was put makes none of the others clash
        rw [granted_congr fun j hj => hi j hj w.host] at hc hok
        refine ⟨c, ok, ?_, ?_, fun h => ?_⟩
        · simp only [tryAll, tryOne, granted, if_neg hr]
          exact hc.trans (by simp [putAll])
        · simpa [granted, hr] using hok
        · have hc' : c = w.clock + 1 + is.length := hclock h
          rw [hc', List.length_cons]
          omega

/-- All steps go through exactly if all are granted. -/
theorem tryAll_ok_iff {is : List ι} {w w' : World H ι} {ok : Bool}
    (hp : is.Pairwise (Independent b)) (h : tryAll b is w = (w', ok)) :
    ok = true ↔ granted b w.host w.clock is = is := by
  obtain ⟨c, ok', he, hok, -⟩ := tryAll_eq (w := w) hp
  obtain ⟨-, rfl⟩ := Prod.mk.inj (h.symm.trans he)
  exact hok

/-! ### Programs that perform steps -/

section Performs

variable (b)
variable {ε ε' α β κ : Type}

/-- `x` returns `a` in the world of a run that went through, and fails in the world of one that
did not. -/
def Ends (x : EStateM ε (World H ι) α) (a : α) (w : World H ι) : World H ι × Bool → Prop
  | (w', true) => x w = .ok a w'
  | (w', false) => ∃ e, x w = .error e w'

/-- `x` tries the steps `is` in order; it returns `a` if they all go through, and fails in the
world the first refusal leaves otherwise. -/
def Performs (x : EStateM ε (World H ι) α) (is : List ι) (a : α) : Prop :=
  ∀ w, Ends x a w (tryAll b is w)

variable {b}

theorem Performs.pure (a : α) : Performs b (Pure.pure a : EStateM ε _ α) [] a := fun _ => rfl

/-- A computation that is one forward step. -/
theorem Performs.one {x : EStateM ε (World H ι) α} {i : ι} {a : α}
    (h : ∀ w, Ends x a w (tryOne b i w)) : Performs b x [i] a := fun w => by
  have hw := h w
  unfold tryAll tryAll
  revert hw
  rcases tryOne b i w with ⟨w', _ | _⟩ <;> exact id

/-- A sequence performs the steps of both parts. -/
theorem Performs.bind {x : EStateM ε (World H ι) α} {f : α → EStateM ε (World H ι) β}
    {is js : List ι} {a : α} {c : β} (hx : Performs b x is a) (hf : Performs b (f a) js c) :
    Performs b (x >>= f) (is ++ js) c := fun w => by
  have hw := hx w
  rw [tryAll_append]
  revert hw
  rcases tryAll b is w with ⟨w', _ | _⟩
  · rintro ⟨e, he⟩
    exact ⟨e, Effects.bind_of_error he⟩
  · intro hw
    have hw' := hf w'
    revert hw'
    dsimp only
    rcases tryAll b js w' with ⟨w'', _ | _⟩
    · rintro ⟨e, he⟩
      exact ⟨e, (Effects.bind_of_ok hw).trans he⟩
    · exact fun h => (Effects.bind_of_ok hw).trans h

/-- Rewriting the error keeps the steps. -/
theorem Performs.adaptExcept {f : ε → ε'} {x : EStateM ε (World H ι) α} {is : List ι} {a : α}
    (hx : Performs b x is a) : Performs b (EStateM.adaptExcept f x) is a := fun w => by
  have hw := hx w
  revert hw
  rcases tryAll b is w with ⟨w', _ | _⟩
  · rintro ⟨e, he⟩
    exact ⟨f e, Effects.adaptExcept_of_error he⟩
  · exact fun h => Effects.adaptExcept_of_ok h

/-- A loop whose body performs one step for each element. -/
theorem Performs.forM {f : κ → EStateM ε (World H ι) PUnit} {step : κ → ι}
    (hf : ∀ k, Performs b (f k) [step k] ⟨⟩) : ∀ ks : List κ,
    Performs b (ks.forM f) (ks.map step) ⟨⟩
  | [] => Performs.pure _
  | k :: ks => (hf k).bind (Performs.forM hf ks)

end Performs

/-! ### Programs that are no forward steps -/

section Changes

variable {ε ε' α β κ : Type}

/-- Whether it returns or fails, `x` changes the host by `f` and leaves the rest of the world. -/
def Changes (x : EStateM ε (World H ι) α) (f : H → H) : Prop :=
  ∀ w, Effects.after x w = { w with host := f w.host }

/-- `x` returns, having changed the host by `f` and nothing else. -/
def Returns (x : EStateM ε (World H ι) α) (f : H → H) : Prop :=
  ∀ w, ∃ a, x w = .ok a { w with host := f w.host }

/-- What returns changes the host no more than it says. -/
theorem Returns.changes {x : EStateM ε (World H ι) α} {f : H → H} (hx : Returns x f) :
    Changes x f := fun w => by
  obtain ⟨a, ha⟩ := hx w
  exact Effects.after_of_ok ha

theorem Changes.adaptExcept {x : EStateM ε (World H ι) α} {f : H → H} {g : ε → ε'}
    (hx : Changes x f) : Changes (EStateM.adaptExcept g x) f := fun w => by
  rw [← hx w]
  cases h : x w with
  | ok a w' => rw [Effects.after_of_ok (Effects.adaptExcept_of_ok h), Effects.after_of_ok h]
  | error e w' =>
      rw [Effects.after_of_error (Effects.adaptExcept_of_error h), Effects.after_of_error h]

theorem Changes.throw (e : ε) :
    Changes (MonadExcept.throw e : EStateM ε (World H ι) α) id := fun _ => rfl

/-- A change whose error is caught returns. -/
theorem Returns.attempt {x : EStateM ε (World H ι) α} {f : H → H} (hx : Changes x f) :
    Returns (Effects.attempt x : EStateM ε' (World H ι) (Except ε α)) f := fun w => by
  rw [← hx w]
  exact Effects.attempt_apply x w

theorem Returns.pure (a : α) : Returns (Pure.pure a : EStateM ε (World H ι) α) id :=
  fun _ => ⟨a, rfl⟩

/-- A sequence makes both changes. -/
theorem Returns.bind {x : EStateM ε (World H ι) α} {k : α → EStateM ε (World H ι) β}
    {f g : H → H} (hx : Returns x f) (hk : ∀ a, Returns (k a) g) : Returns (x >>= k) (g ∘ f) :=
  fun w => by
    obtain ⟨a, ha⟩ := hx w
    obtain ⟨c, hc⟩ := hk a { w with host := f w.host }
    exact ⟨c, (Effects.bind_of_ok ha).trans hc⟩

/-- A sequence whose second part may fail makes both changes too. -/
theorem Returns.bind_changes {x : EStateM ε (World H ι) α} {k : α → EStateM ε (World H ι) β}
    {f g : H → H} (hx : Returns x f) (hk : ∀ a, Changes (k a) g) : Changes (x >>= k) (g ∘ f) :=
  fun w => by
    obtain ⟨a, ha⟩ := hx w
    have hc := hk a { w with host := f w.host }
    unfold Effects.after at hc ⊢
    rw [Effects.bind_of_ok ha]
    exact hc

/-- A loop of returning steps. -/
theorem Returns.forM {x : κ → EStateM ε (World H ι) PUnit} {f : H → κ → H}
    (hx : ∀ k, Returns (x k) (f · k)) : ∀ ks : List κ, Returns (ks.forM x) (ks.foldl f ·)
  | [] => Returns.pure _
  | k :: ks => (hx k).bind fun _ => Returns.forM hx ks

end Changes

end Transactions
