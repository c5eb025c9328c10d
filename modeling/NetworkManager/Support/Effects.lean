import Mathlib

/-!
# Support — Effects

Computations that change a state and may fail: `EStateM ε σ α`, which keeps the state a failing
step leaves behind.  The rules below say what a sequence does from what its parts do, so that a
proof about a program never unfolds the monad.

* `attempt` runs a computation and hands its result over instead of failing.
* `zoom` runs a computation on a part of a larger state.
* `after` is the state a computation ends in, whether it returned or failed.
* `Keeps R x`: `x` only moves along `R`.  For a preorder `R`, sequences keep what their parts keep.
* `Same f`: the moves that leave `f` as it is.
-/

namespace Effects

variable {ε ε' σ τ α β : Type}

/-! ### Results of a sequence -/

/-- A sequence goes on from what its first part returns. -/
theorem bind_of_ok {x : EStateM ε σ α} {f : α → EStateM ε σ β} {s s' : σ} {a : α}
    (h : x s = .ok a s') : (x >>= f) s = f a s' := by
  show EStateM.bind x f s = f a s'
  simp only [EStateM.bind, h]

/-- A sequence fails where its first part fails. -/
theorem bind_of_error {x : EStateM ε σ α} {f : α → EStateM ε σ β} {s s' : σ} {e : ε}
    (h : x s = .error e s') : (x >>= f) s = .error e s' := by
  show EStateM.bind x f s = .error e s'
  simp only [EStateM.bind, h]

theorem get_bind (k : σ → EStateM ε σ α) (s : σ) : (get >>= k) s = k s s := rfl

theorem ofExcept_bind (a : α) (k : α → EStateM ε σ β) (s : σ) :
    ((MonadExcept.ofExcept (.ok a : Except ε α) : EStateM ε σ α) >>= k) s = k a s := rfl

/-- A result that is handed on leaves the state. -/
theorem ofExcept_eq_ok {r : Except ε α} {s t : σ} {a : α} :
    (MonadExcept.ofExcept r : EStateM ε σ α) s = .ok a t ↔ r = .ok a ∧ t = s := by
  cases r with
  | ok b => exact ⟨by rintro ⟨⟩; exact ⟨rfl, rfl⟩, by rintro ⟨⟨⟩, rfl⟩; rfl⟩
  | error e => exact ⟨by rintro ⟨⟩, by rintro ⟨⟨⟩, _⟩⟩

theorem modify_bind (f : σ → σ) (k : PUnit → EStateM ε σ α) (s : σ) :
    (modify f >>= k) s = k ⟨⟩ (f s) := rfl

theorem modify_apply (f : σ → σ) (s : σ) :
    (modify f : EStateM ε σ PUnit) s = .ok ⟨⟩ (f s) := rfl

/-- A sequence returns only when both of its parts do. -/
theorem bind_eq_ok {x : EStateM ε σ α} {f : α → EStateM ε σ β} {s s'' : σ} {b : β} :
    (x >>= f) s = .ok b s'' ↔ ∃ a s', x s = .ok a s' ∧ f a s' = .ok b s'' := by
  cases h : x s with
  | ok a s' =>
      rw [bind_of_ok h]
      exact ⟨fun h' => ⟨a, s', rfl, h'⟩, by rintro ⟨_, _, ⟨⟩, h'⟩; exact h'⟩
  | error e s' =>
      rw [bind_of_error h]
      exact ⟨by rintro ⟨⟩, by rintro ⟨_, _, ⟨⟩, _⟩⟩

/-- A sequence fails when its first part does, or when the second fails after it. -/
theorem bind_eq_error {x : EStateM ε σ α} {f : α → EStateM ε σ β} {s s'' : σ} {e : ε} :
    (x >>= f) s = .error e s'' ↔
      x s = .error e s'' ∨ ∃ a s', x s = .ok a s' ∧ f a s' = .error e s'' := by
  cases h : x s with
  | ok a s' =>
      rw [bind_of_ok h]
      refine ⟨fun h' => .inr ⟨a, s', rfl, h'⟩, ?_⟩
      rintro (⟨⟨⟩⟩ | ⟨_, _, ⟨⟩, h'⟩)
      exact h'
  | error e' s' =>
      rw [bind_of_error h]
      constructor
      · rintro ⟨⟩
        exact .inl rfl
      · rintro (⟨⟨⟩⟩ | ⟨_, _, ⟨⟩, _⟩)
        rfl

theorem adaptExcept_of_ok {f : ε → ε'} {x : EStateM ε σ α} {s s' : σ} {a : α}
    (h : x s = .ok a s') : EStateM.adaptExcept f x s = .ok a s' := by
  simp only [EStateM.adaptExcept, h]

theorem adaptExcept_of_error {f : ε → ε'} {x : EStateM ε σ α} {s s' : σ} {e : ε}
    (h : x s = .error e s') : EStateM.adaptExcept f x s = .error (f e) s' := by
  simp only [EStateM.adaptExcept, h]

/-- Only the errors are rewritten. -/
theorem adaptExcept_eq_ok {f : ε → ε'} {x : EStateM ε σ α} {s s' : σ} {a : α} :
    EStateM.adaptExcept f x s = .ok a s' ↔ x s = .ok a s' := by
  cases h : x s with
  | ok b t => rw [adaptExcept_of_ok h]; simp
  | error e t => rw [adaptExcept_of_error h]; simp

/-- An error is one that was rewritten. -/
theorem adaptExcept_eq_error {f : ε → ε'} {x : EStateM ε σ α} {s s' : σ} {e' : ε'} :
    EStateM.adaptExcept f x s = .error e' s' ↔ ∃ e, x s = .error e s' ∧ f e = e' := by
  cases h : x s with
  | ok b t => rw [adaptExcept_of_ok h]; simp
  | error e t => rw [adaptExcept_of_error h]; simp [and_comm]

/-- A mapped computation returns what the computation does, mapped. -/
theorem map_eq_ok {f : α → β} {x : EStateM ε σ α} {s s' : σ} {b : β} :
    (f <$> x) s = .ok b s' ↔ ∃ a, x s = .ok a s' ∧ f a = b := by
  rw [map_eq_pure_bind, bind_eq_ok]
  constructor
  · rintro ⟨a, _, ha, ⟨⟩⟩
    exact ⟨a, ha, rfl⟩
  · rintro ⟨a, ha, rfl⟩
    exact ⟨a, s', ha, rfl⟩

/-- A mapped computation fails as the computation does. -/
theorem map_eq_error {f : α → β} {x : EStateM ε σ α} {s s' : σ} {e : ε} :
    (f <$> x) s = .error e s' ↔ x s = .error e s' := by
  rw [map_eq_pure_bind, bind_eq_error]
  exact or_iff_left (by rintro ⟨_, _, _, ⟨⟩⟩)

/-! ### The state a computation ends in -/

/-- The state after `x`, whether it returned or failed. -/
def after (x : EStateM ε σ α) (s : σ) : σ :=
  match x s with
  | .ok _ s' => s'
  | .error _ s' => s'

theorem after_of_ok {x : EStateM ε σ α} {s s' : σ} {a : α} (h : x s = .ok a s') :
    after x s = s' := by
  simp only [after, h]

theorem after_of_error {x : EStateM ε σ α} {s s' : σ} {e : ε} (h : x s = .error e s') :
    after x s = s' := by
  simp only [after, h]

/-- The state after a sequence is the one after its second part. -/
theorem after_bind_of_ok {x : EStateM ε σ α} {f : α → EStateM ε σ β} {s s' : σ} {a : α}
    (h : x s = .ok a s') : after (x >>= f) s = after (f a) s' := by
  simp only [after, bind_of_ok h]

/-- What follows may be left out when it leaves the state. -/
theorem after_bind_of_still {x : EStateM ε σ α} {f : α → EStateM ε σ β}
    (hf : ∀ a t, after (f a) t = t) (s : σ) : after (x >>= f) s = after x s := by
  cases h : x s with
  | ok a s' => rw [after_bind_of_ok h, hf, after_of_ok h]
  | error e s' => rw [after_of_error (bind_of_error h), after_of_error h]

theorem after_congr {x y : EStateM ε σ α} {s t : σ} (h : x s = y t) : after x s = after y t := by
  simp only [after, h]

/-- Mapping the result keeps the state. -/
theorem after_map (f : α → β) (x : EStateM ε σ α) (s : σ) : after (f <$> x) s = after x s := by
  rw [map_eq_pure_bind]
  cases h : x s with
  | ok a s' => rw [after_bind_of_ok h, after_of_ok h]; rfl
  | error e s' => rw [after_of_error (bind_of_error h), after_of_error h]

/-- Rewriting the error keeps the state. -/
theorem after_adaptExcept (f : ε → ε') (x : EStateM ε σ α) (s : σ) :
    after (EStateM.adaptExcept f x) s = after x s := by
  cases h : x s with
  | ok a s' => rw [after_of_ok (adaptExcept_of_ok h), after_of_ok h]
  | error e s' => rw [after_of_error (adaptExcept_of_error h), after_of_error h]

theorem after_ofExcept (r : Except ε α) (s : σ) :
    after (MonadExcept.ofExcept r : EStateM ε σ α) s = s := by
  cases r with
  | ok a => rfl
  | error e => rfl

/-- The outcome of `x`, with the state after it. -/
def settle (x : EStateM ε σ α) (s : σ) : Except ε α × σ :=
  match x s with
  | .ok a s' => (.ok a, s')
  | .error e s' => (.error e, s')

theorem settle_of_ok {x : EStateM ε σ α} {s s' : σ} {a : α} (h : x s = .ok a s') :
    settle x s = (.ok a, s') := by
  simp only [settle, h]

theorem settle_of_error {x : EStateM ε σ α} {s s' : σ} {e : ε} (h : x s = .error e s') :
    settle x s = (.error e, s') := by
  simp only [settle, h]

theorem ok_of_settle {x : EStateM ε σ α} {s s' : σ} {a : α} (h : settle x s = (.ok a, s')) :
    x s = .ok a s' := by
  cases hx : x s with
  | ok b t =>
      rw [settle_of_ok hx] at h
      cases h
      rfl
  | error e t =>
      rw [settle_of_error hx] at h
      cases h

/-- What `settle` leaves is the state after the computation. -/
theorem settle_snd (x : EStateM ε σ α) (s : σ) : (settle x s).2 = after x s := by
  cases h : x s with
  | ok a s' => rw [settle_of_ok h, after_of_ok h]
  | error e s' => rw [settle_of_error h, after_of_error h]

/-- Runs `x` and returns its result; never fails itself. -/
def attempt (x : EStateM ε σ α) : EStateM ε' σ (Except ε α) := fun s =>
  match x s with
  | .ok a s' => .ok (.ok a) s'
  | .error e s' => .ok (.error e) s'

theorem attempt_of_ok {x : EStateM ε σ α} {s s' : σ} {a : α} (h : x s = .ok a s') :
    (attempt x : EStateM ε' σ (Except ε α)) s = .ok (.ok a) s' := by
  simp only [attempt, h]

theorem attempt_of_error {x : EStateM ε σ α} {s s' : σ} {e : ε} (h : x s = .error e s') :
    (attempt x : EStateM ε' σ (Except ε α)) s = .ok (.error e) s' := by
  simp only [attempt, h]

/-- What follows an attempt goes on from the outcome of its computation. -/
theorem attempt_bind (x : EStateM ε σ α) (k : Except ε α → EStateM ε' σ β) (s : σ) :
    (attempt x >>= k) s = k (settle x s).1 (settle x s).2 := by
  cases h : x s with
  | ok a s' => rw [bind_of_ok (attempt_of_ok h), settle_of_ok h]
  | error e s' => rw [bind_of_ok (attempt_of_error h), settle_of_error h]

/-- An attempt returns in the state its computation ends in. -/
theorem attempt_apply (x : EStateM ε σ α) (s : σ) :
    ∃ r, (attempt x : EStateM ε' σ (Except ε α)) s = .ok r (after x s) := by
  cases h : x s with
  | ok a s' => exact ⟨.ok a, (attempt_of_ok h).trans (by rw [after_of_ok h])⟩
  | error e s' => exact ⟨.error e, (attempt_of_error h).trans (by rw [after_of_error h])⟩

/-- Runs `x` on the part of the state that `get` reads and `set` writes back. -/
def zoom (get : τ → σ) (set : σ → τ → τ) (x : EStateM ε σ α) : EStateM ε τ α := fun t =>
  match x (get t) with
  | .ok a s => .ok a (set s t)
  | .error e s => .error e (set s t)

theorem zoom_of_ok {get : τ → σ} {set : σ → τ → τ} {x : EStateM ε σ α} {t : τ} {s : σ} {a : α}
    (h : x (get t) = .ok a s) : zoom get set x t = .ok a (set s t) := by
  simp only [zoom, h]

theorem zoom_of_error {get : τ → σ} {set : σ → τ → τ} {x : EStateM ε σ α} {t : τ} {s : σ} {e : ε}
    (h : x (get t) = .error e s) : zoom get set x t = .error e (set s t) := by
  simp only [zoom, h]

/-- A computation on a part of the state leaves the rest as it is. -/
theorem zoom_eq_ok {get : τ → σ} {set : σ → τ → τ} {x : EStateM ε σ α} {t t' : τ} {a : α}
    (h : zoom get set x t = .ok a t') : ∃ s, x (get t) = .ok a s ∧ t' = set s t := by
  cases hx : x (get t) with
  | ok b s =>
      rw [zoom_of_ok hx] at h
      cases h
      exact ⟨s, rfl, rfl⟩
  | error e s =>
      rw [zoom_of_error hx] at h
      cases h

/-- A computation on a part of the state fails where it fails on the part. -/
theorem zoom_eq_error {get : τ → σ} {set : σ → τ → τ} {x : EStateM ε σ α} {t t' : τ} {e : ε}
    (h : zoom get set x t = .error e t') : ∃ s, x (get t) = .error e s ∧ t' = set s t := by
  cases hx : x (get t) with
  | ok a s =>
      rw [zoom_of_ok hx] at h
      cases h
  | error e' s =>
      rw [zoom_of_error hx] at h
      cases h
      exact ⟨s, rfl, rfl⟩

/-- A computation on a part of the state changes this part only. -/
theorem after_zoom (get : τ → σ) (set : σ → τ → τ) (x : EStateM ε σ α) (t : τ) :
    after (zoom get set x) t = set (after x (get t)) t := by
  cases hx : x (get t) with
  | ok a s => rw [after_of_ok (zoom_of_ok hx), after_of_ok hx]
  | error e s => rw [after_of_error (zoom_of_error hx), after_of_error hx]

/-! ### Computations that keep a relation -/

/-- Every run of `x` ends in a state that `R` relates the first one to. -/
def Keeps (R : σ → σ → Prop) (x : EStateM ε σ α) : Prop := ∀ s, R s (after x s)

namespace Keeps

variable {R : σ → σ → Prop}

theorem of_ok {x : EStateM ε σ α} (hx : Keeps R x) {s s' : σ} {a : α} (h : x s = .ok a s') :
    R s s' := after_of_ok h ▸ hx s

theorem of_error {x : EStateM ε σ α} (hx : Keeps R x) {s s' : σ} {e : ε} (h : x s = .error e s') :
    R s s' := after_of_error h ▸ hx s

theorem pure [Std.Refl R] (a : α) : Keeps R (Pure.pure a : EStateM ε σ α) := fun s => Std.Refl.refl s

theorem throw [Std.Refl R] (e : ε) : Keeps R (MonadExcept.throw e : EStateM ε σ α) :=
  fun s => Std.Refl.refl s

/-- A sequence keeps what its parts keep, as the relation is transitive. -/
theorem bind [IsTrans σ R] {x : EStateM ε σ α} {f : α → EStateM ε σ β} (hx : Keeps R x)
    (hf : ∀ a, Keeps R (f a)) : Keeps R (x >>= f) := fun s => by
  have h₁ := hx s
  cases h : x s with
  | ok a s' =>
      rw [after_of_ok h] at h₁
      have h₂ := hf a s'
      rw [after_bind_of_ok h]
      exact trans_of R h₁ h₂
  | error e s' =>
      rw [after_of_error h] at h₁
      rwa [after_of_error (bind_of_error h)]

theorem adaptExcept {f : ε → ε'} {x : EStateM ε σ α} (hx : Keeps R x) :
    Keeps R (EStateM.adaptExcept f x) := fun s => by
  have h₁ := hx s
  cases h : x s with
  | ok a s' => rwa [after_of_ok (adaptExcept_of_ok h), ← after_of_ok h]
  | error e s' => rwa [after_of_error (adaptExcept_of_error h), ← after_of_error h]

/-- Catching the error keeps what the computation keeps. -/
theorem attempt {x : EStateM ε σ α} (hx : Keeps R x) :
    Keeps R (Effects.attempt x : EStateM ε' σ (Except ε α)) := fun s => by
  obtain ⟨r, hr⟩ : ∃ r, (Effects.attempt x : EStateM ε' σ (Except ε α)) s = .ok r (after x s) :=
    attempt_apply x s
  rw [after_of_ok hr]
  exact hx s

/-- A relation that says less is kept too. -/
theorem mono {R' : σ → σ → Prop} (h : ∀ s t, R s t → R' s t) {x : EStateM ε σ α}
    (hx : Keeps R x) : Keeps R' x := fun s => h _ _ (hx s)

theorem modify {f : σ → σ} (h : ∀ s, R s (f s)) : Keeps R (modify f : EStateM ε σ PUnit) := h

theorem get_bind {f : σ → EStateM ε σ α} (hf : ∀ s, Keeps R (f s)) : Keeps R (get >>= f) :=
  fun s => hf s s

theorem ofExcept [Std.Refl R] (r : Except ε α) :
    Keeps R (MonadExcept.ofExcept r : EStateM ε σ α) := by
  cases r with
  | ok a => exact .pure a
  | error e => exact .throw e

theorem map {x : EStateM ε σ α} (hx : Keeps R x) (f : α → β) : Keeps R (f <$> x) := fun s => by
  rw [after_map]
  exact hx s

/-- A computation on a part keeps what every change of the part keeps. -/
theorem zoom {get : τ → σ} {set : σ → τ → τ} {x : EStateM ε σ α} {R' : τ → τ → Prop}
    (h : ∀ t s, R' t (set s t)) : Keeps R' (zoom get set x) := fun t => by
  rw [after_zoom]
  exact h t _

/-- A loop keeps what each of its rounds keeps. -/
theorem foldlM [Std.Refl R] [IsTrans σ R] {f : β → α → EStateM ε σ β}
    (hf : ∀ b a, Keeps R (f b a)) (b : β) (as : List α) : Keeps R (as.foldlM f b) := by
  induction as generalizing b with
  | nil => exact .pure b
  | cons a as ih => exact (hf b a).bind fun b' => ih b'

end Keeps

/-- The states agree in `f`. -/
def Same (f : σ → β) (s t : σ) : Prop := f t = f s

instance (f : σ → β) : Std.Refl (Same f) := ⟨fun _ => rfl⟩

instance (f : σ → β) : IsTrans σ (Same f) := ⟨fun _ _ _ h h' => Eq.trans h' h⟩

/-! ### Computations that only read -/

/-- `x` returns or fails as `g` says of the state, and leaves it. -/
def Reads (x : EStateM ε σ α) (g : σ → Except ε α) : Prop :=
  ∀ s, settle x s = (g s, s)

namespace Reads

theorem pure (a : α) : Reads (Pure.pure a : EStateM ε σ α) fun _ => .ok a := fun _ => rfl

theorem throw (e : ε) : Reads (MonadExcept.throw e : EStateM ε σ α) fun _ => .error e :=
  fun _ => rfl

theorem ofExcept (r : Except ε α) : Reads (MonadExcept.ofExcept r : EStateM ε σ α) fun _ => r := by
  intro s
  cases r with
  | ok a => rfl
  | error e => rfl

/-- A sequence of computations that only read reads what they read one after the other. -/
theorem bind {x : EStateM ε σ α} {f : α → EStateM ε σ β} {g : σ → Except ε α}
    {k : α → σ → Except ε β} (hx : Reads x g) (hf : ∀ a, Reads (f a) (k a)) :
    Reads (x >>= f) fun s => g s >>= fun a => k a s := by
  intro s
  have hs := hx s
  cases h : x s with
  | ok a s' =>
      rw [settle_of_ok h] at hs
      obtain ⟨hg, rfl⟩ := Prod.mk.inj hs
      show settle (x >>= f) s' = (g s' >>= fun a => k a s', s')
      rw [← hg]
      exact Eq.trans (by rw [settle, bind_of_ok h, settle]) (hf a s')
  | error e s' =>
      rw [settle_of_error h] at hs
      obtain ⟨hg, rfl⟩ := Prod.mk.inj hs
      show settle (x >>= f) s' = (g s' >>= fun a => k a s', s')
      rw [settle_of_error (bind_of_error h), ← hg]
      rfl

theorem map {x : EStateM ε σ α} {g : σ → Except ε α} (hx : Reads x g) (f : α → β) :
    Reads (f <$> x) fun s => f <$> g s := by
  rw [map_eq_pure_bind]
  intro s
  rw [hx.bind (fun a => .pure (f a)) s]
  cases g s <;> rfl

/-- So does a list of them. -/
theorem mapM {f : β → EStateM ε σ α} {g : β → σ → Except ε α} (hf : ∀ b, Reads (f b) (g b)) :
    ∀ bs : List β, Reads (bs.mapM f) fun s => bs.mapM fun b => g b s
  | [] => by
      simp only [List.mapM_nil]
      exact .pure []
  | b :: bs => by
      simp only [List.mapM_cons]
      exact (hf b).bind fun a => (mapM hf bs).bind fun as => .pure (a :: as)

theorem congr {x : EStateM ε σ α} {g g' : σ → Except ε α} (hx : Reads x g) (h : ∀ s, g s = g' s) :
    Reads x g' := fun s => (hx s).trans (by rw [h s])

theorem get_bind {f : σ → EStateM ε σ α} {g : σ → σ → Except ε α} (hf : ∀ s, Reads (f s) (g s)) :
    Reads (MonadState.get >>= f) fun s => g s s := fun s => hf s s

end Reads

end Effects
