import NetworkManager.Support.Effects

/-!
# Support — Tracing

A state with a record of the calls that were made on it, for programs that are generic over the
operations they call.

* `record call x`: runs `x` on the state under the record, and records `call`; `recordOk` records
  what `x` returns, and `quiet x` nothing.
* `Emits x calls`: a run of `x` that returns records exactly `calls`.
* `Adds P`: nothing is recorded, from one state to the next, but calls that satisfy `P`.
* `Yields x Q`: the result of a run of `x` and what the run records satisfy `Q`.
* `Total x`: `x` never fails.
* `Tracks get y x`: `y` does to a part of its state what `x` does.
-/

namespace Effects

variable {ε ε' σ τ α β C : Type}

/-- A state with the calls made so far. -/
structure Traced (C σ : Type) where
  state : σ
  calls : List C := []

/-- Runs `x` on the state, and records `call`. -/
def record (call : C) (x : EStateM ε σ α) : EStateM ε (Traced C σ) α := fun t =>
  match x t.state with
  | .ok a s => .ok a ⟨s, t.calls ++ [call]⟩
  | .error e s => .error e ⟨s, t.calls ++ [call]⟩

/-- A recorded call is recorded whether it fails or not. -/
theorem calls_after_record (call : C) (x : EStateM ε σ α) (t : Traced C σ) :
    (after (record call x) t).calls = t.calls ++ [call] := by
  rw [after, record]
  cases x t.state <;> rfl

theorem record_of_ok {call : C} {x : EStateM ε σ α} {t : Traced C σ} {a : α} {s : σ}
    (h : x t.state = .ok a s) : record call x t = .ok a ⟨s, t.calls ++ [call]⟩ := by
  rw [record, h]

/-- Runs `x` on the state, and records what it returns. -/
def recordOk (call : α → C) (x : EStateM ε σ α) : EStateM ε (Traced C σ) α := fun t =>
  match x t.state with
  | .ok a s => .ok a ⟨s, t.calls ++ [call a]⟩
  | .error e s => .error e ⟨s, t.calls⟩

/-- Runs `x` on the state, and records nothing. -/
def quiet (x : EStateM ε σ α) : EStateM ε (Traced C σ) α := fun t =>
  match x t.state with
  | .ok a s => .ok a ⟨s, t.calls⟩
  | .error e s => .error e ⟨s, t.calls⟩

/-- A call that is recorded when it returns. -/
theorem recordOk_eq_ok {call : α → C} {x : EStateM ε σ α} {t t' : Traced C σ} {a : α} :
    recordOk call x t = .ok a t' ↔ ∃ s, x t.state = .ok a s ∧ t' = ⟨s, t.calls ++ [call a]⟩ := by
  rw [recordOk]
  cases x t.state with
  | ok b s =>
      constructor
      · rintro ⟨⟩
        exact ⟨s, rfl, rfl⟩
      · rintro ⟨_, ⟨⟩, rfl⟩
        rfl
  | error e s => exact ⟨by rintro ⟨⟩, by rintro ⟨_, ⟨⟩, _⟩⟩

/-- A quiet call is not recorded. -/
theorem quiet_eq_ok {x : EStateM ε σ α} {t t' : Traced C σ} {a : α} :
    quiet x t = .ok a t' ↔ ∃ s, x t.state = .ok a s ∧ t' = ⟨s, t.calls⟩ := by
  rw [quiet]
  cases x t.state with
  | ok b s =>
      constructor
      · rintro ⟨⟩
        exact ⟨s, rfl, rfl⟩
      · rintro ⟨_, ⟨⟩, rfl⟩
        rfl
  | error e s => exact ⟨by rintro ⟨⟩, by rintro ⟨_, ⟨⟩, _⟩⟩

/-! ### What a run that returns records -/

/-- A run of `x` that returns records exactly `calls`. -/
def Emits (x : EStateM ε (Traced C σ) α) (calls : List C) : Prop :=
  ∀ t a t', x t = .ok a t' → t'.calls = t.calls ++ calls

namespace Emits

theorem record (call : C) (x : EStateM ε σ α) : Emits (record call x) [call] := by
  intro t a t' h
  rw [← calls_after_record call x t, after_of_ok h]

theorem pure (a : α) : Emits (Pure.pure a : EStateM ε (Traced C σ) α) [] := by
  rintro t _ _ ⟨⟩
  exact (List.append_nil _).symm

/-- A sequence records the calls of both parts. -/
theorem bind {x : EStateM ε (Traced C σ) α} {f : α → EStateM ε (Traced C σ) β}
    {calls calls' : List C} (hx : Emits x calls) (hf : ∀ a, Emits (f a) calls') :
    Emits (x >>= f) (calls ++ calls') := by
  intro t b t'' h
  obtain ⟨a, t', h₁, h₂⟩ := bind_eq_ok.mp h
  rw [hf a t' b t'' h₂, hx t a t' h₁, List.append_assoc]

/-- Rewriting the error keeps the record. -/
theorem adaptExcept {g : ε → ε'} {x : EStateM ε (Traced C σ) α} {calls : List C}
    (hx : Emits x calls) : Emits (EStateM.adaptExcept g x) calls := by
  intro t a t' h
  cases hxt : x t with
  | ok b s =>
      rw [adaptExcept_of_ok hxt] at h
      cases h
      exact hx t a t' hxt
  | error e s =>
      rw [adaptExcept_of_error hxt] at h
      cases h

/-- A recorded call whose error is caught always returns. -/
theorem attempt_record (call : C) (x : EStateM ε σ α) :
    Emits (attempt (Effects.record call x) : EStateM ε' (Traced C σ) (Except ε α)) [call] := by
  intro t r t' h
  obtain ⟨r', hr⟩ := attempt_apply (Effects.record call x) t
  rw [hr] at h
  cases h
  exact calls_after_record call x t

/-- Calls made for the elements of a list, one after the other. -/
theorem forM {f : β → EStateM ε (Traced C σ) PUnit} {call : β → C}
    (hf : ∀ b, Emits (f b) [call b]) (bs : List β) : Emits (bs.forM f) (bs.map call) := by
  induction bs with
  | nil => exact .pure PUnit.unit
  | cons b bs ih => exact (hf b).bind fun _ => ih

end Emits

/-! ### What any run records -/

/-- Only calls that satisfy `P` are added to the record. -/
def Adds (P : C → Prop) (t t' : Traced C σ) : Prop :=
  ∃ calls, t'.calls = t.calls ++ calls ∧ ∀ call ∈ calls, P call

variable {P : C → Prop}

instance : Std.Refl (Adds (σ := σ) P) where
  refl := fun t => ⟨[], (List.append_nil _).symm, by simp⟩

instance : IsTrans (Traced C σ) (Adds P) where
  trans := by
    rintro t t' t'' ⟨calls, h, hP⟩ ⟨calls', h', hP'⟩
    refine ⟨calls ++ calls', by rw [h', h, List.append_assoc], ?_⟩
    intro call hcall
    exact (List.mem_append.mp hcall).elim (hP call) (hP' call)

namespace Keeps

/-- A recorded call adds one record. -/
theorem record {call : C} (h : P call) (x : EStateM ε σ α) : Keeps (Adds P) (record call x) :=
  fun t => ⟨[call], calls_after_record call x t, by simpa using h⟩

/-- A loop over a list keeps what its rounds keep. -/
theorem forM {R : σ → σ → Prop} [Std.Refl R] [IsTrans σ R] {f : β → EStateM ε σ PUnit}
    {bs : List β} (hf : ∀ b ∈ bs, Keeps R (f b)) : Keeps R (bs.forM f) := by
  induction bs with
  | nil => exact .pure PUnit.unit
  | cons b bs ih =>
      exact (hf b List.mem_cons_self).bind fun _ => ih fun b' hb' => hf b' (List.mem_cons_of_mem b hb')

end Keeps

/-- What a loop that returns makes of a part of the state that each of its steps changes in a known
way. -/
theorem forM_fold {γ : Type} {f : β → EStateM ε σ PUnit} {g : σ → γ} {k : γ → β → γ}
    (hf : ∀ b s t, f b s = .ok ⟨⟩ t → g t = k (g s) b) {bs : List β} {s t : σ}
    (h : bs.forM f s = .ok ⟨⟩ t) : g t = bs.foldl k (g s) := by
  induction bs generalizing s with
  | nil =>
      cases h
      rfl
  | cons b bs ih =>
      obtain ⟨⟨⟩, u, hb, hbs⟩ := bind_eq_ok.mp h
      rw [ih hbs, hf b s u hb, List.foldl_cons]

/-! ### Computations that never fail -/

/-- Every run of `x` returns. -/
def Total (x : EStateM ε σ α) : Prop := ∀ s, ∃ a s', x s = .ok a s'

namespace Total

theorem pure (a : α) : Total (Pure.pure a : EStateM ε σ α) := fun s => ⟨a, s, rfl⟩

theorem modify (f : σ → σ) : Total (modify f : EStateM ε σ PUnit) := fun s => ⟨_, f s, rfl⟩

/-- A sequence of total computations is total. -/
theorem bind {x : EStateM ε σ α} {f : α → EStateM ε σ β} (hx : Total x) (hf : ∀ a, Total (f a)) :
    Total (x >>= f) := by
  intro s
  obtain ⟨a, s', h⟩ := hx s
  obtain ⟨b, s'', h'⟩ := hf a s'
  exact ⟨b, s'', bind_eq_ok.mpr ⟨a, s', h, h'⟩⟩

theorem adaptExcept {w : ε → ε'} {x : EStateM ε σ α} (hx : Total x) :
    Total (EStateM.adaptExcept w x) := fun s =>
  have ⟨a, s', h⟩ := hx s
  ⟨a, s', adaptExcept_of_ok h⟩

theorem attempt (x : EStateM ε σ α) : Total (attempt x : EStateM ε' σ (Except ε α)) := fun s =>
  have ⟨r, h⟩ := attempt_apply x s
  ⟨r, _, h⟩

theorem zoom {get : τ → σ} {set : σ → τ → τ} {x : EStateM ε σ α} (hx : Total x) :
    Total (Effects.zoom get set x) := fun t =>
  have ⟨a, s, h⟩ := hx (get t)
  ⟨a, set s t, zoom_of_ok h⟩

theorem record {x : EStateM ε σ α} (hx : Total x) (call : C) : Total (record call x) := fun t =>
  have ⟨a, _, h⟩ := hx t.state
  ⟨a, _, record_of_ok h⟩

/-- So is a loop of them. -/
theorem forM {f : β → EStateM ε σ PUnit} (hf : ∀ b, Total (f b)) (bs : List β) :
    Total (bs.forM f) := by
  induction bs with
  | nil => exact .pure PUnit.unit
  | cons b bs ih => exact (hf b).bind fun _ => ih

end Total

/-! ### A computation next to its traced version -/

/-- A sequence, by the results of its parts. -/
theorem settle_bind (x : EStateM ε σ α) (f : α → EStateM ε σ β) (s : σ) :
    settle (x >>= f) s = match settle x s with
      | (.ok a, s') => settle (f a) s'
      | (.error e, s') => (.error e, s') := by
  cases h : x s with
  | ok a s' =>
      rw [settle_of_ok h]
      simp only [settle, bind_of_ok h]
  | error e s' => rw [settle_of_error h, settle_of_error (bind_of_error h)]

theorem settle_map (f : α → β) (x : EStateM ε σ α) (s : σ) :
    settle (f <$> x) s = ((settle x s).1.map f, (settle x s).2) := by
  rw [map_eq_pure_bind, settle_bind]
  rcases settle x s with ⟨e | a, s'⟩ <;> rfl

theorem settle_adaptExcept (w : ε → ε') (x : EStateM ε σ α) (s : σ) :
    settle (EStateM.adaptExcept w x) s = ((settle x s).1.mapError w, (settle x s).2) := by
  cases h : x s with
  | ok a s' => rw [settle_of_ok h, settle_of_ok (adaptExcept_of_ok h), Except.mapError]
  | error e s' => rw [settle_of_error h, settle_of_error (adaptExcept_of_error h), Except.mapError]

theorem settle_attempt (x : EStateM ε σ α) (s : σ) :
    settle (attempt x : EStateM ε' σ (Except ε α)) s = (.ok (settle x s).1, (settle x s).2) := by
  cases h : x s with
  | ok a s' => rw [settle_of_ok h, settle_of_ok (attempt_of_ok h)]
  | error e s' => rw [settle_of_error h, settle_of_ok (attempt_of_error h)]

/-- A recorded call, by its result. -/
theorem settle_record (call : C) (x : EStateM ε σ α) (t : Traced C σ) :
    settle (record call x) t =
      ((settle x t.state).1, ⟨(settle x t.state).2, t.calls ++ [call]⟩) := by
  cases h : x t.state <;> simp only [settle, record, h]

theorem settle_zoom (get : τ → σ) (set : σ → τ → τ) (x : EStateM ε σ α) (t : τ) :
    settle (zoom get set x) t = ((settle x (get t)).1, set (settle x (get t)).2 t) := by
  cases h : x (get t) with
  | ok a s => rw [settle_of_ok h, settle_of_ok (zoom_of_ok h)]
  | error e s => rw [settle_of_error h, settle_of_error (zoom_of_error h)]

/-! ### Results and records -/

/-- The result of any run of `x`, and the calls the run adds to the record, satisfy `Q`. -/
def Yields (x : EStateM ε (Traced C σ) α) (Q : Except ε α → List C → Prop) : Prop :=
  ∀ t, ∃ calls, (settle x t).2.calls = t.calls ++ calls ∧ Q (settle x t).1 calls

namespace Yields

variable {Q : Except ε α → List C → Prop}

theorem pure {a : α} (h : Q (.ok a) []) : Yields (Pure.pure a : EStateM ε (Traced C σ) α) Q :=
  fun t => ⟨[], (List.append_nil t.calls).symm, h⟩

theorem throw {e : ε} (h : Q (.error e) []) :
    Yields (MonadExcept.throw e : EStateM ε (Traced C σ) α) Q :=
  fun t => ⟨[], (List.append_nil t.calls).symm, h⟩

/-- A sequence yields what its parts yield, and its first error with what was recorded up to it. -/
theorem bind {x : EStateM ε (Traced C σ) α} {f : α → EStateM ε (Traced C σ) β}
    {Q' : Except ε β → List C → Prop} (hx : Yields x Q)
    (hf : ∀ a calls, Q (.ok a) calls → Yields (f a) fun r calls' => Q' r (calls ++ calls'))
    (herror : ∀ e calls, Q (.error e) calls → Q' (.error e) calls) : Yields (x >>= f) Q' := by
  intro t
  obtain ⟨calls, hcalls, hQ⟩ := hx t
  rw [settle_bind]
  rcases hsettle : settle x t with ⟨e | a, t'⟩
  · rw [hsettle] at hcalls hQ
    exact ⟨calls, hcalls, herror e calls hQ⟩
  · rw [hsettle] at hcalls hQ
    obtain ⟨calls', hcalls', hQ'⟩ := hf a calls hQ t'
    exact ⟨calls ++ calls', by rw [hcalls', hcalls, List.append_assoc], hQ'⟩

/-- After a part that records nothing. -/
theorem bind_of_nil {x : EStateM ε (Traced C σ) α} {f : α → EStateM ε (Traced C σ) β}
    {Q' : Except ε β → List C → Prop} (hx : Yields x fun _ calls => calls = [])
    (hf : ∀ a, Yields (f a) Q') (herror : ∀ e, Q' (.error e) []) : Yields (x >>= f) Q' :=
  hx.bind (fun a calls hcalls => by subst hcalls; exact hf a)
    fun e calls hcalls => by subst hcalls; exact herror e

/-- Rewriting the error rewrites what is yielded. -/
theorem adaptExcept {g : ε → ε'} {x : EStateM ε (Traced C σ) α}
    {Q' : Except ε' α → List C → Prop} (hx : Yields x fun r => Q' (r.mapError g)) :
    Yields (EStateM.adaptExcept g x) Q' := by
  intro t
  rw [settle_adaptExcept]
  exact hx t

/-- What follows an attempt goes on from either result. -/
theorem attempt_bind {x : EStateM ε (Traced C σ) α} {k : Except ε α → EStateM ε' (Traced C σ) β}
    {Q' : Except ε' β → List C → Prop} (hx : Yields x Q)
    (hk : ∀ r calls, Q r calls → Yields (k r) fun r' calls' => Q' r' (calls ++ calls')) :
    Yields (attempt x >>= k) Q' := by
  intro t
  obtain ⟨calls, hcalls, hQ⟩ := hx t
  obtain ⟨calls', hcalls', hQ'⟩ := hk _ calls hQ (settle x t).2
  rw [settle, Effects.attempt_bind]
  exact ⟨calls ++ calls', by rw [← settle, hcalls', hcalls, List.append_assoc], hQ'⟩

/-- A recorded call yields one record. -/
theorem record {call : C} (x : EStateM ε σ α) (h : ∀ r, Q r [call]) :
    Yields (Effects.record call x) Q := by
  intro t
  rw [settle_record]
  exact ⟨[call], rfl, h _⟩

/-- A call that is recorded when it returns yields its record with its result only. -/
theorem recordOk {call : α → C} (x : EStateM ε σ α) (hok : ∀ a, Q (.ok a) [call a])
    (herror : ∀ e, Q (.error e) []) : Yields (Effects.recordOk call x) Q := by
  intro t
  rw [settle, Effects.recordOk]
  cases x t.state with
  | ok a s => exact ⟨[call a], rfl, hok a⟩
  | error e s => exact ⟨[], (List.append_nil _).symm, herror e⟩

/-- A quiet call yields no record. -/
theorem quiet (x : EStateM ε σ α) (h : ∀ r, Q r []) : Yields (Effects.quiet x) Q := by
  intro t
  rw [settle, Effects.quiet]
  cases x t.state with
  | ok a s => exact ⟨[], (List.append_nil _).symm, h _⟩
  | error e s => exact ⟨[], (List.append_nil _).symm, h _⟩

end Yields

/-- `y` returns or fails as `x` does, and moves the part `get` of its state as `x` does. -/
def Tracks (get : τ → σ) (y : EStateM ε τ α) (x : EStateM ε σ α) : Prop :=
  ∀ t, Prod.map id get (settle y t) = settle x (get t)

namespace Tracks

variable {get : τ → σ}

/-- What is left of the traced state is the state. -/
theorem after_eq {y : EStateM ε τ α} {x : EStateM ε σ α} (h : Tracks get y x) (t : τ) :
    get (after y t) = after x (get t) := by
  rw [← settle_snd, ← settle_snd, ← h t]
  rfl

/-- What tracks a run that returns does so too. -/
theorem eq_ok {y : EStateM ε τ α} {x : EStateM ε σ α} (h : Tracks get y x) {t : τ} {s : σ} {a : α}
    (hx : x (get t) = .ok a s) : ∃ t', y t = .ok a t' ∧ get t' = s := by
  have ht := h t
  rw [settle_of_ok hx] at ht
  cases hy : y t with
  | ok b t' =>
      rw [settle_of_ok hy] at ht
      cases ht
      exact ⟨t', rfl, rfl⟩
  | error e t' =>
      rw [settle_of_error hy] at ht
      cases ht

theorem pure (a : α) : Tracks get (Pure.pure a : EStateM ε τ α) (Pure.pure a) := fun _ => rfl

theorem throw (e : ε) : Tracks get (MonadExcept.throw e : EStateM ε τ α) (MonadExcept.throw e) :=
  fun _ => rfl

theorem modify {g : τ → τ} {f : σ → σ} (h : ∀ t, get (g t) = f (get t)) :
    Tracks get (modify g : EStateM ε τ PUnit) (modify f) := fun t =>
  congrArg (Prod.mk (Except.ok PUnit.unit)) (h t)

/-- A sequence tracks part by part. -/
theorem bind {y : EStateM ε τ α} {x : EStateM ε σ α} {g : α → EStateM ε τ β}
    {f : α → EStateM ε σ β} (h : Tracks get y x) (hf : ∀ a, Tracks get (g a) (f a)) :
    Tracks get (y >>= g) (x >>= f) := by
  intro t
  rw [settle_bind, settle_bind, ← h t]
  rcases settle y t with ⟨a | e, t'⟩
  · rfl
  · exact hf e t'

/-- Rewriting the error of both keeps them on track. -/
theorem adaptExcept {w : ε → ε'} {y : EStateM ε τ α} {x : EStateM ε σ α} (h : Tracks get y x) :
    Tracks get (EStateM.adaptExcept w y) (EStateM.adaptExcept w x) := by
  intro t
  rw [settle_adaptExcept, settle_adaptExcept, ← h t]
  rfl

theorem attempt {y : EStateM ε τ α} {x : EStateM ε σ α} (h : Tracks get y x) :
    Tracks get (Effects.attempt y : EStateM ε' τ (Except ε α)) (Effects.attempt x) := by
  intro t
  rw [settle_attempt, settle_attempt, ← h t]
  rfl

/-- A recorded call tracks the call. -/
theorem record (call : C) (x : EStateM ε σ α) :
    Tracks Traced.state (Effects.record call x) x := by
  intro t
  rw [settle_record]
  rfl

theorem recordOk (call : α → C) (x : EStateM ε σ α) :
    Tracks Traced.state (Effects.recordOk call x) x := by
  intro t
  rw [settle, settle, Effects.recordOk]
  cases x t.state <;> rfl

theorem quiet (x : EStateM ε σ α) :
    Tracks (Traced.state (C := C)) (Effects.quiet x) x := by
  intro t
  rw [settle, settle, Effects.quiet]
  cases x t.state <;> rfl

/-- On a part of a larger state, when the two parts are parts of each other's wholes. -/
theorem zoom {σ' τ' : Type} {get' : τ' → σ'} {part : τ' → τ} {put : τ → τ' → τ'} {part' : σ' → σ}
    {put' : σ → σ' → σ'} {y : EStateM ε τ α} {x : EStateM ε σ α} (h : Tracks get y x)
    (hpart : ∀ t, part' (get' t) = get (part t))
    (hput : ∀ t' t, get' (put t' t) = put' (get t') (get' t)) :
    Tracks get' (Effects.zoom part put y) (Effects.zoom part' put' x) := by
  intro t
  rw [settle_zoom, settle_zoom, hpart, ← h (part t)]
  exact congrArg (Prod.mk _) (hput _ t)

/-- A loop tracks round by round. -/
theorem forM {g : β → EStateM ε τ PUnit} {f : β → EStateM ε σ PUnit}
    (h : ∀ b, Tracks get (g b) (f b)) (bs : List β) : Tracks get (bs.forM g) (bs.forM f) := by
  induction bs with
  | nil => exact .pure PUnit.unit
  | cons b bs ih => exact (h b).bind fun _ => ih

end Tracks

end Effects
