import NetworkManager.Support.Effects

/-!
# Support — Two runs

Computations that cannot be told apart by what they return.  `Alike R x y`: from states that `R`
relates, `x` and `y` return the same or fail with the same error, and end in states that `R`
relates again.  There is a rule for each way of building a computation, so that two programs that
differ in some of their parts are alike as soon as these parts are.
-/

namespace Effects

variable {ε ε' σ τ α β : Type}

def Alike (R : σ → τ → Prop) (x : EStateM ε σ α) (y : EStateM ε τ α) : Prop :=
  ∀ s t, R s t → (settle x s).1 = (settle y t).1 ∧ R (settle x s).2 (settle y t).2

namespace Alike

variable {R : σ → τ → Prop} {x : EStateM ε σ α} {y : EStateM ε τ α}

theorem of_ok {s s' : σ} {t t' : τ} {a : α} (hx : x s = .ok a s') (hy : y t = .ok a t')
    (h : R s' t') : (settle x s).1 = (settle y t).1 ∧ R (settle x s).2 (settle y t).2 := by
  rw [settle_of_ok hx, settle_of_ok hy]
  exact ⟨rfl, h⟩

theorem of_error {s s' : σ} {t t' : τ} {e : ε} (hx : x s = .error e s') (hy : y t = .error e t')
    (h : R s' t') : (settle x s).1 = (settle y t).1 ∧ R (settle x s).2 (settle y t).2 := by
  rw [settle_of_error hx, settle_of_error hy]
  exact ⟨rfl, h⟩

/-- Both return the same, or both fail with the same error. -/
theorem both (h : Alike R x y) {s : σ} {t : τ} (hR : R s t) :
    (∃ a s' t', x s = .ok a s' ∧ y t = .ok a t' ∧ R s' t') ∨
    ∃ e s' t', x s = .error e s' ∧ y t = .error e t' ∧ R s' t' := by
  obtain ⟨hanswer, hstate⟩ := h s t hR
  cases hx : x s with
  | ok a s' =>
      cases hy : y t with
      | ok b t' =>
          rw [settle_of_ok hx, settle_of_ok hy] at hanswer hstate
          cases hanswer
          exact .inl ⟨a, s', t', rfl, rfl, hstate⟩
      | error e t' =>
          rw [settle_of_ok hx, settle_of_error hy] at hanswer
          cases hanswer
  | error e s' =>
      cases hy : y t with
      | ok b t' =>
          rw [settle_of_error hx, settle_of_ok hy] at hanswer
          cases hanswer
      | error e' t' =>
          rw [settle_of_error hx, settle_of_error hy] at hanswer hstate
          cases hanswer
          exact .inr ⟨e, s', t', rfl, rfl, hstate⟩

/-- A computation is like itself. -/
theorem refl (x : EStateM ε σ α) : Alike Eq x x := fun s t h => by
  subst h
  exact ⟨rfl, rfl⟩

theorem pure (a : α) : Alike R (Pure.pure a : EStateM ε σ α) (Pure.pure a) :=
  fun _ _ h => of_ok rfl rfl h

theorem throw (e : ε) :
    Alike R (MonadExcept.throw e : EStateM ε σ α) (MonadExcept.throw e) :=
  fun _ _ h => of_error rfl rfl h

theorem ofExcept (r : Except ε α) :
    Alike R (MonadExcept.ofExcept r : EStateM ε σ α) (MonadExcept.ofExcept r) := by
  cases r with
  | ok a => exact .pure a
  | error e => exact .throw e

theorem bind {f : α → EStateM ε σ β} {g : α → EStateM ε τ β} (h : Alike R x y)
    (hf : ∀ a, Alike R (f a) (g a)) : Alike R (x >>= f) (y >>= g) := fun s t hR => by
  obtain ⟨a, s', t', hx, hy, hR'⟩ | ⟨e, s', t', hx, hy, hR'⟩ := h.both hR
  · obtain ⟨b, s'', t'', hx', hy', hR''⟩ | ⟨e, s'', t'', hx', hy', hR''⟩ := (hf a).both hR'
    · exact of_ok ((bind_of_ok hx).trans hx') ((bind_of_ok hy).trans hy') hR''
    · exact of_error ((bind_of_ok hx).trans hx') ((bind_of_ok hy).trans hy') hR''
  · exact of_error (bind_of_error hx) (bind_of_error hy) hR'

/-- What follows need only be alike for answers of which `m` and `m'` are the same. -/
theorem bind_of_map {α' γ : Type} {y : EStateM ε τ α'} {m : α → γ} {m' : α' → γ}
    {f : α → EStateM ε σ β} {g : α' → EStateM ε τ β} (h : Alike R (m <$> x) (m' <$> y))
    (hf : ∀ a a', m a = m' a' → Alike R (f a) (g a')) : Alike R (x >>= f) (y >>= g) :=
  fun s t hR => by
    obtain ⟨c, s', t', hx, hy, hR'⟩ | ⟨e, s', t', hx, hy, hR'⟩ := h.both hR
    · obtain ⟨a, hxa, rfl⟩ := map_eq_ok.mp hx
      obtain ⟨a', hya, ha⟩ := map_eq_ok.mp hy
      obtain ⟨b, s'', t'', hx', hy', hR''⟩ | ⟨e, s'', t'', hx', hy', hR''⟩ :=
        (hf a a' ha.symm).both hR'
      · exact of_ok ((bind_of_ok hxa).trans hx') ((bind_of_ok hya).trans hy') hR''
      · exact of_error ((bind_of_ok hxa).trans hx') ((bind_of_ok hya).trans hy') hR''
    · exact of_error (bind_of_error (map_eq_error.mp hx)) (bind_of_error (map_eq_error.mp hy)) hR'

/-- What is read may differ as far as `R` allows. -/
theorem get_bind {f : σ → EStateM ε σ β} {g : τ → EStateM ε τ β}
    (h : ∀ s t, R s t → Alike R (f s) (g t)) : Alike R (get >>= f) (get >>= g) :=
  fun s t hR => h s t hR s t hR

theorem modify {f : σ → σ} {g : τ → τ} (h : ∀ s t, R s t → R (f s) (g t)) :
    Alike R (modify f : EStateM ε σ PUnit) (modify g) := fun s t hR => of_ok rfl rfl (h s t hR)

theorem map (h : Alike R x y) (f : α → β) : Alike R (f <$> x) (f <$> y) := by
  rw [map_eq_pure_bind, map_eq_pure_bind]
  exact h.bind fun a => .pure (f a)

theorem adaptExcept (h : Alike R x y) (f : ε → ε') :
    Alike R (EStateM.adaptExcept f x) (EStateM.adaptExcept f y) := fun s t hR => by
  obtain ⟨a, s', t', hx, hy, hR'⟩ | ⟨e, s', t', hx, hy, hR'⟩ := h.both hR
  · exact of_ok (adaptExcept_of_ok hx) (adaptExcept_of_ok hy) hR'
  · exact of_error (adaptExcept_of_error hx) (adaptExcept_of_error hy) hR'

theorem attempt (h : Alike R x y) :
    Alike R (Effects.attempt x : EStateM ε' σ (Except ε α)) (Effects.attempt y) := fun s t hR => by
  obtain ⟨a, s', t', hx, hy, hR'⟩ | ⟨e, s', t', hx, hy, hR'⟩ := h.both hR
  · exact of_ok (attempt_of_ok hx) (attempt_of_ok hy) hR'
  · exact of_ok (attempt_of_error hx) (attempt_of_error hy) hR'

theorem attempt_map {α' γ : Type} {y : EStateM ε τ α'} {m : α → γ} {m' : α' → γ}
    (h : Alike R (m <$> x) (m' <$> y)) :
    Alike R (Except.map m <$> (Effects.attempt x : EStateM ε' σ (Except ε α)))
      (Except.map m' <$> Effects.attempt y) := fun s t hR => by
  obtain ⟨c, s', t', hx, hy, hR'⟩ | ⟨e, s', t', hx, hy, hR'⟩ := h.both hR
  · obtain ⟨a, hxa, rfl⟩ := map_eq_ok.mp hx
    obtain ⟨a', hya, ha⟩ := map_eq_ok.mp hy
    exact of_ok (map_eq_ok.mpr ⟨_, attempt_of_ok hxa, rfl⟩)
      (map_eq_ok.mpr ⟨_, attempt_of_ok hya, congrArg Except.ok ha⟩) hR'
  · exact of_ok (map_eq_ok.mpr ⟨_, attempt_of_error (map_eq_error.mp hx), rfl⟩)
      (map_eq_ok.mpr ⟨_, attempt_of_error (map_eq_error.mp hy), rfl⟩) hR'

/-- `S` relates the wholes as `R` relates their parts. -/
theorem zoom {σ' τ' : Type} {S : σ' → τ' → Prop} {part : σ' → σ} {put : σ → σ' → σ'}
    {part' : τ' → τ} {put' : τ → τ' → τ'} (h : Alike R x y)
    (hpart : ∀ s t, S s t → R (part s) (part' t))
    (hput : ∀ s t a b, S s t → R a b → S (put a s) (put' b t)) :
    Alike S (Effects.zoom part put x) (Effects.zoom part' put' y) := fun s t hS => by
  obtain ⟨a, s', t', hx, hy, hR'⟩ | ⟨e, s', t', hx, hy, hR'⟩ := h.both (hpart s t hS)
  · exact of_ok (zoom_of_ok hx) (zoom_of_ok hy) (hput s t s' t' hS hR')
  · exact of_error (zoom_of_error hx) (zoom_of_error hy) (hput s t s' t' hS hR')

theorem forM {f : β → EStateM ε σ PUnit} {g : β → EStateM ε τ PUnit}
    (h : ∀ b, Alike R (f b) (g b)) (bs : List β) : Alike R (bs.forM f) (bs.forM g) := by
  induction bs with
  | nil => exact .pure _
  | cons b bs ih => exact (h b).bind fun _ => ih

theorem foldlM {f : α → β → EStateM ε σ α} {g : α → β → EStateM ε τ α}
    (h : ∀ a b, Alike R (f a b) (g a b)) (a : α) (bs : List β) :
    Alike R (bs.foldlM f a) (bs.foldlM g a) := by
  induction bs generalizing a with
  | nil => exact .pure a
  | cons b bs ih => exact (h a b).bind fun a' => ih a'

theorem mapM {f : β → EStateM ε σ α} {g : β → EStateM ε τ α} (h : ∀ b, Alike R (f b) (g b))
    (bs : List β) : Alike R (bs.mapM f) (bs.mapM g) := by
  induction bs with
  | nil => exact .pure _
  | cons b bs ih =>
      rw [List.mapM_cons, List.mapM_cons]
      exact (h b).bind fun _ => ih.bind fun _ => .pure _

end Alike

end Effects
