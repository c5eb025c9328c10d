import Mathlib

/-!
# Support — Results

`Result` and `Option` without a state: when a chain of fallible steps returns, and what it returns.
-/

namespace Results

variable {ε ε' α β : Type}

/-- A chain returns exactly when each of its parts does. -/
theorem bind_eq_ok {x : Except ε α} {f : α → Except ε β} {b : β} :
    (x >>= f) = .ok b ↔ ∃ a, x = .ok a ∧ f a = .ok b := by
  cases x with
  | error e => exact ⟨by rintro ⟨⟩, by rintro ⟨_, ⟨⟩, _⟩⟩
  | ok a => exact ⟨fun h => ⟨a, rfl, h⟩, by rintro ⟨_, ⟨⟩, h⟩; exact h⟩

/-- A check that fails ends the chain. -/
theorem guard_eq_ok {c : Prop} [Decidable c] {e : ε} {x : Except ε α} {a : α} :
    (if c then (do throw e; x) else x) = .ok a ↔ ¬ c ∧ x = .ok a := by
  by_cases h : c
  · rw [if_pos h]
    exact ⟨by rintro ⟨⟩, fun h' => (h'.1 h).elim⟩
  · rw [if_neg h]
    exact ⟨fun h' => ⟨h, h'⟩, And.right⟩

/-- A check that passes over what it does not take. -/
theorem skip_eq_some {c : Prop} [Decidable c] {x : Except ε (Option α)} {a : α} :
    (if c then .ok none else x) = .ok (some a) ↔ ¬ c ∧ x = .ok (some a) := by
  by_cases h : c
  · rw [if_pos h]
    exact ⟨by rintro ⟨⟩, fun h' => (h'.1 h).elim⟩
  · rw [if_neg h]
    exact ⟨fun h' => ⟨h, h'⟩, And.right⟩

/-- A sequence returns only where its first part does. -/
theorem seq_eq_ok {x : Except ε Unit} {y : Except ε α} {a : α} :
    (do x; y) = .ok a ↔ x = .ok () ∧ y = .ok a := by
  cases x with
  | error e => exact ⟨by rintro ⟨⟩, by rintro ⟨⟨⟩, _⟩⟩
  | ok _ => exact ⟨fun h => ⟨rfl, h⟩, And.right⟩

/-- Rewriting the error keeps the results. -/
theorem mapError_eq_ok {g : ε → ε'} {x : Except ε α} {a : α} :
    x.mapError g = .ok a ↔ x = .ok a := by
  cases x with
  | error e => exact ⟨by rintro ⟨⟩, by rintro ⟨⟩⟩
  | ok b => exact ⟨by rintro ⟨⟩; rfl, by rintro ⟨⟩; rfl⟩

/-- `Option::ok_or_else`. -/
def okOr (err : ε) : Option α → Except ε α
  | some a => .ok a
  | none => .error err

/-- `okOr` returns what is there. -/
theorem okOr_eq_ok {err : ε} {o : Option α} {a : α} : okOr err o = .ok a ↔ o = some a := by
  cases o with
  | none => exact ⟨by rintro ⟨⟩, by rintro ⟨⟩⟩
  | some b => exact ⟨by rintro ⟨⟩; rfl, by rintro ⟨⟩; rfl⟩

/-- A fallible map returns exactly when every element does. -/
theorem mapM_eq_ok {f : α → Except ε β} {as : List α} {bs : List β} :
    as.mapM f = .ok bs ↔ List.Forall₂ (fun a b => f a = .ok b) as bs := by
  induction as generalizing bs with
  | nil =>
      rw [List.mapM_nil]
      exact ⟨by rintro ⟨⟩; exact .nil, by rintro ⟨⟩; rfl⟩
  | cons a as ih =>
      rw [List.mapM_cons, bind_eq_ok]
      constructor
      · rintro ⟨b, hb, h⟩
        obtain ⟨bs, hbs, h⟩ := bind_eq_ok.mp h
        cases h
        exact .cons hb (ih.mp hbs)
      · rintro (_ | ⟨hb, hbs⟩)
        exact ⟨_, hb, bind_eq_ok.mpr ⟨_, ih.mpr hbs, rfl⟩⟩

/-- Equal steps make equal lists of results. -/
theorem mapM_congr {f g : α → Except ε β} {as : List α} (h : ∀ a ∈ as, f a = g a) :
    as.mapM f = as.mapM g := by
  induction as with
  | nil => rfl
  | cons a as ih =>
      rw [List.mapM_cons, List.mapM_cons, h a List.mem_cons_self,
        ih fun b hb => h b (List.mem_cons_of_mem a hb)]

/-- What a returning map makes has a property that every single result has. -/
theorem forall_of_mapM {f : α → Except ε β} {as : List α} {bs : List β} {P : β → Prop}
    (h : as.mapM f = .ok bs) (hf : ∀ a b, f a = .ok b → P b) : ∀ b ∈ bs, P b := by
  have h₂ := mapM_eq_ok.mp h
  clear h
  induction h₂ with
  | nil => simp
  | cons hb _ ih => exact List.forall_mem_cons.mpr ⟨hf _ _ hb, ih⟩

/-- Reading back what was written, element by element. -/
theorem mapM_map_of_forall {f : β → Except ε α} {g : α → β} {as : List α}
    (h : ∀ a ∈ as, f (g a) = .ok a) : (as.map g).mapM f = .ok as := by
  rw [mapM_eq_ok]
  induction as with
  | nil => exact .nil
  | cons a as ih =>
      exact .cons (h a List.mem_cons_self) (ih fun b hb => h b (List.mem_cons_of_mem a hb))

end Results
