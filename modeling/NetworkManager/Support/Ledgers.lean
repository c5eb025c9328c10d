import NetworkManager.Support.Tracing

/-!
# Support — Ledgers

Calls that are made one after the other whatever each is answered, with their answers.

* `ledger ask calls`: makes the calls in order.
* `Collects ask f x calls`: `x` makes just these calls, and returns the first answer that `f` picks
  out.  `Ignores`: the same of a program that returns nothing, and has nothing picked out.
-/

namespace Effects

variable {C W ε ε' β : Type}

/-- Makes the calls in order, and writes down their answers. -/
def ledger (ask : C → EStateM ε W Unit) : List C → W → List (C × Except ε Unit) × W
  | [], w => ([], w)
  | call :: calls, w =>
    let answer := settle (ask call) w
    let rest := ledger ask calls answer.2
    ((call, answer.1) :: rest.1, rest.2)

section Ledger

variable (ask : C → EStateM ε W Unit) (f : C × Except ε Unit → Option ε')

/-- The ledger of two runs of calls is the one of the first, and of the second from where the first
ended. -/
theorem ledger_append (calls calls' : List C) (w : W) :
    ledger ask (calls ++ calls') w =
      ((ledger ask calls w).1 ++ (ledger ask calls' (ledger ask calls w).2).1,
        (ledger ask calls' (ledger ask calls w).2).2) := by
  induction calls generalizing w with
  | nil => rfl
  | cons call calls ih =>
      rw [List.cons_append, ledger, ih]
      rfl

/-- Every call is made, once and in order. -/
theorem map_fst_ledger (calls : List C) (w : W) : (ledger ask calls w).1.map Prod.fst = calls := by
  induction calls generalizing w with
  | nil => rfl
  | cons call calls ih => rw [ledger, List.map_cons, ih]

/-- The calls are made, and the first answer that is picked out is returned. -/
def Collects (x : EStateM ε' W (Option ε')) (calls : List C) : Prop :=
  ∀ w, x w = .ok ((ledger ask calls w).1.findSome? f) (ledger ask calls w).2

/-- The calls are made, and no answer is picked out. -/
def Ignores (x : EStateM ε' W Unit) (calls : List C) : Prop :=
  ∀ w, x w = .ok () (ledger ask calls w).2 ∧ (ledger ask calls w).1.findSome? f = none

variable {ask f}

theorem Ignores.pure : Ignores ask f (Pure.pure ()) [] := fun _ => ⟨rfl, rfl⟩

/-- A sequence that ignores its answers makes the calls of both parts. -/
theorem Ignores.bind {x : EStateM ε' W Unit} {y : Unit → EStateM ε' W Unit} {calls calls' : List C}
    (hx : Ignores ask f x calls) (hy : Ignores ask f (y ()) calls') :
    Ignores ask f (x >>= y) (calls ++ calls') := by
  intro w
  obtain ⟨hrun, hnone⟩ := hx w
  obtain ⟨hrun', hnone'⟩ := hy (ledger ask calls w).2
  rw [bind_of_ok hrun, ledger_append, List.findSome?_append, hnone]
  exact ⟨hrun', hnone'⟩

/-- A call whose answer is looked at. -/
theorem Collects.attempt {ε₀ : Type} {call : C} {x : EStateM ε₀ W Unit} {wrap : ε₀ → ε'}
    (hask : ∀ w, after (ask call) w = after x w)
    (hf : ∀ w, f (call, (settle (ask call) w).1) =
      match (settle x w).1 with
      | .ok _ => none
      | .error e => some (wrap e)) :
    Collects ask f (do
      match ← Effects.attempt x with
      | .ok _ => return none
      | .error e => return some (wrap e)) [call] := by
  intro w
  rw [attempt_bind, settle_snd, ← hask, ledger, List.findSome?_cons, hf]
  cases (settle x w).1 <;> simp [ledger, settle_snd] <;> rfl

/-- A call whose answer is dropped. -/
theorem Ignores.attempt {ε₀ : Type} {call : C} {x : EStateM ε₀ W Unit}
    (hask : after (ask call) = after x) (hf : ∀ answer, f (call, answer) = none) :
    Ignores ask f (do let _ ← Effects.attempt x) [call] := by
  intro w
  obtain ⟨r, hr⟩ : ∃ r, (Effects.attempt x : EStateM ε' W (Except ε₀ Unit)) w = .ok r (after x w) :=
    attempt_apply x w
  refine ⟨?_, ?_⟩
  · rw [bind_of_ok hr, ← hask, ← settle_snd]
    rfl
  · rw [ledger, List.findSome?_cons, hf]
    rfl

/-- A loop that ignores its answers makes the call of each item. -/
theorem Ignores.forM {g : β → EStateM ε' W Unit} {call : β → C}
    (h : ∀ b, Ignores ask f (g b) [call b]) (bs : List β) :
    Ignores ask f (bs.forM g) (bs.map call) := by
  induction bs with
  | nil => exact .pure
  | cons b bs ih => exact (h b).bind ih

theorem Collects.pure : Collects ask f (Pure.pure none) [] := fun _ => rfl

/-- What ignores its answers can come before what collects the first error. -/
theorem Ignores.collects {x : EStateM ε' W Unit} {y : Unit → EStateM ε' W (Option ε')}
    {calls calls' : List C} (hx : Ignores ask f x calls) (hy : Collects ask f (y ()) calls') :
    Collects ask f (x >>= y) (calls ++ calls') := by
  intro w
  obtain ⟨hrun, hnone⟩ := hx w
  rw [bind_of_ok hrun, hy, ledger_append, List.findSome?_append, hnone, Option.none_or]

end Ledger

end Effects
