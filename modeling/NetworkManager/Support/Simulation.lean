import Mathlib

/-!
# Support — Simulation

Runs of a system that answers calls: `step call s` is the answer and the next state.

* `answers`: the answers along a run.
* `forall_answers`: what an invariant of the steps says of every answer.
* `answers_eq`: two systems whose steps agree along a relation give the same answers.
-/

namespace Simulation

variable {C R S T : Type}

/-- The answers along a run. -/
def answers (step : C → S → R × S) : List C → S → List R
  | [], _ => []
  | call :: calls, s => (step call s).1 :: answers step calls (step call s).2

variable {step : C → S → R × S} {step' : C → T → R × T} {allowed : C → Prop}

/-- Under an invariant that every call keeps, every answer is as the step lemma says. -/
theorem forall_answers (Inv : S → Prop) {P : R → Prop}
    (hstep : ∀ call s, allowed call → Inv s → P (step call s).1 ∧ Inv (step call s).2)
    {calls : List C} (hcalls : ∀ call ∈ calls, allowed call) {s : S} (hs : Inv s) :
    ∀ answer ∈ answers step calls s, P answer := by
  induction calls generalizing s with
  | nil => simp [answers]
  | cons call calls ih =>
      obtain ⟨hanswer, hnext⟩ := hstep call s (hcalls call List.mem_cons_self) hs
      rw [answers, List.forall_mem_cons]
      exact ⟨hanswer, ih (fun c hc => hcalls c (List.mem_cons_of_mem call hc)) hnext⟩

/-- Related states that take every call alike answer it alike all through. -/
theorem answers_eq {Rel : S → T → Prop}
    (hstep : ∀ call s t, allowed call → Rel s t →
      (step call s).1 = (step' call t).1 ∧ Rel (step call s).2 (step' call t).2)
    {calls : List C} (hcalls : ∀ call ∈ calls, allowed call) {s : S} {t : T} (hst : Rel s t) :
    answers step calls s = answers step' calls t := by
  induction calls generalizing s t with
  | nil => rfl
  | cons call calls ih =>
      obtain ⟨hanswer, hnext⟩ := hstep call s t (hcalls call List.mem_cons_self) hst
      rw [answers, answers, hanswer,
        ih (fun c hc => hcalls c (List.mem_cons_of_mem call hc)) hnext]

end Simulation
