import Mathlib

/-!
# Support — Runs

Runs of a system that takes inputs: `step s i` is the state after the input `i`, and a run is the
fold of `step` over its inputs.

* `Always step P s inputs`: `P` holds in every state of the run from `s`.
* `Throughout step C s inputs`: every step of the run meets `C`, which is about the state before it
  and the input.
* `always_iff`: if a step leads from `P` to `P` exactly when it meets `C`, then `P` always holds
  exactly when `C` holds throughout.
-/

namespace Runs

variable {σ ι : Type} (step : σ → ι → σ)

/-- `P` holds at every state of the run. -/
def Always (P : σ → Prop) (s : σ) (inputs : List ι) : Prop :=
  ∀ earlier, earlier <+: inputs → P (earlier.foldl step s)

/-- `C` holds of every state of the run and the input that is taken there. -/
def Throughout (C : σ → ι → Prop) (s : σ) (inputs : List ι) : Prop :=
  ∀ earlier i, earlier ++ [i] <+: inputs → C (earlier.foldl step s) i

variable {step} {P I : σ → Prop} {C : σ → ι → Prop} {s : σ} {inputs : List ι}

theorem Always.head (h : Always step P s inputs) : P s := h [] List.nil_prefix

/-- What always holds of a run holds of its rest. -/
theorem Always.tail {i : ι} (h : Always step P s (i :: inputs)) :
    Always step P (step s i) inputs := fun earlier hearlier =>
  h (i :: earlier) (List.cons_prefix_cons.mpr ⟨rfl, hearlier⟩)

/-- An invariant that each step keeps always holds. -/
theorem Always.of_invariant (hs : P s) (hstep : ∀ s i, i ∈ inputs → P s → P (step s i)) :
    Always step P s inputs := by
  intro earlier
  induction earlier using List.reverseRecOn with
  | nil => exact fun _ => hs
  | append_singleton earlier i ih =>
      intro hearlier
      rw [List.foldl_append]
      exact hstep _ i (hearlier.subset (by simp)) (ih ((List.prefix_append _ _).trans hearlier))

/-- Under the invariant `I`, what holds at first and is kept by the steps that meet `C` always holds
if they all do. -/
theorem Always.of_throughout (hI : Always step I s inputs) (hs : P s)
    (hC : Throughout step C s inputs)
    (hstep : ∀ s i, i ∈ inputs → I s → P s → C s i → P (step s i)) : Always step P s inputs := by
  intro earlier
  induction earlier using List.reverseRecOn with
  | nil => exact fun _ => hs
  | append_singleton earlier i ih =>
      intro hearlier
      have hbefore : earlier <+: inputs := (List.prefix_append _ _).trans hearlier
      rw [List.foldl_append]
      exact hstep _ i (hearlier.subset (by simp)) (hI earlier hbefore) (ih hbefore)
        (hC earlier i hearlier)

/-- In a run whose steps all meet `D`. -/
theorem always_iff_of_throughout {D : σ → ι → Prop} (hI : Always step I s inputs)
    (hD : Throughout step D s inputs) (hs : P s)
    (hstep : ∀ s i, i ∈ inputs → I s → D s i → P s → (P (step s i) ↔ C s i)) :
    Always step P s inputs ↔ Throughout step C s inputs := by
  constructor
  · intro hP earlier i hearlier
    have hbefore : earlier <+: inputs := (List.prefix_append _ _).trans hearlier
    have hafter := hP (earlier ++ [i]) hearlier
    rw [List.foldl_append] at hafter
    exact (hstep _ i (hearlier.subset (by simp)) (hI earlier hbefore) (hD earlier i hearlier)
      (hP earlier hbefore)).mp hafter
  · intro hC
    have hboth : Throughout step (fun s i => D s i ∧ C s i) s inputs :=
      fun earlier i hearlier => ⟨hD earlier i hearlier, hC earlier i hearlier⟩
    exact .of_throughout hI hs hboth fun s i hi hIs hPs ⟨hDs, hCs⟩ =>
      (hstep s i hi hIs hDs hPs).mpr hCs

/-- **Where a step keeps `P` exactly under the condition `C`**, a run keeps it exactly if `C` holds
throughout. -/
theorem always_iff (hI : Always step I s inputs) (hs : P s)
    (hstep : ∀ s i, i ∈ inputs → I s → P s → (P (step s i) ↔ C s i)) :
    Always step P s inputs ↔ Throughout step C s inputs :=
  always_iff_of_throughout hI (D := fun _ _ => True) (fun _ _ _ => trivial) hs
    fun s i hi hIs _ => hstep s i hi hIs

end Runs
