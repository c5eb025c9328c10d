import Mathlib

/-!
# Support — Insertions

A list with extra elements put anywhere between its own.

* `Inserted P as bs`: `bs` is `as` with some elements more, all of which have `P`.
* `Inserted.append`, `Inserted.add`: it is kept when both lists grow alike, or the second alone.
-/

namespace Insertions

variable {α : Type}

/-- `bs` is `as` with elements more, which all have `P`. -/
inductive Inserted (P : α → Prop) : List α → List α → Prop
  | nil : Inserted P [] []
  | keep {as bs : List α} (a : α) (h : Inserted P as bs) : Inserted P (a :: as) (a :: bs)
  | insert {as bs : List α} {b : α} (hb : P b) (h : Inserted P as bs) : Inserted P as (b :: bs)

namespace Inserted

variable {P : α → Prop} {as bs : List α}

theorem refl : ∀ as : List α, Inserted P as as
  | [] => .nil
  | a :: as => .keep a (refl as)

/-- Insertions into two lists are insertions into the two together. -/
theorem append {cs ds : List α} (h : Inserted P as bs) (h' : Inserted P cs ds) :
    Inserted P (as ++ cs) (bs ++ ds) := by
  induction h with
  | nil => exact h'
  | keep a _ ih => exact .keep a ih
  | insert hb _ ih => exact .insert hb ih

/-- Extra elements alone. -/
theorem of_forall : ∀ {bs : List α}, (∀ b ∈ bs, P b) → Inserted P [] bs
  | [], _ => .nil
  | b :: _, h =>
      .insert (h b List.mem_cons_self) (of_forall fun b hb => h b (List.mem_cons_of_mem _ hb))

/-- More may be inserted at the end. -/
theorem add {cs : List α} (h : Inserted P as bs) (hcs : ∀ c ∈ cs, P c) :
    Inserted P as (bs ++ cs) := by
  have happend := h.append (of_forall hcs)
  rwa [List.append_nil] at happend

end Inserted

end Insertions
