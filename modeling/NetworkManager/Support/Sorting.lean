import Mathlib

/-!
# Support — Sorting

Lists sorted by a key, as `sort_by` on `cmp` leaves them, and `sort_by_key` (`sortByKey`).
-/

namespace Sorting

variable {α β : Type} [Ord β] {key : α → β}

/-- The elements come in the order of their keys. -/
def SortedBy (key : α → β) (l : List α) : Prop :=
  l.Pairwise fun a b => (compare (key a) (key b)).isLE = true

/-- The sort is stable: elements with equal keys keep their order. -/
def sortByKey (key : α → β) (l : List α) : List α :=
  l.mergeSort fun a b => (compare (key a) (key b)).isLE

/-- Pairs in lexicographic order are equal where neither comes first. -/
instance lawfulEqOrd_lex {γ : Type} [Ord γ] [Std.LawfulEqOrd β] [Std.LawfulEqOrd γ] :
    Std.LawfulEqOrd (β ×ₗ γ) where
  compare_self := by
    intro pair
    have hfst : compare pair.1 pair.1 = .eq := Std.ReflCmp.compare_self
    have hsnd : compare pair.2 pair.2 = .eq := Std.ReflCmp.compare_self
    exact Ordering.then_eq_eq.mpr ⟨hfst, hsnd⟩
  eq_of_compare := by
    intro a b h
    rw [Prod.Lex.compare_def, compareLex, Ordering.then_eq_eq, compareOn, compareOn] at h
    exact Prod.ext (Std.LawfulEqCmp.eq_of_compare h.1) (Std.LawfulEqCmp.eq_of_compare h.2)

variable [Std.TransOrd β]

theorem sortedBy_mergeSort (l : List α) :
    SortedBy key (l.mergeSort fun a b => (compare (key a) (key b)).isLE) := by
  refine List.pairwise_mergeSort (fun _ _ _ => Std.TransCmp.isLE_trans) (fun a b => ?_) l
  rw [@Std.OrientedCmp.eq_swap _ compare _ (key b) (key a)]
  cases compare (key a) (key b) <;> rfl

/-- Sorted lists of the same elements are equal where the keys tell the elements apart. -/
theorem SortedBy.eq_of_perm [Std.LawfulEqOrd β] {l l' : List α} (hl : SortedBy key l)
    (hl' : SortedBy key l') (hperm : l.Perm l')
    (hkey : ∀ a ∈ l', ∀ b ∈ l', key a = key b → a = b) : l = l' :=
  hperm.eq_of_pairwise (fun a b ha hb hab hba => by
    have heq : compare (key a) (key b) = .eq := Std.OrientedCmp.isLE_antisymm hab hba
    exact hkey a (hperm.mem_iff.mp ha) b hb (Std.LawfulEqCmp.eq_of_compare heq)) hl hl'

/-- Sorting the elements of a sorted list gives this list. -/
theorem mergeSort_eq_of_perm [Std.LawfulEqOrd β] {l l' : List α} (hl' : SortedBy key l')
    (hperm : l.Perm l') (hkey : ∀ a ∈ l', ∀ b ∈ l', key a = key b → a = b) :
    (l.mergeSort fun a b => (compare (key a) (key b)).isLE) = l' :=
  (sortedBy_mergeSort l).eq_of_perm hl' ((List.mergeSort_perm l _).trans hperm) hkey

/-- **The order of the elements makes no difference** where the keys tell them apart. -/
theorem sortByKey_congr [Std.LawfulEqOrd β] {l l' : List α} (hperm : l.Perm l')
    (hkey : ∀ a ∈ l', ∀ b ∈ l', key a = key b → a = b) : sortByKey key l = sortByKey key l' :=
  mergeSort_eq_of_perm (sortedBy_mergeSort l') (hperm.trans (List.mergeSort_perm l' _).symm)
    fun a ha b hb => hkey a (List.mem_mergeSort.mp ha) b (List.mem_mergeSort.mp hb)

/-- The first element with a property in a sorted list is the least with the property. -/
theorem find?_mergeSort {le : α → α → Bool} (htrans : ∀ a b c, le a b → le b c → le a c)
    (htotal : ∀ a b, le a b || le b a) {p : α → Bool} {l : List α} {a : α}
    (h : (l.mergeSort le).find? p = some a) :
    a ∈ l ∧ p a ∧ ∀ b ∈ l, p b → b = a ∨ le a b := by
  obtain ⟨ha, before, after, hsplit, hbefore⟩ := List.find?_eq_some_iff_append.mp h
  have hsorted := List.pairwise_mergeSort htrans htotal l
  have hmem (b : α) : b ∈ l ↔ b ∈ before ++ a :: after := by rw [← hsplit, List.mem_mergeSort]
  rw [hsplit, List.pairwise_append, List.pairwise_cons] at hsorted
  refine ⟨(hmem a).mpr (by simp), ha, fun b hb hpb => ?_⟩
  rcases List.mem_append.mp ((hmem b).mp hb) with hb | hb
  · have hnot := hbefore b hb
    rw [hpb] at hnot
    cases hnot
  · rcases List.mem_cons.mp hb with rfl | hb
    · exact .inl rfl
    · exact .inr (hsorted.2.1.1 b hb)

end Sorting
