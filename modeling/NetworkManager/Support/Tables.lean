import Mathlib

/-!
# Support — Tables

A keyed table `K → Option V` under two kinds of request.  `put` creates the entry at the request's
key or replaces what is there; `drop` deletes the entry at the request's key when the request
*hits* it, and does nothing otherwise.  A request `r : R` carries its key, the entry it puts, and
the entries it hits.

`dropAll (putAll t ps) ds` is what an undo log does: a list of puts, then drops that cover them.
When every put is among the drops and hits its own entry,

* nothing is left at a key that was put (`dropAll_putAll_of_mem`),
* the table is the old one exactly when every put found its key vacant and no drop hits an old
  entry (`dropAll_putAll_eq_self_iff`),
* the old entries survive exactly when no drop hits one of them
  (`dropAll_putAll_keeps_iff`), if the puts found their keys vacant.
-/

namespace Tables

variable {K V R : Type} [DecidableEq K] (key : R → K) (val : R → V) (hits : R → V → Bool)

/-- Creates or replaces the entry at the request's key. -/
def put (t : K → Option V) (r : R) : K → Option V := Function.update t (key r) (some (val r))

/-- The table holds an entry that the request hits. -/
def Hit (t : K → Option V) (r : R) : Prop := ∃ v, t (key r) = some v ∧ hits r v = true

instance (t : K → Option V) (r : R) : Decidable (Hit key hits t r) :=
  match h : t (key r) with
  | none => .isFalse (by rintro ⟨v, hv, -⟩; rw [h] at hv; cases hv)
  | some v =>
    if hv : hits r v = true then .isTrue ⟨v, h, hv⟩
    else .isFalse (by rintro ⟨w, hw, hw'⟩; rw [h] at hw; cases hw; exact hv hw')

/-- Deletes the entry at the request's key if the request hits it. -/
def drop (t : K → Option V) (r : R) : K → Option V :=
  if Hit key hits t r then Function.update t (key r) none else t

/-- Puts the entries of all requests, in order. -/
def putAll (t : K → Option V) (rs : List R) : K → Option V := rs.foldl (put key val) t

/-- Drops the entries that the requests hit, in order. -/
def dropAll (t : K → Option V) (rs : List R) : K → Option V := rs.foldl (drop key hits) t

@[simp] theorem putAll_nil (t : K → Option V) : putAll key val t [] = t := rfl

@[simp] theorem dropAll_nil (t : K → Option V) : dropAll key hits t [] = t := rfl

theorem putAll_append (t : K → Option V) (rs rs' : List R) :
    putAll key val t (rs ++ rs') = putAll key val (putAll key val t rs) rs' := List.foldl_append

theorem dropAll_append (t : K → Option V) (rs rs' : List R) :
    dropAll key hits t (rs ++ rs') = dropAll key hits (dropAll key hits t rs) rs' :=
  List.foldl_append

variable {key val hits} {t : K → Option V}

/-! ### Puts -/

/-- A key that no request is about keeps its entry. -/
theorem putAll_of_ne {k : K} : ∀ {rs : List R} {t : K → Option V}, (∀ r ∈ rs, key r ≠ k) →
    putAll key val t rs k = t k
  | [], _, _ => rfl
  | r :: rs, t, h => by
      have ih := putAll_of_ne (t := put key val t r)
        fun r' h' => h r' (List.mem_cons_of_mem r h')
      exact ih.trans (Function.update_of_ne (h r List.mem_cons_self).symm _ _)

/-- A key that was put holds the entry of one of the requests at that key: the last one's. -/
theorem putAll_of_mem {k : K} : ∀ {rs : List R} {t : K → Option V}, (∃ r ∈ rs, key r = k) →
    ∃ r ∈ rs, key r = k ∧ putAll key val t rs k = some (val r)
  | [], _, h => by obtain ⟨_, h, _⟩ := h; cases h
  | r :: rs, t, h => by
      by_cases hrs : ∃ r' ∈ rs, key r' = k
      · obtain ⟨r', hr', hk, he⟩ := putAll_of_mem (t := put key val t r) hrs
        exact ⟨r', List.mem_cons_of_mem r hr', hk, he⟩
      · have hne : ∀ r' ∈ rs, key r' ≠ k := fun r' h' e => hrs ⟨r', h', e⟩
        obtain ⟨r', hr', hk⟩ := h
        obtain rfl : r' = r := (List.mem_cons.mp hr').resolve_right fun h' => hne r' h' hk
        subst hk
        refine ⟨r', List.mem_cons_self, rfl, ?_⟩
        exact (putAll_of_ne hne).trans (Function.update_self _ _ _)

/-! ### Drops -/

/-- A request that hits leaves no entry. -/
theorem drop_of_hit {r : R} (h : Hit key hits t r) : drop key hits t r (key r) = none := by
  rw [drop, if_pos h, Function.update_self]

/-- A request that does not hit keeps every entry. -/
theorem drop_of_not {r : R} {k : K} (h : key r = k → ¬ Hit key hits t r) :
    drop key hits t r k = t k := by
  unfold drop
  split
  · exact Function.update_of_ne (fun e => h e.symm ‹_›) _ _
  · rfl

omit [DecidableEq K] in
/-- Whether a request hits depends on the entry at its key only. -/
theorem hit_congr {t' : K → Option V} {r : R} (h : t' (key r) = t (key r)) :
    Hit key hits t' r ↔ Hit key hits t r := by
  simp only [Hit, h]

/-- What is not there does not come back. -/
theorem dropAll_of_none {k : K} : ∀ {rs : List R} {t : K → Option V}, t k = none →
    dropAll key hits t rs k = none
  | [], _, h => h
  | r :: rs, t, h => by
      refine dropAll_of_none (t := drop key hits t r) ?_
      rw [drop_of_not, h]
      rintro rfl ⟨v, hv, -⟩
      rw [h] at hv
      cases hv

/-- An entry that one of the drops hits is gone. -/
theorem dropAll_of_hit {k : K} : ∀ {rs : List R} {t : K → Option V},
    (∃ r ∈ rs, key r = k ∧ Hit key hits t r) → dropAll key hits t rs k = none
  | [], _, h => by obtain ⟨_, h, _⟩ := h; cases h
  | r :: rs, t, h => by
      by_cases hr : key r = k ∧ Hit key hits t r
      · obtain ⟨rfl, hr⟩ := hr
        have hnone := drop_of_hit hr
        exact dropAll_of_none (t := drop key hits t r) hnone
      · obtain ⟨r', hr', hk, hh⟩ := h
        have hmem : r' ∈ rs := (List.mem_cons.mp hr').resolve_left fun e => hr (e ▸ ⟨hk, hh⟩)
        refine dropAll_of_hit (t := drop key hits t r) ⟨r', hmem, hk, (hit_congr ?_).mpr hh⟩
        exact drop_of_not fun e hr'' => hr ⟨e.trans hk, hr''⟩

/-- An entry that none of the drops hits stays. -/
theorem dropAll_of_not_hit {k : K} : ∀ {rs : List R} {t : K → Option V},
    (∀ r ∈ rs, key r = k → ¬ Hit key hits t r) → dropAll key hits t rs k = t k
  | [], _, _ => rfl
  | r :: rs, t, h => by
      have hsame : drop key hits t r k = t k := drop_of_not (h r List.mem_cons_self)
      refine (dropAll_of_not_hit (t := drop key hits t r) ?_).trans hsame
      rintro r' hr' rfl hh
      exact h r' (List.mem_cons_of_mem r hr') rfl ((hit_congr hsame).mp hh)

/-! ### Undoing puts -/

section Undo

variable {ps ds : List R} (hself : ∀ p ∈ ps, hits p (val p) = true) (hcover : ∀ p ∈ ps, p ∈ ds)

include hself hcover

/-- Nothing is left at a key that was put. -/
theorem dropAll_putAll_of_mem {p : R} (hp : p ∈ ps) :
    dropAll key hits (putAll key val t ps) ds (key p) = none := by
  obtain ⟨q, hq, hk, he⟩ := putAll_of_mem (t := t) ⟨p, hp, rfl⟩
  exact dropAll_of_hit ⟨q, hcover q hq, hk, val q, hk.symm ▸ he, hself q hq⟩

omit hself hcover in
/-- A key that was not put is left to the drops. -/
theorem dropAll_putAll_of_ne {k : K} (hk : ∀ p ∈ ps, key p ≠ k) :
    dropAll key hits (putAll key val t ps) ds k = dropAll key hits t ds k := by
  have hsame : putAll key val t ps k = t k := putAll_of_ne hk
  by_cases hd : ∃ d ∈ ds, key d = k ∧ Hit key hits t d
  · obtain ⟨d, hd, rfl, hh⟩ := hd
    rw [dropAll_of_hit ⟨d, hd, rfl, (hit_congr hsame).mpr hh⟩, dropAll_of_hit ⟨d, hd, rfl, hh⟩]
  · have hno : ∀ d ∈ ds, key d = k → ¬ Hit key hits t d := fun d h e hh => hd ⟨d, h, e, hh⟩
    rw [dropAll_of_not_hit hno, dropAll_of_not_hit, hsame]
    rintro d h rfl hh
    exact hno d h rfl ((hit_congr hsame).mp hh)

/-- The undone table is the old one exactly when nothing old was replaced and nothing old is
hit. -/
theorem dropAll_putAll_eq_self_iff :
    dropAll key hits (putAll key val t ps) ds = t ↔
      (∀ p ∈ ps, t (key p) = none) ∧ ∀ d ∈ ds, ¬ Hit key hits t d := by
  constructor
  · intro h
    have hvac : ∀ p ∈ ps, t (key p) = none := fun p hp => by
      rw [← congrFun h (key p)]
      exact dropAll_putAll_of_mem hself hcover hp
    refine ⟨hvac, fun d hd hh => ?_⟩
    obtain ⟨v, hv, -⟩ := id hh
    have hne : ∀ p ∈ ps, key p ≠ key d := fun p hp e => by
      rw [← e, hvac p hp] at hv
      cases hv
    have hd' := congrFun h (key d)
    rw [dropAll_putAll_of_ne hne, dropAll_of_hit ⟨d, hd, rfl, hh⟩, hv] at hd'
    cases hd'
  · rintro ⟨hvac, hhit⟩
    funext k
    by_cases hk : ∃ p ∈ ps, key p = k
    · obtain ⟨p, hp, rfl⟩ := hk
      rw [dropAll_putAll_of_mem hself hcover hp, hvac p hp]
    · rw [dropAll_putAll_of_ne fun p hp e => hk ⟨p, hp, e⟩,
        dropAll_of_not_hit fun d hd _ => hhit d hd]

omit hself hcover in
/-- With the puts at vacant keys, the old entries survive exactly when no drop hits one. -/
theorem dropAll_putAll_keeps_iff (hvac : ∀ p ∈ ps, t (key p) = none) :
    (∀ k v, t k = some v → dropAll key hits (putAll key val t ps) ds k = some v) ↔
      ∀ d ∈ ds, ¬ Hit key hits t d := by
  -- an old entry is under a key of its own, as the keys of the puts were vacant
  have hne : ∀ {k v}, t k = some v → ∀ p ∈ ps, key p ≠ k := fun hv p hp e => by
    rw [← e, hvac p hp] at hv
    cases hv
  constructor
  · rintro h d hd ⟨v, hv, hh⟩
    have hd' := h (key d) v hv
    rw [dropAll_putAll_of_ne (hne hv), dropAll_of_hit ⟨d, hd, rfl, v, hv, hh⟩] at hd'
    cases hd'
  · intro h k v hv
    rw [dropAll_putAll_of_ne (hne hv), dropAll_of_not_hit fun d hd _ => h d hd, hv]

end Undo

/-! ### Entries under a map -/

section Maps

variable {V' R' : Type} {key' : R' → K} {val' : R' → V'} {hits' : R' → V' → Bool}

/-- The table with every entry mapped. -/
def mapEntries (f : V → V') (t : K → Option V) : K → Option V' := fun k => (t k).map f

variable {f : V → V'} {r : R} {r' : R'}

/-- Mapping the entries commutes with a put. -/
theorem put_mapEntries (hkey : key' r' = key r) (hval : val' r' = f (val r)) (t : K → Option V) :
    put key' val' (mapEntries f t) r' = mapEntries f (put key val t r) := by
  funext k
  rw [put, mapEntries, put, hkey, hval, Function.update_apply, Function.update_apply]
  split <;> rfl

omit [DecidableEq K] in
/-- Mapping the entries keeps the hits. -/
theorem hit_mapEntries (hkey : key' r' = key r) (hhits : ∀ v, hits' r' (f v) = hits r v)
    (t : K → Option V) : Hit key' hits' (mapEntries f t) r' ↔ Hit key hits t r := by
  constructor
  · rintro ⟨v', hv', hhit⟩
    obtain ⟨v, hv, rfl⟩ := Option.map_eq_some_iff.mp hv'
    exact ⟨v, hkey ▸ hv, hhits v ▸ hhit⟩
  · rintro ⟨v, hv, hhit⟩
    exact ⟨f v, Option.map_eq_some_iff.mpr ⟨v, hkey.symm ▸ hv, rfl⟩, (hhits v).symm ▸ hhit⟩

/-- Mapping the entries commutes with a drop. -/
theorem drop_mapEntries (hkey : key' r' = key r) (hhits : ∀ v, hits' r' (f v) = hits r v)
    (t : K → Option V) :
    drop key' hits' (mapEntries f t) r' = mapEntries f (drop key hits t r) := by
  funext k
  by_cases hhit : Hit key hits t r
  · rw [drop, if_pos ((hit_mapEntries hkey hhits t).mpr hhit), mapEntries, drop, if_pos hhit, hkey,
      Function.update_apply, Function.update_apply]
    split <;> rfl
  · rw [drop, if_neg fun h => hhit ((hit_mapEntries hkey hhits t).mp h), mapEntries, mapEntries,
      drop, if_neg hhit]

end Maps

end Tables
