import NetworkManager.Support.Records

/-!
# Support — Framing

The records of a buffer where they lie, apart from any loop over them.

* `Place`: a record where it lies.  `Chain buf offset places stop`: the records of `places` lie in
  `buf` one behind another from `offset` on, and the next one would start at `stop`.
* `Chain.prefix_of_last`, `Chain.comparable`: from one offset there is one chain, cut off sooner or
  later.
* `visit`: the steps of a loop at some places.  `walk_chain`: a loop is its steps along a chain,
  and then the loop from where the chain stops.
* `walk_eq_stop`, `walk_eq_ended`: what a loop that returns has been through.
* `Visits`: a loop gets to a place.  `visits_or_fails`: a loop without an end of its own gets to
  every place of a chain, unless a step before it fails.
-/

namespace Records

open Layout Header

/-! ### Chains -/

/-- A record of a buffer, with the offset of its header. -/
structure Place (α : Type) where
  offset : ℕ
  header : α
  body : List UInt8

variable {α : Type} [Header α]

namespace Place

/-- Where the next record starts. -/
def next (p : Place α) : ℕ := p.offset + align (span p.header) (alignment α)

/-- The record is in the buffer: the header is, and so are the octets it says the record takes,
which are no fewer than its own. -/
structure Lies (buf : List UInt8) (p : Place α) : Prop where
  fits : p.offset + size α ≤ buf.length
  header_eq : read (buf.drop p.offset) = p.header
  size_le : size α ≤ span p.header
  span_le : p.offset + span p.header ≤ buf.length
  body_eq : buf.extract (p.offset + size α) (p.offset + span p.header) = p.body

/-- At one offset lies one record. -/
theorem Lies.unique {buf : List UInt8} {p q : Place α} (hp : p.Lies buf) (hq : q.Lies buf)
    (h : p.offset = q.offset) : p = q := by
  obtain ⟨offset, header, body⟩ := p
  obtain ⟨offset', header', body'⟩ := q
  obtain rfl : offset = offset' := h
  obtain rfl : header = header' := hp.header_eq.symm.trans hq.header_eq
  obtain rfl : body = body' := hp.body_eq.symm.trans hq.body_eq
  rfl

/-- The body of a record lies within the buffer. -/
theorem Lies.length_body {buf : List UInt8} {p : Place α} (h : p.Lies buf) :
    p.body.length ≤ buf.length := by
  rw [← h.body_eq, List.extract_eq_take_drop, List.length_take, List.length_drop]
  omega

end Place

/-- The places lie in the buffer one behind another. -/
inductive Chain (buf : List UInt8) : ℕ → List (Place α) → ℕ → Prop where
  | nil (offset : ℕ) : Chain buf offset [] offset
  | cons {p : Place α} {places : List (Place α)} {stop : ℕ} (h : p.Lies buf)
      (rest : Chain buf p.next places stop) : Chain buf p.offset (p :: places) stop

namespace Chain

variable {buf : List UInt8} {offset middle stop stop' : ℕ} {places others : List (Place α)}

theorem nil_inv (h : Chain buf offset ([] : List (Place α)) stop) : offset = stop := by
  cases h
  rfl

/-- A chain goes from its first record on to a chain of the others. -/
theorem cons_inv {p : Place α} (h : Chain buf offset (p :: places) stop) :
    p.offset = offset ∧ p.Lies buf ∧ Chain buf p.next places stop := by
  cases h with
  | cons hp rest => exact ⟨rfl, hp, rest⟩

/-- Chains that meet make up one chain. -/
theorem append (h : Chain buf offset places middle) (h' : Chain buf middle others stop) :
    Chain buf offset (places ++ others) stop := by
  induction h with
  | nil => exact h'
  | cons hp _ ih => exact .cons hp (ih h')

/-- A chain can be cut anywhere. -/
theorem split (h : Chain buf offset (places ++ others) stop) :
    ∃ middle, Chain buf offset places middle ∧ Chain buf middle others stop := by
  induction places generalizing offset with
  | nil => exact ⟨offset, .nil offset, h⟩
  | cons p places ih =>
      obtain ⟨rfl, hp, rest⟩ := cons_inv h
      obtain ⟨middle, hplaces, hothers⟩ := ih rest
      exact ⟨middle, .cons hp hplaces, hothers⟩

/-- Every record of a chain lies in the buffer. -/
theorem lies (h : Chain buf offset places stop) : ∀ p ∈ places, p.Lies buf := by
  induction h with
  | nil => exact nofun
  | cons hp _ ih => exact List.forall_mem_cons.mpr ⟨hp, ih⟩

/-- A chain ends where its records do. -/
theorem stop_unique (h : Chain buf offset places stop) (h' : Chain buf offset places stop') :
    stop = stop' := by
  induction h with
  | nil => exact nil_inv h'
  | cons _ _ ih => exact ih (cons_inv h').2.2

/-- A chain does not go back. -/
theorem le_stop (h : Chain buf offset places stop) : offset ≤ stop := by
  induction h with
  | nil => exact Nat.le_refl _
  | cons _ _ ih => exact Nat.le_trans (Nat.le_add_right _ _) ih

/-- Of two chains from one offset, one goes on where the other stops. -/
theorem comparable (h : Chain buf offset places stop) (h' : Chain buf offset others stop') :
    (∃ rest, others = places ++ rest ∧ Chain buf stop rest stop') ∨
      ∃ rest, places = others ++ rest ∧ Chain buf stop' rest stop := by
  induction h generalizing others with
  | nil offset => exact .inl ⟨others, rfl, h'⟩
  | @cons p places stop hp rest ih =>
      cases others with
      | nil =>
          obtain rfl := nil_inv h'
          exact .inr ⟨p :: places, rfl, .cons hp rest⟩
      | cons q others =>
          obtain ⟨hoffset, hq, rest'⟩ := cons_inv h'
          obtain rfl := hq.unique hp hoffset
          rcases ih rest' with ⟨more, rfl, hmore⟩ | ⟨more, rfl, hmore⟩
          · exact .inl ⟨more, rfl, hmore⟩
          · exact .inr ⟨more, rfl, hmore⟩

/-- A chain behind which no header fits is the longest. -/
theorem prefix_of_last (h : Chain buf offset places stop) (hlast : buf.length < stop + size α)
    (h' : Chain buf offset others stop') :
    ∃ rest, places = others ++ rest ∧ Chain buf stop' rest stop := by
  rcases comparable h h' with ⟨rest, rfl, hrest⟩ | hlonger
  · cases hrest with
    | nil => exact ⟨[], (List.append_nil _).symm.trans (List.append_nil _).symm, .nil _⟩
    | cons hp _ => exact absurd hp.fits (Nat.not_le_of_lt hlast)
  · exact hlonger

end Chain

/-! ### Loops along a chain -/

section Visits

variable {ε σ τ ρ : Type} (invalid : ε) (step : σ → α → List UInt8 → Except ε (σ ⊕ ρ))

/-- The steps of a loop at some places, without the buffer. -/
def visit : List (Place α) → σ → Except ε (σ ⊕ ρ)
  | [], s => .ok (.inl s)
  | p :: places, s => proceed (step s p.header p.body) (visit places)

variable {buf : List UInt8} {offset stop : ℕ} {places : List (Place α)}

/-- The loop at a record. -/
theorem walk_lies {p : Place α} (h : p.Lies buf) (s : σ) :
    walk invalid step buf p.offset s =
      proceed (step s p.header p.body) (walk invalid step buf p.next) := by
  have hvalid : ¬ (span p.header < size α ∨ buf.length < p.offset + span p.header) :=
    not_or.mpr ⟨Nat.not_lt.mpr h.size_le, Nat.not_lt.mpr h.span_le⟩
  rw [walk_more invalid step h.fits h.header_eq, if_neg hvalid, h.body_eq]
  rfl

/-- **A loop along a chain.** -/
theorem walk_chain (h : Chain buf offset places stop) (s : σ) :
    walk invalid step buf offset s = proceed (visit step places s) (walk invalid step buf stop) := by
  induction h generalizing s with
  | nil => rfl
  | @cons p places stop hp _ ih =>
      rw [walk_lies invalid step hp, visit]
      rcases step s p.header p.body with e | s' | result
      · rfl
      · exact ih s'
      · rfl

/-- Every loop goes along a chain, to a place where no header fits, or the length is invalid, or
the step does not go on. -/
theorem walk_last (buf : List UInt8) (offset : ℕ) (s : σ) :
    ∃ places stop s', Chain buf offset places stop ∧ visit step places s = .ok (.inl s') ∧
      (walk invalid step buf stop s' = .error invalid ∨ buf.length < stop + size α ∨
        ∃ p : Place α, p.Lies buf ∧ p.offset = stop ∧
          ∀ s₁, step s' p.header p.body ≠ .ok (.inl s₁)) := by
  induction offset, s using walk.induct (α := α) buf with
  | case1 offset s hmore header len hlen =>
      have hinvalid := (walk_more invalid step hmore rfl s).trans (if_pos hlen)
      exact ⟨[], offset, s, .nil offset, rfl, .inl hinvalid⟩
  | case2 offset s hmore header len hlen ih =>
      let p : Place α := ⟨offset, header, buf.extract (offset + size α) (offset + len)⟩
      have hlen' := not_or.mp hlen
      have hp : p.Lies buf :=
        ⟨hmore, rfl, Nat.not_lt.mp hlen'.1, Nat.not_lt.mp hlen'.2, rfl⟩
      -- the loop goes on behind the record, or the step here is the last
      by_cases hstep : ∃ s₁, step s p.header p.body = .ok (.inl s₁)
      · obtain ⟨s₁, hstep⟩ := hstep
        obtain ⟨places, stop, s', hchain, hvisit, hlast⟩ := ih s₁
        exact ⟨p :: places, stop, s', .cons hp hchain, by rw [visit, hstep]; exact hvisit, hlast⟩
      · exact ⟨[], offset, s, .nil offset, rfl, .inr (.inr ⟨p, hp, rfl, not_exists.mp hstep⟩)⟩
  | case3 offset s hmore =>
      exact ⟨[], offset, s, .nil offset, rfl, .inr (.inl (Nat.lt_of_not_le hmore))⟩

/-- A loop that stops has been through a chain behind which no header fits. -/
theorem walk_eq_stop {s s' : σ} :
    walk invalid step buf offset s = .ok (.inl (s', stop)) ↔
      ∃ places, Chain buf offset places stop ∧ buf.length < stop + size α ∧
        visit step places s = .ok (.inl s') := by
  constructor
  · intro h
    obtain ⟨places, last, s₁, hchain, hvisit, hlast⟩ := walk_last invalid step buf offset s
    rw [walk_chain invalid step hchain, hvisit, proceed_inl] at h
    -- of the three ways for a chain to end, only the second lets the loop stop
    rcases hlast with hinvalid | hshort | ⟨p, hp, rfl, hstep⟩
    · rw [hinvalid] at h
      cases h
    · rw [walk_end invalid step (Nat.not_le_of_lt hshort)] at h
      cases h
      exact ⟨places, hchain, hshort, hvisit⟩
    · rw [walk_lies invalid step hp] at h
      rcases hnext : step s₁ p.header p.body with e | s₂ | result
      · rw [hnext] at h
        cases h
      · exact absurd hnext (hstep s₂)
      · rw [hnext] at h
        cases h
  · rintro ⟨places, hchain, hlast, hvisit⟩
    rw [walk_chain invalid step hchain, hvisit, proceed_inl,
      walk_end invalid step (Nat.not_le_of_lt hlast)]

/-- A loop that a step ends has been through a chain up to that step. -/
theorem walk_eq_ended {s : σ} {result : ρ} :
    walk invalid step buf offset s = .ok (.inr result) ↔
      ∃ places last stop s', Chain buf offset (places ++ [last]) stop ∧
        visit step places s = .ok (.inl s') ∧ step s' last.header last.body = .ok (.inr result) := by
  constructor
  · intro h
    obtain ⟨places, last, s₁, hchain, hvisit, hlast⟩ := walk_last invalid step buf offset s
    rw [walk_chain invalid step hchain, hvisit, proceed_inl] at h
    rcases hlast with hinvalid | hshort | ⟨p, hp, rfl, hstep⟩
    · rw [hinvalid] at h
      cases h
    · rw [walk_end invalid step (Nat.not_le_of_lt hshort)] at h
      cases h
    · rw [walk_lies invalid step hp] at h
      have hnext : step s₁ p.header p.body = .ok (.inr result) := by
        rcases hnext : step s₁ p.header p.body with e | s₂ | result'
        · rw [hnext] at h
          cases h
        · exact absurd hnext (hstep s₂)
        · rw [hnext] at h
          cases h
          rfl
      exact ⟨places, p, p.next, s₁, hchain.append (.cons hp (.nil _)), hvisit, hnext⟩
  · rintro ⟨places, last, stop, s', hchain, hvisit, hlast⟩
    obtain ⟨middle, hplaces, hrest⟩ := hchain.split
    obtain ⟨rfl, hlies, -⟩ := hrest.cons_inv
    rw [walk_chain invalid step hplaces, hvisit, proceed_inl, walk_lies invalid step hlies, hlast,
      proceed_inr]

/-- The loop from `offset` on gets to the place `p` and takes its step there. -/
def Visits (buf : List UInt8) (offset : ℕ) (s : σ) (p : Place α) : Prop :=
  ∃ before stop s', Chain buf offset (before ++ [p]) stop ∧
    visit step before s = .ok (.inl s')

end Visits

/-- A loop without an end of its own gets to every place of a chain, unless it fails at one
before. -/
theorem visits_or_fails {ε σ : Type} (invalid : ε)
    (step : σ → α → List UInt8 → Except ε (σ ⊕ Empty)) {buf : List UInt8} {offset stop : ℕ}
    {before : List (Place α)} {p : Place α} (h : Chain buf offset (before ++ [p]) stop) (s : σ) :
    Visits step buf offset s p ∨
      ∃ q ∈ before, ∃ s' e, Visits step buf offset s q ∧ step s' q.header q.body = .error e ∧
        walk invalid step buf offset s = .error e := by
  induction before generalizing offset s with
  | nil => exact .inl ⟨[], stop, s, h, rfl⟩
  | cons q before ih =>
      obtain ⟨rfl, hq, rest⟩ := h.cons_inv
      have hfirst : Visits step buf q.offset s q := ⟨[], q.next, s, .cons hq (.nil _), rfl⟩
      rw [walk_lies invalid step hq]
      rcases hstep : step s q.header q.body with e | s₁ | result
      · exact .inr ⟨q, List.mem_cons_self, s, e, hfirst, hstep, rfl⟩
      · have hnext {p : Place α} (hp : Visits step buf q.next s₁ p) :
            Visits step buf q.offset s p := by
          obtain ⟨places, stop, s', hchain, hvisit⟩ := hp
          exact ⟨q :: places, stop, s', .cons hq hchain, by rw [visit, hstep]; exact hvisit⟩
        rcases ih rest s₁ with hp | ⟨r, hr, s', e, hvisits, hfails, hwalk⟩
        · exact .inl (hnext hp)
        · exact .inr ⟨r, List.mem_cons_of_mem _ hr, s', e, hnext hvisits, hfails, hwalk⟩
      · exact result.elim

end Records
