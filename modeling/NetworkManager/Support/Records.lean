import Mathlib
import NetworkManager.Support.Octets

/-!
# Support — Records

Buffers of length-prefixed records: a header that says how long the record is, a body, and
padding up to the place where the next record starts.

* `Layout`: a structure with its octets in memory.  `Header`: one that starts a record.
* `walk`: the loop over the records of a buffer.  At each one it checks the length and takes a
  step, which goes on with a new state, ends the loop with a result, or fails.
* `Record`: a record that says its own length, by construction.  `walk_octets`: over a list of
  them, the loop is the fold `steps` of its step.
* `walk_shift`: where the records lie in the buffer makes no difference.
* `walk_lift`: two loops over one buffer, whose steps simulate one another, do too.
* `walk_invariant`: what every step keeps, the loop keeps.
-/

namespace Records

/-! ### Layouts -/

/-- The octets of a structure: how many, how they are written, how they are read back from the
beginning of a buffer that has enough of them. -/
class Layout (α : Type) where
  size : ℕ
  write : α → List UInt8
  read : List UInt8 → α
  length_write (x : α) : (write x).length = size
  read_write (x : α) (rest : List UInt8) : read (write x ++ rest) = x

attribute [simp] Layout.length_write Layout.read_write

section Fields
variable [Octets.Native]

/-- The number in the machine's order that takes `n` octets at `offset`. -/
def field (bytes : List UInt8) (offset n : ℕ) : ℕ :=
  Octets.ofNative ((bytes.drop offset).take n)

/-- The 16-bit number at an offset, in the order of the machine. -/
def u16 (bytes : List UInt8) (offset : ℕ) : UInt16 := .ofNat (field bytes offset 2)

/-- The 32-bit number at an offset, in the order of the machine. -/
def u32 (bytes : List UInt8) (offset : ℕ) : UInt32 := .ofNat (field bytes offset 4)

/-- A number that was written at the start is read there. -/
theorem field_here {n x : ℕ} (hx : x < 256 ^ n) (bytes : List UInt8) :
    field (Octets.native n x ++ bytes) 0 n = x := by
  have htake : (Octets.native n x ++ bytes).take n = Octets.native n x :=
    List.take_left' (Octets.length_native n x)
  rw [field, List.drop_zero, htake, Octets.ofNative_native hx]

/-- A field behind the first number is read behind it. -/
theorem field_skip {n offset : ℕ} (h : n ≤ offset) (x m : ℕ) (bytes : List UInt8) :
    field (Octets.native n x ++ bytes) offset m = field bytes (offset - n) m := by
  have hdrop : (Octets.native n x ++ bytes).drop offset = bytes.drop (offset - n) := by
    rw [List.drop_append, Octets.length_native,
      List.drop_eq_nil_of_le (by rwa [Octets.length_native]), List.nil_append]
  rw [field, field, hdrop]

@[simp] theorem u16_here (x : UInt16) (bytes : List UInt8) :
    u16 (Octets.native 2 x.toNat ++ bytes) 0 = x := by
  rw [u16, field_here x.toNat_lt, UInt16.ofNat_toNat]

@[simp] theorem u32_here (x : UInt32) (bytes : List UInt8) :
    u32 (Octets.native 4 x.toNat ++ bytes) 0 = x := by
  rw [u32, field_here x.toNat_lt, UInt32.ofNat_toNat]

@[simp] theorem u16_skip {n offset : ℕ} (h : n ≤ offset) (x : ℕ) (bytes : List UInt8) :
    u16 (Octets.native n x ++ bytes) offset = u16 bytes (offset - n) := by
  rw [u16, u16, field_skip h]

@[simp] theorem u32_skip {n offset : ℕ} (h : n ≤ offset) (x : ℕ) (bytes : List UInt8) :
    u32 (Octets.native n x ++ bytes) offset = u32 bytes (offset - n) := by
  rw [u32, u32, field_skip h]

@[simp] theorem u16_cons (b : UInt8) (bytes : List UInt8) (offset : ℕ) :
    u16 (b :: bytes) (offset + 1) = u16 bytes offset := rfl

@[simp] theorem u32_cons (b : UInt8) (bytes : List UInt8) (offset : ℕ) :
    u32 (b :: bytes) (offset + 1) = u32 bytes offset := rfl

end Fields

/-- The least multiple of `unit` that is at least `len`.  (For a power of two, to clear the low
bits is to divide and multiply back.) -/
def align (len unit : ℕ) : ℕ := (len + unit - 1) / unit * unit

/-- Rounding up does not shrink a length. -/
theorem le_align (len : ℕ) {unit : ℕ} (h : 0 < unit) : len ≤ align len unit := by
  have hdiv := Nat.div_add_mod (len + unit - 1) unit
  have hmod := Nat.mod_lt (len + unit - 1) h
  rw [align, Nat.mul_comm]
  omega

/-- Rounding up adds less than a unit. -/
theorem align_lt (len : ℕ) {unit : ℕ} (h : 0 < unit) : align len unit < len + unit := by
  have hdiv := Nat.div_mul_le_self (len + unit - 1) unit
  rw [align]
  omega

/-- A length that is a multiple already stays. -/
theorem align_of_dvd {len unit : ℕ} (hunit : 0 < unit) (h : unit ∣ len) : align len unit = len := by
  obtain ⟨k, rfl⟩ := h
  have hdiv : (unit * k + unit - 1) / unit = k := by
    rw [Nat.add_sub_assoc hunit, Nat.mul_add_div hunit, Nat.div_eq_of_lt (by omega), Nat.add_zero]
  rw [align, hdiv, Nat.mul_comm]

theorem dvd_align (len unit : ℕ) : unit ∣ align len unit := Dvd.intro_left _ rfl

/-- A multiple can be taken out of the rounding. -/
theorem align_add_of_dvd {m unit : ℕ} (hunit : 0 < unit) (h : unit ∣ m) (len : ℕ) :
    align (m + len) unit = m + align len unit := by
  obtain ⟨k, rfl⟩ := h
  have hdiv : (unit * k + len + unit - 1) / unit = k + (len + unit - 1) / unit := by
    rw [Nat.add_assoc, Nat.add_sub_assoc (by omega), Nat.mul_add_div hunit]
  rw [align, hdiv, Nat.add_mul, Nat.mul_comm k]
  rfl

/-- The header of a record. -/
class Header (α : Type) extends Layout α where
  /-- The octets the header says the record takes, its own included and the padding not. -/
  span : α → ℕ
  alignment : ℕ
  size_pos : 0 < size
  alignment_pos : 0 < alignment

open Layout Header

/-! ### The loop -/

section Walk

variable {α ε σ τ ρ : Type}

/-- Goes on with the new state, unless the step failed or ended the loop. -/
def proceed (next : Except ε (σ ⊕ ρ)) (k : σ → Except ε (τ ⊕ ρ)) : Except ε (τ ⊕ ρ) :=
  match next with
  | .error e => .error e
  | .ok (.inl s) => k s
  | .ok (.inr result) => .ok (.inr result)

@[simp] theorem proceed_error (e : ε) (k : σ → Except ε (τ ⊕ ρ)) :
    proceed (.error e) k = .error e := rfl

@[simp] theorem proceed_inl (s : σ) (k : σ → Except ε (τ ⊕ ρ)) :
    proceed (.ok (.inl s)) k = k s := rfl

@[simp] theorem proceed_inr (result : ρ) (k : σ → Except ε (τ ⊕ ρ)) :
    proceed (.ok (.inr result)) k = .ok (.inr result) := rfl

/-- What a loop comes to behind `n` more octets. -/
def behind (n : ℕ) (r : Except ε ((σ × ℕ) ⊕ ρ)) : Except ε ((σ × ℕ) ⊕ ρ) :=
  r.map (Sum.map (Prod.map id (n + ·)) id)

theorem behind_zero (r : Except ε ((σ × ℕ) ⊕ ρ)) : behind 0 r = r := by
  rcases r with e | ⟨s, offset⟩ | result
  · rfl
  · rw [behind, Except.map, Sum.map_inl, Prod.map, Nat.zero_add, id]
  · rfl

/-- Counting in two parts is counting once. -/
theorem behind_behind (m n : ℕ) (r : Except ε ((σ × ℕ) ⊕ ρ)) :
    behind m (behind n r) = behind (m + n) r := by
  rcases r with e | ⟨s, offset⟩ | result
  · rfl
  · show Except.ok (Sum.inl (s, m + (n + offset))) = Except.ok (Sum.inl (s, m + n + offset))
    rw [Nat.add_assoc]
  · rfl

/-- The count goes past a step that does not return. -/
theorem behind_proceed (n : ℕ) (next : Except ε (σ ⊕ ρ)) (k : σ → Except ε ((τ × ℕ) ⊕ ρ)) :
    behind n (proceed next k) = proceed next fun s => behind n (k s) := by
  rcases next with e | s | result <;> rfl

variable [Header α] (invalid : ε) (step : σ → α → List UInt8 → Except ε (σ ⊕ ρ))

/-- The loop over the records of `buf` from `offset` on.  It ends with the step that ends it, or
with the state and the offset at which no further header fits. -/
def walk (buf : List UInt8) (offset : ℕ) (s : σ) : Except ε ((σ × ℕ) ⊕ ρ) :=
  if _hmore : offset + size α ≤ buf.length then
    let header : α := read (buf.drop offset)
    let len := span header
    if _hlen : len < size α ∨ buf.length < offset + len then .error invalid
    else
      proceed (step s header (buf.extract (offset + size α) (offset + len))) fun s' =>
        walk buf (offset + align len (alignment α)) s'
  else .ok (.inl (s, offset))
termination_by buf.length - offset
decreasing_by
  have hsize : 0 < size α := size_pos
  have halign : len ≤ align len (alignment α) := le_align len alignment_pos
  show buf.length - (offset + align len (alignment α)) < buf.length - offset
  omega

/-- The loop where a header fits. -/
theorem walk_more {buf : List UInt8} {offset : ℕ} {header : α}
    (hmore : offset + size α ≤ buf.length) (hheader : read (buf.drop offset) = header) (s : σ) :
    walk invalid step buf offset s =
      if span header < size α ∨ buf.length < offset + span header then .error invalid
      else
        proceed (step s header (buf.extract (offset + size α) (offset + span header))) fun s' =>
          walk invalid step buf (offset + align (span header) (alignment α)) s' := by
  subst hheader
  rw [walk, dif_pos hmore, dite_eq_ite]

/-- The loop where none does. -/
theorem walk_end {buf : List UInt8} {offset : ℕ} (hmore : ¬ offset + size α ≤ buf.length)
    (s : σ) : walk invalid step buf offset s = .ok (.inl (s, offset)) := by
  rw [walk, dif_neg hmore]

end Walk

/-! ### Records as such -/

/-- A record that says how long it is, and its padding. -/
structure Record (α : Type) [Header α] where
  header : α
  body : List UInt8
  padding : List UInt8
  span_eq : span header = size α + body.length
  length_padding : padding.length = align (span header) (alignment α) - span header

namespace Record

variable {α : Type} [Header α]

/-- The octets of a record: its header, its body and its padding. -/
def octets (r : Record α) : List UInt8 := write r.header ++ (r.body ++ r.padding)

/-- The span of a record is at most its padded length. -/
theorem span_le (r : Record α) : span r.header ≤ align (span r.header) (alignment α) :=
  le_align _ alignment_pos

/-- A record takes its padded length. -/
theorem length_octets (r : Record α) :
    r.octets.length = align (span r.header) (alignment α) := by
  have hspan := r.span_eq
  have hpadding := r.length_padding
  have hle := r.span_le
  rw [octets, List.length_append, List.length_append, length_write]
  omega

/-- The header of a record that comes first is read back. -/
theorem read_octets (r : Record α) (rest : List UInt8) : read (r.octets ++ rest) = r.header := by
  rw [octets, List.append_assoc, read_write]

/-- So is its body. -/
theorem extract_body (r : Record α) (rest : List UInt8) :
    (r.octets ++ rest).extract (size α) (span r.header) = r.body := by
  have hdrop : (r.octets ++ rest).drop (size α) = r.body ++ (r.padding ++ rest) := by
    rw [octets, List.append_assoc, List.append_assoc, List.drop_left' (length_write _)]
  have hlength : span r.header - size α = r.body.length := by rw [r.span_eq]; omega
  rw [List.extract_eq_take_drop, hdrop, hlength, List.take_left]

/-- The record with this header and body, padded with zeros. -/
def padded (header : α) (body : List UInt8) (h : span header = size α + body.length) :
    Record α where
  header := header
  body := body
  padding := List.replicate (align (span header) (alignment α) - span header) 0
  span_eq := h
  length_padding := List.length_replicate

end Record

section Steps

variable {α ε σ τ ρ : Type} [Header α] (invalid : ε)
  (step : σ → α → List UInt8 → Except ε (σ ⊕ ρ))

/-- The steps of the loop over some records, without a buffer. -/
def steps : List (Record α) → σ → Except ε (σ ⊕ ρ)
  | [], s => .ok (.inl s)
  | r :: records, s => proceed (step s r.header r.body) fun s' => steps records s'

/-- The steps over two lists of records are those over one and then over the other. -/
theorem steps_append (before after : List (Record α)) (s : σ) :
    steps step (before ++ after) s = proceed (steps step before s) (steps step after) := by
  induction before generalizing s with
  | nil => rfl
  | cons r before ih =>
      rw [List.cons_append, steps, steps]
      rcases step s r.header r.body with e | s' | result
      · rfl
      · exact ih s'
      · rfl

/-- The octets of a list of records. -/
def octets (records : List (Record α)) : List UInt8 := records.flatMap Record.octets

/-- **Where the records lie makes no difference**: the loop sees what is behind `before` only. -/
theorem walk_shift (before buf : List UInt8) (offset : ℕ) (s : σ) :
    walk invalid step (before ++ buf) (before.length + offset) s =
      behind before.length (walk invalid step buf offset s) := by
  have hlength : (before ++ buf).length = before.length + buf.length := List.length_append
  have hread (n : ℕ) : read (α := α) ((before ++ buf).drop (before.length + n)) =
      read (buf.drop n) := by rw [List.drop_length_add_append]
  have hextract (m n : ℕ) : (before ++ buf).extract (before.length + m) (before.length + n) =
      buf.extract m n := by
    rw [List.extract_eq_take_drop, List.extract_eq_take_drop, List.drop_length_add_append,
      Nat.add_sub_add_left]
  induction offset, s using walk.induct (α := α) buf with
  | case1 offset s hmore header len hlen =>
      have hinvalid : span header < size α ∨
          (before ++ buf).length < before.length + offset + span header := by
        rw [hlength, Nat.add_assoc, Nat.add_lt_add_iff_left]
        exact hlen
      rw [walk_more invalid step hmore rfl, walk_more invalid step (by omega) (hread offset),
        if_pos hlen, if_pos hinvalid]
      rfl
  | case2 offset s hmore header len hlen ih =>
      have hvalid : ¬ (span header < size α ∨
          (before ++ buf).length < before.length + offset + span header) := by
        rw [hlength, Nat.add_assoc, Nat.add_lt_add_iff_left]
        exact hlen
      rw [walk_more invalid step hmore rfl, walk_more invalid step (by omega) (hread offset),
        if_neg hlen, if_neg hvalid, behind_proceed]
      simp only [Nat.add_assoc, hextract]
      exact congrArg _ (funext ih)
  | case3 offset s hmore =>
      rw [walk_end invalid step hmore, walk_end invalid step (by omega)]
      rfl

/-- At a record the loop takes its step, and goes on behind it. -/
theorem walk_record (r : Record α) (rest : List UInt8) (s : σ) :
    walk invalid step (r.octets ++ rest) 0 s =
      proceed (step s r.header r.body) fun s' =>
        behind r.octets.length (walk invalid step rest 0 s') := by
  have hlength := r.length_octets
  have hle := r.span_le
  have hspan := r.span_eq
  have hmore : 0 + size α ≤ (r.octets ++ rest).length := by rw [List.length_append]; omega
  have hvalid : ¬ (span r.header < size α ∨ (r.octets ++ rest).length < 0 + span r.header) := by
    rw [List.length_append]
    omega
  rw [walk_more invalid step hmore (r.read_octets rest), if_neg hvalid, Nat.zero_add,
    Nat.zero_add, Nat.zero_add, r.extract_body]
  congr 1
  funext s'
  rw [← hlength, ← walk_shift, Nat.add_zero]

/-- **Over a list of records, the loop is the fold of its step**; what comes behind them is left
to the same loop. -/
theorem walk_append (records : List (Record α)) (rest : List UInt8) (s : σ) :
    walk invalid step (octets records ++ rest) 0 s =
      proceed (steps step records s) fun s' =>
        behind (octets records).length (walk invalid step rest 0 s') := by
  induction records generalizing s with
  | nil =>
      show walk invalid step rest 0 s = behind 0 (walk invalid step rest 0 s)
      rw [behind_zero]
  | cons r records ih =>
      have hoctets : octets (r :: records) = r.octets ++ octets records := List.flatMap_cons
      rw [hoctets, List.append_assoc, walk_record, steps]
      rcases step s r.header r.body with e | s' | result
      · rfl
      · simp only [proceed_inl, ih, behind_proceed, behind_behind, List.length_append]
      · rfl

/-- **A walk over well-formed records** takes its step on each of them, in order. -/
theorem walk_octets (records : List (Record α)) (s : σ) :
    walk invalid step (octets records) 0 s =
      (steps step records s).map (Sum.map (·, (octets records).length) id) := by
  have hend (s' : σ) : walk invalid step [] 0 s' = .ok (.inl (s', 0)) :=
    walk_end invalid step (by rw [Nat.zero_add]; exact Nat.not_le_of_lt size_pos) s'
  have happend := walk_append invalid step records [] s
  rw [List.append_nil] at happend
  rw [happend]
  rcases steps step records s with e | s' | result
  · rfl
  · rw [proceed_inl, hend]
    rfl
  · rfl

end Steps

/-! ### Loops that no record ends -/

section Folds

variable {α ε σ ρ : Type} [Header α] (invalid : ε)

/-- A loop whose step goes on every time is a monadic fold. -/
theorem steps_foldlM (f : σ → α → List UInt8 → Except ε σ) (records : List (Record α)) (s : σ) :
    steps (ρ := ρ) (fun s header body => (f s header body).map .inl) records s =
      (records.foldlM (fun s r => f s r.header r.body) s).map .inl := by
  induction records generalizing s with
  | nil => rfl
  | cons r records ih =>
      rw [steps, List.foldlM_cons]
      cases f s r.header r.body with
      | error e => rfl
      | ok s' => exact ih s'

/-- A fold that appends what it finds in each record. -/
theorem foldlM_append {β : Type} {item : Record α → Except ε (List β)}
    {items : Record α → List β} {records : List (Record α)}
    (h : ∀ r ∈ records, item r = .ok (items r)) (found : List β) :
    records.foldlM (fun found r => do return found ++ (← item r)) found =
      .ok (found ++ records.flatMap items) := by
  induction records generalizing found with
  | nil => rw [List.foldlM_nil, List.flatMap_nil, List.append_nil]; rfl
  | cons r records ih =>
      rw [List.foldlM_cons, h r List.mem_cons_self, List.flatMap_cons, ← List.append_assoc]
      exact ih (fun r hr => h r (List.mem_cons_of_mem _ hr)) _

end Folds

/-! ### Two loops over one buffer -/

section Simulation

variable {α ε σ₁ σ₂ ρ₁ ρ₂ : Type} [Header α] (invalid₁ invalid₂ : ε)
  {step₁ : σ₁ → α → List UInt8 → Except ε (σ₁ ⊕ ρ₁)}
  {step₂ : σ₂ → α → List UInt8 → Except ε (σ₂ ⊕ ρ₂)}

/-- **Simulation.**  If every step of the first loop is answered by one of the second, so is the
whole of the first, and both end at the same offset. -/
theorem walk_lift (R : σ₁ → σ₂ → Prop) (Q : ρ₁ → ρ₂ → Prop)
    (hstep : ∀ s t header body x, R s t → step₁ s header body = .ok x →
      ∃ y, step₂ t header body = .ok y ∧ Sum.LiftRel R Q x y)
    (buf : List UInt8) (offset : ℕ) (s : σ₁) : ∀ (t : σ₂) (x : (σ₁ × ℕ) ⊕ ρ₁), R s t →
      walk invalid₁ step₁ buf offset s = .ok x →
      ∃ y, walk invalid₂ step₂ buf offset t = .ok y ∧
        Sum.LiftRel (fun p q => R p.1 q.1 ∧ p.2 = q.2) Q x y := by
  induction offset, s using walk.induct (α := α) buf with
  | case1 offset s hmore header len hlen =>
      intro t x hst hwalk
      rw [walk_more invalid₁ step₁ hmore rfl, if_pos hlen] at hwalk
      cases hwalk
  -- both loops see the same header, so they end together or go on together
  | case2 offset s hmore header len hlen ih =>
      intro t x hst hwalk
      rw [walk_more invalid₁ step₁ hmore rfl, if_neg hlen] at hwalk
      rw [walk_more invalid₂ step₂ hmore rfl, if_neg hlen]
      cases hnext : step₁ s (read (buf.drop offset))
          (buf.extract (offset + size α) (offset + span (read (buf.drop offset) : α))) with
      | error e =>
          rw [hnext] at hwalk
          cases hwalk
      | ok next =>
          obtain ⟨y, hy, hrel⟩ := hstep _ _ _ _ _ hst hnext
          rw [hnext] at hwalk
          rw [hy]
          cases hrel with
          | inl hnext' => exact ih _ _ _ hnext' hwalk
          | inr hresult =>
              obtain rfl : Sum.inr _ = x := Except.ok.inj hwalk
              exact ⟨_, rfl, .inr hresult⟩
  | case3 offset s hmore =>
      intro t x hst hwalk
      rw [walk_end invalid₁ step₁ hmore] at hwalk
      obtain rfl : Sum.inl (s, offset) = x := Except.ok.inj hwalk
      exact ⟨_, walk_end invalid₂ step₂ hmore t, .inl ⟨hst, rfl⟩⟩

end Simulation

/-- **Invariants.**  What every step keeps, the loop keeps. -/
theorem walk_invariant {α ε σ ρ : Type} [Header α] {invalid : ε}
    {step : σ → α → List UInt8 → Except ε (σ ⊕ ρ)} (I : σ → Prop)
    (hstep : ∀ s header body s', I s → step s header body = .ok (.inl s') → I s')
    {buf : List UInt8} {offset end_ : ℕ} {s s' : σ} (hs : I s)
    (h : walk invalid step buf offset s = .ok (.inl (s', end_))) : I s' := by
  have hself : ∀ s t header body (x : σ ⊕ ρ), (s = t ∧ I s) → step s header body = .ok x →
      ∃ y, step t header body = .ok y ∧ Sum.LiftRel (fun s t => s = t ∧ I s) (fun _ _ => True)
        x y := by
    rintro s t header body x ⟨rfl, hs⟩ hx
    refine ⟨x, hx, ?_⟩
    cases x with
    | inl s' => exact .inl ⟨rfl, hstep s header body s' hs hx⟩
    | inr result => exact .inr trivial
  obtain ⟨y, -, hrel⟩ := walk_lift invalid invalid _ _ hself buf offset s s _ ⟨rfl, hs⟩ h
  cases hrel with
  | inl hsound => exact hsound.1.2

end Records
