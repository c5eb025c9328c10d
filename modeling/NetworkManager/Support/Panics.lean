import NetworkManager.Support.Records

/-!
# Support — Panics

Code that may panic: it indexes, slices, copies and computes sizes in a machine word.

* `Panicking ε α`: a computation that returns, fails with an `ε`, or panics.
* `index`, `range`, `usize`, `sized`: the operations that panic.  `Slice`: the octets of a slice,
  which never take more than half of the address space.
* `Calm x r`: `x` does not panic and comes to `r`.  Sequences are calm if their parts are.
* `walkChecked`: the loop over the records of a buffer, with every operation checked and a number
  of turns to be made at most.  `calm_walk`: it is calm, and comes to what `walk` comes to.
-/

namespace Panics

/-- A computation that returns or fails; `none` is a panic. -/
abbrev Panicking (ε α : Type) := ExceptT ε Option α

/-! ### Operations -/

/-- The octets of a slice. -/
structure Slice where
  bytes : List UInt8
  fits : bytes.length < 2 ^ 63

/-- `bytes[i]`. -/
def index (bytes : List UInt8) (i : ℕ) : Option UInt8 := bytes[i]?

/-- `bytes[start..stop]`. -/
def range (bytes : List UInt8) (start stop : ℕ) : Option (List UInt8) :=
  if start ≤ stop ∧ stop ≤ bytes.length then some (bytes.extract start stop) else none

/-- The result of a sum or a product of sizes. -/
def usize (n : ℕ) : Option ℕ := if n < 2 ^ 64 then some n else none

/-- A sum of octets. -/
def u8 (n : ℕ) : Option UInt8 := if n < 256 then some (.ofNat n) else none

/-- The result of a difference. -/
def minus (m n : ℕ) : Option ℕ := if n ≤ m then some (m - n) else none

/-- `x << n`. -/
def shiftLeft {w : ℕ} (x : BitVec w) (n : ℕ) : Option (BitVec w) :=
  if n < w then some (x <<< n) else none

/-- `x - y`. -/
def sub {w : ℕ} (x y : BitVec w) : Option (BitVec w) := if y ≤ x then some (x - y) else none

/-- `copy_from_slice` into an array, and `try_into().unwrap()`. -/
def sized (n : ℕ) (bytes : List UInt8) : Option (List.Vector UInt8 n) :=
  if h : bytes.length = n then some ⟨bytes, h⟩ else none

/-- An array of `n` octets, copied from a slice. -/
def copied (n : ℕ) (bytes : List UInt8) (start stop : ℕ) : Option (List.Vector UInt8 n) :=
  range bytes start stop >>= sized n

theorem index_eq {bytes : List UInt8} {i : ℕ} (h : i < bytes.length) :
    index bytes i = some bytes[i] := List.getElem?_eq_getElem h

/-- A slice within the bytes is taken without a panic. -/
theorem range_eq {bytes : List UInt8} {start stop : ℕ} (h : start ≤ stop)
    (hstop : stop ≤ bytes.length) : range bytes start stop = some (bytes.extract start stop) :=
  if_pos ⟨h, hstop⟩

/-- The octets up to the first zero. -/
theorem range_findIdx (bytes : List UInt8) :
    range bytes 0 (bytes.findIdx (· = 0)) = some (bytes.takeWhile (· ≠ 0)) := by
  have htext : bytes.extract 0 (bytes.findIdx (· = 0)) = bytes.takeWhile (· ≠ 0) := by
    rw [List.takeWhile_eq_take_findIdx_not, List.extract_eq_take_drop, List.drop_zero]
    simp
  rw [range_eq (Nat.zero_le _) List.findIdx_le_length, htext]

theorem usize_eq {n : ℕ} (h : n < 2 ^ 64) : usize n = some n := if_pos h

theorem minus_eq {m n : ℕ} (h : n ≤ m) : minus m n = some (m - n) := if_pos h

theorem shiftLeft_eq {w : ℕ} {x : BitVec w} {n : ℕ} (h : n < w) :
    shiftLeft x n = some (x <<< n) := if_pos h

theorem sub_eq {w : ℕ} {x y : BitVec w} (h : y ≤ x) : sub x y = some (x - y) := if_pos h

theorem sized_eq {n : ℕ} {bytes : List UInt8} (h : bytes.length = n) :
    sized n bytes = some ⟨bytes, h⟩ := dif_pos h

/-- So is a copy of a fixed length. -/
theorem copied_eq {n : ℕ} {bytes : List UInt8} {start : ℕ} (h : start + n ≤ bytes.length) :
    copied n bytes start (start + n) = some (Octets.slice bytes start n h) := by
  have hextract : bytes.extract start (start + n) = (bytes.drop start).take n := by
    rw [List.extract_eq_take_drop, Nat.add_sub_cancel_left]
  rw [copied, range_eq (Nat.le_add_right _ _) h, hextract]
  exact sized_eq _

/-! ### Calm computations -/

section Calm

variable {ε α β : Type}

/-- `x` does not panic, and comes to `r`. -/
def Calm (x : Panicking ε α) (r : Except ε α) : Prop := x.run = some r

/-- A computation in which nothing can panic. -/
def quiet (r : Except ε α) : Panicking ε α := ExceptT.mk (some r)

theorem calm_quiet (r : Except ε α) : Calm (quiet r) r := rfl

theorem calm_pure (a : α) : Calm (pure a : Panicking ε α) (.ok a) := rfl

theorem calm_throw (e : ε) : Calm (throw e : Panicking ε α) (.error e) := rfl

/-- The result may be rewritten. -/
theorem calm_congr {x : Panicking ε α} {r s : Except ε α} (h : Calm x r) (heq : r = s) :
    Calm x s := heq ▸ h

/-- An operation that may panic, where it does not. -/
theorem calm_lift {o : Option α} {a : α} (h : o = some a) :
    Calm (liftM o : Panicking ε α) (.ok a) := by
  subst h
  rfl

/-- A sequence of calm parts is calm; the second has to be so only on what the first returns. -/
theorem calm_bind {x : Panicking ε α} {r : Except ε α} {f : α → Panicking ε β}
    {g : α → Except ε β} (hx : Calm x r) (hf : ∀ a, r = .ok a → Calm (f a) (g a)) :
    Calm (x >>= f) (r >>= g) := by
  have hrun : x = (some r : Option (Except ε α)) := hx
  subst hrun
  cases r with
  | error e => rfl
  | ok a => exact hf a rfl

/-- A calm step, and what it comes to. -/
theorem calm_step {x : Panicking ε α} {a : α} {f : α → Panicking ε β} {r : Except ε β}
    (hx : Calm x (.ok a)) (hf : Calm (f a) r) : Calm (x >>= f) r :=
  calm_bind (g := fun _ => r) hx fun b hb => by
    obtain rfl := Except.ok.inj hb
    exact hf

theorem calm_map {x : Panicking ε α} {r : Except ε α} (f : α → β) (hx : Calm x r) :
    Calm (f <$> x) (r.map f) := by
  have hrun : x = (some r : Option (Except ε α)) := hx
  subst hrun
  cases r <;> rfl

/-- What comes behind an error is not reached. -/
theorem calm_throw_bind (e : ε) (f : β → Panicking ε α) :
    Calm ((throw e : Panicking ε β) >>= f) (.error e) := rfl

/-- So is a list of calm parts. -/
theorem calm_mapM {f : α → Panicking ε β} {g : α → Except ε β} {as : List α}
    (h : ∀ a ∈ as, Calm (f a) (g a)) : Calm (as.mapM f) (as.mapM g) := by
  induction as with
  | nil => exact calm_pure []
  | cons a as ih =>
      rw [List.mapM_cons, List.mapM_cons]
      refine calm_bind (h a List.mem_cons_self) fun b _ => ?_
      exact calm_bind (ih fun b hb => h b (List.mem_cons_of_mem a hb)) fun _ _ => calm_pure _

/-- So is a loop of calm rounds. -/
theorem calm_foldlM {f : β → α → Panicking ε β} {g : β → α → Except ε β} {as : List α}
    (h : ∀ s, ∀ a ∈ as, Calm (f s a) (g s a)) (s : β) : Calm (as.foldlM f s) (as.foldlM g s) := by
  induction as generalizing s with
  | nil => exact calm_pure s
  | cons a as ih =>
      rw [List.foldlM_cons, List.foldlM_cons]
      refine calm_bind (h s a List.mem_cons_self) fun s' _ => ?_
      exact ih (fun s b hb => h s b (List.mem_cons_of_mem a hb)) s'

/-- A choice is calm if the branch that is taken is. -/
theorem calm_ite {c : Prop} [Decidable c] {x y : Panicking ε α} {r s : Except ε α}
    (hx : c → Calm x r) (hy : ¬ c → Calm y s) :
    Calm (if c then x else y) (if c then r else s) := by
  split
  · rename_i h
    exact hx h
  · rename_i h
    exact hy h

end Calm

/-! ### The loop over records -/

section Walk

open Records Layout Header

variable {α ε σ ρ : Type} [Header α] (invalid : ε)

/-- `(len + unit - 1) & !(unit - 1)`. -/
def alignChecked (len unit : ℕ) : Option ℕ := do
  let n ← usize (len + unit)
  let n ← minus n 1
  return n / unit * unit

/-- The structure at the beginning of a slice, which has to hold it. -/
def readChecked {α : Type} [Layout α] (bytes : List UInt8) : Option α :=
  if size α ≤ bytes.length then some (read bytes) else none

/-- A record is read without a panic where the bytes suffice. -/
theorem readChecked_eq {T : Type} [Layout T] {bytes : List UInt8} (h : ¬ bytes.length < size T) :
    (readChecked bytes : Option T) = some (read bytes) :=
  if_pos (not_lt.mp h)

/-- What a loop without an end of its own comes to. -/
def unended {τ : Type} : τ ⊕ Empty → τ := Sum.elim id Empty.elim

/-- The loop of `walk`, with at most so many turns. -/
def walkChecked (step : σ → α → List UInt8 → Panicking ε (σ ⊕ ρ)) (buf : List UInt8) :
    ℕ → ℕ → σ → Panicking ε ((σ × ℕ) ⊕ ρ)
  | 0, _, _ => liftM (none : Option ((σ × ℕ) ⊕ ρ))
  | turns + 1, offset, s => do
      let first ← usize (offset + size α)
      if first ≤ buf.length then
        let rest ← range buf offset buf.length
        let header ← (readChecked rest : Option α)
        let len := span header
        let stop ← usize (offset + len)
        if len < size α ∨ buf.length < stop then throw invalid
        let body ← range buf first stop
        match ← step s header body with
        | .inl s' =>
            let len ← alignChecked len (alignment α)
            let offset ← usize (offset + len)
            walkChecked step buf turns offset s'
        | .inr result => return .inr result
      else return .inl (s, offset)

/-- A length that leaves room is rounded up without a panic. -/
theorem alignChecked_eq {len unit : ℕ} (h : len + unit < 2 ^ 64) (hunit : 0 < unit) :
    alignChecked len unit = some (align len unit) := by
  rw [alignChecked, usize_eq h]
  show minus (len + unit) 1 >>= _ = _
  rw [minus_eq (by omega)]
  rfl

/-- A calm step of a loop, and what comes after it. -/
theorem calm_proceed {τ : Type} {x : Panicking ε (σ ⊕ ρ)} {next : Except ε (σ ⊕ ρ)}
    {f : σ ⊕ ρ → Panicking ε (τ ⊕ ρ)} {k : σ → Except ε (τ ⊕ ρ)} (hx : Calm x next)
    (hgo : ∀ s, Calm (f (.inl s)) (k s))
    (hend : ∀ result, Calm (f (.inr result)) (.ok (.inr result))) :
    Calm (x >>= f) (proceed next k) := by
  rcases next with e | s | result
  · exact calm_bind (g := fun _ => .error e) hx nofun
  · exact calm_step hx (hgo s)
  · exact calm_step hx (hend result)

/-- **The loop is calm** if its step is on every body the buffer can hold, and the headers and the
units are of a size that leaves room above the buffer. -/
theorem calm_walk {step : σ → α → List UInt8 → Panicking ε (σ ⊕ ρ)}
    {step' : σ → α → List UInt8 → Except ε (σ ⊕ ρ)} {buf : List UInt8}
    (hbuf : buf.length < 2 ^ 63)
    (hstep : ∀ s header body, body.length ≤ buf.length →
      Calm (step s header body) (step' s header body))
    (hspan : ∀ header : α, span header < 2 ^ 32) (hsize : size α < 2 ^ 32)
    (hunit : alignment α < 2 ^ 32) {turns offset : ℕ} (s : σ)
    (hturns : buf.length + alignment α < offset + turns)
    (hoffset : offset ≤ buf.length + alignment α) :
    Calm (walkChecked invalid step buf turns offset s) (walk invalid step' buf offset s) := by
  induction turns generalizing offset s with
  | zero => omega
  | succ turns ih =>
      rw [walkChecked]
      refine calm_step (calm_lift (usize_eq (by omega))) ?_
      -- every step moves on by at least the size of a header, so the turns suffice
      by_cases hmore : offset + size α ≤ buf.length
      · have hspan := hspan (read (buf.drop offset))
        have hrest : (buf.extract offset buf.length) = buf.drop offset := by
          rw [List.extract_eq_take_drop, List.take_of_length_le (by simp)]
        have hheader : (readChecked (buf.drop offset) : Option α) = some (read (buf.drop offset)) :=
          readChecked_eq (by rw [List.length_drop]; omega)
        rw [if_pos hmore, walk_more invalid step' hmore rfl]
        refine calm_step (calm_lift (range_eq (by omega) (Nat.le_refl _))) ?_
        rw [hrest]
        refine calm_step (calm_lift hheader) ?_
        refine calm_step (calm_lift (usize_eq (by omega))) ?_
        refine calm_ite (fun _ => calm_throw_bind _ _) fun hlen => ?_
        have hpos : 0 < size α := size_pos
        have hle := le_align (span (read (buf.drop offset) : α)) (alignment_pos (α := α))
        have hlt := align_lt (span (read (buf.drop offset) : α)) (alignment_pos (α := α))
        have hbody : (buf.extract (offset + size α)
            (offset + span (read (buf.drop offset) : α))).length ≤ buf.length := by
          rw [List.extract_eq_take_drop, List.length_take, List.length_drop]
          omega
        refine calm_step (calm_lift (range_eq (by omega) (by omega))) ?_
        refine calm_proceed (hstep _ _ _ hbody) (fun s' => ?_) fun result => calm_pure _
        refine calm_step (calm_lift (alignChecked_eq (by omega) alignment_pos)) ?_
        refine calm_step (calm_lift (usize_eq (by omega))) ?_
        exact ih s' (by omega) (by omega)
      · rw [if_neg hmore, walk_end invalid step' hmore]
        exact calm_pure _

end Walk

end Panics
