import NetworkManager.Support.Panics

/-!
# Support — Masks

Prefixes of words.

* `prefixMask w n`: the first `n` bits of a word are ones.  `hostMask w n`: the others are, which
  is the complement (`hostMask_eq`).
* `getMsbD_and_prefixMask`: a masked word has the first bits of the word and no others.
* `prefixMaskChecked`, `hostMaskChecked`: the same with every difference and shift checked.
-/

namespace Masks

/-- Ones, then zeros from the `n`-th bit on. -/
def prefixMask (w n : ℕ) : BitVec w := if n = 0 then 0 else BitVec.allOnes w <<< (w - min n w)

/-- Zeros, then ones from the `n`-th bit on. -/
def hostMask (w n : ℕ) : BitVec w :=
  if n = 0 then BitVec.allOnes w else (1#w <<< (w - min n w)) - 1#w

variable {w : ℕ}

/-- The mask of a prefix has the leading bits set, and no others. -/
theorem getMsbD_prefixMask (n i : ℕ) :
    (prefixMask w n).getMsbD i = decide (i < min n w) := by
  rw [prefixMask]
  split
  · next h => simp [h]
  · rw [BitVec.getMsbD_shiftLeft, BitVec.getMsbD_allOnes]
    grind

/-- A masked word has the first bits of the word. -/
theorem getMsbD_and_prefixMask (x : BitVec w) (n i : ℕ) :
    (x &&& prefixMask w n).getMsbD i = (x.getMsbD i && decide (i < min n w)) := by
  rw [BitVec.getMsbD_and, getMsbD_prefixMask]

/-- Masking twice is masking once. -/
theorem and_prefixMask_and_prefixMask (x : BitVec w) (n : ℕ) :
    x &&& prefixMask w n &&& prefixMask w n = x &&& prefixMask w n := by
  rw [BitVec.and_assoc, BitVec.and_self]

/-- The two masks are each other's complement. -/
theorem hostMask_eq (n : ℕ) : hostMask w n = ~~~ prefixMask w n := by
  rw [hostMask, prefixMask]
  split
  · simp
  · rw [BitVec.not_eq_neg_add, ← BitVec.neg_one_eq_allOnes, BitVec.shiftLeft_neg, BitVec.neg_neg]

/-! ### No overflow -/

section Checked

open Panics

/-- `prefixMask` with its difference and its shift checked. -/
def prefixMaskChecked (w n : ℕ) : Option (BitVec w) :=
  if n = 0 then some 0 else do
    let host ← minus w (min n w)
    shiftLeft (BitVec.allOnes w) host

/-- `hostMask` with its differences and its shift checked. -/
def hostMaskChecked (w n : ℕ) : Option (BitVec w) :=
  if n = 0 then some (BitVec.allOnes w) else do
    let host ← minus w (min n w)
    let bit ← shiftLeft 1#w host
    sub bit 1#w

/-- The checked shifts of a prefix mask do not overflow. -/
theorem prefixMaskChecked_eq (hw : 0 < w) (n : ℕ) :
    prefixMaskChecked w n = some (prefixMask w n) := by
  rw [prefixMaskChecked, prefixMask]
  split
  · rfl
  · rw [minus_eq (Nat.min_le_right n w)]
    exact shiftLeft_eq (by omega)

/-- Nor do those of a host mask. -/
theorem hostMaskChecked_eq (hw : 0 < w) (n : ℕ) :
    hostMaskChecked w n = some (hostMask w n) := by
  rw [hostMaskChecked, hostMask]
  split
  · rfl
  · have hhost : w - min n w < w := by omega
    have hone : 1#w ≤ 1#w <<< (w - min n w) := by
      rw [BitVec.le_def, BitVec.toNat_shiftLeft, BitVec.toNat_one hw, Nat.one_shiftLeft,
        Nat.mod_eq_of_lt (Nat.pow_lt_pow_right (by decide) hhost)]
      exact Nat.one_le_two_pow
    rw [minus_eq (Nat.min_le_right n w)]
    show shiftLeft 1#w (w - min n w) >>= _ = _
    rw [shiftLeft_eq hhost]
    exact sub_eq hone

end Checked

end Masks
