import Mathlib

/-!
# Support — Octets

Fixed-width numbers as lists of octets, most significant first, and fields cut out of a longer
list.

* `bigEndian n x`: the `n` low octets of `x`.  `ofBigEndian` reads a number back.
* `littleEndian`, `ofLittleEndian`: the same with the least significant octet first.
* `native`, `ofNative`: in the order of the machine the program runs on (`Native`).
* `slice`: the `n` octets at an offset, given that they are there.
-/

namespace Octets

/-- What is true of 256 numbers is true of every octet. -/
theorem forall_octet {P : UInt8 → Prop} (h : ∀ n : Fin 256, P (UInt8.ofNat n)) (b : UInt8) :
    P b := by
  have hb := h ⟨b.toNat, b.toNat_lt⟩
  rwa [UInt8.ofNat_toNat] at hb

/-! ### Numbers -/

/-- The `n` low octets of `x`, most significant first. -/
def bigEndian : ℕ → ℕ → List UInt8
  | 0, _ => []
  | n + 1, x => UInt8.ofNat (x / 256 ^ n) :: bigEndian n x

/-- The number that the octets spell. -/
def ofBigEndian : List UInt8 → ℕ
  | [] => 0
  | b :: bytes => b.toNat * 256 ^ bytes.length + ofBigEndian bytes

@[simp] theorem length_bigEndian (n x : ℕ) : (bigEndian n x).length = n := by
  induction n with
  | zero => rfl
  | succ n ih => rw [bigEndian, List.length_cons, ih]

/-- Octets read back as the number that was written, cut to their width. -/
theorem ofBigEndian_bigEndian (n x : ℕ) : ofBigEndian (bigEndian n x) = x % 256 ^ n := by
  induction n with
  | zero => simp [bigEndian, ofBigEndian, Nat.mod_one]
  | succ n ih =>
      rw [bigEndian, ofBigEndian, length_bigEndian, ih, Nat.mod_pow_succ, UInt8.toNat_ofNat']
      ring

/-- What is beyond the `n` low octets is not written. -/
theorem bigEndian_add_mul (n x k : ℕ) : bigEndian n (x + k * 256 ^ n) = bigEndian n x := by
  induction n generalizing k with
  | zero => rfl
  | succ n ih =>
      have hpos : 0 < 256 ^ n := by positivity
      have hhead : (x + k * 256 * 256 ^ n) / 256 ^ n = x / 256 ^ n + k * 256 :=
        Nat.add_mul_div_right x (k * 256) hpos
      have hoctet : UInt8.ofNat (x / 256 ^ n + k * 256) = UInt8.ofNat (x / 256 ^ n) := by
        apply UInt8.toNat_inj.mp
        rw [UInt8.toNat_ofNat', UInt8.toNat_ofNat', Nat.add_mul_mod_self_right]
      rw [bigEndian, pow_succ', ← mul_assoc, hhead, hoctet, ih, ← bigEndian]

/-- A number that fits reads back. -/
theorem ofBigEndian_of_lt {n x : ℕ} (h : x < 256 ^ n) : ofBigEndian (bigEndian n x) = x := by
  rw [ofBigEndian_bigEndian, Nat.mod_eq_of_lt h]

/-- A number of `n` octets is below `256 ^ n`. -/
theorem ofBigEndian_lt (bytes : List UInt8) : ofBigEndian bytes < 256 ^ bytes.length := by
  induction bytes with
  | nil => simp [ofBigEndian]
  | cons b bytes ih =>
      have hb : b.toNat < 256 := b.toNat_lt
      rw [ofBigEndian, List.length_cons, pow_succ]
      nlinarith

/-- Octets are those of the number that they say. -/
theorem bigEndian_ofBigEndian (bytes : List UInt8) :
    bigEndian bytes.length (ofBigEndian bytes) = bytes := by
  induction bytes with
  | nil => rfl
  | cons b bytes ih =>
      have hpos : 0 < 256 ^ bytes.length := by positivity
      have hhead : (ofBigEndian bytes + b.toNat * 256 ^ bytes.length) / 256 ^ bytes.length =
          b.toNat := by
        rw [Nat.add_mul_div_right _ _ hpos, Nat.div_eq_of_lt (ofBigEndian_lt bytes), Nat.zero_add]
      rw [List.length_cons, bigEndian, ofBigEndian, Nat.add_comm, hhead, UInt8.ofNat_toNat,
        bigEndian_add_mul, ih]

/-- The `n` low octets of `x`, least significant first. -/
def littleEndian (n x : ℕ) : List UInt8 := (bigEndian n x).reverse

/-- The number that the octets spell, least significant first. -/
def ofLittleEndian (bytes : List UInt8) : ℕ := ofBigEndian bytes.reverse

/-- A number that fits reads back in little-endian order too. -/
theorem ofLittleEndian_littleEndian {n x : ℕ} (h : x < 256 ^ n) :
    ofLittleEndian (littleEndian n x) = x := by
  rw [ofLittleEndian, littleEndian, List.reverse_reverse, ofBigEndian_of_lt h]

theorem littleEndian_ofLittleEndian {n : ℕ} (bytes : List.Vector UInt8 n) :
    littleEndian n (ofLittleEndian bytes.toList) = bytes.toList := by
  have h := bigEndian_ofBigEndian bytes.toList.reverse
  rw [List.length_reverse, List.Vector.toList_length] at h
  rw [littleEndian, ofLittleEndian, h, List.reverse_reverse]

@[simp] theorem length_littleEndian (n x : ℕ) : (littleEndian n x).length = n := by
  rw [littleEndian, List.length_reverse, length_bigEndian]

/-! ### The machine's order -/

/-- The order of the octets of a number. -/
inductive ByteOrder where
  | little | big
  deriving DecidableEq, Repr

/-- The machine the program runs on, as far as its numbers in memory go. -/
class Native where
  order : ByteOrder

/-- A machine that stores the least significant octet first. -/
@[reducible] def littleMachine : Native := ⟨.little⟩

section Native
variable [Native]

/-- `to_ne_bytes`, for a number of `n` octets. -/
def native (n x : ℕ) : List UInt8 :=
  match Native.order with
  | .little => littleEndian n x
  | .big => bigEndian n x

/-- `from_ne_bytes`. -/
def ofNative (bytes : List UInt8) : ℕ :=
  match Native.order with
  | .little => ofLittleEndian bytes
  | .big => ofBigEndian bytes

@[simp] theorem length_native (n x : ℕ) : (native n x).length = n := by
  unfold native
  split
  · exact length_littleEndian n x
  · exact length_bigEndian n x

/-- A number that fits reads back in the order of the machine. -/
theorem ofNative_native {n x : ℕ} (h : x < 256 ^ n) : ofNative (native n x) = x := by
  unfold ofNative native
  cases Native.order with
  | little => exact ofLittleEndian_littleEndian h
  | big => exact ofBigEndian_of_lt h

end Native

/-! ### Fields -/

/-- `bytes[offset..offset + n]`. -/
def slice (bytes : List UInt8) (offset n : ℕ) (h : offset + n ≤ bytes.length) :
    List.Vector UInt8 n :=
  ⟨(bytes.drop offset).take n, by rw [List.length_take, List.length_drop]; omega⟩

end Octets
