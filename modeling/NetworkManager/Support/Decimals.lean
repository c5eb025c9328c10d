import NetworkManager.Support.Text

/-!
# Support — Decimals

The decimal forms that `str::parse::<u64>` reads, and those that `{}` writes.

* `parseU64_iff`: a number without a sign is read if it has digits only and fits 64 bits.
* `toDigits_ofDigitChars`: digits that do not start with a spare zero are written back as they were.
-/

namespace Text

/-- The number that the digits spell. -/
def value (digits : List Char) : ℕ := Nat.ofDigitChars 10 digits 0

/-- The digits start with no zero that could be left out. -/
def NoSpareZero (digits : List Char) : Prop := digits.head? = some '0' → digits = ['0']

instance (digits : List Char) : Decidable (NoSpareZero digits) :=
  inferInstanceAs (Decidable (_ → _))

/-- Digits only, and a number of 64 bits. -/
def IsU64 (digits : List Char) : Prop :=
  digits ≠ [] ∧ (∀ c ∈ digits, c.isDigit) ∧ value digits < 2 ^ 64

/-- Without a plus sign, the texts that parse are the decimals of a `u64`. -/
theorem parseU64_iff {s : List Char} {n : ℕ} (hplain : '+' ∉ s) :
    parseU64 s = some n ↔ IsU64 s ∧ value s = n := by
  have hsign : s.head? ≠ some '+' := fun h => hplain (List.mem_of_head? h)
  have hvalue : s.foldl (fun n c => 10 * n + (c.toNat - '0'.toNat)) 0 = value s :=
    Nat.ofDigitChars_eq_foldl.symm
  simp only [parseU64, if_neg hsign, hvalue, List.all_eq_true]
  split
  · next h => simpa [IsU64] using fun _ => h
  · next h => exact iff_of_false nofun fun hs => h hs.1

theorem value_toDigits (n : ℕ) : value (Nat.toDigits 10 n) = n := Nat.ofDigitChars_ten_toDigits

/-- The digits of a `u64` are its decimal. -/
theorem isU64_toDigits {n : ℕ} (h : n < 2 ^ 64) : IsU64 (Nat.toDigits 10 n) :=
  ⟨Nat.toDigits_ne_nil, fun _ hc => Nat.isDigit_of_mem_toDigits (by decide) (by decide) hc,
    (value_toDigits n).trans_lt h⟩

/-- The digits of a `u64` parse to it. -/
theorem parseU64_toDigits {n : ℕ} (h : n < 2 ^ 64) : parseU64 (Nat.toDigits 10 n) = some n := by
  have hplain : '+' ∉ Nat.toDigits 10 n := fun hc =>
    absurd (Nat.isDigit_of_mem_toDigits (by decide) (by decide) hc) (by decide)
  exact (parseU64_iff hplain).mpr ⟨isU64_toDigits h, value_toDigits n⟩

/-- A digit that is appended counts in ones. -/
theorem value_concat (digits : List Char) (c : Char) :
    value (digits ++ [c]) = 10 * value digits + (c.toNat - '0'.toNat) := by
  rw [value, Nat.ofDigitChars_append, Nat.ofDigitChars_cons, Nat.ofDigitChars_nil, value]

/-- A digit, less the digit zero. -/
theorem digitChar_of_isDigit {c : Char} (h : c.isDigit) :
    c.toNat - '0'.toNat < 10 ∧ Nat.digitChar (c.toNat - '0'.toNat) = c := by
  have hrange : 48 ≤ c.toNat ∧ c.toNat ≤ 57 := by
    simpa [Char.isDigit, UInt32.le_iff_toNat_le] using h
  have hlt : c.toNat - 48 < 10 := by omega
  refine ⟨hlt, Char.toNat_inj.mp ?_⟩
  show (Nat.digitChar (c.toNat - 48)).toNat = c.toNat
  rw [Nat.toNat_digitChar_of_lt_ten hlt]
  omega

/-- A decimal without spare zeros has none before its last digit either. -/
theorem noSpareZero_of_concat {digits : List Char} {c : Char} (hne : digits ≠ [])
    (h : NoSpareZero (digits ++ [c])) : digits.head? ≠ some '0' := by
  intro hzero
  have := h (by rw [List.head?_append_of_ne_nil _ hne, hzero])
  rw [List.append_eq_singleton_iff] at this
  simp_all

/-- A decimal that does not start with zero is positive. -/
theorem value_pos {digits : List Char} (hne : digits ≠ []) (hdigits : ∀ c ∈ digits, c.isDigit)
    (hzero : digits.head? ≠ some '0') : 0 < value digits := by
  obtain ⟨c, digits, rfl⟩ := List.exists_cons_of_ne_nil hne
  obtain ⟨-, hc⟩ := digitChar_of_isDigit (hdigits c List.mem_cons_self)
  have hpos : 0 < c.toNat - '0'.toNat := by
    refine Nat.pos_of_ne_zero fun h => hzero ?_
    rw [← hc, h]
    rfl
  have hpow : 0 < 10 ^ digits.length := by positivity
  rw [value, Nat.ofDigitChars_cons, Nat.ofDigitChars_eq_ofDigitChars_zero]
  have : 0 < 10 ^ digits.length * (10 * 0 + (c.toNat - '0'.toNat)) := by
    exact Nat.mul_pos hpow (by omega)
  omega

/-- Digits without spare zeros are those of their value. -/
theorem toDigits_ofDigitChars {digits : List Char} (hne : digits ≠ [])
    (hdigits : ∀ c ∈ digits, c.isDigit) (hzero : NoSpareZero digits) :
    Nat.toDigits 10 (value digits) = digits := by
  induction digits using List.reverseRecOn with
  | nil => exact absurd rfl hne
  | append_singleton digits c ih =>
      obtain ⟨hlt, hc⟩ := digitChar_of_isDigit (hdigits c (by simp))
      rw [value_concat]
      by_cases hnil : digits = []
      · subst hnil
        show Nat.toDigits 10 (10 * 0 + (c.toNat - '0'.toNat)) = [c]
        rw [Nat.mul_zero, Nat.zero_add, Nat.toDigits_of_lt_base hlt, hc]
      · have hhead := noSpareZero_of_concat hnil hzero
        have hfront : ∀ c ∈ digits, c.isDigit := fun c hc => hdigits c (List.mem_append_left _ hc)
        rw [← Nat.toDigits_append_toDigits (by decide) (value_pos hnil hfront hhead) hlt,
          ih hnil hfront fun h => absurd h hhead, Nat.toDigits_of_lt_base hlt, hc]

theorem noSpareZero_toDigits (n : ℕ) : NoSpareZero (Nat.toDigits 10 n) := by
  induction n using Nat.strong_induction_on with
  | _ n ih =>
      intro hhead
      by_cases hlt : n < 10
      · rw [Nat.toDigits_of_lt_base hlt] at hhead ⊢
        simpa using hhead
      · rw [Nat.toDigits_of_base_le (by decide) (by omega),
          List.head?_append_of_ne_nil _ Nat.toDigits_ne_nil] at hhead
        have hzero := value_toDigits (n / 10)
        rw [ih (n / 10) (by omega) hhead] at hzero
        change 0 = n / 10 at hzero
        omega

end Text
