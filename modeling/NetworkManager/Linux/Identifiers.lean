import NetworkManager.Linux.Model

/-!
# Linux — Identifiers

`linux/model.rs`: network names and hardware addresses as text.

* `encodeHex`, `decodeHex`: pairs of hexadecimal digits.  `parseMacAddress`: the same, without the
  colons.
* `Spells`: the digits that spell some octets.
* `decodeHex_iff`: the length is counted in octets and the digits in characters, so one more
  character of two or four octets is dropped.
-/

namespace NetworkManager

/-! ### Digits -/

/-- `char::to_digit(16)`. -/
def toDigit (c : Char) : Option ℕ :=
  if '0' ≤ c ∧ c ≤ '9' then some (c.toNat - '0'.toNat)
  else if 'a' ≤ c ∧ c ≤ 'f' then some (c.toNat - 'a'.toNat + 10)
  else if 'A' ≤ c ∧ c ≤ 'F' then some (c.toNat - 'A'.toNat + 10)
  else none

/-- The two digits of an octet. -/
def hexDigits (byte : UInt8) : List Char :=
  [Nat.digitChar (byte.toNat / 16), Nat.digitChar (byte.toNat % 16)]

/-- `encode_hex`. -/
def encodeHex (bytes : List UInt8) : String := String.ofList (bytes.flatMap hexDigits)

/-- The loop over pairs of characters. -/
def decodePairs : List Char → Option (List UInt8)
  | high :: low :: chars => do
    let octet := UInt8.ofNat (← toDigit high) <<< 4 ||| UInt8.ofNat (← toDigit low)
    return octet :: (← decodePairs chars)
  | _ => some []

/-- `decode_hex`: an even number of bytes, two characters each. -/
def decodeHex (input : String) : Option (List UInt8) :=
  if input.utf8ByteSize % 2 ≠ 0 then none else decodePairs input.toList

/-- Parses a 48-bit MAC address from colon-separated or contiguous hex. -/
def parseMacAddress (input : String) : Option (Octets 6) :=
  let compact := String.ofList (input.toList.filter (· ≠ ':'))
  if compact.utf8ByteSize ≠ 12 then none else do
    let bytes ← decodeHex compact
    if h : bytes.length = 6 then some ⟨bytes, h⟩ else none

/-! ### Spelling -/

/-- These hexadecimal digits, and no others, spell these octets. -/
inductive Spells : List Char → List UInt8 → Prop
  | nil : Spells [] []
  | cons {high low : Char} {h l : ℕ} {chars : List Char} {bytes : List UInt8}
      (hhigh : toDigit high = some h) (hlow : toDigit low = some l) (hrest : Spells chars bytes) :
      Spells (high :: low :: chars) (UInt8.ofNat (16 * h + l) :: bytes)

/-- Digits of some octets, and one more character with an even number of octets. -/
def Dangling (chars : List Char) : Prop :=
  ∃ digits c bytes, chars = digits ++ [c] ∧ Spells digits bytes ∧ Even c.utf8Size

/-- Each byte is spelled with two characters. -/
theorem Spells.length {chars : List Char} {bytes : List UInt8} (h : Spells chars bytes) :
    chars.length = 2 * bytes.length := by
  induction h with
  | nil => rfl
  | cons _ _ _ ih =>
      rw [List.length_cons, List.length_cons, List.length_cons, ih]
      omega

/-- A digit is one octet of text, and less than 16. -/
theorem toDigit_ascii {c : Char} {d : ℕ} (h : toDigit c = some d) : c.utf8Size = 1 ∧ d < 16 := by
  rw [Char.utf8Size_eq_one_iff, UInt32.le_iff_toNat_le]
  show c.toNat ≤ 127 ∧ d < 16
  rw [toDigit] at h
  simp only [Char.le_def, UInt32.le_iff_toNat_le] at h
  change (if 48 ≤ c.toNat ∧ c.toNat ≤ 57 then some (c.toNat - 48)
    else if 97 ≤ c.toNat ∧ c.toNat ≤ 102 then some (c.toNat - 97 + 10)
    else if 65 ≤ c.toNat ∧ c.toNat ≤ 70 then some (c.toNat - 65 + 10) else none) = some d at h
  grind

/-- Digits are characters of one byte. -/
theorem Spells.utf8Len {chars : List Char} {bytes : List UInt8} (h : Spells chars bytes) :
    String.utf8Len chars = 2 * bytes.length := by
  induction h with
  | nil => rfl
  | cons hhigh hlow _ ih =>
      rw [String.utf8Len_cons, String.utf8Len_cons, (toDigit_ascii hhigh).1, (toDigit_ascii hlow).1,
        ih, List.length_cons]
      omega

/-- The two halves make up the byte. -/
theorem octet_eq {h l : ℕ} (hh : h < 16) (hl : l < 16) :
    UInt8.ofNat h <<< 4 ||| UInt8.ofNat l = UInt8.ofNat (16 * h + l) := by
  have hall : ∀ h l : Fin 16,
      UInt8.ofNat h <<< 4 ||| UInt8.ofNat l = UInt8.ofNat (16 * h + l) := by decide +kernel
  exact hall ⟨h, hh⟩ ⟨l, hl⟩

/-- The digits are decoded, and one character left over is dropped. -/
theorem Spells.decodePairs_append {chars : List Char} {bytes : List UInt8} (h : Spells chars bytes)
    {rest : List Char} (hrest : rest.length ≤ 1) : decodePairs (chars ++ rest) = some bytes := by
  induction h with
  | nil =>
      match rest, hrest with
      | [], _ | [_], _ => rfl
  | cons hhigh hlow _ ih =>
      rw [List.cons_append, List.cons_append, decodePairs, hhigh, hlow, ih]
      rw [← octet_eq (toDigit_ascii hhigh).2 (toDigit_ascii hlow).2]
      rfl

/-- What the loop accepts: pairs of digits, and one more character or none. -/
theorem spells_of_decodePairs {chars : List Char} {bytes : List UInt8}
    (h : decodePairs chars = some bytes) :
    ∃ digits rest, chars = digits ++ rest ∧ rest.length ≤ 1 ∧ Spells digits bytes := by
  induction chars using decodePairs.induct generalizing bytes with
  | case1 high low chars ih =>
      rw [decodePairs] at h
      cases hhigh : toDigit high with
      | none => rw [hhigh] at h; cases h
      | some hd =>
          cases hlow : toDigit low with
          | none => rw [hhigh, hlow] at h; cases h
          | some ld =>
              cases hchars : decodePairs chars with
              | none => rw [hhigh, hlow, hchars] at h; cases h
              | some bytes' =>
                  rw [hhigh, hlow, hchars] at h
                  obtain rfl := Option.some.inj h
                  obtain ⟨digits, rest, rfl, hrest, hspells⟩ := ih hchars
                  refine ⟨high :: low :: digits, rest, rfl, hrest, ?_⟩
                  rw [octet_eq (toDigit_ascii hhigh).2 (toDigit_ascii hlow).2]
                  exact .cons hhigh hlow hspells
  | case2 chars hshort =>
      rw [decodePairs] at h
      · obtain rfl := Option.some.inj h
        refine ⟨[], chars, rfl, ?_, .nil⟩
        match chars with
        | [] => exact Nat.zero_le 1
        | [_] => exact Nat.le_refl 1
        | a :: b :: chars => exact absurd rfl (hshort a b chars)
      · exact hshort

/-- **What decodes**: pairs of digits, or such pairs and one character of an even number of bytes.
-/
theorem decodeHex_eq_some {s : String} {bytes : List UInt8} :
    decodeHex s = some bytes ↔ Spells s.toList bytes ∨
      ∃ digits c, s.toList = digits ++ [c] ∧ Spells digits bytes ∧ Even c.utf8Size := by
  have hsize : s.utf8ByteSize = String.utf8Len s.toList := by
    rw [← String.utf8ByteSize_ofList, String.ofList_toList]
  rw [decodeHex, hsize]
  constructor
  · intro h
    split at h
    · cases h
    · next heven =>
        obtain ⟨digits, rest, hchars, hrest, hspells⟩ := spells_of_decodePairs h
        match rest, hrest with
        | [], _ =>
            rw [List.append_nil] at hchars
            exact .inl (hchars ▸ hspells)
        | [c], _ =>
            refine .inr ⟨digits, c, hchars, hspells, ?_⟩
            rw [hchars, String.utf8Len_append, hspells.utf8Len, String.utf8Len_cons,
              String.utf8Len_nil] at heven
            rw [Nat.even_iff]
            omega
  · rintro (hspells | ⟨digits, c, hchars, hspells, heven⟩)
    · rw [hspells.utf8Len, if_neg (by omega)]
      have hnone : ([] : List Char).length ≤ 1 := Nat.zero_le 1
      simpa using hspells.decodePairs_append hnone
    · rw [Nat.even_iff] at heven
      rw [hchars, String.utf8Len_append, hspells.utf8Len, String.utf8Len_cons, String.utf8Len_nil,
        if_neg (by omega)]
      exact hspells.decodePairs_append (Nat.le_refl 1)

/-- **What is decoded**: exactly the digits that spell it, unless one character dangles. -/
theorem decodeHex_iff (s : String) :
    (∀ bytes, decodeHex s = some bytes ↔ Spells s.toList bytes) ↔ ¬ Dangling s.toList := by
  constructor
  · rintro h ⟨digits, c, bytes, hchars, hspells, heven⟩
    have hdecoded := decodeHex_eq_some.mpr (.inr ⟨digits, c, hchars, hspells, heven⟩)
    have hlength := ((h bytes).mp hdecoded).length
    rw [hchars, List.length_append, hspells.length, List.length_singleton] at hlength
    omega
  · intro h bytes
    rw [decodeHex_eq_some]
    refine ⟨?_, .inl⟩
    rintro (hspells | ⟨digits, c, hchars, hspells, heven⟩)
    · exact hspells
    · exact absurd ⟨digits, c, bytes, hchars, hspells, heven⟩ h

/-! ### Round trips -/

theorem toDigit_digitChar {n : ℕ} (h : n < 16) : toDigit n.digitChar = some n := by
  have hall : ∀ n : Fin 16, toDigit n.val.digitChar = some n.val := by decide
  exact hall ⟨n, h⟩

/-- The digits of the bytes spell them. -/
theorem spells_hexDigits (bytes : List UInt8) : Spells (bytes.flatMap hexDigits) bytes := by
  induction bytes with
  | nil => exact .nil
  | cons byte bytes ih =>
      have hbyte : byte.toNat < 256 := byte.toNat_lt
      have hspells := Spells.cons (toDigit_digitChar (n := byte.toNat / 16) (by omega))
        (toDigit_digitChar (n := byte.toNat % 16) (by omega)) ih
      rwa [Nat.div_add_mod, UInt8.ofNat_toNat] at hspells

/-- What is encoded is decoded again. -/
theorem decodeHex_encodeHex (bytes : List UInt8) : decodeHex (encodeHex bytes) = some bytes := by
  rw [decodeHex_eq_some, encodeHex, String.toList_ofList]
  exact .inl (spells_hexDigits bytes)

/-- **Hardware addresses** are read exactly: twelve digits, whatever colons are between them. -/
theorem parseMacAddress_eq_some {s : String} {mac : Octets 6} :
    parseMacAddress s = some mac ↔ Spells (s.toList.filter (· ≠ ':')) mac.toList := by
  rw [parseMacAddress, String.utf8ByteSize_ofList]
  generalize s.toList.filter (· ≠ ':') = compact
  constructor
  · intro h
    split at h
    · cases h
    · next hlength =>
        obtain ⟨bytes, hbytes, hmac⟩ := Option.bind_eq_some_iff.mp h
        rw [decodeHex_eq_some, String.toList_ofList] at hbytes
        split at hmac
        · next hsix =>
            obtain rfl := Option.some.inj hmac
            rcases hbytes with hspells | ⟨digits, c, rfl, hspells, -⟩
            · exact hspells
            · have hpos := c.utf8Size_pos
              rw [String.utf8Len_append, hspells.utf8Len, String.utf8Len_cons] at hlength
              omega
        · cases hmac
  · intro hspells
    have hlength : String.utf8Len compact = 12 := by
      rw [hspells.utf8Len, List.Vector.toList_length]
    have hdecoded : decodeHex (String.ofList compact) = some mac.toList := by
      rw [decodeHex_eq_some, String.toList_ofList]
      exact .inl hspells
    rw [if_neg (not_not_intro hlength), hdecoded]
    exact dif_pos mac.toList_length

/-- Digits are no colons. -/
theorem filter_hexDigits (byte : UInt8) : (hexDigits byte).filter (· ≠ ':') = hexDigits byte := by
  revert byte
  refine Octets.forall_octet ?_
  decide +kernel

/-- Without the colons, an address is its digits. -/
theorem filter_formatMacAddress (mac : Octets 6) :
    (formatMacAddress mac).toList.filter (· ≠ ':') = mac.toList.flatMap hexDigits := by
  obtain ⟨bytes, hlength⟩ := mac
  match bytes, hlength with
  | [a, b, c, d, e, f], _ =>
      show (String.ofList _).toList.filter _ = _
      rw [String.toList_ofList]
      show (hexDigits a ++ ([':'] ++ (hexDigits b ++ ([':'] ++ (hexDigits c ++ ([':'] ++
        (hexDigits d ++ ([':'] ++ (hexDigits e ++ ([':'] ++ hexDigits f)))))))))).filter _ = _
      simp only [List.filter_append, filter_hexDigits]
      rfl

/-- An address is parsed again. -/
theorem parseMacAddress_formatMacAddress (mac : Octets 6) :
    parseMacAddress (formatMacAddress mac) = some mac := by
  rw [parseMacAddress_eq_some, filter_formatMacAddress]
  exact spells_hexDigits mac.toList

/-! ### Stored identifiers -/

/-- **Identifiers.**  What is stored reads back; what is read is what the digits spell, but for a
network name with one more character at its end. -/
theorem identifiers_decode (s : String) :
    ((∀ bytes, decodeHex s = some bytes ↔ Spells s.toList bytes) ↔ ¬ Dangling s.toList) ∧
    (∀ bytes, decodeHex (encodeHex bytes) = some bytes) ∧
    (∀ mac, parseMacAddress (formatMacAddress mac) = some mac) ∧
    ∀ mac, parseMacAddress s = some mac ↔ Spells (s.toList.filter (· ≠ ':')) mac.toList :=
  ⟨decodeHex_iff s, decodeHex_encodeHex, parseMacAddress_formatMacAddress,
    fun _ => parseMacAddress_eq_some⟩

/-- A character of two octets passes for an empty name. -/
theorem dangling_character_decoded :
    decodeHex "é" = some [] ∧ ¬ Spells "é".toList [] := by
  refine ⟨by decide +kernel, fun h => ?_⟩
  exact absurd h.length (by decide)

end NetworkManager
