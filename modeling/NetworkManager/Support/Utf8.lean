import NetworkManager.Support.Paths
import NetworkManager.Support.Text

/-!
# Support — Utf8

`String::from_utf8_lossy` on the bytes of a text returns that text, so it keeps the bytes it is
given exactly when they are UTF-8 (`osStr_fromUtf8Lossy_iff`).
-/

namespace Text

open Paths (osStr)

/-- The bytes are those of some text. -/
def IsUtf8 (bytes : List UInt8) : Prop := ∃ s : String, osStr s = bytes

theorem toNat_byte {n : ℕ} (h : n < 256) : (UInt8.ofNat n).toNat = n := UInt8.toNat_ofNat_of_lt' h

theorem mayFollow_ofNat {lead n : ℕ} (hlead : lead < 256) (hn : n < 64)
    (hlow : lead = 0xE0 → 32 ≤ n) (hlow' : lead = 0xF0 → 16 ≤ n) (hhigh : lead = 0xED → n < 32)
    (hhigh' : lead = 0xF4 → n < 16) :
    mayFollow (UInt8.ofNat lead) (UInt8.ofNat (n + 0x80)) := by
  have hbyte (b : UInt8) (m : ℕ) (hm : b.toNat = m) : UInt8.ofNat lead = b ↔ lead = m := by
    rw [← UInt8.toNat_inj, toNat_byte hlead, hm]
  simp only [mayFollow, Bool.and_eq_true, decide_eq_true_eq, UInt8.le_iff_toNat_le,
    toNat_byte (show n + 0x80 < 256 by omega), hbyte 0xE0 0xE0 rfl, hbyte 0xF0 0xF0 rfl,
    hbyte 0xED 0xED rfl, hbyte 0xF4 0xF4 rfl]
  constructor
  · split
    · have := hlow ‹_›
      show 160 ≤ n + 128
      omega
    · split
      · have := hlow' ‹_›
        show 144 ≤ n + 128
        omega
      · show 128 ≤ n + 128
        omega
  · split
    · have := hhigh ‹_›
      show n + 128 ≤ 159
      omega
    · split
      · have := hhigh' ‹_›
        show n + 128 ≤ 143
        omega
      · show n + 128 ≤ 191
        omega

theorem isContinuation_ofNat {n : ℕ} (h : n < 64) : isContinuation (UInt8.ofNat (n + 0x80)) := by
  simp only [isContinuation, Bool.and_eq_true, decide_eq_true_eq, UInt8.le_iff_toNat_le,
    toNat_byte (show n + 0x80 < 256 by omega)]
  exact ⟨Nat.le_add_left _ _, show n + 128 ≤ 191 by omega⟩

theorem ofNat_lt {n : ℕ} (hn : n < 256) (m : ℕ) (b : UInt8) (hb : b.toNat = m) :
    UInt8.ofNat n < b ↔ n < m := by
  rw [UInt8.lt_iff_toNat_lt, toNat_byte hn, hb]

/-- The bits of a continuation byte. -/
theorem toNat_sub_byte {n : ℕ} (h : n < 64) : (UInt8.ofNat (n + 0x80)).toNat - 0x80 = n := by
  rw [toNat_byte (by omega), Nat.add_sub_cancel]

theorem decodeChar_one {a : ℕ} (ha : a < 128) (rest : List UInt8) :
    decodeChar (UInt8.ofNat a) rest = (Char.ofNat a, 0) := by
  rw [decodeChar, if_pos ((ofNat_lt (by omega) 128 0x80 rfl).mpr ha), toNat_byte (by omega)]

theorem decodeChar_two {a b : ℕ} (ha : 2 ≤ a) (ha' : a < 32) (hb : b < 64) (rest : List UInt8) :
    decodeChar (UInt8.ofNat (a + 0xC0)) (UInt8.ofNat (b + 0x80) :: rest) =
      (Char.ofNat (a * 64 + b), 1) := by
  have hlead (m : ℕ) (b : UInt8) (hb : b.toNat = m) : UInt8.ofNat (a + 0xC0) < b ↔ a + 0xC0 < m :=
    ofNat_lt (by omega) m b hb
  have hnext : mayFollow (UInt8.ofNat (a + 0xC0)) (UInt8.ofNat (b + 0x80)) :=
    mayFollow_ofNat (by omega) hb (by omega) (by omega) (by omega) (by omega)
  rw [decodeChar, if_neg (by rw [hlead 0x80 0x80 rfl]; omega),
    if_neg (by rw [hlead 0xC2 0xC2 rfl]; omega), if_pos (by rw [hlead 0xE0 0xE0 rfl]; omega),
    List.getD_cons_zero, if_pos hnext, toNat_byte (show a + 0xC0 < 256 by omega),
    Nat.add_sub_cancel]
  dsimp only
  rw [toNat_sub_byte hb]

theorem decodeChar_three {a b c : ℕ} (ha : a < 16) (hb : b < 64) (hc : c < 64)
    (hlow : a = 0 → 32 ≤ b) (hhigh : a = 13 → b < 32) (rest : List UInt8) :
    decodeChar (UInt8.ofNat (a + 0xE0))
        (UInt8.ofNat (b + 0x80) :: UInt8.ofNat (c + 0x80) :: rest) =
      (Char.ofNat (a * 4096 + b * 64 + c), 2) := by
  have hlead (m : ℕ) (b : UInt8) (hb : b.toNat = m) : UInt8.ofNat (a + 0xE0) < b ↔ a + 0xE0 < m :=
    ofNat_lt (by omega) m b hb
  have hnext : mayFollow (UInt8.ofNat (a + 0xE0)) (UInt8.ofNat (b + 0x80)) :=
    mayFollow_ofNat (by omega) hb (by omega) (by omega) (by omega) (by omega)
  rw [decodeChar, if_neg (by rw [hlead 0x80 0x80 rfl]; omega),
    if_neg (by rw [hlead 0xC2 0xC2 rfl]; omega), if_neg (by rw [hlead 0xE0 0xE0 rfl]; omega),
    if_pos (by rw [hlead 0xF0 0xF0 rfl]; omega), List.getD_cons_zero, List.getD_cons_succ,
    List.getD_cons_zero, if_neg (by rw [hnext]; decide), if_pos (isContinuation_ofNat hc),
    toNat_byte (show a + 0xE0 < 256 by omega), Nat.add_sub_cancel]
  dsimp only
  rw [toNat_sub_byte hb, toNat_sub_byte hc]

theorem decodeChar_four {a b c d : ℕ} (ha : a < 5) (hb : b < 64) (hc : c < 64) (hd : d < 64)
    (hlow : a = 0 → 16 ≤ b) (hhigh : a = 4 → b < 16) (rest : List UInt8) :
    decodeChar (UInt8.ofNat (a + 0xF0)) (UInt8.ofNat (b + 0x80) :: UInt8.ofNat (c + 0x80) ::
        UInt8.ofNat (d + 0x80) :: rest) =
      (Char.ofNat (a * 262144 + b * 4096 + c * 64 + d), 3) := by
  have hlead (m : ℕ) (b : UInt8) (hb : b.toNat = m) : UInt8.ofNat (a + 0xF0) < b ↔ a + 0xF0 < m :=
    ofNat_lt (by omega) m b hb
  have hnext : mayFollow (UInt8.ofNat (a + 0xF0)) (UInt8.ofNat (b + 0x80)) :=
    mayFollow_ofNat (by omega) hb (by omega) (by omega) (by omega) (by omega)
  rw [decodeChar, if_neg (by rw [hlead 0x80 0x80 rfl]; omega),
    if_neg (by rw [hlead 0xC2 0xC2 rfl]; omega), if_neg (by rw [hlead 0xE0 0xE0 rfl]; omega),
    if_neg (by rw [hlead 0xF0 0xF0 rfl]; omega), if_pos (by rw [hlead 0xF5 0xF5 rfl]; omega),
    List.getD_cons_zero, List.getD_cons_succ, List.getD_cons_zero, List.getD_cons_succ,
    List.getD_cons_succ, List.getD_cons_zero, if_neg (by rw [hnext]; decide),
    if_neg (by rw [isContinuation_ofNat hc]; decide), if_pos (isContinuation_ofNat hd),
    toNat_byte (show a + 0xF0 < 256 by omega), Nat.add_sub_cancel]
  dsimp only
  rw [toNat_sub_byte hb, toNat_sub_byte hc, toNat_sub_byte hd]

/-- The bytes of a character are read as that character, whatever follows them. -/
theorem decodeChar_utf8EncodeChar (c : Char) (rest : List UInt8) :
    ∃ lead others, String.utf8EncodeChar c = lead :: others ∧
      decodeChar lead (others ++ rest) = (c, others.length) := by
  have hvalid : c.val.toNat < 0xD800 ∨ 0xDFFF < c.val.toNat ∧ c.val.toNat < 0x110000 := c.valid
  have hchar : Char.ofNat c.val.toNat = c := Char.ofNat_toNat c
  unfold String.utf8EncodeChar
  generalize c.val.toNat = v at hvalid hchar
  dsimp only
  split
  · refine ⟨_, _, rfl, (decodeChar_one (by omega) _).trans ?_⟩
    rw [hchar]
    rfl
  · split
    · refine ⟨_, _, rfl, (decodeChar_two (by omega) (by omega) (by omega) _).trans ?_⟩
      rw [show v / 64 % 0x20 * 64 + v % 0x40 = v by omega, hchar]
      rfl
    · split
      · refine ⟨_, _, rfl, (decodeChar_three (by omega) (by omega) (by omega) (by omega) (by omega)
          _).trans ?_⟩
        rw [show v / 4096 % 0x10 * 4096 + v / 64 % 0x40 * 64 + v % 0x40 = v by omega, hchar]
        rfl
      · refine ⟨_, _, rfl, (decodeChar_four (by omega) (by omega) (by omega) (by omega) (by omega)
          (by omega) _).trans ?_⟩
        rw [show v / 262144 % 0x08 * 262144 + v / 4096 % 0x40 * 4096 + v / 64 % 0x40 * 64 +
          v % 0x40 = v by omega, hchar]
        rfl

theorem fromUtf8Lossy_flatMap (cs : List Char) :
    fromUtf8Lossy (cs.flatMap String.utf8EncodeChar) = cs := by
  induction cs with
  | nil =>
      show fromUtf8Lossy [] = []
      rw [fromUtf8Lossy]
  | cons c cs ih =>
      obtain ⟨lead, others, hbytes, hdecode⟩ :=
        decodeChar_utf8EncodeChar c (cs.flatMap String.utf8EncodeChar)
      rw [List.flatMap_cons, hbytes, List.cons_append, fromUtf8Lossy, hdecode]
      dsimp only
      rw [List.drop_left, ih]

theorem fromUtf8Lossy_osStr (s : String) : fromUtf8Lossy (osStr s) = s.toList := by
  rw [Paths.osStr_eq_flatMap, fromUtf8Lossy_flatMap]

theorem osStr_fromUtf8Lossy_iff {bytes : List UInt8} :
    osStr (String.ofList (fromUtf8Lossy bytes)) = bytes ↔ IsUtf8 bytes := by
  refine ⟨fun h => ⟨_, h⟩, ?_⟩
  rintro ⟨s, rfl⟩
  rw [fromUtf8Lossy_osStr, String.ofList_toList]

end Text
