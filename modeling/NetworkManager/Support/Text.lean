import Mathlib

/-!
# Support — Text

The string functions of the Rust standard library, on lists of characters: `lines`, `trim`,
`strip_prefix`, `{:?}`, `from_utf8_lossy`, and `char::is_whitespace` by the Unicode property
`White_Space`.
-/

namespace Text

/-- `char::is_whitespace`. -/
def isWhitespace (c : Char) : Bool :=
  let n := c.toNat
  (9 ≤ n && n ≤ 13) || n == 0x20 || n == 0x85 || n == 0xA0 || n == 0x1680 ||
    (0x2000 ≤ n && n ≤ 0x200A) || n == 0x2028 || n == 0x2029 || n == 0x202F || n == 0x205F ||
    n == 0x3000

/-- `char::is_ascii_alphanumeric`. -/
def isAsciiAlphanumeric (c : Char) : Bool :=
  ('0' ≤ c && c ≤ '9') || ('A' ≤ c && c ≤ 'Z') || ('a' ≤ c && c ≤ 'z')

/-- `str::trim`. -/
def trim (s : List Char) : List Char := (s.dropWhile isWhitespace).rdropWhile isWhitespace

/-- `str::strip_prefix`. -/
def stripPrefix (p s : List Char) : Option (List Char) := s.dropPrefix? p

/-- A line without the carriage return that a `\r\n` ending leaves. -/
def chomp (line : List Char) : List Char :=
  if line.getLast? = some '\r' then line.dropLast else line

/-- The lines of `s`, where `line` is what the current one holds already, in reverse. -/
def linesFrom : List Char → List Char → List (List Char)
  | [], [] => []
  | [], c :: line => [(c :: line).reverse]
  | c :: s, line => if c = '\n' then chomp line.reverse :: linesFrom s [] else linesFrom s (c :: line)

/-- `str::lines`. -/
def lines (s : List Char) : List (List Char) := linesFrom s []

/-- `str::parse::<u64>`: decimal digits, after a plus sign or without one. -/
def parseU64 (s : List Char) : Option ℕ :=
  let digits := if s.head? = some '+' then s.tail else s
  let value := digits.foldl (fun n c => 10 * n + (c.toNat - '0'.toNat)) 0
  if digits ≠ [] ∧ digits.all Char.isDigit ∧ value < 2 ^ 64 then some value else none

/-- The digits of `{:x}`. -/
def hex (n : ℕ) : List Char := Nat.toDigits 16 n

/-- A character inside `{:?}` of a string.  Characters beyond ASCII are taken to be printable. -/
def escapeDebug (c : Char) : List Char :=
  match c with
  | '\x00' => ['\\', '0']
  | '\t' => ['\\', 't']
  | '\r' => ['\\', 'r']
  | '\n' => ['\\', 'n']
  | '"' => ['\\', '"']
  | '\\' => ['\\', '\\']
  | c =>
    if c.toNat < 0x20 ∨ c.toNat = 0x7f then "\\u\x7b".toList ++ hex c.toNat ++ ['\x7d'] else [c]

/-- `{:?}` of a string. -/
def debug (s : String) : String :=
  String.ofList ('"' :: s.toList.flatMap escapeDebug ++ ['"'])

/-! ### UTF-8 -/

/-- The bytes that may follow `lead`: all continuation bytes, less those that would make an
overlong form, a surrogate, or a code point beyond U+10FFFF. -/
def mayFollow (lead c : UInt8) : Bool :=
  (if lead = 0xE0 then 0xA0 else if lead = 0xF0 then 0x90 else 0x80) ≤ c &&
    c ≤ (if lead = 0xED then 0x9F else if lead = 0xF4 then 0x8F else 0xBF)

/-- The bytes that can follow the first one of a character. -/
def isContinuation (c : UInt8) : Bool := 0x80 ≤ c && c ≤ 0xBF

/-- The character that starts at `lead`, and how many of the bytes after `lead` belong to it.  A
sequence that breaks off is replaced by U+FFFD as far as it was well formed. -/
def decodeChar (lead : UInt8) (rest : List UInt8) : Char × ℕ :=
  let c := rest.getD 0 0
  let d := rest.getD 1 0
  let e := rest.getD 2 0
  let bits (b : UInt8) : ℕ := b.toNat - 0x80
  if lead < 0x80 then (Char.ofNat lead.toNat, 0)
  else if lead < 0xC2 then ('�', 0)
  else if lead < 0xE0 then
    if mayFollow lead c then (Char.ofNat ((lead.toNat - 0xC0) * 64 + bits c), 1) else ('�', 0)
  else if lead < 0xF0 then
    if !mayFollow lead c then ('�', 0)
    else if isContinuation d then
      (Char.ofNat ((lead.toNat - 0xE0) * 4096 + bits c * 64 + bits d), 2)
    else ('�', 1)
  else if lead < 0xF5 then
    if !mayFollow lead c then ('�', 0)
    else if !isContinuation d then ('�', 1)
    else if isContinuation e then
      (Char.ofNat ((lead.toNat - 0xF0) * 262144 + bits c * 4096 + bits d * 64 + bits e), 3)
    else ('�', 2)
  else ('�', 0)

/-- `String::from_utf8_lossy`. -/
def fromUtf8Lossy : List UInt8 → List Char
  | [] => []
  | lead :: rest => (decodeChar lead rest).1 :: fromUtf8Lossy (rest.drop (decodeChar lead rest).2)
termination_by bytes => bytes.length
decreasing_by
  rw [List.length_drop, List.length_cons]
  omega

/-- ASCII is read byte by byte. -/
theorem fromUtf8Lossy_ascii : ∀ {bytes : List UInt8}, (∀ b ∈ bytes, b < 0x80) →
    fromUtf8Lossy bytes = bytes.map fun b => Char.ofNat b.toNat
  | [], _ => by rw [fromUtf8Lossy, List.map_nil]
  | b :: bytes, h => by
      have hb : decodeChar b bytes = (Char.ofNat b.toNat, 0) := by
        rw [decodeChar, if_pos (h b List.mem_cons_self)]
      rw [fromUtf8Lossy, hb, List.drop_zero, List.map_cons,
        fromUtf8Lossy_ascii fun c hc => h c (List.mem_cons_of_mem b hc)]

/-! ### Trimming -/

/-- A text without whitespace is not trimmed. -/
theorem trim_eq_self {s : List Char} (h : ∀ c ∈ s, isWhitespace c = false) : trim s = s := by
  have hd : s.dropWhile isWhitespace = s := by
    cases s with
    | nil => rfl
    | cons c s => rw [List.dropWhile_cons_of_neg]; simp [h c List.mem_cons_self]
  rw [trim, hd, List.rdropWhile_eq_self_iff]
  intro hne
  simp [h _ (List.getLast_mem hne)]

/-- Whitespace at the end is trimmed. -/
theorem trim_concat {c : Char} (hc : isWhitespace c) (s : List Char) : trim (s ++ [c]) = trim s := by
  rw [trim, trim, List.dropWhile_append]
  split
  · next h =>
      rw [List.isEmpty_iff.mp h]
      simp [hc]
  · exact List.rdropWhile_concat_pos _ _ _ hc

/-- What is trimmed is whitespace. -/
theorem eq_trim (s : List Char) : ∃ pre post, s = pre ++ (trim s ++ post) ∧
    (∀ c ∈ pre, isWhitespace c) ∧ ∀ c ∈ post, isWhitespace c := by
  refine ⟨s.takeWhile isWhitespace, (s.dropWhile isWhitespace).rtakeWhile isWhitespace, ?_,
    fun c hc => List.mem_takeWhile_imp hc, fun c hc => List.mem_rtakeWhile_imp hc⟩
  rw [trim, List.rdropWhile_append_rtakeWhile, List.takeWhile_append_dropWhile]

/-- Only whitespace is trimmed to nothing. -/
theorem trim_eq_nil {s : List Char} : trim s = [] ↔ ∀ c ∈ s, isWhitespace c := by
  obtain ⟨pre, post, hs, hpre, hpost⟩ := eq_trim s
  constructor
  · intro h
    rw [hs, h, List.nil_append]
    intro c hc
    exact (List.mem_append.mp hc).elim (hpre c) (hpost c)
  · intro h
    rw [trim, List.dropWhile_eq_nil_iff.mpr h, List.rdropWhile_nil]

/-- Trimming adds no character. -/
theorem mem_of_mem_trim {c : Char} {s : List Char} (h : c ∈ trim s) : c ∈ s := by
  obtain ⟨pre, post, hs, -, -⟩ := eq_trim s
  rw [hs]
  exact List.mem_append_right _ (List.mem_append_left _ h)

/-- A whitespace character that is kept has others around it. -/
theorem mem_trim {c : Char} (hc : isWhitespace c) {s : List Char} :
    c ∈ trim s ↔ ∃ pre post, s = pre ++ c :: post ∧ (∃ d ∈ pre, isWhitespace d = false) ∧
      ∃ d ∈ post, isWhitespace d = false := by
  constructor
  · intro h
    obtain ⟨a, b, hab⟩ := List.append_of_mem h
    have hdrop : s.dropWhile isWhitespace ≠ [] := by
      intro hnil
      rw [trim, hnil] at h
      cases h
    have hkept : trim s ≠ [] := List.ne_nil_of_mem h
    obtain ⟨w, hw⟩ := List.rdropWhile_prefix isWhitespace (s.dropWhile isWhitespace)
    have hsplit : s.dropWhile isWhitespace = a ++ c :: (b ++ w) := by
      rw [← hw, ← trim, hab, List.append_assoc, List.cons_append]
    refine ⟨s.takeWhile isWhitespace ++ a, b ++ w, ?_, ?_, ?_⟩
    · rw [List.append_assoc, ← hsplit, List.takeWhile_append_dropWhile]
    · have hhead := List.head_dropWhile_not isWhitespace hdrop
      cases a with
      | nil => simp [hsplit, hc] at hhead
      | cons d a => exact ⟨d, by simp, by simpa [hsplit] using hhead⟩
    · have hlast : ¬ isWhitespace ((trim s).getLast hkept) :=
        List.rdropWhile_last_not isWhitespace _ hkept
      cases b using List.reverseRecOn with
      | nil => simp [hab, hc] at hlast
      | append_singleton b d _ =>
          exact ⟨d, by simp, by simpa [hab] using hlast⟩
  · rintro ⟨pre, post, rfl, ⟨d, hd, hdw⟩, e, he, hew⟩
    have hpre : ¬ (pre.dropWhile isWhitespace).isEmpty := by
      rw [List.isEmpty_iff, List.dropWhile_eq_nil_iff]
      exact fun h => by simp [h d hd] at hdw
    have hpost : ¬ (post.reverse.dropWhile isWhitespace).isEmpty := by
      rw [List.isEmpty_iff, List.dropWhile_eq_nil_iff]
      exact fun h => by simp [h e (List.mem_reverse.mpr he)] at hew
    rw [trim, List.dropWhile_append, if_neg hpre, List.rdropWhile, List.reverse_append,
      List.reverse_cons, List.append_assoc, List.dropWhile_append, if_neg hpost]
    simp

theorem stripPrefix_append (p s : List Char) : stripPrefix p (p ++ s) = some s := by
  induction p with
  | nil => cases s <;> rfl
  | cons c p ih => simpa [stripPrefix, List.dropPrefix?] using ih

/-- What is left behind a prefix, if the text starts with it. -/
theorem stripPrefix_eq_some {p s t : List Char} : stripPrefix p s = some t ↔ s = p ++ t := by
  rw [stripPrefix, List.dropPrefix?_eq_some_iff]
  simp

/-- Nothing is left if the text does not start with the prefix. -/
theorem stripPrefix_eq_none {p s : List Char} : stripPrefix p s = none ↔ ¬ p <+: s := by
  rw [Option.eq_none_iff_forall_ne_some]
  exact ⟨fun h ⟨t, ht⟩ => h t (stripPrefix_eq_some.mpr ht.symm),
    fun h t ht => h ⟨t, (stripPrefix_eq_some.mp ht).symm⟩⟩

/-! ### The first line -/

/-- A line that is finished is the next of the lines. -/
theorem linesFrom_append {l : List Char} (hl : '\n' ∉ l) : ∀ (line s : List Char),
    linesFrom (l ++ '\n' :: s) line = chomp (line.reverse ++ l) :: lines s := by
  induction l with
  | nil => intro line s; simp [linesFrom, lines]
  | cons c l ih =>
      intro line s
      rw [List.mem_cons, not_or] at hl
      rw [List.cons_append, linesFrom, if_neg (Ne.symm hl.1), ih hl.2]
      simp

/-- The first line of a text, and the lines behind it. -/
theorem lines_cons {l : List Char} (hl : '\n' ∉ l) (s : List Char) :
    lines (l ++ '\n' :: s) = chomp l :: lines s := linesFrom_append hl [] s

/-- A carriage return at the end is trimmed anyway. -/
theorem trim_chomp (s : List Char) : trim (chomp s) = trim s := by
  rw [chomp]
  split
  · next h =>
      obtain ⟨t, rfl⟩ := List.getLast?_eq_some_iff.mp h
      rw [List.dropLast_concat, trim_concat (by decide)]
  · rfl

/-- The carriage return that goes is one of the last part. -/
theorem chomp_append (p : List Char) {s : List Char} (hs : s ≠ []) :
    chomp (p ++ s) = p ++ chomp s := by
  rw [chomp, chomp, List.getLast?_append_of_ne_nil _ hs, List.dropLast_append_of_ne_nil hs]
  split <;> rfl

theorem chomp_eq_self {l : List Char} (h : '\r' ∉ l) : chomp l = l :=
  if_neg fun e => h (List.mem_of_getLast? e)

/-! ### Lines by their line feeds -/

/-- A text with a line feed has more than one line. -/
theorem length_splitOn_le_one {s : List Char} : (s.splitOn '\n').length ≤ 1 ↔ '\n' ∉ s := by
  constructor
  · intro h hmem
    obtain ⟨a, b, rfl⟩ := List.append_of_mem hmem
    rw [List.splitOn_append_cons_self, List.length_append] at h
    have ha := List.length_pos_iff.mpr (List.splitOn_ne_nil '\n' a)
    have hb := List.length_pos_iff.mpr (List.splitOn_ne_nil '\n' b)
    omega
  · intro h
    rw [List.splitOn_eq_singleton h, List.length_singleton]

/-- Lines that are written with a line feed each are read back. -/
theorem splitOn_flatMap {lines : List (List Char)} (h : ∀ line ∈ lines, '\n' ∉ line) :
    (lines.flatMap (· ++ ['\n'])).splitOn '\n' = lines ++ [[]] := by
  induction lines with
  | nil => rfl
  | cons line lines ih =>
      obtain ⟨hline, hlines⟩ := List.forall_mem_cons.mp h
      rw [List.flatMap_cons, List.append_assoc, List.singleton_append,
        List.splitOn_append_cons_self_of_not_mem hline, ih hlines, List.cons_append]

/-- A joined text has no other characters than its parts and the separator. -/
theorem not_mem_intercalate {c sep : Char} {parts : List (List Char)} (h : ∀ part ∈ parts, c ∉ part)
    (hsep : c ≠ sep) : c ∉ [sep].intercalate parts := by
  induction parts with
  | nil => simp
  | cons part parts ih =>
      obtain ⟨hpart, hparts⟩ := List.forall_mem_cons.mp h
      cases parts with
      | nil => simpa using hpart
      | cons part' parts => simp [List.intercalate_cons_cons, hpart, hsep, ih hparts]

end Text
