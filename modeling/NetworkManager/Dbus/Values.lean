import NetworkManager.Dbus.Settings

/-!
# Dbus — Values

A bus and an address text that keep what the facade asks of zvariant and of the standard library:
the value trees of D-Bus, and addresses with dotted octets or with eight full groups.
-/

namespace NetworkManager

/-- A D-Bus value. -/
inductive Value where
  | u8 (n : UInt8)
  | bool (b : Bool)
  | i32 (n : Int32)
  | u32 (n : UInt32)
  | str (s : String)
  | array (elements : List Value)
  | dict (entries : List (String × Value))
  | struct (fields : List Value)

namespace Value

/-- The byte, if it is one. -/
def toU8 : Value → Option UInt8
  | u8 n => some n
  | _ => none

/-- The flag, if it is one. -/
def toBool : Value → Option Bool
  | bool b => some b
  | _ => none

/-- The signed number, if it is one. -/
def toI32 : Value → Option Int32
  | i32 n => some n
  | _ => none

/-- The number, if it is one. -/
def toU32 : Value → Option UInt32
  | u32 n => some n
  | _ => none

/-- The text, if it is one. -/
def toStr : Value → Option String
  | str s => some s
  | _ => none

/-- The entries, if it is a dictionary. -/
def toDict : Value → Option (List (String × Value))
  | dict entries => some entries
  | _ => none

/-- The elements, if it is an array. -/
def elements : Value → Option (List Value)
  | array elements => some elements
  | _ => none

/-- `Vec::try_from`. -/
def toVec {α : Type} (item : Value → Option α) (value : Value) : Option (List α) :=
  value.elements.bind fun elements => elements.mapM item

/-- An array of the items. -/
def ofVec {α : Type} (item : α → Value) (items : List α) : Value := array (items.map item)

/-- An array is read back item by item. -/
theorem toVec_ofVec {α : Type} {item : Value → Option α}
    {value : α → Value} (h : ∀ a, item (value a) = some a) (items : List α) :
    toVec item (ofVec value items) = some items := by
  show (items.map value).mapM item = some items
  induction items with
  | nil => rfl
  | cons a items ih => simp [h, ih]

/-- An IPv6 route: two arrays of bytes and two numbers. -/
def ofRouteV6 (entry : RouteV6Entry) : Value :=
  struct [ofVec u8 entry.1, u32 entry.2.1, ofVec u8 entry.2.2.1, u32 entry.2.2.2]

/-- The IPv6 route, if it is one. -/
def toRouteV6 : Value → Option RouteV6Entry
  | struct [destination, prefixLength, nextHop, metric] => do
    return (← toVec toU8 destination, ← prefixLength.toU32, ← toVec toU8 nextHop, ← metric.toU32)
  | _ => none

/-- An IPv6 route is read back. -/
theorem toRouteV6_ofRouteV6 (entry : RouteV6Entry) : toRouteV6 (ofRouteV6 entry) = some entry := by
  have h : ∀ bytes, toVec toU8 (ofVec u8 bytes) = some bytes := toVec_ofVec fun _ => rfl
  simp [ofRouteV6, toRouteV6, h, toU32]

end Value

/-- The bus of D-Bus values. -/
def dbus : Zvariant Value where
  valStr := .str
  valU32 := .u32
  valI32 := .i32
  valBool := .bool
  valBytes := .ofVec .u8
  valDictArray := .ofVec .dict
  valStrArray := .ofVec .str
  valV4Routes := .ofVec (.ofVec .u32)
  valV6Routes := .ofVec .ofRouteV6
  toStr := Value.toStr
  toU32 := Value.toU32
  toI32 := Value.toI32
  toBool := Value.toBool
  toBytes := Value.toVec Value.toU8
  toDictArray := Value.toVec Value.toDict
  toV4Routes := Value.toVec (Value.toVec Value.toU32)
  toV6Routes := Value.toVec Value.toRouteV6
  elements := Value.elements
  text := Value.toStr
  toStr_valStr := fun _ => rfl
  toU32_valU32 := fun _ => rfl
  toI32_valI32 := fun _ => rfl
  toBool_valBool := fun _ => rfl
  toBytes_valBytes := Value.toVec_ofVec fun _ => rfl
  toDictArray_valDictArray := Value.toVec_ofVec fun _ => rfl
  toV4Routes_valV4Routes := Value.toVec_ofVec (Value.toVec_ofVec fun _ => rfl)
  toV6Routes_valV6Routes := Value.toVec_ofVec Value.toRouteV6_ofRouteV6
  elements_valStrArray := fun _ => rfl
  text_valStr := fun _ => rfl

/-! ### Addresses as texts -/

namespace IpText

/-- The digits of a byte. -/
def decimal (b : UInt8) : List Char := Nat.toDigits 10 b.toNat

/-- A decimal octet without leading zeros. -/
def parseDecimal (part : List Char) : Option UInt8 :=
  let value := part.foldl (fun n c => 10 * n + (c.toNat - 48)) 0
  if value < 256 ∧ decimal (.ofNat value) = part then some (.ofNat value) else none

/-- The two hexadecimal digits of an octet. -/
def hexPair (b : UInt8) : List Char := [b.toNat / 16, b.toNat % 16].map Nat.digitChar

/-- The value of a hexadecimal digit. -/
def hexValue (c : Char) : Option ℕ := (List.range 16).find? fun n => Nat.digitChar n == c

/-- The octets that hexadecimal digits spell. -/
def parseHex : List Char → Option (List UInt8)
  | [] => some []
  | [_] => none
  | c :: d :: rest => do
    let octet := 16 * (← hexValue c) + (← hexValue d)
    return UInt8.ofNat octet :: (← parseHex rest)

/-- The groups of an IPv6 address, each with its four digits. -/
def groups : List UInt8 → List (List Char)
  | a :: b :: rest => (hexPair a ++ hexPair b) :: groups rest
  | _ => []

/-- The two bytes of a group of four digits. -/
def parseGroup (group : List Char) : Option (List UInt8) :=
  if group.length = 4 then parseHex group else none

/-- Dotted octets, or eight full groups. -/
def textOf : IpAddr → List Char
  | .v4 a => ['.'].intercalate (a.octets.toList.map decimal)
  | .v6 a => [':'].intercalate (groups a.octets.toList)

/-- The address of a text: four decimal bytes, or groups of hexadecimal digits. -/
def addressOf (s : List Char) : Option IpAddr :=
  match s.splitOn '.' with
  | [a, b, c, d] => do
    return .v4 (.new (← parseDecimal a) (← parseDecimal b) (← parseDecimal c) (← parseDecimal d))
  | _ => do
    let octets ← (s.splitOn ':').mapM parseGroup
    if h : octets.flatten.length = 16 then some (.v6 (.ofOctets ⟨octets.flatten, h⟩)) else none

/-- A byte is read back from its digits, which have no dot. -/
theorem parseDecimal_decimal (b : UInt8) :
    parseDecimal (decimal b) = some b ∧ '.' ∉ decimal b := by
  have h : ∀ n : Fin 256, parseDecimal (decimal (UInt8.ofFin n)) = some (UInt8.ofFin n) ∧
      '.' ∉ decimal (UInt8.ofFin n) := by decide +kernel
  exact h b.toFin

/-- A hexadecimal digit is read back. -/
theorem hexValue_digitChar {n : ℕ} (h : n < 16) : hexValue n.digitChar = some n := by
  have h : ∀ n : Fin 16, hexValue n.val.digitChar = some n.val := by decide
  exact h ⟨n, ‹_›⟩

/-- A byte is read back from its two digits. -/
theorem parseHex_hexPair_append (b : UInt8) (rest : List Char) :
    parseHex (hexPair b ++ rest) = (parseHex rest).map (b :: ·) := by
  have hb := b.toNat_lt
  have hoctet : 16 * (b.toNat / 16) + b.toNat % 16 = b.toNat := Nat.div_add_mod b.toNat 16
  show parseHex (_ :: _ :: rest) = _
  rw [parseHex, hexValue_digitChar (by omega), hexValue_digitChar (by omega)]
  show (parseHex rest).bind (fun bytes =>
    some (UInt8.ofNat (16 * (b.toNat / 16) + b.toNat % 16) :: bytes)) = _
  rw [hoctet, UInt8.ofNat_toNat]
  cases parseHex rest <;> rfl

theorem not_mem_hexPair (b : UInt8) : '.' ∉ hexPair b ∧ ':' ∉ hexPair b := by
  have h : ∀ n : Fin 256, '.' ∉ hexPair (UInt8.ofFin n) ∧ ':' ∉ hexPair (UInt8.ofFin n) := by
    decide +kernel
  exact h b.toFin

theorem not_mem_groups {c : Char} (h : ∀ b, c ∉ hexPair b) (bytes : List UInt8) :
    ∀ group ∈ groups bytes, c ∉ group := by
  fun_induction groups bytes with
  | case1 a b rest ih =>
      refine List.forall_mem_cons.mpr ⟨?_, ih⟩
      rw [List.mem_append, not_or]
      exact ⟨h a, h b⟩
  | case2 => simp

/-- Bytes are read back from their groups. -/
theorem mapM_parseGroup_groups (bytes : List UInt8) (h : Even bytes.length) :
    ∃ octets, (groups bytes).mapM parseGroup = some octets ∧ octets.flatten = bytes := by
  fun_induction groups bytes with
  | case1 a b rest ih =>
      obtain ⟨octets, hoctets, hflatten⟩ := ih (by simpa [Nat.even_add_one] using h)
      have hgroup : parseGroup (hexPair a ++ hexPair b) = some [a, b] := by
        have hb : parseHex (hexPair b) = some [b] := by
          simpa [parseHex] using parseHex_hexPair_append b []
        rw [parseGroup, if_pos (by rfl), parseHex_hexPair_append, hb]
        rfl
      exact ⟨[a, b] :: octets, by simp [hgroup, hoctets], by simp [hflatten]⟩
  | case2 bytes hne =>
      match bytes with
      | [] => exact ⟨[], rfl, rfl⟩
      | [_] => simp at h
      | a :: b :: rest => exact (hne a b rest rfl).elim

/-- An address is read back from its text. -/
theorem addressOf_textOf (address : IpAddr) : addressOf (textOf address) = some address := by
  cases address with
  | v4 a =>
      obtain ⟨b₀, b₁, b₂, b₃, h⟩ := List.length_eq_four.mp a.octets.toList_length
      have hsplit : (textOf (.v4 a)).splitOn '.' = [b₀, b₁, b₂, b₃].map decimal := by
        rw [textOf, h]
        refine List.splitOn_intercalate '.' ?_ (by simp)
        simp [(parseDecimal_decimal _).2]
      have ha : Ipv4Addr.new b₀ b₁ b₂ b₃ = a := by
        have hoctets : a.octets = ⟨[b₀, b₁, b₂, b₃], rfl⟩ := Subtype.ext h
        rw [← Ipv4Addr.ofOctets_octets a, hoctets]
        rfl
      simp [addressOf, hsplit, (parseDecimal_decimal _).1, ha]
  | v6 a =>
      obtain ⟨octets, hoctets, hflatten⟩ := mapM_parseGroup_groups a.octets.toList (by simp; decide)
      have hne : groups a.octets.toList ≠ [] := by
        intro hnil
        rw [hnil] at hoctets
        cases hoctets
        exact absurd (congrArg List.length hflatten) (by simp)
      have hcolons : (textOf (.v6 a)).splitOn ':' = groups a.octets.toList :=
        List.splitOn_intercalate ':' (not_mem_groups (fun b => (not_mem_hexPair b).2) _) hne
      -- a text of groups has no dot, so it is not taken for an IPv4 address
      have hdots : (textOf (.v6 a)).splitOn '.' = [textOf (.v6 a)] :=
        List.splitOn_eq_singleton (Text.not_mem_intercalate
          (not_mem_groups (fun b => (not_mem_hexPair b).1) _) (by decide))
      have hlength : octets.flatten.length = 16 := by rw [hflatten, List.Vector.toList_length]
      have ha : Ipv6Addr.ofOctets ⟨octets.flatten, hlength⟩ = a :=
        (congrArg _ (Subtype.ext hflatten)).trans (Ipv6Addr.ofOctets_octets a)
      simp only [addressOf, hdots, hcolons, hoctets]
      show (if h : octets.flatten.length = 16 then _ else none) = _
      rw [dif_pos hlength, ha]

end IpText

/-- Texts of addresses. -/
def fullText : IpText where
  display := fun address => String.ofList (IpText.textOf address)
  parse := fun text => IpText.addressOf text.toList
  parse_display := fun address => by rw [String.toList_ofList, IpText.addressOf_textOf]

end NetworkManager
