import NetworkManager.Dbus.RoundTrip

/-!
# Dbus — Manual

What becomes of the prefix, the gateway and the servers of a manual section.

* `Kept`: they are in the profile as the dictionary has them, or there is no profile.
* `Readable`: the prefix is in range, and every text of the section is that of an address.
* `manual_settings_kept_iff`: a dictionary that is decoded is kept exactly if it is readable.
-/

namespace NetworkManager

open Results

section

variable {V : Type} {z : Zvariant V} {ip : IpText} {sec : SettingsSection V} {expectV4 : Bool}
  {config : IpConfig} {dict : SettingsDict V} {p : ConnectionProfile}

/-- `word` is the prefix of the first address of the section. -/
def PrefixOf (z : Zvariant V) (sec : SettingsSection V) (word : UInt32) : Prop :=
  ∃ data first, z.getDictArray sec "address-data" = some data ∧ data.head? = some first ∧
    z.getU32 first "prefix" = some word

/-- The settings of a manual section are those of `config`, and they are in range. -/
structure Kept (z : Zvariant V) (ip : IpText) (sec : SettingsSection V) (expectV4 : Bool)
    (config : IpConfig) : Prop where
  prefixLength : ∀ word, PrefixOf z sec word →
    word.toNat ≤ (maxPrefix expectV4).toNat ∧
      config.prefixLength.map UInt8.toNat = some word.toNat
  gateway : ∀ value, sec.lookup "gateway" = some value →
    ∃ text address, z.toStr value = some text ∧ ip.parse text = some address ∧
      (address.isIpv4 = expectV4 → config.gateway = some address)
  dns : ∀ value, sec.lookup "dns" = some value →
    ∃ texts, z.getStrArray sec "dns" = some texts ∧
      texts.map ip.parse = config.dnsServers.map some
  noDns : sec.lookup "dns" = none → config.dnsServers = []

/-- The prefix of a manual section is in range, and its texts are those of addresses. -/
structure Readable (z : Zvariant V) (ip : IpText) (sec : SettingsSection V) (expectV4 : Bool) :
    Prop where
  prefixLength : ∀ word, PrefixOf z sec word → word.toNat ≤ (maxPrefix expectV4).toNat
  gateway : ∀ value, sec.lookup "gateway" = some value →
    ∃ text address, z.toStr value = some text ∧ ip.parse text = some address
  dns : ∀ value, sec.lookup "dns" = some value →
    ∃ (texts : List String) (addresses : List IpAddr), z.getStrArray sec "dns" = some texts ∧
      texts.map ip.parse = addresses.map some

theorem filterMap_of_map_eq {texts : List String} {addresses : List IpAddr}
    (h : texts.map ip.parse = addresses.map some) : texts.filterMap ip.parse = addresses := by
  calc texts.filterMap ip.parse = (texts.map ip.parse).filterMap id := by
        rw [List.filterMap_map, Function.id_comp]
    _ = (addresses.map some).filterMap id := by rw [h]
    _ = addresses := by rw [List.filterMap_map, Function.id_comp, List.filterMap_some]

/-- What is in a configuration that a manual section is decoded to. -/
theorem manual_of_parseIpConfig (h : parseIpConfig z ip sec expectV4 = .ok config)
    (hmanual : z.getStr sec "method" = some "manual") :
    (∃ word, PrefixOf z sec word ∧ config.prefixLength = some word.toUInt8) ∧
      config.gateway = parseGateway z ip sec ∧ config.dnsServers = parseDns z ip sec := by
  obtain ⟨method, settings, hmethod, hsettings, -, hconfig⟩ := parseIpConfig_eq_ok.mp h
  rw [hmanual, Option.getD_some] at hmethod
  cases hmethod
  obtain ⟨-, address, prefixLength, haddress, rfl⟩ | ⟨hne, -⟩ := parseSettings_eq_ok.mp hsettings
  · obtain ⟨data, first, text, word, hdata, hfirst, -, -, -, hword, rfl⟩ :=
      parseAddress_eq_ok.mp haddress
    rw [hconfig]
    exact ⟨⟨word, ⟨data, first, hdata, hfirst, hword⟩, rfl⟩, rfl, rfl⟩
  · exact (hne rfl).elim

/-- A section has at most one prefix. -/
theorem PrefixOf.unique {word word' : UInt32} (h : PrefixOf z sec word)
    (h' : PrefixOf z sec word') : word = word' := by
  obtain ⟨data, first, hdata, hfirst, hword⟩ := h
  obtain ⟨data', first', hdata', hfirst', hword'⟩ := h'
  rw [hdata] at hdata'
  cases hdata'
  rw [hfirst] at hfirst'
  cases hfirst'
  rw [hword] at hword'
  exact Option.some.inj hword'

/-- A section that is kept was readable. -/
theorem Kept.readable (h : Kept z ip sec expectV4 config) : Readable z ip sec expectV4 where
  prefixLength := fun word hword => (h.prefixLength word hword).1
  gateway := fun value hvalue =>
    have ⟨text, address, htext, haddress, _⟩ := h.gateway value hvalue
    ⟨text, address, htext, haddress⟩
  dns := fun value hvalue =>
    have ⟨texts, htexts, hmap⟩ := h.dns value hvalue
    ⟨texts, _, htexts, hmap⟩

/-- A readable section is kept. -/
theorem kept_of_readable (h : parseIpConfig z ip sec expectV4 = .ok config)
    (hmanual : z.getStr sec "method" = some "manual") (hreadable : Readable z ip sec expectV4) :
    Kept z ip sec expectV4 config := by
  obtain ⟨⟨word, hword, hbits⟩, hgateway, hdns⟩ := manual_of_parseIpConfig h hmanual
  refine ⟨?_, ?_, ?_, ?_⟩
  · intro word' hword'
    obtain rfl := hword.unique hword'
    have hle := hreadable.prefixLength word hword
    refine ⟨hle, ?_⟩
    rw [hbits, Option.map_some, UInt32.toNat_toUInt8, Nat.mod_eq_of_lt]
    exact hle.trans_lt (maxPrefix expectV4).toNat_lt
  · intro value hvalue
    obtain ⟨text, address, htext, haddress⟩ := hreadable.gateway value hvalue
    refine ⟨text, address, htext, haddress, fun _ => ?_⟩
    rw [hgateway, parseGateway, Zvariant.getStr, hvalue, Option.bind_some, htext,
      Option.bind_some, haddress]
  · intro value hvalue
    obtain ⟨texts, addresses, htexts, hmap⟩ := hreadable.dns value hvalue
    refine ⟨texts, htexts, ?_⟩
    rw [hdns, parseDns, htexts, Option.getD_some, filterMap_of_map_eq hmap, hmap]
  · intro hnone
    rw [hdns, parseDns, Zvariant.getStrArray, hnone]
    rfl

/-- The sections of this key that are manual. -/
def ManualSection (z : Zvariant V) (dict : SettingsDict V) (key : String)
    (sec : SettingsSection V) : Prop :=
  dict.lookup key = some sec ∧ z.getStr sec "method" = some "manual"

/-- A manual section is kept exactly if it is readable. -/
theorem kept_iff_readable {key : String} {default : IpConfig}
    (h : parseIpSection z ip dict key expectV4 default = .ok config)
    (hsec : ManualSection z dict key sec) :
    Kept z ip sec expectV4 config ↔ Readable z ip sec expectV4 := by
  rw [parseIpSection, hsec.1] at h
  exact ⟨Kept.readable, kept_of_readable h hsec.2⟩

/-- **Manual settings.**  A dictionary that is decoded is kept exactly if it is readable. -/
theorem manual_settings_kept_iff (z : Zvariant V) (ip : IpText) (dict : SettingsDict V)
    (p : ConnectionProfile) (h : settingsToProfile z ip dict = .ok p) :
    ((∀ sec, ManualSection z dict "ipv4" sec → Kept z ip sec true p.ipv4) ∧
        ∀ sec, ManualSection z dict "ipv6" sec → Kept z ip sec false p.ipv6) ↔
      (∀ sec, ManualSection z dict "ipv4" sec → Readable z ip sec true) ∧
        ∀ sec, ManualSection z dict "ipv6" sec → Readable z ip sec false := by
  obtain ⟨connection, typeName, base, -, -, -, -, hipv4, hipv6, -, -⟩ :=
    settingsToProfile_eq_ok.mp h
  exact and_congr (forall₂_congr fun _ hsec => kept_iff_readable hipv4 hsec)
    (forall₂_congr fun _ hsec => kept_iff_readable hipv6 hsec)

end

/-! ### A prefix that does not fit -/

/-- The manual IPv4 section of `192.168.1.10` with this prefix. -/
def deskSection (prefixLength : UInt32) : SettingsSection Value :=
  [("method", .str "manual"), ("address-data", .array
    [.dict [("address", .str "192.168.1.10"), ("prefix", .u32 prefixLength)]])]

/-- A wired profile with a manual section. -/
def deskDict (prefixLength : UInt32) : SettingsDict Value :=
  [("connection", [("id", .str "desk"), ("type", .str "802-3-ethernet")]),
    ("ipv4", deskSection prefixLength)]

/-- A wired profile with the manual address `192.168.1.10/24`. -/
def manualProfile : ConnectionProfile where
  id := "desk"
  name := "desk"
  connectionType := .ethernet {}
  ipv4 := { method := .manual, address := some (.v4 (.new 192 168 1 10)), prefixLength := some 24 }

theorem prefixOf_deskSection (prefixLength : UInt32) :
    PrefixOf dbus (deskSection prefixLength) prefixLength := ⟨_, _, rfl, rfl, rfl⟩

/-- The section is readable up to a prefix of 32. -/
theorem readable_deskSection {prefixLength : UInt32} (h : prefixLength.toNat ≤ 32) :
    Readable dbus fullText (deskSection prefixLength) true where
  prefixLength := fun word hword => by rwa [hword.unique (prefixOf_deskSection prefixLength)]
  gateway := by rintro value ⟨⟩
  dns := by rintro value ⟨⟩

/-- The section with a prefix of 24 is kept. -/
theorem manual_settings_kept_iff_deskDict :
    Kept dbus fullText (deskSection 24) true manualProfile.ipv4 := by
  refine ((manual_settings_kept_iff dbus fullText (deskDict 24) manualProfile rfl).mpr
    ⟨?_, ?_⟩).1 _ ⟨rfl, rfl⟩
  · rintro sec ⟨⟨⟩, -⟩
    exact readable_deskSection (by decide)
  · rintro sec ⟨⟨⟩, -⟩

/-- The prefix 280 is taken for 24. -/
theorem long_prefix_altered :
    settingsToProfile dbus fullText (deskDict 280) = .ok manualProfile ∧
      ManualSection dbus (deskDict 280) "ipv4" (deskSection 280) ∧
      ¬ Kept dbus fullText (deskSection 280) true manualProfile.ipv4 := by
  refine ⟨rfl, ⟨rfl, rfl⟩, fun h => ?_⟩
  exact absurd (h.prefixLength 280 (prefixOf_deskSection 280)).1 (by decide)

end NetworkManager
