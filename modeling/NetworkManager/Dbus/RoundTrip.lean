import NetworkManager.Dbus.Convert
import NetworkManager.Dbus.Values

/-!
# Dbus — RoundTrip

What survives a profile's way through a settings dictionary and back.

* `Expressible`: the profiles that their dictionary says everything about, but for the routes of
  the other family.
* `expressible_of_settings`: whatever is decoded is expressible.
* `settings_of_expressible`: a valid expressible profile is decoded from its dictionary.
* `settings_normal_form` and `settings_round_trip_iff` follow.
-/

namespace NetworkManager

open Results

/-! ### Routes -/

/-- The longest prefix of a section. -/
def maxPrefix (expectV4 : Bool) : UInt8 := if expectV4 then 32 else 128

/-- A route that its tuple says everything about. -/
structure Route.Expressible (expectV4 : Bool) (r : Route) : Prop where
  family : r.family = sectionFamily expectV4
  destination : r.destination.isIpv4 = expectV4
  prefixLength : r.prefixLength ≤ maxPrefix expectV4
  gateway : ∀ g, r.gateway = some g →
    g.isIpv4 = expectV4 ∧ g ≠ .v4 .unspecified ∧ g ≠ .v6 .unspecified
  outputInterface : r.outputInterface = none
  metric : r.metric ≠ some 0
  kind : r.kind = .unicast
  scope : r.scope = if r.prefixLength = 0 then .universe else .link

theorem toUInt8_le {n : UInt32} {m : UInt8} (h : n ≤ m.toUInt32) : n.toUInt8 ≤ m := by
  rw [UInt32.le_iff_toNat_le, UInt8.toNat_toUInt32] at h
  rw [UInt8.le_iff_toNat_le, UInt32.toNat_toUInt8]
  exact (Nat.mod_le _ _).trans h

theorem not_lt_toUInt32 {n m : UInt8} (h : n ≤ m) : ¬ m.toUInt32 < n.toUInt32 := by
  rw [UInt32.lt_iff_toNat_lt, UInt8.toNat_toUInt32, UInt8.toNat_toUInt32, not_lt]
  exact UInt8.le_iff_toNat_le.mp h

theorem toUInt8_eq_zero {n : UInt32} {m : UInt8} (h : n ≤ m.toUInt32) :
    n.toUInt8 = 0 ↔ n = 0 := by
  rw [UInt32.le_iff_toNat_le, UInt8.toNat_toUInt32] at h
  have hm := m.toNat_lt
  rw [← UInt8.toNat_inj, ← UInt32.toNat_inj, UInt32.toNat_toUInt8,
    Nat.mod_eq_of_lt (by omega)]
  rfl

/-- The scope goes by the prefix that is stored. -/
theorem scopeOf_eq {n : UInt32} {m : UInt8} (h : n ≤ m.toUInt32) :
    scopeOf n = if n.toUInt8 = 0 then .universe else .link := by
  simp only [scopeOf, toUInt8_eq_zero h]

theorem scopeOf_toUInt32 (n : UInt8) : scopeOf n.toUInt32 = if n = 0 then .universe else .link := by
  rw [scopeOf_eq (UInt32.le_refl _), UInt8.toUInt8_toUInt32]

/-- A metric of 0 is none. -/
theorem routeMetric_ne (metric : UInt32) : routeMetric metric ≠ some 0 := by
  rw [routeMetric]
  split
  · next h => exact fun h' => h (Option.some.inj h')
  · simp

/-- A metric other than 0 is read back. -/
theorem routeMetric_getD {metric : Option UInt32} (h : metric ≠ some 0) :
    routeMetric (metric.getD 0) = metric := by
  cases metric with
  | none => rfl
  | some metric => exact if_pos fun h' => h (congrArg some h')

/-- A gateway that is specified is an IPv6 address, and not the unspecified one. -/
theorem specifiedGateway_eq_some {gateway : Ipv6Addr} {g : IpAddr}
    (h : specifiedGateway gateway = some g) :
    g.isIpv4 = false ∧ g ≠ .v4 .unspecified ∧ g ≠ .v6 .unspecified := by
  rw [specifiedGateway] at h
  split at h
  · next hne =>
      cases h
      exact ⟨rfl, by simp, fun h => hne (IpAddr.v6.inj h)⟩
  · cases h

/-- Every IPv4 entry that parses makes an expressible route. -/
theorem expressible_of_parseRouteV4 {entry : List UInt32} {r : Route}
    (h : parseRouteV4 entry = .ok r) : r.Expressible true := by
  unfold parseRouteV4 at h
  split at h
  · next destination prefixLength nextHop metric =>
      split at h
      · cases h
      · next hbits =>
          cases h
          have hle : prefixLength ≤ (32 : UInt8).toUInt32 := UInt32.not_lt.mp hbits
          refine ⟨rfl, rfl, toUInt8_le hle, ?_, rfl, routeMetric_ne metric, rfl, scopeOf_eq hle⟩
          rintro g hg
          split at hg
          · next hnext =>
              cases hg
              refine ⟨rfl, fun h => hnext ?_, by simp⟩
              rw [← Ipv4Addr.toLeBytes_ofLeBytes nextHop, Ipv4Addr.toLeBytes_eq_zero]
              exact IpAddr.v4.inj h
          · cases hg
  · cases h

/-- Every IPv6 entry that parses makes an expressible route. -/
theorem expressible_of_parseRouteV6 {entry : RouteV6Entry} {r : Route}
    (h : parseRouteV6 entry = .ok r) : r.Expressible false := by
  obtain ⟨destination, prefixLength, nextHop, metric⟩ := entry
  rw [parseRouteV6] at h
  split at h
  · split at h
    · cases h
    · next hbits =>
        cases h
        have hle : prefixLength ≤ (128 : UInt8).toUInt32 := UInt32.not_lt.mp hbits
        exact ⟨rfl, rfl, toUInt8_le hle, fun g hg => specifiedGateway_eq_some hg, rfl,
          routeMetric_ne metric, rfl, scopeOf_eq hle⟩
  · cases h

/-- An expressible IPv4 route is read back from its entry. -/
theorem parseRouteV4_routeV4Entry {r : Route} (h : r.Expressible true) :
    parseRouteV4 (routeV4Entry r) = .ok r := by
  obtain ⟨family, destination, prefixLength, gateway, outputInterface, metric, kind, scope⟩ := r
  obtain ⟨hfamily, hdestination, hbits, hgateway, hinterface, hmetric, hkind, hscope⟩ := h
  dsimp only at hfamily hdestination hbits hgateway hinterface hmetric hkind hscope
  subst hfamily hinterface hkind
  have hle : ¬ prefixLength.toUInt32 > 32 := not_lt_toUInt32 hbits
  have hnext : (if ((gateway.bind IpAddr.toV4).getD .unspecified).toLeBytes ≠ 0 then
      some (IpAddr.v4 ((gateway.bind IpAddr.toV4).getD .unspecified)) else none) = gateway := by
    cases gateway with
    | none => rfl
    | some g =>
        obtain ⟨hv4, hzero, -⟩ := hgateway g rfl
        cases g with
        | v4 g => exact if_pos fun h => hzero (congrArg _ (Ipv4Addr.toLeBytes_eq_zero.mp h))
        | v6 g => cases hv4
  cases destination with
  | v6 destination => cases hdestination
  | v4 destination =>
      simp only [parseRouteV4, routeV4Entry, if_neg hle, Ipv4Addr.ofLeBytes_toLeBytes, hnext,
        routeMetric_getD hmetric, scopeOf_toUInt32, ← hscope, UInt8.toUInt8_toUInt32, IpAddr.toV4,
        Option.getD_some]
      rfl

/-- An expressible IPv6 route is read back from its entry. -/
theorem parseRouteV6_routeV6Entry {r : Route} (h : r.Expressible false) :
    parseRouteV6 (routeV6Entry r) = .ok r := by
  obtain ⟨family, destination, prefixLength, gateway, outputInterface, metric, kind, scope⟩ := r
  obtain ⟨hfamily, hdestination, hbits, hgateway, hinterface, hmetric, hkind, hscope⟩ := h
  dsimp only at hfamily hdestination hbits hgateway hinterface hmetric hkind hscope
  subst hfamily hinterface hkind
  have hle : ¬ prefixLength.toUInt32 > 128 := not_lt_toUInt32 hbits
  have hnext : specifiedGateway ((gateway.bind IpAddr.toV6).getD .unspecified) = gateway := by
    cases gateway with
    | none => rfl
    | some g =>
        obtain ⟨hv6, -, hzero⟩ := hgateway g rfl
        cases g with
        | v4 g => cases hv6
        | v6 g => exact if_pos fun h => hzero (congrArg _ h)
  have hoctets : ∀ (a : Ipv6Addr) (h : a.octets.toList.length = 16),
      Ipv6Addr.ofOctets ⟨a.octets.toList, h⟩ = a := fun a _ => Ipv6Addr.ofOctets_octets a
  cases destination with
  | v4 destination => cases hdestination
  | v6 destination =>
      simp only [parseRouteV6, routeV6Entry, if_neg hle, hoctets, hnext, routeMetric_getD hmetric,
        scopeOf_toUInt32, ← hscope, UInt8.toUInt8_toUInt32, IpAddr.toV6, Option.getD_some,
        List.Vector.toList_length, and_self, dite_true]
      rfl

/-! ### Sections -/

section

variable {V : Type} {z : Zvariant V} {ip : IpText} {sec : SettingsSection V} {expectV4 : Bool}
  {config : IpConfig}

/-- A section that its dictionary says everything about, but for the routes of the other family. -/
structure IpConfig.Expressible (expectV4 : Bool) (config : IpConfig) : Prop where
  settings : config.method ≠ .manual →
    config.address = none ∧ config.prefixLength = none ∧ config.gateway = none ∧
      config.dnsServers = []
  routes : ∀ r ∈ config.ownRoutes expectV4, r.Expressible expectV4

/-- The routes of a section are expressible. -/
theorem expressible_of_parseRoutes {routes : List Route}
    (h : parseRoutes z sec expectV4 = .ok routes) : ∀ r ∈ routes, r.Expressible expectV4 := by
  rw [parseRoutes] at h
  split at h
  · cases h
    simp
  · next value hvalue =>
      cases expectV4 with
      | true =>
          obtain ⟨entries, -, h⟩ := bind_eq_ok.mp h
          exact forall_of_mapM h fun _ _ => expressible_of_parseRouteV4
      | false =>
          obtain ⟨entries, -, h⟩ := bind_eq_ok.mp h
          exact forall_of_mapM h fun _ _ => expressible_of_parseRouteV6

/-- A manual section is read in parts; the others have a method only. -/
theorem parseSettings_eq_ok {method : IpMethod} :
    parseSettings z ip sec expectV4 method = .ok config ↔
      (method = .manual ∧ ∃ address prefixLength,
          parseAddress z ip sec expectV4 = .ok (address, prefixLength) ∧
          config = ⟨method, some address, some prefixLength, parseGateway z ip sec,
            parseDns z ip sec, []⟩) ∨
        (method ≠ .manual ∧ config = { method }) := by
  rw [parseSettings]
  split
  · next hmanual =>
      constructor
      · intro h
        obtain ⟨⟨address, prefixLength⟩, haddress, h⟩ := bind_eq_ok.mp h
        cases h
        exact .inl ⟨hmanual, address, prefixLength, haddress, rfl⟩
      · rintro (⟨-, address, prefixLength, haddress, rfl⟩ | ⟨hne, -⟩)
        · exact bind_eq_ok.mpr ⟨_, haddress, rfl⟩
        · exact (hne hmanual).elim
  · next hmanual =>
      constructor
      · rintro ⟨⟩
        exact .inr ⟨hmanual, rfl⟩
      · rintro (⟨heq, -⟩ | ⟨-, rfl⟩)
        · exact (hmanual heq).elim
        · rfl

/-- When a section is decoded, and to what. -/
theorem parseIpConfig_eq_ok : parseIpConfig z ip sec expectV4 = .ok config ↔
    ∃ method settings, parseMethod ((z.getStr sec "method").getD "auto") = .ok method ∧
      parseSettings z ip sec expectV4 method = .ok settings ∧
      parseRoutes z sec expectV4 = .ok config.routes ∧
      config = { settings with routes := config.routes } := by
  rw [parseIpConfig]
  constructor
  · intro h
    obtain ⟨method, hmethod, h⟩ := bind_eq_ok.mp h
    obtain ⟨settings, hsettings, h⟩ := bind_eq_ok.mp h
    obtain ⟨routes, hroutes, h⟩ := bind_eq_ok.mp h
    cases h
    exact ⟨method, settings, hmethod, hsettings, hroutes, rfl⟩
  · rintro ⟨method, settings, hmethod, hsettings, hroutes, hconfig⟩
    refine bind_eq_ok.mpr ⟨method, hmethod, bind_eq_ok.mpr ⟨settings, hsettings,
      bind_eq_ok.mpr ⟨config.routes, hroutes, ?_⟩⟩⟩
    rw [← hconfig]
    rfl

/-- The routes of a section that was parsed are of its family. -/
theorem ownRoutes_of_parseIpConfig (h : parseIpConfig z ip sec expectV4 = .ok config) :
    config.ownRoutes expectV4 = config.routes := by
  obtain ⟨method, settings, -, -, hroutes, -⟩ := parseIpConfig_eq_ok.mp h
  exact List.filter_eq_self.mpr fun r hr =>
    decide_eq_true (expressible_of_parseRoutes hroutes r hr).family

/-- A section that was parsed is expressible. -/
theorem expressible_of_parseIpConfig (h : parseIpConfig z ip sec expectV4 = .ok config) :
    config.Expressible expectV4 := by
  obtain ⟨method, settings, -, hsettings, hroutes, hconfig⟩ := parseIpConfig_eq_ok.mp h
  constructor
  · rw [hconfig]
    obtain ⟨hmanual, address, prefixLength, -, rfl⟩ | ⟨-, rfl⟩ := parseSettings_eq_ok.mp hsettings
    · exact fun hmethod => (hmethod hmanual).elim
    · exact fun _ => ⟨rfl, rfl, rfl, rfl⟩
  · rw [ownRoutes_of_parseIpConfig h]
    exact expressible_of_parseRoutes hroutes

/-! ### The section of a configuration -/

/-- A method is read back from its name. -/
theorem parseMethod_methodString (method : IpMethod) :
    parseMethod (methodString method) = .ok method := by
  cases method <;> rfl

@[simp] theorem lookup_manualSection_of_ne {key : String} (h : key ≠ "address-data")
    (h' : key ≠ "gateway") (h'' : key ≠ "dns") :
    (manualSection z ip config).lookup key = none := by
  simp [manualSection, List.lookup_append, h, h', h'']

/-- The routes of the section's own family are read back. -/
theorem parseRoutes_ipConfigSection (h : config.Expressible expectV4) :
    parseRoutes z (ipConfigSection z ip config expectV4) expectV4 =
      .ok (config.ownRoutes expectV4) := by
  have hlookup : (ipConfigSection z ip config expectV4).lookup "routes" =
      if config.routes = [] then none else some (routesValue z config expectV4) := by
    by_cases hmanual : config.method = .manual <;>
      simp [ipConfigSection, List.lookup_append, hmanual]
  rw [parseRoutes, hlookup]
  by_cases hroutes : config.routes = []
  · rw [if_pos hroutes, IpConfig.ownRoutes, hroutes]
    rfl
  · rw [if_neg hroutes]
    cases expectV4 with
    | true =>
        refine bind_eq_ok.mpr ⟨_, okOr_eq_ok.mpr (z.toV4Routes_valV4Routes _), ?_⟩
        exact mapM_map_of_forall fun r hr => parseRouteV4_routeV4Entry (h.routes r hr)
    | false =>
        refine bind_eq_ok.mpr ⟨_, okOr_eq_ok.mpr (z.toV6Routes_valV6Routes _), ?_⟩
        exact mapM_map_of_forall fun r hr => parseRouteV6_routeV6Entry (h.routes r hr)

/-- When an address is decoded, and to what. -/
theorem parseAddress_eq_ok {address : IpAddr} {prefixLength : UInt8} :
    parseAddress z ip sec expectV4 = .ok (address, prefixLength) ↔
      ∃ data first text word, z.getDictArray sec "address-data" = some data ∧
        data.head? = some first ∧ z.getStr first "address" = some text ∧
        ip.parse text = some address ∧ address.isIpv4 = expectV4 ∧
        z.getU32 first "prefix" = some word ∧ prefixLength = word.toUInt8 := by
  rw [parseAddress]
  constructor
  · intro h
    obtain ⟨data, hdata, h⟩ := bind_eq_ok.mp h
    obtain ⟨first, hfirst, h⟩ := bind_eq_ok.mp h
    obtain ⟨text, htext, h⟩ := bind_eq_ok.mp h
    obtain ⟨address', haddress, h⟩ := bind_eq_ok.mp h
    dsimp only at h
    rw [guard_eq_ok, not_not] at h
    obtain ⟨hfamily, h⟩ := h
    obtain ⟨word, hword, h⟩ := bind_eq_ok.mp h
    cases h
    exact ⟨data, first, text, word, okOr_eq_ok.mp hdata, okOr_eq_ok.mp hfirst,
      okOr_eq_ok.mp htext, okOr_eq_ok.mp haddress, hfamily, okOr_eq_ok.mp hword, rfl⟩
  · rintro ⟨data, first, text, word, hdata, hfirst, htext, haddress, hfamily, hword, rfl⟩
    refine bind_eq_ok.mpr ⟨data, okOr_eq_ok.mpr hdata, bind_eq_ok.mpr ⟨first,
      okOr_eq_ok.mpr hfirst, bind_eq_ok.mpr ⟨text, okOr_eq_ok.mpr htext, bind_eq_ok.mpr
      ⟨address, okOr_eq_ok.mpr haddress, ?_⟩⟩⟩⟩
    dsimp only
    rw [guard_eq_ok, not_not]
    exact ⟨hfamily, bind_eq_ok.mpr ⟨word, okOr_eq_ok.mpr hword, rfl⟩⟩

/-- Addresses are read back from their texts. -/
theorem filterMap_parse_display (addresses : List IpAddr) :
    (addresses.map ip.display).filterMap ip.parse = addresses := by
  induction addresses with
  | nil => rfl
  | cons address addresses ih => rw [List.map_cons, List.filterMap_cons, ip.parse_display, ih]

/-- The gateway of a manual section is read back. -/
theorem parseGateway_ipConfigSection (hmanual : config.method = .manual) :
    parseGateway z ip (ipConfigSection z ip config expectV4) = config.gateway := by
  cases hgateway : config.gateway <;>
    simp [parseGateway, Zvariant.getStr, ipConfigSection, manualSection, List.lookup_append,
      hmanual, hgateway]

/-- The DNS servers of a manual section are read back. -/
theorem parseDns_ipConfigSection (hmanual : config.method = .manual) :
    parseDns z ip (ipConfigSection z ip config expectV4) = config.dnsServers := by
  have hlookup : (ipConfigSection z ip config expectV4).lookup "dns" =
      if config.dnsServers = [] then none
      else some (z.valStrArray (config.dnsServers.map ip.display)) := by
    simp [ipConfigSection, manualSection, List.lookup_append, hmanual]
  rw [parseDns, Zvariant.getStrArray, hlookup]
  by_cases hdns : config.dnsServers = []
  · rw [if_pos hdns, hdns]
    rfl
  · rw [if_neg hdns, Option.bind_some, z.elements_valStrArray, Option.bind_some,
      z.mapM_text_map_valStr, Option.getD_some, filterMap_parse_display]

/-- The address of a manual section is read back. -/
theorem parseAddress_ipConfigSection {address : IpAddr} {prefixLength : UInt8}
    (hmanual : config.method = .manual) (haddress : config.address = some address)
    (hfamily : address.isIpv4 = expectV4) (hbits : config.prefixLength = some prefixLength) :
    parseAddress z ip (ipConfigSection z ip config expectV4) expectV4 =
      .ok (address, prefixLength) := by
  have hlookup : (ipConfigSection z ip config expectV4).lookup "address-data" =
      some (z.valDictArray [[("address", z.valStr (ip.display address)),
        ("prefix", z.valU32 prefixLength.toUInt32)]]) := by
    simp [ipConfigSection, manualSection, hmanual, haddress, hbits, SettingsSection.optional]
  refine parseAddress_eq_ok.mpr ⟨[[("address", z.valStr (ip.display address)),
    ("prefix", z.valU32 prefixLength.toUInt32)]], _, ip.display address, prefixLength.toUInt32, ?_,
    rfl, ?_, ip.parse_display address, hfamily, ?_, UInt8.toUInt8_toUInt32 prefixLength |>.symm⟩
  · rw [Zvariant.getDictArray, hlookup, Option.bind_some, z.toDictArray_valDictArray]
  · simp [Zvariant.getStr]
  · simp [Zvariant.getU32]

/-- A valid, expressible section is read back, its routes apart. -/
theorem parseSettings_ipConfigSection (h : config.Expressible expectV4)
    (hvalid : ConnectionProfile.validateIpConfig config expectV4 = .ok ()) :
    parseSettings z ip (ipConfigSection z ip config expectV4) expectV4 config.method =
      .ok { config with routes := [] } := by
  rw [parseSettings_eq_ok]
  by_cases hmanual : config.method = .manual
  · obtain ⟨address, prefixLength, haddress, hfamily, hbits, -⟩ :=
      ConnectionProfile.validateIpConfig_eq_ok.mp hvalid hmanual
    refine .inl ⟨hmanual, address, prefixLength,
      parseAddress_ipConfigSection hmanual haddress hfamily hbits, ?_⟩
    rw [parseGateway_ipConfigSection hmanual, parseDns_ipConfigSection hmanual, haddress, hbits]
  · obtain ⟨haddress, hbits, hgateway, hdns⟩ := h.settings hmanual
    refine .inr ⟨hmanual, ?_⟩
    rw [haddress, hbits, hgateway, hdns]

/-- A valid expressible section is decoded from its dictionary. -/
theorem parseIpConfig_ipConfigSection (h : config.Expressible expectV4)
    (hvalid : ConnectionProfile.validateIpConfig config expectV4 = .ok ()) :
    parseIpConfig z ip (ipConfigSection z ip config expectV4) expectV4 =
      .ok { config with routes := config.ownRoutes expectV4 } := by
  refine parseIpConfig_eq_ok.mpr ⟨config.method, { config with routes := [] }, ?_,
    parseSettings_ipConfigSection h hvalid, parseRoutes_ipConfigSection h, rfl⟩
  simp [Zvariant.getStr, ipConfigSection, parseMethod_methodString]

/-! ### Profiles -/

/-- The security settings that a key management mode stands for. -/
def canonicalSecurity : KeyManagement → WifiSecurity
  | .open => .openNetwork
  | .wpaPsk => .psk (.keyring "nmd/wifi-psk")
  | .wpaEap => .enterprise "nmd-enterprise"
  | .sae => .sae (.keyring "nmd/wifi-sae")
  | .owe => .owe

/-- The dictionary of the type says all of it: no hardware address, no hidden network, the
placeholders for secrets, and nothing of a wired network. -/
def ConnectionType.Expressible : ConnectionType → Prop
  | .wifi settings => settings.bssid = none ∧ settings.hidden = false ∧
      settings.security = canonicalSecurity settings.security.keyManagement
  | .ethernet settings => settings = {}

/-- A profile that its dictionary says everything about, but for the routes of the other family
in each section. -/
structure ConnectionProfile.Expressible (p : ConnectionProfile) : Prop where
  name : p.name = p.id
  connectionType : p.connectionType.Expressible
  macAddress : p.deviceMatch.macAddress = none
  enabled : p.enabled = true
  ipv4 : p.ipv4.Expressible true
  ipv6 : p.ipv6.Expressible false

variable {dict : SettingsDict V} {p : ConnectionProfile}

/-- The security of a method of key management is read back as its placeholder. -/
theorem parseKeyManagement_keyManagementString (keyManagement : KeyManagement) :
    parseKeyManagement (keyManagementString keyManagement) =
      .ok (canonicalSecurity keyManagement) := by
  cases keyManagement <;> rfl

/-- The security that is parsed is a placeholder. -/
theorem canonical_of_parseKeyManagement {value : String} {security : WifiSecurity}
    (h : parseKeyManagement value = .ok security) :
    security = canonicalSecurity security.keyManagement := by
  unfold parseKeyManagement at h
  split at h <;> cases h <;> rfl

/-- The type of a profile that was parsed is expressible. -/
theorem typedProfile_eq_ok {typeName id name : String} {base : ConnectionProfile}
    (h : typedProfile z dict typeName id name = .ok base) :
    ∃ connectionType : ConnectionType, connectionType.Expressible ∧
      base = { id, name, connectionType } := by
  unfold typedProfile at h
  split at h
  · obtain ⟨wifi, -, h⟩ := bind_eq_ok.mp h
    obtain ⟨bytes, -, h⟩ := bind_eq_ok.mp h
    obtain ⟨ssid, -, h⟩ := bind_eq_ok.mp h
    obtain ⟨security, hsecurity, h⟩ := bind_eq_ok.mp h
    rw [mapError_eq_ok, ConnectionProfile.wifi, seq_eq_ok] at h
    obtain ⟨-, h⟩ := h
    cases h
    exact ⟨.wifi { ssid, security }, ⟨rfl, rfl, canonical_of_parseKeyManagement hsecurity⟩, rfl⟩
  · rw [mapError_eq_ok, ConnectionProfile.ethernet, seq_eq_ok] at h
    obtain ⟨-, h⟩ := h
    cases h
    exact ⟨.ethernet {}, rfl, rfl⟩
  · cases h

/-- When a dictionary is decoded, and to what. -/
theorem settingsToProfile_eq_ok : settingsToProfile z ip dict = .ok p ↔
    ∃ connection typeName base, dict.lookup "connection" = some connection ∧
      z.getStr connection "id" = some p.id ∧ z.getStr connection "type" = some typeName ∧
      typedProfile z dict typeName p.id p.id = .ok base ∧
      parseIpSection z ip dict "ipv4" true base.ipv4 = .ok p.ipv4 ∧
      parseIpSection z ip dict "ipv6" false base.ipv6 = .ok p.ipv6 ∧
      p = { base with
        deviceMatch := { base.deviceMatch with
          interfaceName := (z.getStr connection "interface-name").or
            base.deviceMatch.interfaceName }
        autoconnect := (z.getBool connection "autoconnect").getD base.autoconnect
        priority := (z.getI32 connection "priority").getD base.priority
        ipv4 := p.ipv4, ipv6 := p.ipv6 } ∧
      p.validate = .ok () := by
  rw [settingsToProfile]
  constructor
  · intro h
    obtain ⟨connection, hconnection, h⟩ := bind_eq_ok.mp h
    obtain ⟨id, hid, h⟩ := bind_eq_ok.mp h
    have hid' := okOr_eq_ok.mp hid
    dsimp only at h
    rw [hid', Option.getD_some] at h
    obtain ⟨typeName, htype, h⟩ := bind_eq_ok.mp h
    obtain ⟨base, hbase, h⟩ := bind_eq_ok.mp h
    obtain ⟨ipv4, hipv4, h⟩ := bind_eq_ok.mp h
    obtain ⟨ipv6, hipv6, h⟩ := bind_eq_ok.mp h
    rw [seq_eq_ok, mapError_eq_ok] at h
    obtain ⟨hvalid, h⟩ := h
    obtain ⟨connectionType, -, rfl⟩ := typedProfile_eq_ok hbase
    cases h
    exact ⟨connection, typeName, _, okOr_eq_ok.mp hconnection, hid', okOr_eq_ok.mp htype, hbase,
      hipv4, hipv6, rfl, hvalid⟩
  · rintro ⟨connection, typeName, base, hconnection, hid, htype, hbase, hipv4, hipv6, hp, hvalid⟩
    refine bind_eq_ok.mpr ⟨connection, okOr_eq_ok.mpr hconnection, bind_eq_ok.mpr ⟨p.id,
      okOr_eq_ok.mpr hid, bind_eq_ok.mpr ⟨typeName, okOr_eq_ok.mpr htype, bind_eq_ok.mpr ⟨base,
      ?_, bind_eq_ok.mpr ⟨p.ipv4, hipv4, bind_eq_ok.mpr ⟨p.ipv6, hipv6, ?_⟩⟩⟩⟩⟩⟩
    · rw [hid, Option.getD_some, hbase]
    · rw [← hp, seq_eq_ok, mapError_eq_ok]
      exact ⟨hvalid, rfl⟩

/-- The profile with the routes of the other family left out of each section. -/
def ConnectionProfile.ownRoutes (p : ConnectionProfile) : ConnectionProfile :=
  { p with
    ipv4 := { p.ipv4 with routes := p.ipv4.ownRoutes true }
    ipv6 := { p.ipv6 with routes := p.ipv6.ownRoutes false } }

/-- Dropping the routes of the other family once is enough. -/
theorem IpConfig.ownRoutes_ownRoutes (config : IpConfig) (expectV4 : Bool) :
    ({ config with routes := config.ownRoutes expectV4 } : IpConfig).ownRoutes expectV4 =
      config.ownRoutes expectV4 := by
  simp [ownRoutes, List.filter_filter]

/-- The routes of the other family do not count. -/
theorem IpConfig.expressible_ownRoutes :
    ({ config with routes := config.ownRoutes expectV4 } : IpConfig).Expressible expectV4 ↔
      config.Expressible expectV4 := by
  constructor
  -- what is said of the routes is said of those of the own family only
  · rintro ⟨hsettings, hroutes⟩
    rw [ownRoutes_ownRoutes] at hroutes
    exact ⟨hsettings, hroutes⟩
  · rintro ⟨hsettings, hroutes⟩
    refine ⟨hsettings, ?_⟩
    rw [ownRoutes_ownRoutes]
    exact hroutes

/-- Only the routes of its own families make a profile expressible. -/
theorem ConnectionProfile.expressible_ownRoutes : p.ownRoutes.Expressible ↔ p.Expressible := by
  constructor
  · rintro ⟨hname, htype, hmac, henabled, hipv4, hipv6⟩
    exact ⟨hname, htype, hmac, henabled, IpConfig.expressible_ownRoutes.mp hipv4,
      IpConfig.expressible_ownRoutes.mp hipv6⟩
  · rintro ⟨hname, htype, hmac, henabled, hipv4, hipv6⟩
    exact ⟨hname, htype, hmac, henabled, IpConfig.expressible_ownRoutes.mpr hipv4,
      IpConfig.expressible_ownRoutes.mpr hipv6⟩

/-- A section that is not there is the default one. -/
theorem parseIpSection_eq_ok {key : String} (h : parseIpSection z ip dict key expectV4 {} =
    .ok config) : config = {} ∨ ∃ sec, dict.lookup key = some sec ∧
      parseIpConfig z ip sec expectV4 = .ok config := by
  rw [parseIpSection] at h
  split at h
  · next sec hsec => exact .inr ⟨sec, hsec, h⟩
  · cases h
    exact .inl rfl

/-- A section that was parsed is expressible, and its routes are of its family. -/
theorem expressible_of_parseIpSection {key : String}
    (h : parseIpSection z ip dict key expectV4 {} = .ok config) :
    config.Expressible expectV4 ∧ config.ownRoutes expectV4 = config.routes := by
  obtain rfl | ⟨sec, -, hsec⟩ := parseIpSection_eq_ok h
  · exact ⟨⟨fun _ => ⟨rfl, rfl, rfl, rfl⟩, by simp [IpConfig.ownRoutes]⟩, rfl⟩
  · exact ⟨expressible_of_parseIpConfig hsec, ownRoutes_of_parseIpConfig hsec⟩

/-- Whatever is decoded is expressible, and has no routes of the other family. -/
theorem expressible_of_settings (h : settingsToProfile z ip dict = .ok p) :
    p.Expressible ∧ p.ownRoutes = p ∧ p.validate = .ok () := by
  obtain ⟨connection, typeName, base, -, -, -, hbase, hipv4, hipv6, hp, hvalid⟩ :=
    settingsToProfile_eq_ok.mp h
  obtain ⟨connectionType, hconnectionType, rfl⟩ := typedProfile_eq_ok hbase
  obtain ⟨hexpressible4, hown4⟩ := expressible_of_parseIpSection hipv4
  obtain ⟨hexpressible6, hown6⟩ := expressible_of_parseIpSection hipv6
  refine ⟨⟨?_, ?_, ?_, ?_, hexpressible4, hexpressible6⟩, ?_, hvalid⟩
  · rw [hp]
  · rw [hp]
    exact hconnectionType
  · rw [hp]
  · rw [hp]
  · rw [ConnectionProfile.ownRoutes, hown4, hown6]

/-- A valid SSID is read back from its bytes. -/
theorem fromBytes_of_validate {settings : WifiSettings}
    (h : ConnectionProfile.validateConnectionType (.wifi settings) = .ok ()) :
    Ssid.fromBytes settings.ssid.bytes = some settings.ssid := by
  rw [ConnectionProfile.validateConnectionType] at h
  split at h
  · cases h
  · split at h
    · cases h
    · next hlength => exact if_pos (Nat.le_of_not_lt hlength)

/-- The key management mode is told by the security section, or by its absence. -/
theorem parseKeyManagement_profileToSettings (z : Zvariant V) (ip : IpText)
    {settings : WifiSettings} (h : p.connectionType = .wifi settings) :
    parseKeyManagement ((((profileToSettings z ip p).lookup "802-11-wireless-security").bind
      fun security => z.getStr security "key-mgmt").getD "none") =
        .ok (canonicalSecurity settings.security.keyManagement) := by
  -- an open network has no security section
  by_cases hopen : settings.security.keyManagement = .open
  · simp [profileToSettings, typeSections, h, hopen]
    rfl
  · simp [profileToSettings, typeSections, securitySection, h, hopen, Zvariant.getStr,
      List.lookup_append, parseKeyManagement_keyManagementString]

/-- The type of an expressible profile is read back. -/
theorem typedProfile_profileToSettings (h : p.Expressible) (hvalid : p.validate = .ok ()) :
    typedProfile z (profileToSettings z ip p) (connectionTypeString p) p.id p.id =
      .ok { id := p.id, name := p.id, connectionType := p.connectionType } := by
  obtain ⟨hid, -, htype, -, -⟩ := ConnectionProfile.validate_eq_ok.mp hvalid
  have hdefault : ({ id := p.id, name := p.id, connectionType := p.connectionType } :
      ConnectionProfile).validate = .ok () :=
    ConnectionProfile.validate_eq_ok.mpr ⟨hid, hid.1, htype, rfl, rfl⟩
  have hexpressible := h.connectionType
  cases hp : p.connectionType with
  | ethernet settings =>
      rw [hp] at hexpressible hdefault
      obtain rfl : settings = {} := hexpressible
      rw [connectionTypeString, hp]
      show (ConnectionProfile.ethernet p.id p.id).mapError _ = _
      rw [mapError_eq_ok, ConnectionProfile.ethernet, seq_eq_ok]
      exact ⟨hdefault, rfl⟩
  | wifi settings =>
      have hkey := parseKeyManagement_profileToSettings z ip hp
      rw [hp] at hexpressible hdefault htype
      obtain ⟨ssid, bssid, hidden, security⟩ := settings
      obtain ⟨hbssid, hhidden, hsecurity⟩ := hexpressible
      dsimp only at hbssid hhidden hsecurity
      subst hbssid hhidden
      rw [connectionTypeString, hp]
      refine bind_eq_ok.mpr ⟨wifiSection z { ssid, security }, okOr_eq_ok.mpr ?_,
        bind_eq_ok.mpr ⟨ssid.bytes, okOr_eq_ok.mpr ?_, bind_eq_ok.mpr ⟨ssid,
        okOr_eq_ok.mpr (fromBytes_of_validate htype), bind_eq_ok.mpr ⟨_, hkey, ?_⟩⟩⟩⟩
      · simp [profileToSettings, typeSections, hp]
      · simp [Zvariant.getBytes, wifiSection]
      · rw [← hsecurity, mapError_eq_ok, ConnectionProfile.wifi, seq_eq_ok]
        exact ⟨hdefault, rfl⟩

/-- Both IP sections of a profile are in its dictionary. -/
theorem lookup_ip_profileToSettings :
    (profileToSettings z ip p).lookup "ipv4" = some (ipConfigSection z ip p.ipv4 true) ∧
      (profileToSettings z ip p).lookup "ipv6" = some (ipConfigSection z ip p.ipv6 false) := by
  cases h : p.connectionType <;> simp [profileToSettings, typeSections, h, List.lookup_append]

/-- A valid expressible profile is decoded from its dictionary. -/
theorem settings_of_expressible (h : p.Expressible) (hvalid : p.validate = .ok ()) :
    settingsToProfile z ip (profileToSettings z ip p) = .ok p.ownRoutes := by
  obtain ⟨hid, hname, htype, hipv4, hipv6⟩ := ConnectionProfile.validate_eq_ok.mp hvalid
  obtain ⟨hlookup4, hlookup6⟩ := lookup_ip_profileToSettings (p := p) (z := z)
  refine settingsToProfile_eq_ok.mpr ⟨connectionSection z p, connectionTypeString p, _, rfl, ?_, ?_,
    typedProfile_profileToSettings h hvalid, ?_, ?_, ?_, ?_⟩
  · simp [Zvariant.getStr, connectionSection, ConnectionProfile.ownRoutes]
  · simp [Zvariant.getStr, connectionSection]
  · rw [parseIpSection, hlookup4]
    exact parseIpConfig_ipConfigSection h.ipv4 hipv4
  · rw [parseIpSection, hlookup6]
    exact parseIpConfig_ipConfigSection h.ipv6 hipv6
  · have hinterface : z.getStr (connectionSection z p) "interface-name" =
        p.deviceMatch.interfaceName := by
      cases hname : p.deviceMatch.interfaceName <;>
        simp [Zvariant.getStr, connectionSection, hname, List.lookup_append]
    have hauto : z.getBool (connectionSection z p) "autoconnect" = some p.autoconnect := by
      simp [Zvariant.getBool, connectionSection, List.lookup_append]
    have hpriority : z.getI32 (connectionSection z p) "priority" = some p.priority := by
      simp [Zvariant.getI32, connectionSection, List.lookup_append]
    rw [hinterface, hauto, hpriority]
    have hmatch : p.deviceMatch = { interfaceName := p.deviceMatch.interfaceName.or none } := by
      rw [← h.macAddress, Option.or_none]
    rw [ConnectionProfile.ownRoutes, ConnectionProfile.mk.injEq]
    exact ⟨rfl, h.name, rfl, hmatch, rfl, rfl, h.enabled, rfl, rfl⟩
  · exact ConnectionProfile.validate_eq_ok.mpr ⟨hid, hname, htype, hipv4, hipv6⟩

/-- A profile that comes back is expressible. -/
theorem expressible_of_round_trip {q : ConnectionProfile}
    (hq : settingsToProfile z ip dict = .ok q) (heq : q.ownRoutes = p.ownRoutes) :
    p.Expressible := by
  rw [← ConnectionProfile.expressible_ownRoutes, ← heq, ConnectionProfile.expressible_ownRoutes]
  exact (expressible_of_settings hq).1

/-- **Normal form.**  Decoded settings are decoded from their own dictionary again. -/
theorem settings_normal_form (z : Zvariant V) (ip : IpText) (dict : SettingsDict V)
    (p : ConnectionProfile) (h : settingsToProfile z ip dict = .ok p) :
    settingsToProfile z ip (profileToSettings z ip p) = .ok p := by
  obtain ⟨hexpressible, hown, hvalid⟩ := expressible_of_settings h
  exact (settings_of_expressible hexpressible hvalid).trans (congrArg _ hown)

/-- **Round trip.**  A valid profile comes back from its dictionary exactly if it is expressible. -/
theorem settings_round_trip_iff (z : Zvariant V) (ip : IpText) (p : ConnectionProfile)
    (hvalid : p.validate = .ok ()) :
    (∃ q, settingsToProfile z ip (profileToSettings z ip p) = .ok q ∧
      q.ownRoutes = p.ownRoutes) ↔ p.Expressible := by
  constructor
  · rintro ⟨q, hq, heq⟩
    exact expressible_of_round_trip hq heq
  · intro h
    refine ⟨p.ownRoutes, settings_of_expressible h hvalid, ?_⟩
    simp only [ConnectionProfile.ownRoutes, IpConfig.ownRoutes_ownRoutes]

end

/-! ### A profile with manual sections -/

/-- A secured wireless network with manual addresses, servers and routes of both families. -/
def officeDict : SettingsDict Value :=
  [("connection", [("id", .str "office"), ("type", .str "802-11-wireless"),
      ("interface-name", .str "wlan0"), ("autoconnect", .bool false), ("priority", .i32 5)]),
    ("802-11-wireless", [("ssid", dbus.valBytes [111, 102, 102]), ("mode", .str "infrastructure")]),
    ("802-11-wireless-security", [("key-mgmt", .str "wpa-psk")]),
    ("ipv4", [("method", .str "manual"),
      ("address-data", .array [.dict [("address", .str "10.0.0.7"), ("prefix", .u32 24)]]),
      ("gateway", .str "10.0.0.1"), ("dns", .array [.str "10.0.0.2", .str "10.0.0.3"]),
      ("routes", dbus.valV4Routes [[0x0a0a, 16, 0x0100000a, 50], [0, 0, 0x0100000a, 0]])]),
    ("ipv6", [("method", .str "manual"),
      ("address-data", .array [.dict [
        ("address", .str "fd00:0000:0000:0000:0000:0000:0000:0007"), ("prefix", .u32 64)]]),
      ("routes", dbus.valV6Routes [(List.replicate 16 0, 0, 0xfe :: 0x80 ::
        (List.replicate 13 0 ++ [1]), 7)])])]

/-- The profile that it is decoded to. -/
def officeProfile : ConnectionProfile where
  id := "office"
  name := "office"
  connectionType := .wifi {
    ssid := ⟨[111, 102, 102]⟩, security := .psk (.keyring "nmd/wifi-psk") }
  deviceMatch := { interfaceName := some "wlan0" }
  autoconnect := false
  priority := 5
  ipv4 := {
    method := .manual, address := some (.v4 (.new 10 0 0 7)), prefixLength := some 24
    gateway := some (.v4 (.new 10 0 0 1))
    dnsServers := [.v4 (.new 10 0 0 2), .v4 (.new 10 0 0 3)]
    routes := [
      ⟨.v4, .v4 (.new 10 10 0 0), 16, some (.v4 (.new 10 0 0 1)), none, some 50, .unicast, .link⟩,
      ⟨.v4, .v4 (.new 0 0 0 0), 0, some (.v4 (.new 10 0 0 1)), none, none, .unicast, .universe⟩] }
  ipv6 := {
    method := .manual, prefixLength := some 64
    address := some (.v6 (.ofOctets ⟨0xfd :: (List.replicate 14 0 ++ [7]), rfl⟩))
    routes := [⟨.v6, .v6 .unspecified, 0,
      some (.v6 (.ofOctets ⟨0xfe :: 0x80 :: (List.replicate 13 0 ++ [1]), rfl⟩)), none, some 7,
      .unicast, .universe⟩] }

/-- A wired profile with a manual section. -/
theorem settings_normal_form_officeDict :
    settingsToProfile dbus fullText (profileToSettings dbus fullText officeProfile) =
      .ok officeProfile :=
  settings_normal_form dbus fullText officeDict officeProfile rfl

end NetworkManager
