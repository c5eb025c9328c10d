import NetworkManager.Dbus.IpConfig

/-!
# Dbus — RouteData

The two properties that list the routes of an outcome.

* `ip4Routes`, `ip4RouteData`, `ip6Routes`, `ip6RouteData`: the properties.
* `RouteView`: what an entry says, read back.  `Denotes`: two entries say the same of a route.
* `routes_agree_iff`: the two lists do, if no next hop is unspecified; a tuple has no other way to
  say that there is none.
-/

namespace NetworkManager

/-! ### Properties -/

/-- `Ip4ConfigIface::routes`. -/
def ip4Routes (outcome : ActivationOutcome) : List (List UInt32) :=
  (outcome.ipv4.map fun ipv4 => ipv4.routes.map ipv4RouteEntry).getD []

/-- `Ip4ConfigIface::route_data`. -/
def ip4RouteData (ip : IpText) (outcome : ActivationOutcome) : List (SettingsSection Value) :=
  (outcome.ipv4.map fun ipv4 => ipv4.routes.map (routeDataEntry ip)).getD []

/-- `Ip6ConfigIface::routes`. -/
def ip6Routes (outcome : ActivationOutcome) : List RouteV6Entry :=
  (outcome.ipv6.map fun ipv6 => ipv6.routes.map ipv6RouteEntry).getD []

/-- `Ip6ConfigIface::route_data`. -/
def ip6RouteData (ip : IpText) (outcome : ActivationOutcome) : List (SettingsSection Value) :=
  (outcome.ipv6.map fun ipv6 => ipv6.routes.map (routeDataEntry ip)).getD []

/-! ### Entries, read back -/

/-- What an entry says of a route. -/
structure RouteView where
  destination : IpAddr
  prefixLength : UInt32
  nextHop : Option IpAddr
  metric : UInt32

/-- The network that is the destination. -/
def RouteView.network (view : RouteView) : IpAddr :=
  networkAddress view.destination view.prefixLength.toUInt8

/-- The same network, prefix, next hop and metric. -/
structure Denotes (a b : RouteView) : Prop where
  network : a.network = b.network
  prefixLength : a.prefixLength = b.prefixLength
  nextHop : a.nextHop = b.nextHop
  metric : a.metric = b.metric

/-- A tuple of `Routes`; a next hop of zeros is none. -/
def readIpv4Entry : List UInt32 → Option RouteView
  | [destination, prefixLength, nextHop, metric] => some {
      destination := .v4 (.ofLeBytes destination), prefixLength
      nextHop := if nextHop ≠ 0 then some (.v4 (.ofLeBytes nextHop)) else none
      metric }
  | _ => none

/-- What the IPv6 tuple says. -/
def readIpv6Entry : RouteV6Entry → Option RouteView
  | (destination, prefixLength, nextHop, metric) =>
    if hdestination : destination.length = 16 then
      if hnext : nextHop.length = 16 then some {
        destination := .v6 (.ofOctets ⟨destination, hdestination⟩), prefixLength
        nextHop := specifiedGateway (.ofOctets ⟨nextHop, hnext⟩)
        metric }
      else none
    else none

/-- An address under a key. -/
def readAddress (ip : IpText) (value : Value) : Option IpAddr := value.toStr >>= ip.parse

/-- A dictionary of `RouteData`; without the key, there is no next hop. -/
def readDataEntry (ip : IpText) (entry : SettingsSection Value) : Option RouteView := do
  let destination ← (← entry.lookup "dest") |> readAddress ip
  let prefixLength ← (← entry.lookup "prefix").toU32
  let nextHop ← (entry.lookup "next-hop").mapM (readAddress ip)
  let metric ← (← entry.lookup "metric").toU32
  return { destination, prefixLength, nextHop, metric }

/-- Both entries can be read, and what they say is related. -/
def Read (related : RouteView → RouteView → Prop) (tuple data : Option RouteView) : Prop :=
  ∃ a b, tuple = some a ∧ data = some b ∧ related a b

/-! ### What the entries of a route say -/

/-- The address of all zeros. -/
def IpAddr.unspecified : IpFamily → IpAddr
  | .v4 => .v4 .unspecified
  | .v6 => .v6 .unspecified

/-- The address, or none of a family, as zeros. -/
def ofFamily (family : IpFamily) (address : IpAddr) : IpAddr :=
  if address.family = family then address else .unspecified family

/-- What the tuple of a route says. -/
def tupleView (family : IpFamily) (route : Route) : RouteView where
  destination := ofFamily family route.destination
  prefixLength := route.prefixLength.toUInt32
  nextHop := (route.gateway.map (ofFamily family)).filter (· ≠ .unspecified family)
  metric := route.metric.getD 0

/-- What the dictionary of a route says. -/
def dataView (route : Route) : RouteView where
  destination := networkAddress route.destination route.prefixLength
  prefixLength := route.prefixLength.toUInt32
  nextHop := route.gateway
  metric := route.metric.getD 0

/-- The family is the one that was asked for. -/
theorem family_ofFamily (family : IpFamily) (address : IpAddr) :
    (ofFamily family address).family = family := by
  rw [ofFamily]
  split
  · assumption
  · cases family <;> rfl

/-- An address of the family is kept. -/
theorem ofFamily_eq {family : IpFamily} {address : IpAddr} (h : address.family = family) :
    ofFamily family address = address := if_pos h

/-- A specified hop of the family is said as it is. -/
theorem specified_nextHop {family : IpFamily} {hop : IpAddr} (hfamily : hop.family = family)
    (hne : hop ≠ .unspecified family) :
    ((some hop).map (ofFamily family)).filter (· ≠ .unspecified family) = some hop := by
  rw [Option.map_some, ofFamily_eq hfamily]
  exact Option.filter_some_pos (by simpa using hne)

/-- An IPv4 tuple has a next hop of its family, and none if it is unspecified. -/
theorem nextHop_ipv4RouteEntry (gateway : Option IpAddr) :
    let word := ((gateway.bind IpAddr.toV4).map ipv4U32).getD 0
    (if word ≠ 0 then some (IpAddr.v4 (.ofLeBytes word)) else none) =
      (gateway.map (ofFamily .v4)).filter (· ≠ .unspecified .v4) := by
  rcases gateway with _ | hop | hop
  · rfl
  · have hzero : ipv4U32 hop = 0 ↔ hop = .unspecified := Ipv4Addr.toLeBytes_eq_zero
    show (if ipv4U32 hop ≠ 0 then some (IpAddr.v4 (.ofLeBytes (ipv4U32 hop))) else none) = _
    by_cases hhop : hop = .unspecified
    · subst hhop
      rfl
    · rw [if_pos (hzero.not.mpr hhop), ipv4U32, Ipv4Addr.ofLeBytes_toLeBytes]
      exact (specified_nextHop rfl fun h => hhop (IpAddr.v4.inj h)).symm
  · rfl

/-- An IPv6 tuple has a next hop of its family, and none if it is unspecified. -/
theorem nextHop_ipv6RouteEntry (gateway : Option IpAddr) :
    specifiedGateway ((gateway.bind IpAddr.toV6).getD .unspecified) =
      (gateway.map (ofFamily .v6)).filter (· ≠ .unspecified .v6) := by
  rcases gateway with _ | hop | hop
  · rfl
  · rfl
  · show specifiedGateway hop = _
    rw [specifiedGateway]
    by_cases hhop : hop = .unspecified
    · subst hhop
      rfl
    · rw [if_pos hhop]
      exact (specified_nextHop rfl fun h => hhop (IpAddr.v6.inj h)).symm

/-- An IPv4 tuple says what `tupleView` does. -/
theorem readIpv4Entry_ipv4RouteEntry (route : Route) :
    readIpv4Entry (ipv4RouteEntry route) = some (tupleView .v4 route) := by
  have hdestination : IpAddr.v4 (.ofLeBytes (ipv4U32 (route.destination.toV4.getD .unspecified))) =
      ofFamily .v4 route.destination := by
    cases route.destination with
    | v4 address => exact congrArg IpAddr.v4 (Ipv4Addr.ofLeBytes_toLeBytes address)
    | v6 address => exact congrArg IpAddr.v4 (Ipv4Addr.ofLeBytes_toLeBytes .unspecified)
  rw [tupleView, ← nextHop_ipv4RouteEntry, ← hdestination]
  rfl

/-- An IPv6 tuple says what `tupleView` does. -/
theorem readIpv6Entry_ipv6RouteEntry (route : Route) :
    readIpv6Entry (ipv6RouteEntry route) = some (tupleView .v6 route) := by
  have hdestination : IpAddr.v6 (route.destination.toV6.getD .unspecified) =
      ofFamily .v6 route.destination := by
    cases route.destination <;> rfl
  have hoctets (address : Ipv6Addr) (h : address.octets.toList.length = 16) :
      Ipv6Addr.ofOctets ⟨address.octets.toList, h⟩ = address := Ipv6Addr.ofOctets_octets address
  rw [ipv6RouteEntry, readIpv6Entry,
    dif_pos (List.Vector.toList_length _), dif_pos (List.Vector.toList_length _), hoctets, hoctets,
    tupleView, ← nextHop_ipv6RouteEntry, ← hdestination]

/-- An entry of `RouteData` says what `dataView` does. -/
theorem readDataEntry_routeDataEntry (ip : IpText) (route : Route) :
    readDataEntry ip (routeDataEntry ip route) = some (dataView route) := by
  have hlookup : (routeDataEntry ip route).lookup "next-hop" =
      route.gateway.map fun gateway => .str (ip.display gateway) := by
    cases hhop : route.gateway <;> simp [routeDataEntry, SettingsSection.optional, hhop]
  have hmetric : (routeDataEntry ip route).lookup "metric" =
      some (.u32 (route.metric.getD 0)) := by
    cases hhop : route.gateway <;> simp [routeDataEntry, SettingsSection.optional, hhop]
  have hnext : (route.gateway.map fun gateway => Value.str (ip.display gateway)).mapM
      (readAddress ip) = some route.gateway := by
    cases route.gateway <;> simp [readAddress, Value.toStr]
  rw [readDataEntry, hlookup, hmetric, hnext]
  simp [routeDataEntry, readAddress, Value.toStr, Value.toU32, dataView]

/-- Destination and gateway are of the family of the route. -/
structure Route.OwnFamily (route : Route) : Prop where
  destination : route.destination.family = route.family
  gateway : ∀ g ∈ route.gateway, g.family = route.family

/-- A route of this family, with no gateway of all zeros. -/
structure Route.Expressed (family : IpFamily) (route : Route) : Prop where
  gateway : route.gateway ≠ some (.unspecified family)
  family : route.family = family

/-- A network address has the family of the address. -/
theorem family_networkAddress (address : IpAddr) (prefixLength : UInt8) :
    (networkAddress address prefixLength).family = address.family := by
  cases address <;> rfl

/-- A network address is its own. -/
theorem networkAddress_networkAddress (address : IpAddr) (prefixLength : UInt8) :
    networkAddress (networkAddress address prefixLength) prefixLength =
      networkAddress address prefixLength := by
  cases address with
  | v4 address => exact congrArg IpAddr.v4 (masking_networkAddressV4.idempotent _ _)
  | v6 address => exact congrArg IpAddr.v6 (masking_networkAddressV6.idempotent _ _)

/-- A network is its own network address. -/
theorem isNetwork_iff {address : IpAddr} {prefixLength : UInt8} :
    address.IsNetwork prefixLength ↔ networkAddress address prefixLength = address := by
  cases address with
  | v4 address => exact (IpAddr.v4.injEq _ _).to_iff.symm
  | v6 address => exact (IpAddr.v6.injEq _ _).to_iff.symm

/-- The tuple and the dictionary of an expressed route differ in the host bits only. -/
theorem tupleView_of_expressed {family : IpFamily} {route : Route} (hown : route.OwnFamily)
    (h : route.Expressed family) :
    tupleView family route = { dataView route with destination := route.destination } := by
  obtain ⟨hgateway, rfl⟩ := h
  rw [tupleView, dataView, ofFamily_eq hown.destination]
  congr 1
  cases hhop : route.gateway with
  | none => rfl
  | some hop =>
      rw [hhop] at hgateway
      have hne : hop ≠ .unspecified route.family := fun h => hgateway (congrArg some h)
      exact specified_nextHop (hown.gateway hop hhop) hne

/-- Where the tuple denotes the entry, it expresses the route. -/
theorem expressed_of_denotes {family : IpFamily} {route : Route} (hown : route.OwnFamily)
    (h : Denotes (tupleView family route) (dataView route)) : route.Expressed family where
  gateway hhop := by
    have hnext := h.nextHop
    simp only [tupleView, dataView, hhop, Option.map_some] at hnext
    rw [ofFamily_eq (by cases family <;> rfl)] at hnext
    simp at hnext
  family := by
    have hnetwork := congrArg IpAddr.family h.network
    rw [RouteView.network, RouteView.network, family_networkAddress, family_networkAddress] at hnetwork
    rw [tupleView, dataView, family_ofFamily, family_networkAddress, hown.destination] at hnetwork
    exact hnetwork.symm

/-- The tuple denotes the entry exactly if it expresses the route. -/
theorem denotes_iff {family : IpFamily} {route : Route} (hown : route.OwnFamily) :
    Denotes (tupleView family route) (dataView route) ↔ route.Expressed family := by
  refine ⟨expressed_of_denotes hown, fun h => ?_⟩
  rw [tupleView_of_expressed hown h]
  refine ⟨?_, rfl, rfl, rfl⟩
  rw [RouteView.network, RouteView.network, dataView, UInt8.toUInt8_toUInt32,
    networkAddress_networkAddress]

/-- The tuple says the same as the entry exactly if it moreover has a network as its destination. -/
theorem tupleView_eq_iff {family : IpFamily} {route : Route} (hown : route.OwnFamily) :
    tupleView family route = dataView route ↔
      route.Expressed family ∧ route.destination.IsNetwork route.prefixLength := by
  constructor
  · intro h
    have hdenotes : Denotes (tupleView family route) (dataView route) := by
      rw [h]
      exact ⟨rfl, rfl, rfl, rfl⟩
    have hexpressed := expressed_of_denotes hown hdenotes
    rw [tupleView_of_expressed hown hexpressed] at h
    exact ⟨hexpressed, isNetwork_iff.mpr (congrArg RouteView.destination h).symm⟩
  · rintro ⟨hexpressed, hnetwork⟩
    rw [tupleView_of_expressed hown hexpressed, dataView, isNetwork_iff.mp hnetwork]

/-! ### Both lists -/

/-- The routes of the IPv4 part, and of the IPv6 part. -/
def ActivationOutcome.routes (outcome : ActivationOutcome) : IpFamily → List Route
  | .v4 => (outcome.ipv4.map Ipv4Outcome.routes).getD []
  | .v6 => (outcome.ipv6.map Ipv6Outcome.routes).getD []

theorem ip4Routes_eq (outcome : ActivationOutcome) :
    ip4Routes outcome = (outcome.routes .v4).map ipv4RouteEntry := by
  rw [ip4Routes, ActivationOutcome.routes]
  cases outcome.ipv4 <;> rfl

theorem ip4RouteData_eq (ip : IpText) (outcome : ActivationOutcome) :
    ip4RouteData ip outcome = (outcome.routes .v4).map (routeDataEntry ip) := by
  rw [ip4RouteData, ActivationOutcome.routes]
  cases outcome.ipv4 <;> rfl

theorem ip6Routes_eq (outcome : ActivationOutcome) :
    ip6Routes outcome = (outcome.routes .v6).map ipv6RouteEntry := by
  rw [ip6Routes, ActivationOutcome.routes]
  cases outcome.ipv6 <;> rfl

theorem ip6RouteData_eq (ip : IpText) (outcome : ActivationOutcome) :
    ip6RouteData ip outcome = (outcome.routes .v6).map (routeDataEntry ip) := by
  rw [ip6RouteData, ActivationOutcome.routes]
  cases outcome.ipv6 <;> rfl

/-- The entries of both lists can be read, and the `i`-th of each are related. -/
structure RoutesAgree (related : RouteView → RouteView → Prop) (ip : IpText)
    (outcome : ActivationOutcome) : Prop where
  ipv4 : List.Forall₂ (fun tuple data => Read related (readIpv4Entry tuple) (readDataEntry ip data))
    (ip4Routes outcome) (ip4RouteData ip outcome)
  ipv6 : List.Forall₂ (fun tuple data => Read related (readIpv6Entry tuple) (readDataEntry ip data))
    (ip6Routes outcome) (ip6RouteData ip outcome)

theorem read_some {related : RouteView → RouteView → Prop} {a b : RouteView} :
    Read related (some a) (some b) ↔ related a b := by
  constructor
  · rintro ⟨_, _, ⟨⟩, ⟨⟩, h⟩
    exact h
  · intro h
    exact ⟨a, b, rfl, rfl, h⟩

/-- The properties agree exactly if they do on every route of either family. -/
theorem routesAgree_iff (related : RouteView → RouteView → Prop) (ip : IpText)
    (outcome : ActivationOutcome) :
    RoutesAgree related ip outcome ↔
      ∀ family, ∀ r ∈ outcome.routes family, related (tupleView family r) (dataView r) := by
  have hv4 : List.Forall₂
      (fun tuple data => Read related (readIpv4Entry tuple) (readDataEntry ip data))
      (ip4Routes outcome) (ip4RouteData ip outcome) ↔
      ∀ r ∈ outcome.routes .v4, related (tupleView .v4 r) (dataView r) := by
    simp only [ip4Routes_eq, ip4RouteData_eq, List.forall₂_map_left_iff, List.forall₂_map_right_iff,
      List.forall₂_same, readIpv4Entry_ipv4RouteEntry, readDataEntry_routeDataEntry, read_some]
  have hv6 : List.Forall₂
      (fun tuple data => Read related (readIpv6Entry tuple) (readDataEntry ip data))
      (ip6Routes outcome) (ip6RouteData ip outcome) ↔
      ∀ r ∈ outcome.routes .v6, related (tupleView .v6 r) (dataView r) := by
    simp only [ip6Routes_eq, ip6RouteData_eq, List.forall₂_map_left_iff, List.forall₂_map_right_iff,
      List.forall₂_same, readIpv6Entry_ipv6RouteEntry, readDataEntry_routeDataEntry, read_some]
  constructor
  · rintro ⟨h4, h6⟩ (_ | _)
    · exact hv4.mp h4
    · exact hv6.mp h6
  · intro h
    exact ⟨hv4.mpr (h .v4), hv6.mpr (h .v6)⟩

/-- **Routes and RouteData.**  They have the same length.  Their entries denote the same routes if
every route is of the family of its list and none has a gateway of all zeros; they have the same
octets if, besides, no destination has host bits. -/
theorem routes_agree_iff (ip : IpText) (outcome : ActivationOutcome)
    (hown : ∀ family, ∀ r ∈ outcome.routes family, r.OwnFamily) :
    (ip4Routes outcome).length = (ip4RouteData ip outcome).length ∧
    (ip6Routes outcome).length = (ip6RouteData ip outcome).length ∧
    (RoutesAgree Denotes ip outcome ↔
      ∀ family, ∀ r ∈ outcome.routes family, r.Expressed family) ∧
    (RoutesAgree (· = ·) ip outcome ↔ ∀ family, ∀ r ∈ outcome.routes family,
      r.Expressed family ∧ r.destination.IsNetwork r.prefixLength) := by
  refine ⟨?_, ?_, ?_, ?_⟩
  · rw [ip4Routes_eq, ip4RouteData_eq, List.length_map, List.length_map]
  · rw [ip6Routes_eq, ip6RouteData_eq, List.length_map, List.length_map]
  · rw [routesAgree_iff]
    exact forall_congr' fun family => forall₂_congr fun r hr => denotes_iff (hown family r hr)
  · rw [routesAgree_iff]
    exact forall_congr' fun family => forall₂_congr fun r hr => tupleView_eq_iff (hown family r hr)

/-- An outcome with this route. -/
def outcomeWith (route : Route) : ActivationOutcome where
  ipv4 := some {
    address := .new 192 168 1 7, prefixLength := 24, gateway := none, dnsServers := []
    searchDomains := [], source := .automaticDhcp, routes := [route], lease := none }

/-- The default route through this gateway. -/
def defaultRoute (gateway : Ipv4Addr) : Route :=
  ⟨.v4, .v4 .unspecified, 0, some (.v4 gateway), some 2, none, .unicast, .universe⟩

/-- The sample route is of its own family. -/
theorem ownFamily_outcomeWith (gateway : Ipv4Addr) (family : IpFamily) :
    ∀ r ∈ (outcomeWith (defaultRoute gateway)).routes family, r.OwnFamily := by
  intro r hr
  cases family with
  | v4 =>
      obtain rfl := List.mem_singleton.mp hr
      exact ⟨rfl, by rintro g ⟨⟩; rfl⟩
  | v6 => cases hr

/-- The default route of a home network. -/
theorem routes_agree_iff_home :
    RoutesAgree (· = ·) fullText (outcomeWith (defaultRoute (.new 192 168 1 1))) := by
  refine (routes_agree_iff fullText _ (ownFamily_outcomeWith _)).2.2.2.mpr fun family r hr => ?_
  cases family with
  | v4 =>
      obtain rfl := List.mem_singleton.mp hr
      exact ⟨⟨by decide, rfl⟩, rfl⟩
  | v6 => cases hr

/-- The tuple of a default route through `0.0.0.0` has no next hop, its dictionary does. -/
theorem unspecified_next_hop_present :
    (ip4Routes (outcomeWith (defaultRoute .unspecified))) = [[0, 0, 0, 0]] ∧
    (ip4RouteData fullText (outcomeWith (defaultRoute .unspecified))).map
      (fun entry => (entry.lookup "next-hop").isSome) = [true] ∧
    ¬ RoutesAgree Denotes fullText (outcomeWith (defaultRoute .unspecified)) := by
  refine ⟨by decide, by decide, fun h => ?_⟩
  have hdenotes := (routesAgree_iff _ _ _).mp h .v4 _ (List.mem_singleton.mpr rfl)
  exact absurd hdenotes.nextHop (by decide)

end NetworkManager
