import NetworkManager.Linux.IpConfig
import NetworkManager.Linux.Netlink
import NetworkManager.Support.Results

/-!
# Linux — Netlink — Requests

The requests of `linux/ipconfig.rs` as octets, and what the event parser reads in them.

* `exists_records`: attributes pushed one after another are a list of records.
* `parseAddress_ifaddrPayload`, `parseRoute_routePayload`: the payloads read back.
* `requests_decode`: so do the messages.
-/

namespace NetworkManager.Netlink

open Records Octets Layout Header


/-! ### Values -/

/-- The octets of an address, in network order. -/
def ipBytes : IpAddr → List UInt8
  | .v4 address => address.octets.toList
  | .v6 address => address.octets.toList

/-- The family as the kernel numbers it. -/
def familyBytes : IpFamily → UInt8
  | .v4 => afInet
  | .v6 => afInet6

/-- The type that a route of this kind is written with. -/
def routeType (kind : RouteKind) : UInt8 :=
  match kind with
  | .unicast => rtnUnicast
  | other => routeKindAsU8 other

/-- The scope that a route is written with. -/
def routeScope (scope : RouteScope) : UInt8 :=
  match scope with
  | .link => rtScopeLink
  | other => routeScopeAsU8 other

/-- `Route::is_default`: `0.0.0.0/0` or `::/0`. -/
def isDefault (route : Route) : Bool :=
  route.prefixLength == 0 && route.destination == unspecified route.family

@[simp] theorem length_ipBytes (a : IpAddr) : (ipBytes a).length = expectedLen a.family := by
  cases a <;> exact List.Vector.toList_length _

theorem length_ipBytes_le (a : IpAddr) : (ipBytes a).length ≤ 16 := by
  rw [length_ipBytes]
  cases a with
  | v4 address => exact show 4 ≤ 16 by decide
  | v6 address => exact Nat.le_refl 16

/-- The family is read back from its number. -/
@[simp] theorem familyFromU8_familyBytes (family : IpFamily) :
    familyFromU8 (familyBytes family) = some family := by cases family <;> rfl

/-- The address is read back from its octets. -/
theorem addressFromBytes_ipBytes (a : IpAddr) : addressFromBytes a.family (ipBytes a) = a := by
  cases a with
  | v4 address => exact congrArg IpAddr.v4 (Ipv4Addr.ofOctets_octets address)
  | v6 address =>
      have htake : address.octets.toList.take 16 = address.octets.toList :=
        List.take_of_length_le (List.Vector.toList_length _).le
      show IpAddr.v6 (BitVec.ofNat 128 (ofBigEndian (address.octets.toList.take 16))) = _
      rw [htake]
      exact congrArg IpAddr.v6 (Ipv6Addr.ofOctets_octets address)

theorem expectedLen_lt (family : IpFamily) : expectedLen family < 65532 := by
  cases family <;> decide

/-- The three kinds that a request may have are read back from their types. -/
theorem routeKind_routeType (kind : RouteKind)
    (h : kind = .unicast ∨ kind = .blackhole ∨ kind = .unreachable) :
    routeKindFromU8 (routeType kind) = kind := by
  rcases h with rfl | rfl | rfl <;> rfl

/-- A scope is read back unless it is a known one under another name. -/
theorem routeScope_routeScope : ∀ {scope : RouteScope},
    (∀ value, scope = .other value → value ∉ [0, 253, 254]) →
      routeScopeFromU8 (routeScope scope) = scope
  | .universe, _ | .link, _ | .host, _ => rfl
  | .other value, h => by
      have hvalue := h value rfl
      show routeScopeFromU8 value = _
      unfold routeScopeFromU8
      split <;> simp_all

/-- An attribute that is there only if its value is. -/
theorem foldlM_optional {β : Type} (step : RouteAttrs → UInt16 → List UInt8 →
    Except NetlinkError RouteAttrs) (attrType : UInt16) (encode : β → List UInt8) (value : Option β)
    (s : RouteAttrs) (s' : Option β → RouteAttrs) (hnone : s' none = s)
    (hsome : ∀ b, value = some b → step s attrType (encode b) = .ok (s' (some b))) :
    (value.map fun b => (attrType, encode b)).toList.foldlM (fun s a => step s a.1 a.2) s =
      .ok (s' value) := by
  cases value with
  | none => exact congrArg Except.ok hnone.symm
  | some b => exact congrArg (· >>= pure) (hsome b rfl)

variable [Native]

/-! ### Writing -/

/-- Appends an attribute, padded to four octets. -/
def pushAttr (message : List UInt8) (attrType : UInt16) (value : List UInt8) : List UInt8 :=
  let attrLen := size RtAttr + value.length
  message ++ write ({ rtaLen := .ofNat attrLen, rtaType := attrType } : RtAttr) ++ value ++
    List.replicate (align attrLen 4 - attrLen) 0

/-- The attributes appended to a message, in order. -/
def pushAttrs (message : List UInt8) (attrs : List (UInt16 × List UInt8)) : List UInt8 :=
  attrs.foldl (fun message (attrType, value) => pushAttr message attrType value) message

/-- The header of a request: sequence number 1, and the port left to the kernel. -/
def requestHeader (messageType flags : UInt16) (payloadLen : ℕ) : NlMsgHdr where
  nlmsgLen := .ofNat (16 + payloadLen)
  nlmsgType := messageType
  nlmsgFlags := flags
  nlmsgSeq := 1
  nlmsgPid := 0

/-- A whole request: its header, then its payload. -/
def buildNetlinkMessage (messageType flags : UInt16) (payload : List UInt8) : List UInt8 :=
  write (requestHeader messageType flags payload.length) ++ payload

/-- The fixed part of an address request, with scope universe and no flags. -/
def ifAddrMsg (family prefixLength : UInt8) (index : Int32) : IfAddrMsg where
  ifaFamily := family
  ifaPrefixlen := prefixLength
  ifaFlags := 0
  ifaScope := 0
  ifaIndex := index.toUInt32

/-- The payload of an address request. -/
def ifaddrPayload (family prefixLength : UInt8) (index : Int32)
    (attrs : List (UInt16 × List UInt8)) : List UInt8 :=
  pushAttrs (write (ifAddrMsg family prefixLength index)) attrs

/-- The fixed part of a route request, of a static route. -/
def rtMsg (family dstLen table scope routeType : UInt8) : RtMsg where
  rtmFamily := family
  rtmDstLen := dstLen
  rtmSrcLen := 0
  rtmTos := 0
  rtmTable := table
  rtmProtocol := rtprotStatic
  rtmScope := scope
  rtmType := routeType
  rtmFlags := 0

/-- The payload of a route request. -/
def rtmsgPayload (family dstLen table scope routeType : UInt8)
    (attrs : List (UInt16 × List UInt8)) : List UInt8 :=
  pushAttrs (write (rtMsg family dstLen table scope routeType)) attrs

/-- The attributes of a route. The output interface is always written, with index zero if the route
has none; a default route has no destination. -/
def routeAttrs (route : Route) : List (UInt16 × List UInt8) :=
  (if isDefault route then [] else [(rtaDst, ipBytes route.destination)]) ++
    (route.gateway.map fun gateway => (rtaGateway, ipBytes gateway)).toList ++
    [(rtaOif, native 4 (route.outputInterface.getD 0).toUInt32.toNat)] ++
    (route.metric.map fun metric => (rtaPriority, native 4 metric.toNat)).toList

/-- The payload of a route in the main table. -/
def routePayload (route : Route) : List UInt8 :=
  rtmsgPayload (familyBytes route.family) route.prefixLength rtTableMain (routeScope route.scope)
    (routeType route.kind) (routeAttrs route)

/-- A request about a route. -/
def buildRouteMessage (messageType flags : UInt16) (route : Route) : List UInt8 :=
  buildNetlinkMessage messageType flags (routePayload route)

/-- The attributes of an address, as `add_address` and `remove_address` have them. -/
def addressAttrs (address : List UInt8) : List (UInt16 × List UInt8) :=
  [(ifaLocal, address), (ifaAddress, address)]

/-- The message `add_address` sends. -/
def addAddressMessage (family prefixLength : UInt8) (index : Int32) (address : List UInt8) :
    List UInt8 :=
  buildNetlinkMessage rtmNewaddr (nlmFRequest ||| nlmFCreate ||| nlmFExcl ||| nlmFAck)
    (ifaddrPayload family prefixLength index (addressAttrs address))

/-- The message `remove_address` sends. -/
def removeAddressMessage (family prefixLength : UInt8) (index : Int32) (address : List UInt8) :
    List UInt8 :=
  buildNetlinkMessage rtmDeladdr (nlmFRequest ||| nlmFAck)
    (ifaddrPayload family prefixLength index (addressAttrs address))

/-! ### Attributes as records -/

/-- Attributes pushed one after another are a list of records. -/
theorem exists_records {attrs : List (UInt16 × List UInt8)} (h : ∀ a ∈ attrs, a.2.length < 65532)
    (message : List UInt8) :
    ∃ records : List (Record RtAttr),
      records.map (fun r => (r.header.rtaType, r.body)) = attrs ∧
      pushAttrs message attrs = message ++ octets records := by
  induction attrs generalizing message with
  | nil => exact ⟨[], rfl, (List.append_nil message).symm⟩
  | cons a attrs ih =>
      obtain ⟨attrType, value⟩ := a
      have hvalue : value.length < 65532 := h (attrType, value) List.mem_cons_self
      have hspan : (UInt16.ofNat (4 + value.length)).toNat = 4 + value.length := by
        rw [UInt16.toNat_ofNat', Nat.mod_eq_of_lt (by omega)]
      let r : Record RtAttr :=
        .padded { rtaLen := .ofNat (4 + value.length), rtaType := attrType } value hspan
      have hpush : pushAttr message attrType value = message ++ r.octets := by
        show message ++ _ ++ value ++ _ = message ++ (_ ++ (value ++ List.replicate
          (align (UInt16.ofNat (4 + value.length)).toNat 4 -
            (UInt16.ofNat (4 + value.length)).toNat) 0))
        rw [hspan, List.append_assoc, List.append_assoc]
        rfl
      obtain ⟨records, hmap, hoctets⟩ :=
        ih (fun a ha => h a (List.mem_cons_of_mem _ ha)) (message ++ r.octets)
      refine ⟨r :: records, by rw [List.map_cons, hmap]; rfl, ?_⟩
      show pushAttrs (pushAttr message attrType value) attrs = _
      rw [hpush, hoctets, octets, octets, List.flatMap_cons, List.append_assoc]

/-- The attributes that were pushed are the ones that are read. -/
theorem readAttrs_pushAttrs {σ : Type} {attrs : List (UInt16 × List UInt8)}
    (h : ∀ a ∈ attrs, a.2.length < 65532)
    (step : σ → UInt16 → List UInt8 → Except NetlinkError σ) (before : List UInt8) (s : σ) :
    readAttrs step (pushAttrs before attrs) before.length s =
      attrs.foldlM (fun s a => step s a.1 a.2) s := by
  obtain ⟨records, rfl, hoctets⟩ := exists_records h before
  rw [hoctets, readAttrs_octets, List.foldlM_map]

/-- An attribute takes its header and its value, padded to four octets. -/
theorem length_pushAttr (message : List UInt8) (attrType : UInt16) (value : List UInt8) :
    (pushAttr message attrType value).length = message.length + align (4 + value.length) 4 := by
  have hle : 4 + value.length ≤ align (4 + value.length) 4 := le_align _ (by decide)
  have hsize : size RtAttr = 4 := rfl
  simp only [pushAttr, List.length_append, length_write, List.length_replicate, hsize]
  omega

/-- A message of whole words stays one with attributes behind it. -/
theorem dvd_length_pushAttrs (attrs : List (UInt16 × List UInt8)) {m : List UInt8}
    (h : 4 ∣ m.length) : 4 ∣ (pushAttrs m attrs).length := by
  induction attrs generalizing m with
  | nil => exact h
  | cons a attrs ih =>
      refine ih ?_
      rw [length_pushAttr]
      exact Nat.dvd_add h (dvd_align _ _)

/-- Attributes of at most 16 octets take at most 20 each. -/
theorem length_pushAttrs_le {attrs : List (UInt16 × List UInt8)}
    (h : ∀ a ∈ attrs, a.2.length ≤ 16) (message : List UInt8) :
    (pushAttrs message attrs).length ≤ message.length + 20 * attrs.length := by
  induction attrs generalizing message with
  | nil => exact Nat.le_refl _
  | cons a attrs ih =>
      have hvalue : a.2.length ≤ 16 := h a List.mem_cons_self
      have hrest := ih (fun a ha => h a (List.mem_cons_of_mem _ ha)) (pushAttr message a.1 a.2)
      have halign : align (4 + a.2.length) 4 ≤ 20 := by rw [align]; omega
      rw [length_pushAttr] at hrest
      rw [List.length_cons]
      show (pushAttrs (pushAttr message a.1 a.2) attrs).length ≤ _
      omega

/-- What is written before the attributes is still there. -/
theorem exists_pushAttrs (message : List UInt8) (attrs : List (UInt16 × List UInt8)) :
    ∃ rest, pushAttrs message attrs = message ++ rest := by
  induction attrs generalizing message with
  | nil => exact ⟨[], (List.append_nil message).symm⟩
  | cons a attrs ih =>
      obtain ⟨rest, hrest⟩ := ih (pushAttr message a.1 a.2)
      refine ⟨pushAttr [] a.1 a.2 ++ rest, hrest.trans ?_⟩
      simp only [pushAttr, List.nil_append, List.append_assoc]

/-- The fixed part is read back from under the attributes. -/
theorem read_pushAttrs {α : Type} [Layout α] (x : α) (attrs : List (UInt16 × List UInt8)) :
    read (pushAttrs (write x) attrs) = x := by
  obtain ⟨rest, hrest⟩ := exists_pushAttrs (write x) attrs
  rw [hrest, read_write]

/-- The payload is at least as long as its fixed part. -/
theorem size_le_pushAttrs {α : Type} [Layout α] (x : α) (attrs : List (UInt16 × List UInt8)) :
    size α ≤ (pushAttrs (write x) attrs).length := by
  obtain ⟨rest, hrest⟩ := exists_pushAttrs (write x) attrs
  rw [hrest, List.length_append, length_write]
  exact Nat.le_add_right _ _

/-! ### Payloads -/

/-- The address parser reads back the interface, the address and the prefix of a request. -/
theorem parseAddress_ifaddrPayload (address : IpAddr) (prefixLength : UInt8) (index : Int32) :
    parseAddress (ifaddrPayload (familyBytes address.family) prefixLength index
        (addressAttrs (ipBytes address))) =
      .ok (some { interfaceIndex := index.toUInt32, address, prefixLength }) := by
  let info := ifAddrMsg (familyBytes address.family) prefixLength index
  let payload := pushAttrs (write info) (addressAttrs (ipBytes address))
  have hshort : ¬ payload.length < size IfAddrMsg := Nat.not_lt.mpr (size_le_pushAttrs info _)
  have hinfo : read payload = info := read_pushAttrs info _
  have hvalues : ∀ a ∈ addressAttrs (ipBytes address), a.2.length < 65532 := by
    intro a ha
    have hlt := expectedLen_lt address.family
    rcases List.mem_pair.mp ha with rfl | rfl <;> rwa [length_ipBytes]
  have hattrs : readAttrs (addressAttr address.family) payload (size IfAddrMsg) none =
      .ok (some (ipBytes address)) := by
    have hread := readAttrs_pushAttrs hvalues (addressAttr address.family) (write info) none
    rw [length_write] at hread
    rw [hread]
    have hlocal : addressAttr address.family none ifaLocal (ipBytes address) =
        .ok (some (ipBytes address)) := by
      rw [addressAttr, if_pos ⟨.inl rfl, rfl⟩, if_neg (not_not_intro (length_ipBytes address))]
    have haddress : addressAttr address.family (some (ipBytes address)) ifaAddress
        (ipBytes address) = .ok (some (ipBytes address)) := if_neg fun h => by cases h.2
    rw [addressAttrs, List.foldlM_cons, hlocal]
    exact congrArg (· >>= pure) haddress
  show parseAddress payload = _
  have hfamily : familyFromU8 info.ifaFamily = some address.family :=
    familyFromU8_familyBytes address.family
  simp only [parseAddress, if_neg hshort, hinfo, hfamily]
  rw [hattrs]
  show Except.ok (some ({ address := addressFromBytes _ (ipBytes address), .. } : Address)) = _
  rw [addressFromBytes_ipBytes]
  rfl

/-! #### Routes -/

section RouteAttr

variable {family : IpFamily} (attrs : RouteAttrs)

theorem routeAttr_dst {value : List UInt8} (h : value.length = expectedLen family) :
    routeAttr family attrs rtaDst value = .ok { attrs with destination := some value } := by
  rw [routeAttr, if_pos rfl, if_neg (not_not_intro h)]

theorem routeAttr_gateway {value : List UInt8} (h : value.length = expectedLen family) :
    routeAttr family attrs rtaGateway value = .ok { attrs with gateway := some value } := by
  rw [routeAttr, if_neg (by decide), if_pos rfl, if_neg (not_not_intro h)]

theorem u32_native (x : UInt32) : u32 (native 4 x.toNat) 0 = x := by
  have h := u32_here x []
  rwa [List.append_nil] at h

theorem routeAttr_oif (index : Int32) :
    routeAttr family attrs rtaOif (native 4 index.toUInt32.toNat) =
      .ok { attrs with outputInterface := some index } := by
  rw [routeAttr, if_neg (by decide), if_neg (by decide), if_pos rfl,
    if_neg (not_not_intro (length_native 4 _)), u32_native, Int32.toInt32_toUInt32]

theorem routeAttr_priority (metric : UInt32) :
    routeAttr family attrs rtaPriority (native 4 metric.toNat) =
      .ok { attrs with metric := some metric } := by
  rw [routeAttr, if_neg (by decide), if_neg (by decide), if_neg (by decide), if_pos rfl,
    if_neg (not_not_intro (length_native 4 _)), u32_native]

end RouteAttr

/-- A route that a request can carry whole. -/
structure Requestable (route : Route) : Prop where
  destination : route.destination.family = route.family
  gateway : ∀ g, route.gateway = some g → g.family = route.family
  outputInterface : route.outputInterface ≠ none
  kind : route.kind = .unicast ∨ route.kind = .blackhole ∨ route.kind = .unreachable
  /-- The scope is not a known one under another name. -/
  scope : ∀ value, route.scope = .other value → value ∉ [0, 253, 254]

/-- The four attributes of a requestable route are read back one after another. -/
theorem foldlM_routeAttrs {route : Route} (h : Requestable route) :
    (routeAttrs route).foldlM (fun s a => routeAttr route.family s a.1 a.2) .empty =
      .ok { destination := if isDefault route then none else some (ipBytes route.destination)
            gateway := route.gateway.map ipBytes
            outputInterface := some (route.outputInterface.getD 0)
            metric := route.metric } := by
  have hdst : (if isDefault route then [] else [(rtaDst, ipBytes route.destination)]).foldlM
      (fun s a => routeAttr route.family s a.1 a.2) .empty =
      .ok { RouteAttrs.empty with
        destination := if isDefault route then none else some (ipBytes route.destination) } := by
    have hlength : (ipBytes route.destination).length = expectedLen route.family := by
      rw [length_ipBytes, h.destination]
    split
    · rfl
    · exact congrArg (· >>= pure) (routeAttr_dst _ hlength)
  have hgateway (s : RouteAttrs) (hs : s.gateway = none) :
      (route.gateway.map fun g => (rtaGateway, ipBytes g)).toList.foldlM
        (fun s a => routeAttr route.family s a.1 a.2) s =
      .ok { s with gateway := route.gateway.map ipBytes } :=
    foldlM_optional _ _ _ _ s (fun g => { s with gateway := g.map ipBytes })
      (by rw [Option.map_none, ← hs]) fun g hg =>
        routeAttr_gateway s (by rw [length_ipBytes, h.gateway g hg])
  have hmetric (s : RouteAttrs) (hs : s.metric = none) :
      (route.metric.map fun metric => (rtaPriority, native 4 metric.toNat)).toList.foldlM
        (fun s a => routeAttr route.family s a.1 a.2) s = .ok { s with metric := route.metric } :=
    foldlM_optional _ _ (fun metric : UInt32 => native 4 metric.toNat) _ s
      (fun metric => { s with metric }) (by rw [← hs]) fun metric _ =>
        routeAttr_priority s metric
  have hoif (s : RouteAttrs) :
      [(rtaOif, native 4 (route.outputInterface.getD 0).toUInt32.toNat)].foldlM
        (fun s a => routeAttr route.family s a.1 a.2) s =
      .ok { s with outputInterface := some (route.outputInterface.getD 0) } :=
    congrArg (· >>= pure) (routeAttr_oif s _)
  rw [routeAttrs, List.foldlM_append, List.foldlM_append, List.foldlM_append]
  exact Results.bind_eq_ok.mpr ⟨_, Results.bind_eq_ok.mpr ⟨_, Results.bind_eq_ok.mpr
    ⟨_, hdst, hgateway _ rfl⟩, hoif _⟩, hmetric _ rfl⟩

/-- A route has at most four attributes, each of at most 16 octets. -/
theorem length_routeAttrs_le (route : Route) :
    (∀ a ∈ routeAttrs route, a.2.length ≤ 16) ∧ (routeAttrs route).length ≤ 4 := by
  constructor
  · intro a ha
    simp only [routeAttrs, List.mem_append, Option.mem_toList, Option.map_eq_some_iff] at ha
    rcases ha with ((ha | ⟨g, -, rfl⟩) | ha) | ⟨metric, -, rfl⟩
    · split at ha
      · cases ha
      · rw [List.mem_singleton.mp ha]
        exact length_ipBytes_le _
    · exact length_ipBytes_le g
    · rw [List.mem_singleton.mp ha, length_native]
      decide
    · rw [length_native]
      decide
  · have hone (β : Type) (value : Option β) : value.toList.length ≤ 1 := by cases value <;> simp
    simp only [routeAttrs, List.length_append, List.length_singleton]
    have hg := hone _ (route.gateway.map fun gateway => (rtaGateway, ipBytes gateway))
    have hm := hone _ (route.metric.map fun metric => (rtaPriority, native 4 metric.toNat))
    split
    · rw [List.length_nil]
      omega
    · rw [List.length_singleton]
      omega

/-- **The payload of a route reads back** as the route. -/
theorem parseRoute_routePayload {route : Route} (h : Requestable route) :
    parseRoute (routePayload route) = .ok (some route) := by
  let info := rtMsg (familyBytes route.family) route.prefixLength rtTableMain
    (routeScope route.scope) (routeType route.kind)
  let payload := pushAttrs (write info) (routeAttrs route)
  have hshort : ¬ payload.length < size RtMsg := Nat.not_lt.mpr (size_le_pushAttrs info _)
  have hinfo : read payload = info := read_pushAttrs info _
  have hvalues := length_routeAttrs_le route
  have hattrs := readAttrs_pushAttrs (fun a ha => Nat.lt_of_le_of_lt (hvalues.1 a ha) (by decide))
    (routeAttr route.family) (write info) .empty
  rw [length_write, foldlM_routeAttrs h] at hattrs
  have hfamily : familyFromU8 info.rtmFamily = some route.family :=
    familyFromU8_familyBytes route.family
  have hkind : routeKindFromU8 info.rtmType = route.kind := routeKind_routeType _ h.kind
  have htable : (if info.rtmTable = 0 then rtTableMain else info.rtmTable) = rtTableMain := rfl
  show parseRoute payload = _
  simp only [parseRoute, if_neg hshort, hinfo, hfamily, hkind, htable]
  rw [if_neg (not_not_intro rfl), if_neg (not_not_intro h.kind), hattrs]
  -- a default route has no destination attribute, and is read back as unspecified
  have hdestination : ((if isDefault route then none else some (ipBytes route.destination)).map
      (addressFromBytes route.family)).getD (unspecified route.family) = route.destination := by
    split
    · next hdefault =>
        rw [isDefault, Bool.and_eq_true, beq_iff_eq, beq_iff_eq] at hdefault
        exact hdefault.2.symm
    · rw [Option.map_some, Option.getD_some, ← h.destination, addressFromBytes_ipBytes]
  have hgateway : (route.gateway.map ipBytes).map (addressFromBytes route.family) =
      route.gateway := by
    cases hg : route.gateway with
    | none => rfl
    | some g =>
        show some (addressFromBytes route.family (ipBytes g)) = some g
        rw [← h.gateway g hg, addressFromBytes_ipBytes]
  have hoif : some (route.outputInterface.getD 0) = route.outputInterface := by
    obtain ⟨index, hindex⟩ := Option.ne_none_iff_exists'.mp h.outputInterface
    rw [hindex, Option.getD_some]
  have hscope : routeScopeFromU8 info.rtmScope = route.scope := routeScope_routeScope h.scope
  refine congrArg (fun r => Except.ok (some r)) ?_
  dsimp only
  rw [hdestination, hgateway, hoif, hscope]
  rfl

/-! ### Messages -/

/-- A message that is built around a payload of whole words is one record, and its event is what
is read. -/
theorem parseNetworkEvents_message {messageType flags : UInt16} {payload : List UInt8}
    {event : Option NetworkEvent} (hlength : 16 + payload.length < 2 ^ 32)
    (hdvd : 4 ∣ payload.length) (hdone : messageType ≠ nlmsgDone)
    (herror : messageType ≠ nlmsgError)
    (hevent : messageEvent (requestHeader messageType flags payload.length) payload = .ok event) :
    parseNetworkEvents (buildNetlinkMessage messageType flags payload) = .ok event.toList := by
  have hspan : span (requestHeader messageType flags payload.length) = 16 + payload.length := by
    show (UInt32.ofNat (16 + payload.length)).toNat = _
    rw [UInt32.toNat_ofNat', Nat.mod_eq_of_lt hlength]
  let m : Record NlMsgHdr :=
    .padded (requestHeader messageType flags payload.length) payload hspan
  have hpadding : m.padding = [] := by
    have halign : align (16 + payload.length) 4 = 16 + payload.length :=
      align_of_dvd (by decide) (Nat.dvd_add (by decide) hdvd)
    show List.replicate (align (span (requestHeader messageType flags payload.length)) 4 -
      span (requestHeader messageType flags payload.length)) 0 = []
    rw [hspan, halign, Nat.sub_self, List.replicate_zero]
  have hoctets : octets [m] = buildNetlinkMessage messageType flags payload := by
    show write m.header ++ (m.body ++ m.padding) ++ [] = _
    rw [hpadding, List.append_nil, List.append_nil]
    rfl
  have hparse : parseNetworkEvents (octets [m]) = .ok ([m].flatMap fun _ => event.toList) :=
    parseNetworkEvents_octets (by rintro _ (_ | ⟨_, ⟨⟩⟩); exact hdone)
      (by rintro _ (_ | ⟨_, ⟨⟩⟩); exact herror) (by rintro _ (_ | ⟨_, ⟨⟩⟩); exact hevent)
  rw [hoctets] at hparse
  rw [hparse, List.flatMap_singleton]

/-- A request about a route, read as a notification, is one message with one event or none. -/
theorem parseNetworkEvents_route {messageType flags : UInt16} {route : Route}
    (event : Option NetworkEvent) (hdone : messageType ≠ nlmsgDone)
    (herror : messageType ≠ nlmsgError)
    (hevent : ∀ header : NlMsgHdr, header.nlmsgType = messageType → header.nlmsgFlags = flags →
      messageEvent header (routePayload route) = .ok event) :
    parseNetworkEvents (buildRouteMessage messageType flags route) = .ok event.toList := by
  obtain ⟨hvalues, hcount⟩ := length_routeAttrs_le route
  have hlength := length_pushAttrs_le hvalues (write (rtMsg (familyBytes route.family)
    route.prefixLength rtTableMain (routeScope route.scope) (routeType route.kind)))
  have hdvd := dvd_length_pushAttrs (routeAttrs route) (m := write (rtMsg
    (familyBytes route.family) route.prefixLength rtTableMain (routeScope route.scope)
    (routeType route.kind))) (by rw [length_write]; exact ⟨3, rfl⟩)
  have hsize : size RtMsg = 12 := rfl
  rw [length_write, hsize] at hlength
  refine parseNetworkEvents_message ?_ hdvd hdone herror (hevent _ rfl rfl)
  show 16 + (pushAttrs _ (routeAttrs route)).length < 2 ^ 32
  omega

/-- A request about an address, read as a notification, is one message with one event or none. -/
theorem parseNetworkEvents_address {messageType flags : UInt16} (address : IpAddr)
    {prefixLength : UInt8} {index : Int32} (event : Option NetworkEvent)
    (hdone : messageType ≠ nlmsgDone) (herror : messageType ≠ nlmsgError)
    (hevent : ∀ header : NlMsgHdr, header.nlmsgType = messageType → header.nlmsgFlags = flags →
      messageEvent header (ifaddrPayload (familyBytes address.family) prefixLength index
        (addressAttrs (ipBytes address))) = .ok event) :
    parseNetworkEvents (buildNetlinkMessage messageType flags
      (ifaddrPayload (familyBytes address.family) prefixLength index
        (addressAttrs (ipBytes address)))) = .ok event.toList := by
  have hvalues : ∀ a ∈ addressAttrs (ipBytes address), a.2.length ≤ 16 := by
    intro a ha
    rcases List.mem_pair.mp ha with rfl | rfl <;> exact length_ipBytes_le address
  have hlength := length_pushAttrs_le hvalues
    (write (ifAddrMsg (familyBytes address.family) prefixLength index))
  have hdvd := dvd_length_pushAttrs (addressAttrs (ipBytes address)) (m := write
    (ifAddrMsg (familyBytes address.family) prefixLength index))
    (by rw [length_write]; exact ⟨2, rfl⟩)
  have hsize : size IfAddrMsg = 8 := rfl
  have hcount : (addressAttrs (ipBytes address)).length = 2 := rfl
  rw [length_write, hsize, hcount] at hlength
  refine parseNetworkEvents_message ?_ hdvd hdone herror (hevent _ rfl rfl)
  show 16 + (pushAttrs _ (addressAttrs (ipBytes address))).length < 2 ^ 32
  omega

/-- A request for a new route reads as its addition, or as its change if it does not create one. -/
theorem parseNetworkEvents_newroute {route : Route} (h : Requestable route) (flags : UInt16) :
    parseNetworkEvents (buildRouteMessage rtmNewroute flags route) =
      .ok [.route { kind := if flags &&& nlmFCreate ≠ 0 then .added else .changed, route }] := by
  refine parseNetworkEvents_route (some _) (by decide) (by decide)
    fun header htype hflags => ?_
  rw [messageEvent, htype, hflags, if_neg (by decide), if_neg (by decide), if_neg (by decide),
    if_neg (by decide), if_pos rfl, parseRoute_routePayload h]
  rfl

/-- A request to delete a route reads as its removal. -/
theorem parseNetworkEvents_delroute {route : Route} (h : Requestable route) (flags : UInt16) :
    parseNetworkEvents (buildRouteMessage rtmDelroute flags route) =
      .ok [.route { kind := .removed, route }] := by
  refine parseNetworkEvents_route (some _) (by decide) (by decide)
    fun header htype _ => ?_
  rw [messageEvent, htype, if_neg (by decide), if_neg (by decide), if_neg (by decide),
    if_neg (by decide), if_neg (by decide), if_pos rfl, parseRoute_routePayload h]
  rfl

/-- A request for a new address reads as its addition. -/
theorem parseNetworkEvents_addAddress (address : IpAddr) (prefixLength : UInt8) (index : Int32) :
    parseNetworkEvents (addAddressMessage (familyBytes address.family) prefixLength index
        (ipBytes address)) =
      .ok [.address { kind := .added, address :=
        { interfaceIndex := index.toUInt32, address, prefixLength } }] := by
  refine parseNetworkEvents_address address (some _) (by decide) (by decide)
    fun header htype _ => ?_
  rw [messageEvent, htype, if_neg (by decide), if_neg (by decide), if_pos rfl,
    parseAddress_ifaddrPayload]
  rfl

/-- A request to delete an address reads as its removal. -/
theorem parseNetworkEvents_removeAddress (address : IpAddr) (prefixLength : UInt8)
    (index : Int32) :
    parseNetworkEvents (removeAddressMessage (familyBytes address.family) prefixLength index
        (ipBytes address)) =
      .ok [.address { kind := .removed, address :=
        { interfaceIndex := index.toUInt32, address, prefixLength } }] := by
  refine parseNetworkEvents_address address (some _) (by decide) (by decide)
    fun header htype _ => ?_
  rw [messageEvent, htype, if_neg (by decide), if_neg (by decide), if_neg (by decide),
    if_pos rfl, parseAddress_ifaddrPayload]
  rfl

/-- **Requests decode to what was asked.**  A route that a request can carry whole comes back from
the messages that add and remove it, and so does every address. -/
theorem requests_decode {route : Route} (h : Requestable route) (flags : UInt16)
    (address : IpAddr) (prefixLength : UInt8) (index : Int32) :
    parseNetworkEvents (buildRouteMessage rtmNewroute flags route) =
        .ok [.route { kind := if flags &&& nlmFCreate ≠ 0 then .added else .changed, route }] ∧
      parseNetworkEvents (buildRouteMessage rtmDelroute flags route) =
        .ok [.route { kind := .removed, route }] ∧
      parseNetworkEvents (addAddressMessage (familyBytes address.family) prefixLength index
          (ipBytes address)) =
        .ok [.address { kind := .added, address :=
          { interfaceIndex := index.toUInt32, address, prefixLength } }] ∧
      parseNetworkEvents (removeAddressMessage (familyBytes address.family) prefixLength index
          (ipBytes address)) =
        .ok [.address { kind := .removed, address :=
          { interfaceIndex := index.toUInt32, address, prefixLength } }] :=
  ⟨parseNetworkEvents_newroute h flags, parseNetworkEvents_delroute h flags,
    parseNetworkEvents_addAddress address prefixLength index,
    parseNetworkEvents_removeAddress address prefixLength index⟩

/-- The default route through `10.0.0.1`, with the metric 0. -/
def gatewayOfTen : Route where
  family := .v4
  destination := .v4 .unspecified
  prefixLength := 0
  gateway := some (.v4 (.new 10 0 0 1))
  outputInterface := some 7
  metric := some 0
  kind := .unicast
  scope := .universe

omit [Native] in
/-- The default route through `10.0.0.1` can be asked for. -/
theorem gatewayOfTen_requestable : Requestable gatewayOfTen where
  destination := rfl
  gateway := by rintro g ⟨⟩; rfl
  outputInterface := by decide
  kind := .inl rfl
  scope := by rintro value ⟨⟩

omit [Native] in
theorem requests_decode_gatewayOfTen :
    let _ : Native := littleMachine
    parseNetworkEvents (buildRouteMessage rtmNewroute nlmFCreate gatewayOfTen) =
      .ok [.route { kind := .added, route := gatewayOfTen }] :=
  let _ : Native := littleMachine
  (requests_decode gatewayOfTen_requestable nlmFCreate (.v4 (.new 10 0 0 5)) 24 7).1

/-- `10.10.0.0/16` through `10.0.0.1` on interface 7. -/
def siteOfTen : Route where
  family := .v4
  destination := .v4 (.new 10 10 0 0)
  prefixLength := 16
  gateway := some (.v4 (.new 10 0 0 1))
  outputInterface := some 7
  metric := none
  kind := .unicast
  scope := .link

omit [Native] in
/-- The route to `10.10.0.0/16` can be asked for. -/
theorem siteOfTen_requestable : Requestable siteOfTen where
  destination := rfl
  gateway := by rintro g ⟨⟩; rfl
  outputInterface := by decide
  kind := .inl rfl
  scope := by rintro value ⟨⟩

end NetworkManager.Netlink
