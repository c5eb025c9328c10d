import NetworkManager.Support.Framing
import NetworkManager.Support.Panics
import NetworkManager.Support.Results
import NetworkManager.Linux.Netlink

/-!
# Linux — Netlink — Safety

The rtnetlink parsers on any octets.

* `…Checked`: the parsers of `Netlink` with every index, slice, copy and sum checked.  `Calms`,
  `calms`: none of them panics, and each comes to what the parser comes to.
* `Framing buf messages`: the messages of a datagram, up to `NLMSG_DONE` or to its end.
* `eventsFramed`: `parse_network_events` returns the events of these messages and of nothing else.
* `dumpFramed_iff`: a dump parser lists the items of these messages, unless it passes over a part
  of a header at the end (`Leftover`).
-/

namespace NetworkManager.Netlink

open Records Octets Layout Header Panics

/-! ### Values -/

/-- `value[..end]`, up to the first NUL. -/
def textFromBytesChecked (value : List UInt8) : Option String := do
  let text ← range value 0 (value.findIdx (· = 0))
  return String.ofList (Text.fromUtf8Lossy text)

/-- A text is read without a panic. -/
theorem textFromBytesChecked_eq (value : List UInt8) :
    textFromBytesChecked value = some (textFromBytes value) := by
  rw [textFromBytesChecked, range_findIdx]
  rfl

/-- `address_from_bytes`. -/
def addressFromBytesChecked (family : IpFamily) (bytes : List UInt8) : Option IpAddr :=
  match family with
  | .v4 => do
    return .v4 (.new (← index bytes 0) (← index bytes 1) (← index bytes 2) (← index bytes 3))
  | .v6 => do
    let octets ← copied 16 bytes 0 16
    return .v6 (BitVec.ofNat 128 (ofBigEndian octets.toList))

/-- The address at the end of `parse_address`: its octets one by one, or copied as they are. -/
def addressChecked (family : IpFamily) (bytes : List UInt8) : Option IpAddr :=
  match family with
  | .v4 => do
    return .v4 (.new (← index bytes 0) (← index bytes 1) (← index bytes 2) (← index bytes 3))
  | .v6 => do
    let octets ← sized 16 bytes
    return .v6 (BitVec.ofNat 128 (ofBigEndian octets.toList))

/-- As many octets as an address of the family has. -/
def Sized (family : IpFamily) (bytes : Option (List UInt8)) : Prop :=
  ∀ b ∈ bytes, b.length = expectedLen family

/-- An address of the length of its family is read without a panic. -/
theorem addressFromBytesChecked_eq {family : IpFamily} {bytes : List UInt8}
    (h : bytes.length = expectedLen family) :
    addressFromBytesChecked family bytes = some (addressFromBytes family bytes) := by
  cases family with
  | v4 =>
      obtain ⟨a, b, c, d, rfl⟩ := List.length_eq_four.mp h
      rfl
  | v6 =>
      have hcopied : copied 16 bytes 0 16 = some (slice bytes 0 16 (Nat.le_of_eq h.symm)) :=
        copied_eq (Nat.le_of_eq h.symm)
      rw [addressFromBytesChecked, hcopied]
      rfl

/-- The same for an address with its length checked before. -/
theorem addressChecked_eq {family : IpFamily} {bytes : List UInt8}
    (h : bytes.length = expectedLen family) :
    addressChecked family bytes = some (addressFromBytes family bytes) := by
  cases family with
  | v4 => exact addressFromBytesChecked_eq h
  | v6 =>
      have htake : bytes.take 16 = bytes := List.take_of_length_le (Nat.le_of_eq h)
      have hsized : sized 16 bytes = some ⟨bytes, h⟩ := sized_eq h
      rw [addressChecked, hsized, addressFromBytes, htake]
      rfl

/-- The same for an address that may be missing. -/
theorem mapM_addressFromBytes {family : IpFamily} {bytes : Option (List UInt8)}
    (h : Sized family bytes) :
    bytes.mapM (addressFromBytesChecked family) = some (bytes.map (addressFromBytes family)) := by
  cases bytes with
  | none => rfl
  | some bytes =>
      rw [Option.mapM_some, addressFromBytesChecked_eq (h bytes rfl)]
      rfl

/-- What the address attributes leave behind has the length of the family. -/
theorem addressAttr_sized {family : IpFamily} {bytes bytes' : Option (List UInt8)}
    {rtaType : UInt16} {value : List UInt8} (hbytes : Sized family bytes)
    (h : addressAttr family bytes rtaType value = .ok bytes') : Sized family bytes' := by
  rw [addressAttr] at h
  split_ifs at h with hattr hlength
  · cases h
    rintro b ⟨⟩
    exact not_not.mp hlength
  · cases h
    exact hbytes

/-! ### Items -/

/-- Keeps what is found in each message. -/
def keepFound {T : Type} (found : NlMsgHdr → List UInt8 → Except NetlinkError (Option T))
    (kept : List T) (header : NlMsgHdr) (payload : List UInt8) : Except NetlinkError (List T) := do
  return kept ++ (← found header payload).toList

/-- What a dump parser finds in a message. -/
def dumpItem {T : Type} (messageType : UInt16)
    (parse : List UInt8 → Except NetlinkError (Option T)) (header : NlMsgHdr)
    (payload : List UInt8) : Except NetlinkError (Option T) :=
  if header.nlmsgType = messageType then parse payload else .ok none

/-- An item is kept if the message has the type of the dump and the parser finds it. -/
theorem keepItem_eq {T : Type} (messageType : UInt16)
    (parse : List UInt8 → Except NetlinkError (Option T)) :
    keepItem messageType parse = keepFound (dumpItem messageType parse) := by
  funext kept header payload
  rw [keepItem, keepFound, dumpItem]
  by_cases htype : header.nlmsgType = messageType
  · rw [if_pos htype, if_pos htype]
  · rw [if_neg htype, if_neg htype]
    exact congrArg Except.ok (List.append_nil kept).symm

section Wire
variable [Native]

/-! ### Payloads -/

/-- `parse_kernel_error_code`. -/
def parseKernelErrorCodeChecked (payload : List UInt8) : Panicking NetlinkError Int32 :=
  if payload.length < 4 then throw (.malformedMessage "short nlmsgerr")
  else do
    let bytes ← copied 4 payload 0 4
    return (u32 bytes.toList 0).toInt32

/-- `parse_kernel_error`. -/
def parseKernelErrorChecked (payload : List UInt8) : Option NetlinkError :=
  (parseKernelErrorCodeChecked payload).run.map fun
    | .ok code => .kernel code
    | .error err => err

/-- The loop over the attributes of a payload. -/
def readAttrsChecked {σ : Type} (step : σ → UInt16 → List UInt8 → Panicking NetlinkError σ)
    (payload : List UInt8) (offset : ℕ) (s : σ) : Panicking NetlinkError σ :=
  (fun r => (unended r).1) <$>
    walkChecked (α := RtAttr) (.malformedMessage "invalid rtattr length")
      (fun s attr value => Sum.inl <$> step s attr.rtaType value) payload (payload.length + 5)
      offset s

/-- `parse_link`. -/
def parseLinkChecked (payload : List UInt8) : Panicking NetlinkError (Option Link) :=
  if payload.length < size IfInfoMsg then throw (.malformedMessage "short ifinfomsg")
  else do
    let info ← (readChecked payload : Option IfInfoMsg)
    let name ← readAttrsChecked
      (fun name rtaType value =>
        if rtaType = iflaIfname then do return some (← textFromBytesChecked value)
        else return name)
      payload (size IfInfoMsg) none
    return name.map fun name => { index := info.ifiIndex, name, flags := info.ifiFlags }

/-- `parse_address`. -/
def parseAddressChecked (payload : List UInt8) : Panicking NetlinkError (Option Address) :=
  if payload.length < size IfAddrMsg then throw (.malformedMessage "short ifaddrmsg")
  else do
    let info ← (readChecked payload : Option IfAddrMsg)
    match familyFromU8 info.ifaFamily with
    | none => return none
    | some family =>
      let addressBytes ← readAttrsChecked
        (fun addressBytes rtaType value => quiet (addressAttr family addressBytes rtaType value))
        payload (size IfAddrMsg) none
      match addressBytes with
      | none => return none
      | some bytes =>
        let address ← addressChecked family bytes
        return some { interfaceIndex := info.ifaIndex, address, prefixLength := info.ifaPrefixlen }

/-- An attribute of `parse_route`. -/
def routeAttrChecked (family : IpFamily) (attrs : RouteAttrs) (rtaType : UInt16)
    (value : List UInt8) : Panicking NetlinkError RouteAttrs :=
  if rtaType = rtaDst then
    if value.length ≠ expectedLen family then
      throw (.malformedMessage "invalid route destination length")
    else return { attrs with destination := some value }
  else if rtaType = rtaGateway then
    if value.length ≠ expectedLen family then
      throw (.malformedMessage "invalid route gateway length")
    else return { attrs with gateway := some value }
  else if rtaType = rtaOif then
    if value.length ≠ 4 then throw (.malformedMessage "invalid route oif length")
    else do
      let bytes ← sized 4 value
      return { attrs with outputInterface := some (u32 bytes.toList 0).toInt32 }
  else if rtaType = rtaPriority then
    if value.length ≠ 4 then throw (.malformedMessage "invalid route metric length")
    else do
      let bytes ← sized 4 value
      return { attrs with metric := some (u32 bytes.toList 0) }
  else return attrs

/-- `parse_route`. -/
def parseRouteChecked (payload : List UInt8) : Panicking NetlinkError (Option Route) :=
  if payload.length < size RtMsg then throw (.malformedMessage "short rtmsg")
  else do
    let info ← (readChecked payload : Option RtMsg)
    match familyFromU8 info.rtmFamily with
    | none => return none
    | some family =>
      let table := if info.rtmTable = 0 then rtTableMain else info.rtmTable
      let kind := routeKindFromU8 info.rtmType
      if table ≠ rtTableMain then return none
      else if ¬ (kind = .unicast ∨ kind = .blackhole ∨ kind = .unreachable) then return none
      else do
        let attrs ← readAttrsChecked (routeAttrChecked family) payload (size RtMsg) .empty
        let destination ← (attrs.destination.mapM (addressFromBytesChecked family) :
          Option (Option IpAddr))
        let gateway ← (attrs.gateway.mapM (addressFromBytesChecked family) :
          Option (Option IpAddr))
        return some
          { family
            destination := destination.getD (unspecified family)
            prefixLength := info.rtmDstLen
            gateway
            outputInterface := attrs.outputInterface
            metric := attrs.metric
            kind
            scope := routeScopeFromU8 info.rtmScope }

/-- The error code of the kernel is read without a panic. -/
theorem calm_parseKernelErrorCode (payload : List UInt8) :
    Calm (parseKernelErrorCodeChecked payload) (parseKernelErrorCode payload) := by
  refine calm_ite (fun _ => calm_throw _) fun hlong => ?_
  have hcopied : copied 4 payload 0 4 = some (slice payload 0 4 (by omega)) := copied_eq (by omega)
  refine calm_step (calm_lift hcopied) ?_
  have hfield : u32 (slice payload 0 4 (by omega)).toList 0 = u32 payload 0 := by
    rw [u32, u32, field, field]
    show UInt32.ofNat (ofNative ((((payload.drop 0).take 4).drop 0).take 4)) = _
    rw [List.drop_zero, List.take_take, List.drop_zero, Nat.min_self]
  rw [hfield]
  exact calm_pure _

/-- So is the error that it stands for. -/
theorem parseKernelErrorChecked_eq (payload : List UInt8) :
    parseKernelErrorChecked payload = some (parseKernelError payload) := by
  rw [parseKernelErrorChecked, calm_parseKernelErrorCode payload, parseKernelError]
  cases parseKernelErrorCode payload <;> rfl

/-- The attributes of a payload are read without a panic, if each of them is. -/
theorem calm_readAttrs {σ : Type} {step : σ → UInt16 → List UInt8 → Panicking NetlinkError σ}
    {step' : σ → UInt16 → List UInt8 → Except NetlinkError σ} {payload : List UInt8} {offset : ℕ}
    (hpayload : payload.length < 2 ^ 63) (hoffset : offset ≤ payload.length)
    (hstep : ∀ s rtaType value, Calm (step s rtaType value) (step' s rtaType value)) (s : σ) :
    Calm (readAttrsChecked step payload offset s) (readAttrs step' payload offset s) := by
  have hspan (attr : RtAttr) : span attr < 2 ^ 32 := attr.rtaLen.toNat_lt.trans (by decide)
  have hwalk := calm_walk (α := RtAttr) (ρ := Empty) (.malformedMessage "invalid rtattr length")
    hpayload (fun s attr value _ => calm_map Sum.inl (hstep s attr.rtaType value)) hspan
    (show 4 < 2 ^ 32 by decide) (show 4 < 2 ^ 32 by decide) s
    (show payload.length + 4 < offset + (payload.length + 5) by omega)
    (show offset ≤ payload.length + 4 by omega)
  refine calm_congr (calm_map (fun r : (σ × ℕ) ⊕ Empty => (unended r).1) hwalk) ?_
  rw [readAttrs]
  cases walk (α := RtAttr) (.malformedMessage "invalid rtattr length")
    (fun s attr value => (step' s attr.rtaType value).map .inl) payload offset s with
  | error e => rfl
  | ok r =>
      rcases r with s | r
      · rfl
      · exact r.elim

/-- What every attribute keeps, the loop over the attributes keeps. -/
theorem readAttrs_invariant {σ : Type} {step : σ → UInt16 → List UInt8 → Except NetlinkError σ}
    (I : σ → Prop) (hstep : ∀ s rtaType value s', I s → step s rtaType value = .ok s' → I s')
    {payload : List UInt8} {offset : ℕ} {s s' : σ} (hs : I s)
    (h : readAttrs step payload offset s = .ok s') : I s' := by
  rw [readAttrs] at h
  cases hwalk : walk (α := RtAttr) (.malformedMessage "invalid rtattr length")
    (fun s attr value => (step s attr.rtaType value).map .inl) payload offset s with
  | error e =>
      rw [hwalk] at h
      cases h
  | ok r =>
      rw [hwalk] at h
      rcases r with ⟨s₁, stop⟩ | r
      · cases h
        refine walk_invariant I (fun s attr value s' hs hnext => ?_) hs hwalk
        cases hattr : step s attr.rtaType value with
        | error e =>
            rw [hattr] at hnext
            cases hnext
        | ok s₂ =>
            rw [hattr] at hnext
            obtain rfl : s₂ = s' := Sum.inl.inj (Except.ok.inj hnext)
            exact hstep s attr.rtaType value s₂ hs hattr
      · exact r.elim

/-- A link message is read without a panic. -/
theorem calm_parseLink {payload : List UInt8} (hpayload : payload.length < 2 ^ 63) :
    Calm (parseLinkChecked payload) (parseLink payload) := by
  refine calm_ite (fun _ => calm_throw _) fun hlong => ?_
  refine calm_step (calm_lift (readChecked_eq hlong)) ?_
  refine calm_bind (calm_readAttrs hpayload (not_lt.mp hlong) (fun name rtaType value => ?_) none)
    fun name _ => calm_pure _
  by_cases hname : rtaType = iflaIfname
  · rw [if_pos hname, if_pos hname]
    exact calm_step (calm_lift (textFromBytesChecked_eq value)) (calm_pure _)
  · rw [if_neg hname, if_neg hname]
    exact calm_pure _

/-- The destination and the gateway that the attributes leave behind have the length of the family.
-/
theorem routeAttr_sized {family : IpFamily} {attrs attrs' : RouteAttrs} {rtaType : UInt16}
    {value : List UInt8} (hattrs : Sized family attrs.destination ∧ Sized family attrs.gateway)
    (h : routeAttr family attrs rtaType value = .ok attrs') :
    Sized family attrs'.destination ∧ Sized family attrs'.gateway := by
  rw [routeAttr] at h
  split_ifs at h with _ hlength _ hlength
  · cases h
    refine ⟨?_, hattrs.2⟩
    rintro b ⟨⟩
    exact not_not.mp hlength
  · cases h
    refine ⟨hattrs.1, ?_⟩
    rintro b ⟨⟩
    exact not_not.mp hlength
  all_goals
    cases h
    exact hattrs

/-- An address message is read without a panic. -/
theorem calm_parseAddress {payload : List UInt8} (hpayload : payload.length < 2 ^ 63) :
    Calm (parseAddressChecked payload) (parseAddress payload) := by
  refine calm_ite (fun _ => calm_throw _) fun hlong => ?_
  refine calm_step (calm_lift (readChecked_eq hlong)) ?_
  dsimp only
  cases familyFromU8 (read payload : IfAddrMsg).ifaFamily with
  | none => exact calm_pure _
  | some family =>
      refine calm_bind (calm_readAttrs hpayload (not_lt.mp hlong) (fun _ _ _ => calm_quiet _) none)
        fun bytes hbytes => ?_
      have hsized : Sized family bytes := by
        refine readAttrs_invariant (Sized family) (fun _ _ _ _ => addressAttr_sized) ?_ hbytes
        exact nofun
      cases bytes with
      | none => exact calm_pure _
      | some bytes => exact calm_step (calm_lift (addressChecked_eq (hsized bytes rfl))) (calm_pure _)

/-- A route attribute is read without a panic. -/
theorem calm_routeAttr (family : IpFamily) (attrs : RouteAttrs) (rtaType : UInt16)
    (value : List UInt8) :
    Calm (routeAttrChecked family attrs rtaType value) (routeAttr family attrs rtaType value) := by
  refine calm_ite (fun _ => calm_ite (fun _ => calm_throw _) fun _ => calm_pure _) fun _ => ?_
  refine calm_ite (fun _ => calm_ite (fun _ => calm_throw _) fun _ => calm_pure _) fun _ => ?_
  refine calm_ite (fun _ => calm_ite (fun _ => calm_throw _) fun hvalue => ?_) fun _ => ?_
  · exact calm_step (calm_lift (sized_eq (not_not.mp hvalue))) (calm_pure _)
  refine calm_ite (fun _ => calm_ite (fun _ => calm_throw _) fun hvalue => ?_) fun _ => calm_pure _
  exact calm_step (calm_lift (sized_eq (not_not.mp hvalue))) (calm_pure _)

/-- A route message is read without a panic. -/
theorem calm_parseRoute {payload : List UInt8} (hpayload : payload.length < 2 ^ 63) :
    Calm (parseRouteChecked payload) (parseRoute payload) := by
  refine calm_ite (fun _ => calm_throw _) fun hlong => ?_
  refine calm_step (calm_lift (readChecked_eq hlong)) ?_
  dsimp only
  cases familyFromU8 (read payload : RtMsg).rtmFamily with
  | none => exact calm_pure _
  | some family =>
      refine calm_ite (fun _ => calm_pure _) fun _ => ?_
      refine calm_ite (fun _ => calm_pure _) fun _ => ?_
      refine calm_bind
        (calm_readAttrs hpayload (not_lt.mp hlong) (calm_routeAttr family) RouteAttrs.empty)
        fun attrs hattrs => ?_
      have hsized : Sized family attrs.destination ∧ Sized family attrs.gateway := by
        refine readAttrs_invariant _ (fun _ _ _ _ => routeAttr_sized) ?_ hattrs
        exact ⟨nofun, nofun⟩
      refine calm_step (calm_lift (mapM_addressFromBytes hsized.1)) ?_
      exact calm_step (calm_lift (mapM_addressFromBytes hsized.2)) (calm_pure _)

/-! ### Datagrams -/

/-- One message. -/
def messageStepChecked {σ : Type} (keep : σ → NlMsgHdr → List UInt8 → Panicking NetlinkError σ)
    (s : σ) (header : NlMsgHdr) (payload : List UInt8) : Panicking NetlinkError (σ ⊕ σ) :=
  if header.nlmsgType = nlmsgDone then return .inr s
  else if header.nlmsgType = nlmsgError then do
    let err ← parseKernelErrorChecked payload
    throw err
  else Sum.inl <$> keep s header payload

/-- The loop over the messages of a datagram. -/
def parseMessagesChecked {σ : Type} (keep : σ → NlMsgHdr → List UInt8 → Panicking NetlinkError σ)
    (buf : List UInt8) (s : σ) : Panicking NetlinkError ((σ × ℕ) ⊕ σ) :=
  walkChecked (.malformedMessage "invalid nlmsghdr length") (messageStepChecked keep) buf
    (buf.length + 5) 0 s

/-- Keeping an item, with the reads checked. -/
def keepItemChecked {T : Type} (messageType : UInt16)
    (parse : List UInt8 → Panicking NetlinkError (Option T)) (kept : List T) (header : NlMsgHdr)
    (payload : List UInt8) : Panicking NetlinkError (List T) :=
  if header.nlmsgType = messageType then do return kept ++ (← parse payload).toList
  else return kept

/-- A dump, with the reads checked. -/
def parseDumpChecked {T : Type} (messageType : UInt16)
    (parse : List UInt8 → Panicking NetlinkError (Option T)) (buf : List UInt8) (kept : List T) :
    Panicking NetlinkError (List T × Bool) := do
  match ← parseMessagesChecked (keepItemChecked messageType parse) buf kept with
  | .inl (kept, _) => return (kept, false)
  | .inr kept => return (kept, true)

/-- `parse_link_messages`. -/
def parseLinkMessagesChecked :
    List UInt8 → List Link → Panicking NetlinkError (List Link × Bool) :=
  parseDumpChecked rtmNewlink parseLinkChecked

/-- `parse_address_messages`. -/
def parseAddressMessagesChecked :
    List UInt8 → List Address → Panicking NetlinkError (List Address × Bool) :=
  parseDumpChecked rtmNewaddr parseAddressChecked

/-- `parse_route_messages`. -/
def parseRouteMessagesChecked :
    List UInt8 → List Route → Panicking NetlinkError (List Route × Bool) :=
  parseDumpChecked rtmNewroute parseRouteChecked

/-- A message of `parse_network_events`. -/
def messageEventChecked (header : NlMsgHdr) (payload : List UInt8) :
    Panicking NetlinkError (Option NetworkEvent) :=
  let created := header.nlmsgFlags &&& nlmFCreate ≠ 0
  if header.nlmsgType = rtmNewlink then do
    return (← parseLinkChecked payload).map fun link =>
      .link { kind := if created then .created else .changed, link }
  else if header.nlmsgType = rtmDellink then do
    return (← parseLinkChecked payload).map fun link => .link { kind := .removed, link }
  else if header.nlmsgType = rtmNewaddr then do
    return (← parseAddressChecked payload).map fun address => .address { kind := .added, address }
  else if header.nlmsgType = rtmDeladdr then do
    return (← parseAddressChecked payload).map fun address =>
      .address { kind := .removed, address }
  else if header.nlmsgType = rtmNewroute then do
    return (← parseRouteChecked payload).map fun route =>
      .route { kind := if created then .added else .changed, route }
  else if header.nlmsgType = rtmDelroute then do
    return (← parseRouteChecked payload).map fun route => .route { kind := .removed, route }
  else return none

/-- Keeping an event, with the reads checked. -/
def keepEventChecked (events : List NetworkEvent) (header : NlMsgHdr) (payload : List UInt8) :
    Panicking NetlinkError (List NetworkEvent) := do
  return events ++ (← messageEventChecked header payload).toList

/-- `parse_network_events`. -/
def parseNetworkEventsChecked (buf : List UInt8) :
    Panicking NetlinkError (List NetworkEvent) := do
  match ← parseMessagesChecked keepEventChecked buf [] with
  | .inl (events, offset) =>
      if offset ≠ buf.length then throw (.malformedMessage "trailing partial nlmsghdr")
      else return events
  | .inr events => return events

/-- The messages of a datagram are walked without a panic, if each of them is kept without one. -/
theorem calm_parseMessages {σ : Type}
    {keep : σ → NlMsgHdr → List UInt8 → Panicking NetlinkError σ}
    {keep' : σ → NlMsgHdr → List UInt8 → Except NetlinkError σ} {buf : List UInt8}
    (hbuf : buf.length < 2 ^ 63)
    (hkeep : ∀ s header payload, payload.length < 2 ^ 63 →
      Calm (keep s header payload) (keep' s header payload)) (s : σ) :
    Calm (parseMessagesChecked keep buf s) (parseMessages keep' buf s) := by
  have hspan (header : NlMsgHdr) : span header < 2 ^ 32 := header.nlmsgLen.toNat_lt
  refine calm_walk _ hbuf (fun s header payload hpayload => ?_) hspan
    (show 16 < 2 ^ 32 by decide) (show 4 < 2 ^ 32 by decide) s
    (show buf.length + 4 < 0 + (buf.length + 5) by omega) (Nat.zero_le _)
  refine calm_ite (fun _ => calm_pure _) fun _ => calm_ite (fun _ => ?_) fun _ => ?_
  · exact calm_step (calm_lift (parseKernelErrorChecked_eq payload)) (calm_throw _)
  · exact calm_map Sum.inl (hkeep s header payload (Nat.lt_of_le_of_lt hpayload hbuf))

/-- A dump is read without a panic, if its items are. -/
theorem calm_parseDump {T : Type} {messageType : UInt16}
    {parse : List UInt8 → Panicking NetlinkError (Option T)}
    {parse' : List UInt8 → Except NetlinkError (Option T)}
    (hparse : ∀ payload : List UInt8, payload.length < 2 ^ 63 →
      Calm (parse payload) (parse' payload)) (b : Slice) (kept : List T) :
    Calm (parseDumpChecked messageType parse b.bytes kept)
      (parseDump messageType parse' b.bytes kept) := by
  have hkeep (kept : List T) (header : NlMsgHdr) (payload : List UInt8)
      (hpayload : payload.length < 2 ^ 63) :
      Calm (keepItemChecked messageType parse kept header payload)
        (keepItem messageType parse' kept header payload) :=
    calm_ite (fun _ => calm_bind (hparse payload hpayload) fun _ _ => calm_pure _)
      fun _ => calm_pure _
  refine calm_bind (calm_parseMessages b.fits hkeep kept) fun r _ => ?_
  rcases r with ⟨kept, stop⟩ | kept
  · exact calm_pure _
  · exact calm_pure _

/-- An event is read without a panic. -/
theorem calm_messageEvent (header : NlMsgHdr) {payload : List UInt8}
    (hpayload : payload.length < 2 ^ 63) :
    Calm (messageEventChecked header payload) (messageEvent header payload) := by
  have hlink (f : Link → NetworkEvent) :
      Calm (do return (← parseLinkChecked payload).map f)
        (do return (← parseLink payload).map f) :=
    calm_bind (calm_parseLink hpayload) fun _ _ => calm_pure _
  have haddress (f : Address → NetworkEvent) :
      Calm (do return (← parseAddressChecked payload).map f)
        (do return (← parseAddress payload).map f) :=
    calm_bind (calm_parseAddress hpayload) fun _ _ => calm_pure _
  have hroute (f : Route → NetworkEvent) :
      Calm (do return (← parseRouteChecked payload).map f)
        (do return (← parseRoute payload).map f) :=
    calm_bind (calm_parseRoute hpayload) fun _ _ => calm_pure _
  refine calm_ite (fun _ => hlink _) fun _ => calm_ite (fun _ => hlink _) fun _ => ?_
  refine calm_ite (fun _ => haddress _) fun _ => calm_ite (fun _ => haddress _) fun _ => ?_
  exact calm_ite (fun _ => hroute _) fun _ => calm_ite (fun _ => hroute _) fun _ => calm_pure _

/-- The events of a datagram are read without a panic. -/
theorem calm_parseNetworkEvents (b : Slice) :
    Calm (parseNetworkEventsChecked b.bytes) (parseNetworkEvents b.bytes) := by
  have hkeep (events : List NetworkEvent) (header : NlMsgHdr) (payload : List UInt8)
      (hpayload : payload.length < 2 ^ 63) :
      Calm (keepEventChecked events header payload) (keepEvent events header payload) :=
    calm_bind (calm_messageEvent header hpayload) fun _ _ => calm_pure _
  refine calm_bind (calm_parseMessages b.fits hkeep []) fun r _ => ?_
  rcases r with ⟨events, stop⟩ | events
  · exact calm_ite (fun _ => calm_throw _) fun _ => calm_pure _
  · exact calm_pure _

/-- No parser panics on the octets of a slice, and each comes to what it comes to. -/
structure Calms (b : Slice) : Prop where
  events : Calm (parseNetworkEventsChecked b.bytes) (parseNetworkEvents b.bytes)
  links : ∀ links,
    Calm (parseLinkMessagesChecked b.bytes links) (parseLinkMessages b.bytes links)
  addresses : ∀ addresses,
    Calm (parseAddressMessagesChecked b.bytes addresses) (parseAddressMessages b.bytes addresses)
  routes : ∀ routes,
    Calm (parseRouteMessagesChecked b.bytes routes) (parseRouteMessages b.bytes routes)
  link : Calm (parseLinkChecked b.bytes) (parseLink b.bytes)
  address : Calm (parseAddressChecked b.bytes) (parseAddress b.bytes)
  route : Calm (parseRouteChecked b.bytes) (parseRoute b.bytes)
  kernelError : parseKernelErrorChecked b.bytes = some (parseKernelError b.bytes)

/-- Every parser is calm on every slice. -/
theorem calms (b : Slice) : Calms b where
  events := calm_parseNetworkEvents b
  links := calm_parseDump (fun _ => calm_parseLink) b
  addresses := calm_parseDump (fun _ => calm_parseAddress) b
  routes := calm_parseDump (fun _ => calm_parseRoute) b
  link := calm_parseLink b.fits
  address := calm_parseAddress b.fits
  route := calm_parseRoute b.fits
  kernelError := parseKernelErrorChecked_eq b.bytes

/-! ### Framing -/

/-- `NLMSG_DONE`. -/
def IsDone (m : Place NlMsgHdr) : Prop := m.header.nlmsgType = nlmsgDone

/-- The messages of a datagram: one behind another from its beginning on, each at the next multiple
of four, up to `NLMSG_DONE` or to the end. -/
inductive Framing (buf : List UInt8) : List (Place NlMsgHdr) → Prop where
  | whole {messages : List (Place NlMsgHdr)} {stop : ℕ} (chain : Chain buf 0 messages stop)
      (hnone : ∀ m ∈ messages, ¬ IsDone m) (hend : buf.length ≤ stop) : Framing buf messages
  | done {messages : List (Place NlMsgHdr)} {last : Place NlMsgHdr} {stop : ℕ}
      (chain : Chain buf 0 (messages ++ [last]) stop) (hnone : ∀ m ∈ messages, ¬ IsDone m)
      (hlast : IsDone last) : Framing buf (messages ++ [last])

namespace Framing

variable {buf : List UInt8} {messages rest others : List (Place NlMsgHdr)}

/-- A framing is a chain of messages from the start of the datagram. -/
theorem chain_stop (h : Framing buf messages) : ∃ stop, Chain buf 0 messages stop := by
  cases h with
  | whole chain => exact ⟨_, chain⟩
  | done chain => exact ⟨_, chain⟩

/-- `NLMSG_DONE` can only be the last message of a framing. -/
theorem not_done_before (h : Framing buf messages) : ∀ m ∈ messages.dropLast, ¬ IsDone m := by
  cases h with
  | whole _ hnone => exact fun m hm => hnone m (List.mem_of_mem_dropLast hm)
  | done _ hnone => rwa [List.dropLast_concat]

/-- No framing goes on where another one stops. -/
theorem nothing_behind (h : Framing buf messages) (h' : Framing buf (messages ++ rest)) :
    rest = [] := by
  by_contra hrest
  have hbefore := h'.not_done_before
  rw [List.dropLast_append_of_ne_nil hrest] at hbefore
  cases h with
  | whole chain _ hend =>
      obtain ⟨stop', hall⟩ := h'.chain_stop
      obtain ⟨middle, hmessages, hmore⟩ := hall.split
      obtain rfl := chain.stop_unique hmessages
      cases hmore with
      | nil => exact hrest rfl
      | cons hp _ =>
          have hfits := hp.fits
          have hpos : 0 < size NlMsgHdr := size_pos
          omega
  | done _ _ hlast => exact hbefore _ (by simp) hlast

/-- A datagram has one framing at most. -/
theorem unique (h : Framing buf messages) (h' : Framing buf others) : messages = others := by
  obtain ⟨stop, hchain⟩ := h.chain_stop
  obtain ⟨stop', hchain'⟩ := h'.chain_stop
  rcases hchain.comparable hchain' with ⟨rest, rfl, -⟩ | ⟨rest, rfl, -⟩
  · rw [h.nothing_behind h', List.append_nil]
  · rw [h'.nothing_behind h, List.append_nil]

end Framing

/-! ### What the walkers consume -/

section Walkers

variable {T : Type} (found : NlMsgHdr → List UInt8 → Except NetlinkError (Option T))

/-- A message the walker goes on behind. -/
structure Passed (m : Place NlMsgHdr) : Prop where
  not_done : ¬ IsDone m
  not_error : m.header.nlmsgType ≠ nlmsgError
  accepted : ∃ item, found m.header m.body = .ok item

/-- What is found in a message; in `NLMSG_DONE`, nothing. -/
def listed (m : Place NlMsgHdr) : Option T :=
  if m.header.nlmsgType = nlmsgDone then none else (found m.header m.body).toOption.join

/-- The walker has consumed the messages of the datagram, and them only: each of them was accepted,
and what was kept is what was found in them, in order. -/
structure Consumed (buf : List UInt8) (kept kept' : List T) (messages : List (Place NlMsgHdr)) :
    Prop where
  framing : Framing buf messages
  accepted : ∀ m ∈ messages, IsDone m ∨ Passed found m
  kept_eq : kept' = kept ++ messages.filterMap (listed found)

variable {found}

/-- A message that passes adds what is found in it. -/
theorem messageStep_passed {m : Place NlMsgHdr} (h : Passed found m) (kept : List T) :
    messageStep (keepFound found) kept m.header m.body =
      .ok (.inl (kept ++ (listed found m).toList)) := by
  obtain ⟨item, hitem⟩ := h.accepted
  have hdone : m.header.nlmsgType ≠ nlmsgDone := h.not_done
  rw [messageStep, if_neg hdone, if_neg h.not_error, keepFound, listed, if_neg hdone, hitem]
  rfl

/-- Only a message that passes lets the walk go on. -/
theorem passed_of_messageStep {m : Place NlMsgHdr} {kept kept' : List T}
    (h : messageStep (keepFound found) kept m.header m.body = .ok (.inl kept')) :
    Passed found m := by
  rw [messageStep] at h
  by_cases hdone : m.header.nlmsgType = nlmsgDone
  · rw [if_pos hdone] at h
    cases h
  by_cases herror : m.header.nlmsgType = nlmsgError
  · rw [if_neg hdone, if_pos herror] at h
    cases h
  rw [if_neg hdone, if_neg herror] at h
  refine ⟨hdone, herror, ?_⟩
  cases hitem : found m.header m.body with
  | error e =>
      rw [keepFound, hitem] at h
      cases h
  | ok item => exact ⟨item, rfl⟩

/-- The steps of the walker along some messages. -/
theorem visit_keepFound {messages : List (Place NlMsgHdr)} {kept kept' : List T} :
    visit (messageStep (keepFound found)) messages kept = .ok (.inl kept') ↔
      (∀ m ∈ messages, Passed found m) ∧ kept' = kept ++ messages.filterMap (listed found) := by
  induction messages generalizing kept with
  | nil =>
      rw [visit, List.filterMap_nil, List.append_nil]
      constructor
      · rintro ⟨⟩
        exact ⟨by simp, rfl⟩
      · rintro ⟨-, rfl⟩
        rfl
  | cons m messages ih =>
      have hfilter (hm : Passed found m) : kept ++ (m :: messages).filterMap (listed found) =
          kept ++ (listed found m).toList ++ messages.filterMap (listed found) := by
        rw [List.append_assoc, List.filterMap_cons]
        cases listed found m <;> rfl
      rw [visit]
      constructor
      · intro h
        rcases hnext : messageStep (keepFound found) kept m.header m.body with e | kept₁ | result
        · rw [hnext] at h
          cases h
        · have hm := passed_of_messageStep hnext
          rw [messageStep_passed hm, proceed_inl, ih] at h
          exact ⟨List.forall_mem_cons.mpr ⟨hm, h.1⟩, h.2.trans (hfilter hm).symm⟩
        · rw [hnext] at h
          cases h
      · rintro ⟨hpassed, rfl⟩
        obtain ⟨hm, hmessages⟩ := List.forall_mem_cons.mp hpassed
        rw [messageStep_passed hm, proceed_inl, ih, hfilter hm]
        exact ⟨hmessages, rfl⟩

/-- A walker that comes to the end of the buffer. -/
theorem parseMessages_eq_stop {buf : List UInt8} (kept : List T) {kept' : List T} {stop : ℕ} :
    parseMessages (keepFound found) buf kept = .ok (.inl (kept', stop)) ↔
      ∃ messages, Chain buf 0 messages stop ∧ buf.length < stop + size NlMsgHdr ∧
        (∀ m ∈ messages, Passed found m) ∧ kept' = kept ++ messages.filterMap (listed found) := by
  rw [parseMessages, walk_eq_stop]
  simp only [visit_keepFound]

/-- A walker that comes to `NLMSG_DONE`. -/
theorem consumed_of_done {buf : List UInt8} {kept kept' : List T}
    (h : parseMessages (keepFound found) buf kept = .ok (.inr kept')) :
    ∃ messages, Consumed found buf kept kept' messages ∧ ∃ m ∈ messages, IsDone m := by
  rw [parseMessages, walk_eq_ended] at h
  obtain ⟨messages, last, stop, kept₁, hchain, hvisit, hlast⟩ := h
  obtain ⟨hpassed, rfl⟩ := visit_keepFound.mp hvisit
  have hdone : IsDone last ∧ kept ++ messages.filterMap (listed found) = kept' := by
    rw [messageStep] at hlast
    by_cases hdone : last.header.nlmsgType = nlmsgDone
    · rw [if_pos hdone] at hlast
      exact ⟨hdone, Sum.inr.inj (Except.ok.inj hlast)⟩
    by_cases herror : last.header.nlmsgType = nlmsgError
    · rw [if_neg hdone, if_pos herror] at hlast
      cases hlast
    rw [if_neg hdone, if_neg herror] at hlast
    cases hkeep : keepFound found (kept ++ messages.filterMap (listed found)) last.header
        last.body with
    | error e =>
        rw [hkeep] at hlast
        cases hlast
    | ok kept₂ =>
        rw [hkeep] at hlast
        cases hlast
  obtain ⟨hdone, rfl⟩ := hdone
  have hnothing : listed found last = none := if_pos hdone
  refine ⟨messages ++ [last], ⟨?_, ?_, ?_⟩, last, by simp, hdone⟩
  · exact .done hchain (fun m hm => (hpassed m hm).not_done) hdone
  · intro m hm
    rcases List.mem_append.mp hm with hm | hm
    · exact .inr (hpassed m hm)
    · exact .inl (List.mem_singleton.mp hm ▸ hdone)
  · rw [List.filterMap_append, List.filterMap_cons_none hnothing, List.filterMap_nil,
      List.append_nil]

/-- A walker that comes to the very end. -/
theorem consumed_of_stop {buf : List UInt8} {kept : List T} {messages : List (Place NlMsgHdr)}
    {stop : ℕ} (hchain : Chain buf 0 messages stop) (hend : buf.length ≤ stop)
    (hpassed : ∀ m ∈ messages, Passed found m) :
    Consumed found buf kept (kept ++ messages.filterMap (listed found)) messages where
  framing := .whole hchain (fun m hm => (hpassed m hm).not_done) hend
  accepted := fun m hm => .inr (hpassed m hm)
  kept_eq := rfl

end Walkers

/-- What `parse_network_events` returns is consumed from the messages of the datagram. -/
def EventsFramed (buf : List UInt8) : Prop :=
  ∀ events, parseNetworkEvents buf = .ok events →
    ∃ messages, Consumed messageEvent buf [] events messages

/-- **The event parser** consumes whole datagrams: it fails where the last header is cut off. -/
theorem eventsFramed (buf : List UInt8) : EventsFramed buf := by
  intro events h
  obtain ⟨r, hparse, h⟩ := Results.bind_eq_ok.mp h
  rcases r with ⟨events', stop⟩ | events'
  · obtain ⟨messages, hchain, -, hpassed, rfl⟩ := (parseMessages_eq_stop _).mp hparse
    dsimp only at h
    by_cases hstop : stop ≠ buf.length
    · rw [if_pos hstop] at h
      cases h
    · rw [if_neg hstop] at h
      cases h
      exact ⟨messages, consumed_of_stop hchain (Nat.le_of_eq (not_not.mp hstop).symm) hpassed⟩
  · cases h
    obtain ⟨messages, hconsumed, -⟩ := consumed_of_done hparse
    exact ⟨messages, hconsumed⟩

section Dumps

variable {T : Type} (messageType : UInt16) (parse : List UInt8 → Except NetlinkError (Option T))

/-- What a dump parser adds to `kept` is consumed from the messages of the datagram, and it says
whether `NLMSG_DONE` is one of them. -/
def DumpFramed (buf : List UInt8) (kept : List T) : Prop :=
  ∀ kept' done, parseDump messageType parse buf kept = .ok (kept', done) →
    ∃ messages, Consumed (dumpItem messageType parse) buf kept kept' messages ∧
      (done = true ↔ ∃ m ∈ messages, IsDone m)

/-- Behind messages that the walker passes there is something, but not enough for a header. -/
def Leftover (buf : List UInt8) : Prop :=
  ∃ messages stop, Chain buf 0 messages stop ∧
    (∀ m ∈ messages, Passed (dumpItem messageType parse) m) ∧
    stop < buf.length ∧ buf.length < stop + size NlMsgHdr

variable {messageType parse}

/-- **A dump parser** consumes whole datagrams, but for a part of a header at the end: that it
passes over in silence. -/
theorem dumpFramed_iff {buf : List UInt8} (kept : List T) :
    DumpFramed messageType parse buf kept ↔ ¬ Leftover messageType parse buf := by
  constructor
  · rintro h ⟨messages, stop, hchain, hpassed, hmore, hshort⟩
    have hstop := (parseMessages_eq_stop kept).mpr ⟨messages, hchain, hshort, hpassed, rfl⟩
    have hparse : parseDump messageType parse buf kept =
        .ok (kept ++ messages.filterMap (listed (dumpItem messageType parse)), false) := by
      rw [parseDump, keepItem_eq, hstop]
      rfl
    obtain ⟨others, hconsumed, hdone⟩ := h _ _ hparse
    have hnone : ¬ ∃ m ∈ others, IsDone m := mt hdone.mpr Bool.false_ne_true
    cases hconsumed.framing with
    | whole chain _ hend =>
        obtain ⟨rest, -, hrest⟩ := hchain.prefix_of_last hshort chain
        exact absurd hrest.le_stop (by omega)
    | done _ _ hlast => exact hnone ⟨_, by simp, hlast⟩
  · intro h kept' done hparse
    rw [parseDump, keepItem_eq] at hparse
    obtain ⟨r, hmessages, hparse⟩ := Results.bind_eq_ok.mp hparse
    rcases r with ⟨kept₁, stop⟩ | kept₁
    · cases hparse
      obtain ⟨messages, hchain, hshort, hpassed, rfl⟩ := (parseMessages_eq_stop _).mp hmessages
      have hend : buf.length ≤ stop := by
        by_contra hmore
        exact h ⟨messages, stop, hchain, hpassed, by omega, hshort⟩
      refine ⟨messages, consumed_of_stop hchain hend hpassed, iff_of_false Bool.false_ne_true ?_⟩
      rintro ⟨m, hm, hdone⟩
      exact (hpassed m hm).not_done hdone
    · cases hparse
      obtain ⟨messages, hconsumed, hdone⟩ := consumed_of_done hmessages
      exact ⟨messages, hconsumed, iff_of_true rfl hdone⟩

end Dumps

/-! ### What the payload parsers consume -/

/-- Behind the structure at the head of a payload there are attributes, one behind another, and then
no room for a further one. -/
def Attributes (payload : List UInt8) (offset : ℕ) : Prop :=
  ∃ (attrs : List (Place RtAttr)) (stop : ℕ),
    Chain payload offset attrs stop ∧ payload.length < stop + size RtAttr

/-- A successful read of the attributes has consumed a chain of them to the end. -/
theorem attributes_of_readAttrs {σ : Type}
    {step : σ → UInt16 → List UInt8 → Except NetlinkError σ} {payload : List UInt8} {offset : ℕ}
    {s s' : σ} (h : readAttrs step payload offset s = .ok s') : Attributes payload offset := by
  rw [readAttrs] at h
  cases hwalk : walk (α := RtAttr) (ρ := Empty) (.malformedMessage "invalid rtattr length")
    (fun s attr value => (step s attr.rtaType value).map .inl) payload offset s with
  | error e =>
      rw [hwalk] at h
      cases h
  | ok r =>
      rcases r with ⟨s₁, stop⟩ | r
      · obtain ⟨attrs, hchain, hlast, -⟩ := (walk_eq_stop _ _).mp hwalk
        exact ⟨attrs, stop, hchain, hlast⟩
      · exact r.elim

/-- A payload parser that finds something has read all attributes. -/
structure PayloadsFramed (payload : List UInt8) : Prop where
  link : ∀ item, parseLink payload = .ok item → Attributes payload (size IfInfoMsg)
  address : ∀ item, parseAddress payload = .ok (some item) → Attributes payload (size IfAddrMsg)
  route : ∀ item, parseRoute payload = .ok (some item) → Attributes payload (size RtMsg)

/-- Every payload parser reads all attributes of what it finds something in. -/
theorem payloadsFramed (payload : List UInt8) : PayloadsFramed payload where
  link := by
    intro item h
    rw [parseLink] at h
    split_ifs at h
    obtain ⟨name, hname, -⟩ := Results.bind_eq_ok.mp h
    exact attributes_of_readAttrs hname
  address := by
    intro item h
    rw [parseAddress] at h
    split_ifs at h
    dsimp only at h
    split at h
    · cases h
    · obtain ⟨bytes, hbytes, -⟩ := Results.bind_eq_ok.mp h
      exact attributes_of_readAttrs hbytes
  route := by
    intro item h
    rw [parseRoute] at h
    split_ifs at h
    dsimp only at h
    split at h
    · cases h
    · obtain ⟨-, h⟩ := Results.skip_eq_some.mp h
      obtain ⟨-, h⟩ := Results.skip_eq_some.mp h
      obtain ⟨attrs, hattrs, -⟩ := Results.bind_eq_ok.mp h
      exact attributes_of_readAttrs hattrs

/-! ### The parsers together -/

/-- **The rtnetlink parsers on any octets.**  None panics.  The event parser consumes the messages
of the datagram and nothing else; so does a dump parser, exactly where no part of a header is left
over. -/
theorem parsers_framed_iff (b : Slice) :
    Calms b ∧ PayloadsFramed b.bytes ∧ EventsFramed b.bytes ∧
    (∀ links, DumpFramed rtmNewlink parseLink b.bytes links ↔
      ¬ Leftover rtmNewlink parseLink b.bytes) ∧
    (∀ addresses, DumpFramed rtmNewaddr parseAddress b.bytes addresses ↔
      ¬ Leftover rtmNewaddr parseAddress b.bytes) ∧
    ∀ routes, DumpFramed rtmNewroute parseRoute b.bytes routes ↔
      ¬ Leftover rtmNewroute parseRoute b.bytes :=
  ⟨calms b, payloadsFramed b.bytes, eventsFramed b.bytes, dumpFramed_iff, dumpFramed_iff,
    dumpFramed_iff⟩

end Wire

/-- One octet of a header: a dump parser takes it for the end, the event parser does not. -/
theorem partial_header_passed_over :
    let _ : Native := littleMachine
    parseLinkMessages [0] [] = .ok ([], false) ∧ ¬ DumpFramed rtmNewlink parseLink [0] [] ∧
    parseNetworkEvents [0] = .error (.malformedMessage "trailing partial nlmsghdr") := by
  let _ : Native := littleMachine
  have hshort : ¬ 0 + size NlMsgHdr ≤ ([0] : List UInt8).length := by decide
  refine ⟨?_, fun hframed => ?_, ?_⟩
  · rw [parseLinkMessages, parseDump, parseMessages, walk_end _ _ hshort]
    rfl
  · exact (dumpFramed_iff []).mp hframed ⟨[], 0, .nil 0, by simp, by decide, by decide⟩
  · rw [parseNetworkEvents, parseMessages, walk_end _ _ hshort]
    rfl

end NetworkManager.Netlink
