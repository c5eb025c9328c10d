import NetworkManager.Linux.Model
import NetworkManager.Support.Records
import NetworkManager.Support.Text

/-!
# Linux — Netlink

`linux/netlink.rs`: what the kernel sends over an rtnetlink socket, read.  A datagram is a list of
messages (`NlMsgHdr`), the payload of one is a structure and a list of attributes (`RtAttr`); both
are walked by the same loop.  Numbers are in the order of the machine.

The four walkers of the source over a datagram are `parseMessages` with what each of them keeps.
-/

namespace NetworkManager.Netlink

open Records Octets Layout

/-! ### Events -/

/-- What happened to a link. -/
inductive LinkEventKind where
  | created | removed | changed
  deriving DecidableEq, Repr

/-- A link, and what happened to it. -/
structure LinkEvent where
  kind : LinkEventKind
  link : Link
  deriving DecidableEq

/-- What happened to an address. -/
inductive AddressEventKind where
  | added | removed
  deriving DecidableEq, Repr

/-- An address, and what happened to it. -/
structure AddressEvent where
  kind : AddressEventKind
  address : Address
  deriving DecidableEq

/-- What happened to a route. -/
inductive RouteEventKind where
  | added | removed | changed
  deriving DecidableEq, Repr

/-- A route, and what happened to it. -/
structure RouteEvent where
  kind : RouteEventKind
  route : Route
  deriving DecidableEq

/-- What happened to a scan. -/
inductive WifiEventKind where
  | scanResults | scanAborted
  deriving DecidableEq, Repr

/-- A scan, and what happened to it. -/
structure WifiEvent where
  kind : WifiEventKind
  interfaceIndex : Int32
  interfaceName : Option String
  frequency : Option UInt32
  deriving DecidableEq

/-- What the kernel tells of the network. -/
inductive NetworkEvent where
  | link (event : LinkEvent)
  | address (event : AddressEvent)
  | route (event : RouteEvent)
  | wifi (event : WifiEvent)
  deriving DecidableEq

/-! ### Constants -/

def nlmFRequest : UInt16 := 0x0001
def nlmFAck : UInt16 := 0x0004
def nlmFReplace : UInt16 := 0x0100
def nlmFExcl : UInt16 := 0x0200
def nlmFCreate : UInt16 := 0x0400
def nlmsgError : UInt16 := 2
def nlmsgDone : UInt16 := 3
def iflaIfname : UInt16 := 3
def ifaAddress : UInt16 := 1
def ifaLocal : UInt16 := 2
def rtaDst : UInt16 := 1
def rtaOif : UInt16 := 4
def rtaGateway : UInt16 := 5
def rtaPriority : UInt16 := 6
def rtTableMain : UInt8 := 254
def rtnUnicast : UInt8 := 1
def rtprotStatic : UInt8 := 4
def rtScopeLink : UInt8 := 253
def afInet : UInt8 := 2
def afInet6 : UInt8 := 10
def rtmNewlink : UInt16 := 16
def rtmDellink : UInt16 := 17
def rtmNewaddr : UInt16 := 20
def rtmDeladdr : UInt16 := 21
def rtmNewroute : UInt16 := 24
def rtmDelroute : UInt16 := 25

/-! ### Structures -/

/-- The header of a message. -/
structure NlMsgHdr where
  nlmsgLen : UInt32
  nlmsgType : UInt16
  nlmsgFlags : UInt16
  nlmsgSeq : UInt32
  nlmsgPid : UInt32
  deriving DecidableEq

/-- The fixed part of a link message. -/
structure IfInfoMsg where
  ifiFamily : UInt8
  ifiType : UInt16
  ifiIndex : Int32
  ifiFlags : UInt32
  ifiChange : UInt32
  deriving DecidableEq

/-- The fixed part of an address message. -/
structure IfAddrMsg where
  ifaFamily : UInt8
  ifaPrefixlen : UInt8
  ifaFlags : UInt8
  ifaScope : UInt8
  ifaIndex : UInt32
  deriving DecidableEq

/-- The fixed part of a route message. -/
structure RtMsg where
  rtmFamily : UInt8
  rtmDstLen : UInt8
  rtmSrcLen : UInt8
  rtmTos : UInt8
  rtmTable : UInt8
  rtmProtocol : UInt8
  rtmScope : UInt8
  rtmType : UInt8
  rtmFlags : UInt32
  deriving DecidableEq

/-- The header of an attribute. -/
structure RtAttr where
  rtaLen : UInt16
  rtaType : UInt16
  deriving DecidableEq

section Layouts
variable [Native]

instance : Header NlMsgHdr where
  size := 16
  write h := native 4 h.nlmsgLen.toNat ++ (native 2 h.nlmsgType.toNat ++
    (native 2 h.nlmsgFlags.toNat ++ (native 4 h.nlmsgSeq.toNat ++ (native 4 h.nlmsgPid.toNat))))
  read bytes :=
    { nlmsgLen := u32 bytes 0
      nlmsgType := u16 bytes 4
      nlmsgFlags := u16 bytes 6
      nlmsgSeq := u32 bytes 8
      nlmsgPid := u32 bytes 12 }
  length_write h := by simp
  read_write h rest := by simp
  span h := h.nlmsgLen.toNat
  alignment := 4
  size_pos := by decide
  alignment_pos := by decide

instance : Layout IfInfoMsg where
  size := 16
  write info := info.ifiFamily :: 0 :: (native 2 info.ifiType.toNat ++
    (native 4 info.ifiIndex.toUInt32.toNat ++ (native 4 info.ifiFlags.toNat ++
      (native 4 info.ifiChange.toNat))))
  read bytes :=
    { ifiFamily := bytes.getD 0 0
      ifiType := u16 bytes 2
      ifiIndex := (u32 bytes 4).toInt32
      ifiFlags := u32 bytes 8
      ifiChange := u32 bytes 12 }
  length_write info := by simp
  read_write info rest := by simp

instance : Layout IfAddrMsg where
  size := 8
  write info := info.ifaFamily :: info.ifaPrefixlen :: info.ifaFlags :: info.ifaScope ::
    native 4 info.ifaIndex.toNat
  read bytes :=
    { ifaFamily := bytes.getD 0 0
      ifaPrefixlen := bytes.getD 1 0
      ifaFlags := bytes.getD 2 0
      ifaScope := bytes.getD 3 0
      ifaIndex := u32 bytes 4 }
  length_write info := by simp
  read_write info rest := by simp

instance : Layout RtMsg where
  size := 12
  write info := info.rtmFamily :: info.rtmDstLen :: info.rtmSrcLen :: info.rtmTos ::
    info.rtmTable :: info.rtmProtocol :: info.rtmScope :: info.rtmType ::
    native 4 info.rtmFlags.toNat
  read bytes :=
    { rtmFamily := bytes.getD 0 0
      rtmDstLen := bytes.getD 1 0
      rtmSrcLen := bytes.getD 2 0
      rtmTos := bytes.getD 3 0
      rtmTable := bytes.getD 4 0
      rtmProtocol := bytes.getD 5 0
      rtmScope := bytes.getD 6 0
      rtmType := bytes.getD 7 0
      rtmFlags := u32 bytes 8 }
  length_write info := by simp
  read_write info rest := by simp

instance : Header RtAttr where
  size := 4
  write attr := native 2 attr.rtaLen.toNat ++ (native 2 attr.rtaType.toNat)
  read bytes := { rtaLen := u16 bytes 0, rtaType := u16 bytes 2 }
  length_write attr := by simp
  read_write attr rest := by simp
  span attr := attr.rtaLen.toNat
  alignment := 4
  size_pos := by decide
  alignment_pos := by decide

end Layouts

/-! ### Values -/

/-- The kind of route that the kernel's number stands for. -/
def routeKindFromU8 (value : UInt8) : RouteKind :=
  match value with
  | 1 => .unicast
  | 2 => .localRoute
  | 3 => .broadcast
  | 4 => .anycast
  | 5 => .multicast
  | 6 => .blackhole
  | 7 => .unreachable
  | other => .other other

/-- The kernel's number for the kind. -/
def routeKindAsU8 : RouteKind → UInt8
  | .unicast => 1
  | .localRoute => 2
  | .broadcast => 3
  | .anycast => 4
  | .multicast => 5
  | .blackhole => 6
  | .unreachable => 7
  | .other value => value

/-- The scope that the kernel's number stands for. -/
def routeScopeFromU8 (value : UInt8) : RouteScope :=
  match value with
  | 0 => .universe
  | 253 => .link
  | 254 => .host
  | other => .other other

/-- The kernel's number for the scope. -/
def routeScopeAsU8 : RouteScope → UInt8
  | .universe => 0
  | .link => 253
  | .host => 254
  | .other value => value

/-- The address of the first bytes. -/
def addressFromBytes (family : IpFamily) (bytes : List UInt8) : IpAddr :=
  match family with
  | .v4 => .v4 (.new (bytes.getD 0 0) (bytes.getD 1 0) (bytes.getD 2 0) (bytes.getD 3 0))
  | .v6 => .v6 (BitVec.ofNat 128 (ofBigEndian (bytes.take 16)))

/-- The family of an address, and how many octets it has. -/
def familyFromU8 (value : UInt8) : Option IpFamily :=
  if value = afInet then some .v4 else if value = afInet6 then some .v6 else none

/-- The number of bytes of an address. -/
def expectedLen : IpFamily → ℕ
  | .v4 => 4
  | .v6 => 16

/-- The text up to the first NUL. -/
def textFromBytes (value : List UInt8) : String :=
  String.ofList (Text.fromUtf8Lossy (value.takeWhile (· ≠ 0)))

section Parsers
variable [Native]

/-- `parse_kernel_error_code`. -/
def parseKernelErrorCode (payload : List UInt8) : Except NetlinkError Int32 :=
  if payload.length < 4 then .error (.malformedMessage "short nlmsgerr")
  else .ok (u32 payload 0).toInt32

/-- `parse_kernel_error`. -/
def parseKernelError (payload : List UInt8) : NetlinkError :=
  match parseKernelErrorCode payload with
  | .ok code => .kernel code
  | .error err => err

/-! ### Attributes -/

/-- The loop over the attributes of a payload.  It reads them all: no attribute ends it. -/
def readAttrs {σ : Type} (step : σ → UInt16 → List UInt8 → Except NetlinkError σ)
    (payload : List UInt8) (offset : ℕ) (s : σ) : Except NetlinkError σ :=
  match walk (α := RtAttr) (ρ := Empty) (.malformedMessage "invalid rtattr length")
    (fun s attr value => (step s attr.rtaType value).map .inl) payload offset s with
  | .error e => .error e
  | .ok (.inl (s, _)) => .ok s

/-- A link, if the message gives it a name. -/
def parseLink (payload : List UInt8) : Except NetlinkError (Option Link) :=
  if payload.length < size IfInfoMsg then .error (.malformedMessage "short ifinfomsg")
  else do
    let info : IfInfoMsg := read payload
    let name ← readAttrs
      (fun name rtaType value =>
        .ok (if rtaType = iflaIfname then some (textFromBytes value) else name))
      payload (size IfInfoMsg) none
    return name.map fun name => { index := info.ifiIndex, name, flags := info.ifiFlags }

/-- The first `IFA_LOCAL` or `IFA_ADDRESS` counts. -/
def addressAttr (family : IpFamily) (addressBytes : Option (List UInt8)) (rtaType : UInt16)
    (value : List UInt8) : Except NetlinkError (Option (List UInt8)) :=
  if (rtaType = ifaLocal ∨ rtaType = ifaAddress) ∧ addressBytes.isNone then
    if value.length ≠ expectedLen family then
      .error (.malformedMessage "invalid address attribute length")
    else .ok (some value)
  else .ok addressBytes

/-- An address, if the message has one of a known family. -/
def parseAddress (payload : List UInt8) : Except NetlinkError (Option Address) :=
  if payload.length < size IfAddrMsg then .error (.malformedMessage "short ifaddrmsg")
  else
    let info : IfAddrMsg := read payload
    match familyFromU8 info.ifaFamily with
    | none => .ok none
    | some family => do
        let addressBytes ← readAttrs (addressAttr family) payload (size IfAddrMsg) none
        return addressBytes.map fun bytes =>
          { interfaceIndex := info.ifaIndex
            address := addressFromBytes family bytes
            prefixLength := info.ifaPrefixlen }

/-- What `parse_route` collects from the attributes. -/
structure RouteAttrs where
  destination : Option (List UInt8)
  gateway : Option (List UInt8)
  outputInterface : Option Int32
  metric : Option UInt32

/-- No attribute yet. -/
def RouteAttrs.empty : RouteAttrs :=
  { destination := none, gateway := none, outputInterface := none, metric := none }

/-- A later attribute of the same type replaces an earlier one. -/
def routeAttr (family : IpFamily) (attrs : RouteAttrs) (rtaType : UInt16) (value : List UInt8) :
    Except NetlinkError RouteAttrs :=
  if rtaType = rtaDst then
    if value.length ≠ expectedLen family then
      .error (.malformedMessage "invalid route destination length")
    else .ok { attrs with destination := some value }
  else if rtaType = rtaGateway then
    if value.length ≠ expectedLen family then
      .error (.malformedMessage "invalid route gateway length")
    else .ok { attrs with gateway := some value }
  else if rtaType = rtaOif then
    if value.length ≠ 4 then .error (.malformedMessage "invalid route oif length")
    else .ok { attrs with outputInterface := some (u32 value 0).toInt32 }
  else if rtaType = rtaPriority then
    if value.length ≠ 4 then .error (.malformedMessage "invalid route metric length")
    else .ok { attrs with metric := some (u32 value 0) }
  else .ok attrs

/-- The unspecified address of the family. -/
def unspecified : IpFamily → IpAddr
  | .v4 => .v4 .unspecified
  | .v6 => .v6 .unspecified

/-- Routes of the main table, of the kinds the daemon knows; the others are passed over. -/
def parseRoute (payload : List UInt8) : Except NetlinkError (Option Route) :=
  if payload.length < size RtMsg then .error (.malformedMessage "short rtmsg")
  else
    let info : RtMsg := read payload
    match familyFromU8 info.rtmFamily with
    | none => .ok none
    | some family =>
        let table := if info.rtmTable = 0 then rtTableMain else info.rtmTable
        let kind := routeKindFromU8 info.rtmType
        if table ≠ rtTableMain then .ok none
        else if ¬ (kind = .unicast ∨ kind = .blackhole ∨ kind = .unreachable) then .ok none
        else do
          let attrs ← readAttrs (routeAttr family) payload (size RtMsg) .empty
          return some
            { family
              destination :=
                (attrs.destination.map (addressFromBytes family)).getD (unspecified family)
              prefixLength := info.rtmDstLen
              gateway := attrs.gateway.map (addressFromBytes family)
              outputInterface := attrs.outputInterface
              metric := attrs.metric
              kind
              scope := routeScopeFromU8 info.rtmScope }

/-! ### Messages -/

/-- One message: `NLMSG_DONE` ends the loop with what was kept so far, `NLMSG_ERROR` fails, and
`keep` sees every other one. -/
def messageStep {σ : Type} (keep : σ → NlMsgHdr → List UInt8 → Except NetlinkError σ) (s : σ)
    (header : NlMsgHdr) (payload : List UInt8) : Except NetlinkError (σ ⊕ σ) :=
  if header.nlmsgType = nlmsgDone then .ok (.inr s)
  else if header.nlmsgType = nlmsgError then .error (parseKernelError payload)
  else (keep s header payload).map .inl

/-- The loop over the messages of a datagram. -/
def parseMessages {σ : Type} (keep : σ → NlMsgHdr → List UInt8 → Except NetlinkError σ)
    (buf : List UInt8) (s : σ) : Except NetlinkError ((σ × ℕ) ⊕ σ) :=
  walk (.malformedMessage "invalid nlmsghdr length") (messageStep keep) buf 0 s

/-- Keeps what `parse` makes of the messages of one type. -/
def keepItem {T : Type} (messageType : UInt16)
    (parse : List UInt8 → Except NetlinkError (Option T)) (kept : List T) (header : NlMsgHdr)
    (payload : List UInt8) : Except NetlinkError (List T) :=
  if header.nlmsgType = messageType then do return kept ++ (← parse payload).toList
  else .ok kept

/-- A walker that keeps the items of one type.  It says whether `NLMSG_DONE` was there. -/
def parseDump {T : Type} (messageType : UInt16)
    (parse : List UInt8 → Except NetlinkError (Option T)) (buf : List UInt8) (kept : List T) :
    Except NetlinkError (List T × Bool) := do
  match ← parseMessages (keepItem messageType parse) buf kept with
  | .inl (kept, _) => return (kept, false)
  | .inr kept => return (kept, true)

/-- The links of a buffer, added to those before it. -/
def parseLinkMessages : List UInt8 → List Link → Except NetlinkError (List Link × Bool) :=
  parseDump rtmNewlink parseLink

/-- The addresses of a buffer, added to those before it. -/
def parseAddressMessages :
    List UInt8 → List Address → Except NetlinkError (List Address × Bool) :=
  parseDump rtmNewaddr parseAddress

/-- The routes of a buffer, added to those before it. -/
def parseRouteMessages : List UInt8 → List Route → Except NetlinkError (List Route × Bool) :=
  parseDump rtmNewroute parseRoute

/-- The event a message reports, if it is of a kind the daemon knows. -/
def messageEvent (header : NlMsgHdr) (payload : List UInt8) :
    Except NetlinkError (Option NetworkEvent) :=
  let created := header.nlmsgFlags &&& nlmFCreate ≠ 0
  if header.nlmsgType = rtmNewlink then do
    return (← parseLink payload).map fun link =>
      .link { kind := if created then .created else .changed, link }
  else if header.nlmsgType = rtmDellink then do
    return (← parseLink payload).map fun link => .link { kind := .removed, link }
  else if header.nlmsgType = rtmNewaddr then do
    return (← parseAddress payload).map fun address => .address { kind := .added, address }
  else if header.nlmsgType = rtmDeladdr then do
    return (← parseAddress payload).map fun address => .address { kind := .removed, address }
  else if header.nlmsgType = rtmNewroute then do
    return (← parseRoute payload).map fun route =>
      .route { kind := if created then .added else .changed, route }
  else if header.nlmsgType = rtmDelroute then do
    return (← parseRoute payload).map fun route => .route { kind := .removed, route }
  else .ok none

/-- The event of one more message. -/
def keepEvent (events : List NetworkEvent) (header : NlMsgHdr) (payload : List UInt8) :
    Except NetlinkError (List NetworkEvent) := do
  return events ++ (← messageEvent header payload).toList

/-- The events of a buffer, up to a message that ends it. -/
def parseNetworkEvents (buf : List UInt8) : Except NetlinkError (List NetworkEvent) := do
  match ← parseMessages keepEvent buf [] with
  | .inl (events, offset) =>
      if offset ≠ buf.length then .error (.malformedMessage "trailing partial nlmsghdr")
      else .ok events
  | .inr events => .ok events

/-! ### Lists of messages -/

/-- The attributes behind the structure at the head of a payload, one after another. -/
theorem readAttrs_octets {σ : Type} (step : σ → UInt16 → List UInt8 → Except NetlinkError σ)
    (before : List UInt8) (attrs : List (Record RtAttr)) (s : σ) :
    readAttrs step (before ++ octets attrs) before.length s =
      attrs.foldlM (fun s attr => step s attr.header.rtaType attr.body) s := by
  have hwalk := walk_shift (α := RtAttr) (ρ := Empty)
    (.malformedMessage "invalid rtattr length")
    (fun s attr value => (step s attr.rtaType value).map .inl) before (octets attrs) 0 s
  rw [Nat.add_zero] at hwalk
  rw [readAttrs, hwalk, walk_octets, steps_foldlM]
  cases attrs.foldlM (fun s attr => step s attr.header.rtaType attr.body) s <;> rfl

/-- The events of a list of messages, none of which ends it, are theirs, in order. -/
theorem parseNetworkEvents_octets {messages : List (Record NlMsgHdr)}
    {event : Record NlMsgHdr → Option NetworkEvent}
    (hdone : ∀ m ∈ messages, m.header.nlmsgType ≠ nlmsgDone)
    (herror : ∀ m ∈ messages, m.header.nlmsgType ≠ nlmsgError)
    (hevent : ∀ m ∈ messages, messageEvent m.header m.body = .ok (event m)) :
    parseNetworkEvents (octets messages) =
      .ok (messages.flatMap fun m => (event m).toList) := by
  have hsteps (events : List NetworkEvent) : steps (messageStep keepEvent) messages events =
      .ok (.inl (events ++ messages.flatMap fun m => (event m).toList)) := by
    induction messages generalizing events with
    | nil => simp [steps]
    | cons m messages ih =>
        have hstep : messageStep keepEvent events m.header m.body =
            .ok (.inl (events ++ (event m).toList)) := by
          rw [messageStep, if_neg (hdone m List.mem_cons_self),
            if_neg (herror m List.mem_cons_self), keepEvent, hevent m List.mem_cons_self]
          rfl
        rw [steps, hstep, proceed_inl, ih (fun m hm => hdone m (List.mem_cons_of_mem _ hm))
          (fun m hm => herror m (List.mem_cons_of_mem _ hm))
          (fun m hm => hevent m (List.mem_cons_of_mem _ hm)), List.flatMap_cons,
          List.append_assoc]
  have hparse : parseMessages keepEvent (octets messages) [] =
      .ok (.inl (messages.flatMap fun m => (event m).toList, (octets messages).length)) := by
    rw [parseMessages, walk_octets, hsteps]
    rfl
  rw [parseNetworkEvents, hparse]
  exact if_neg (not_not_intro rfl)

end Parsers

end NetworkManager.Netlink
