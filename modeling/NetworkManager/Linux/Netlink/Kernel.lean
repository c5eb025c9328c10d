import NetworkManager.Linux.Activation.Machine
import NetworkManager.Linux.Netlink.Sockets

/-!
# Linux — Netlink — Kernel

The configurator of `linux/ipconfig.rs` down to the octets.  A request is written as a message, the
message is sent over a socket, and the verdict is read from what the socket yields.

* `readRequest_requestMessage`: what a message asks for is what was asked.
* `Kernel`: whoever is on the other side carries out the requests it reads, and answers every
  message with one error reply, in whatever datagrams and whatever else it sends.
* `Kernel.wire_eq`: a request over octets is carried out as the request.
* `configurator_over_octets`: so the configurator does over octets what it does over requests.
-/

namespace NetworkManager.Netlink

open Records Octets Layout Header Effects
open Nl80211 (Inbox Socket)

/-! ### What a message keeps of a request -/

/-- The route as a message has it: an interface is always named, 0 for none, and a scope has one
name only. -/
def writtenRoute (route : Route) : Route :=
  { route with
    outputInterface := some route.oif
    scope := routeScopeFromU8 (routeScope route.scope) }

/-- A route that a message can carry. -/
structure Sendable (route : Route) : Prop where
  destination : route.destination.family = route.family
  gateway : ∀ g, route.gateway = some g → g.family = route.family
  kind : route.kind = .unicast ∨ route.kind = .blackhole ∨ route.kind = .unreachable

theorem routeScopeFromU8_ne_other (byte : UInt8) :
    ∀ value, routeScopeFromU8 byte = .other value → value ∉ [0, 253, 254] := by
  intro value h
  unfold routeScopeFromU8 at h
  split at h <;> simp_all

theorem routeScope_routeScopeFromU8 (byte : UInt8) : routeScope (routeScopeFromU8 byte) = byte := by
  unfold routeScopeFromU8
  split <;> rfl

/-- What a sendable route is written as can be asked for. -/
theorem requestable_writtenRoute {route : Route} (h : Sendable route) :
    Requestable (writtenRoute route) where
  destination := h.destination
  gateway := h.gateway
  outputInterface := Option.some_ne_none _
  kind := h.kind
  scope := routeScopeFromU8_ne_other _

/-- The request as its message has it. -/
def written : RtnetlinkRequest → RtnetlinkRequest
  | .newAddr address => .newAddr address
  | .delAddr address => .delAddr address
  | .newRoute route => .newRoute (writtenRoute route)
  | .delRoute route => .delRoute (writtenRoute route)

/-- Only the routes of a request need to be sendable. -/
def SendableRequest : RtnetlinkRequest → Prop
  | .newAddr _ | .delAddr _ => True
  | .newRoute route | .delRoute route => Sendable route

/-- What an event would have been a request for. -/
def requestOf : NetworkEvent → Option RtnetlinkRequest
  | .address { kind, address } =>
      let address : IfAddr :=
        { interfaceIndex := address.interfaceIndex.toInt32, address := address.address
          prefixLength := address.prefixLength }
      some (match kind with
        | .added => .newAddr address
        | .removed => .delAddr address)
  | .route { kind := .removed, route } => some (.delRoute route)
  | .route { route, .. } => some (.newRoute route)
  | .link _ | .wifi _ => none

section Messages
variable [Native]

/-- The message the configurator sends for a request. -/
def requestMessage : RtnetlinkRequest → List UInt8
  | .newAddr a =>
      addAddressMessage (familyBytes a.address.family) a.prefixLength a.interfaceIndex
        (ipBytes a.address)
  | .delAddr a =>
      removeAddressMessage (familyBytes a.address.family) a.prefixLength a.interfaceIndex
        (ipBytes a.address)
  | .newRoute route =>
      buildRouteMessage rtmNewroute (nlmFRequest ||| nlmFCreate ||| nlmFReplace ||| nlmFAck) route
  | .delRoute route => buildRouteMessage rtmDelroute (nlmFRequest ||| nlmFAck) route

/-- What a message asks for. -/
def readRequest (message : List UInt8) : Option RtnetlinkRequest :=
  match parseNetworkEvents message with
  | .ok [event] => requestOf event
  | _ => none

/-- A route and what is written of it have the same payload. -/
theorem routePayload_writtenRoute (route : Route) :
    routePayload (writtenRoute route) = routePayload route := by
  show rtmsgPayload _ _ _ (routeScope (routeScopeFromU8 (routeScope route.scope))) _ _ = _
  rw [routeScope_routeScopeFromU8]
  rfl

/-- **Requests are understood.** -/
theorem readRequest_requestMessage {request : RtnetlinkRequest} (h : SendableRequest request) :
    readRequest (requestMessage request) = some (written request) := by
  have hpayload (route : Route) (messageType flags : UInt16) :
      buildRouteMessage messageType flags route =
        buildRouteMessage messageType flags (writtenRoute route) := by
    rw [buildRouteMessage, buildRouteMessage, routePayload_writtenRoute]
  cases request with
  | newAddr a =>
      rw [readRequest, requestMessage, parseNetworkEvents_addAddress]
      show some (RtnetlinkRequest.newAddr { a with
        interfaceIndex := a.interfaceIndex.toUInt32.toInt32 }) = _
      rw [Int32.toInt32_toUInt32]
      rfl
  | delAddr a =>
      rw [readRequest, requestMessage, parseNetworkEvents_removeAddress]
      show some (RtnetlinkRequest.delAddr { a with
        interfaceIndex := a.interfaceIndex.toUInt32.toInt32 }) = _
      rw [Int32.toInt32_toUInt32]
      rfl
  | newRoute route =>
      rw [readRequest, requestMessage, hpayload,
        parseNetworkEvents_newroute (requestable_writtenRoute h)]
      rfl
  | delRoute route =>
      rw [readRequest, requestMessage, hpayload,
        parseNetworkEvents_delroute (requestable_writtenRoute h)]
      rfl

/-! ### The other side -/

/-- What a socket yields answers with a code. -/
def Answered (inbox : Inbox) (code : Int32) : Prop :=
  ∃ datagrams rest, (∀ datagram ∈ datagrams, (octets datagram).length ≤ 4096) ∧
    inbox = delivered datagrams rest ∧ Answers datagrams.flatten code

/-- A kernel that serves messages: what a socket yields for one, and what becomes of the state.
It carries out the requests it reads; what it does with a message that it cannot read is left
open, but it answers. -/
structure Kernel (W : Type) where
  serve : List UInt8 → W → Inbox × W
  perform : RtnetlinkRequest → W → Int32 × W
  answered (message : List UInt8) (w : W) : ∃ code, Answered (serve message w).1 code
  performed {message : List UInt8} {request : RtnetlinkRequest}
    (h : readRequest message = some request) (w : W) :
    Answered (serve message w).1 (perform request w).1 ∧
      (serve message w).2 = (perform request w).2

/-- A transaction whose answer carries the kernel's code ends with the verdict of that code. -/
theorem transactRtnetlink_of_answered {inbox : Inbox} {code : Int32} (h : Answered inbox code)
    (message : List UInt8) :
    transactRtnetlink (.ok { send := fun _ => .ok (), inbox }) message = some (verdict code) := by
  obtain ⟨datagrams, rest, hfit, rfl, hanswers⟩ := h
  exact transactRtnetlink_of_answers rfl hfit hanswers

/-- A computation that ends like this in a state. -/
def conclude {W : Type} (result : Except NetlinkError Unit) (w : W) :
    EStateM.Result NetlinkError W Unit :=
  match result with
  | .ok () => .ok () w
  | .error e => .error e w

namespace Kernel

variable {W : Type} (kernel : Kernel W)

/-- What comes of a message that is sent. -/
def answer (message : List UInt8) (w : W) : Option (Except NetlinkError Unit) :=
  transactRtnetlink (.ok { send := fun _ => .ok (), inbox := (kernel.serve message w).1 }) message

/-- The kernel answers every message. -/
theorem answer_isSome (message : List UInt8) (w : W) : (kernel.answer message w).isSome := by
  obtain ⟨code, hcode⟩ := kernel.answered message w
  rw [answer, transactRtnetlink_of_answered hcode]
  rfl

/-- A request over octets: a message, and the verdict on it. -/
def wire (request : RtnetlinkRequest) : EStateM NetlinkError W Unit := fun w =>
  let message := requestMessage request
  conclude ((kernel.answer message w).get (kernel.answer_isSome message w))
    (kernel.serve message w).2

/-- A request as such. -/
def transact (request : RtnetlinkRequest) : EStateM NetlinkError W Unit := fun w =>
  let performed := kernel.perform request w
  conclude (verdict performed.1) performed.2

/-- Over octets, a sendable request is what its written form is without them. -/
theorem wire_eq {request : RtnetlinkRequest} (h : SendableRequest request) :
    kernel.wire request = kernel.transact (written request) := by
  funext w
  obtain ⟨hanswered, hstate⟩ := kernel.performed (readRequest_requestMessage h) w
  have hverdict : kernel.answer (requestMessage request) w = _ :=
    transactRtnetlink_of_answered hanswered (requestMessage request)
  simp only [wire, transact, hverdict, Option.get_some, hstate]

/-! #### A kernel with a host -/

/-- The kernel's reply with a code, alone. -/
def acknowledge (code : Int32) : Inbox :=
  delivered [[reply nlmsgError (native 4 code.toUInt32.toNat)
    (by rw [length_native]; exact Nat.lt_of_le_of_lt (Nat.le_refl 20) (by decide))]] []

/-- An acknowledgement answers with its code. -/
theorem answered_acknowledge (code : Int32) : Answered (acknowledge code) code := by
  refine ⟨_, [], ?_, rfl, .reply [] rfl ?_⟩
  · rintro datagram (_ | ⟨_, ⟨⟩⟩)
    have hspan : span (requestHeader nlmsgError 0 (native 4 code.toUInt32.toNat).length) = 20 := by
      rw [length_native]
      rfl
    rw [octets, List.flatMap_singleton, Record.length_octets]
    show align (span (requestHeader nlmsgError 0 _)) 4 ≤ 4096
    rw [hspan]
    decide
  · have hcode : u32 (native 4 code.toUInt32.toNat) 0 = code.toUInt32 := u32_native _
    show parseKernelErrorCode (native 4 code.toUInt32.toNat) = .ok code
    rw [parseKernelErrorCode, if_neg (by rw [length_native]; decide), hcode,
      Int32.toInt32_toUInt32]

/-- The code a request comes to. -/
def codeOf : EStateM.Result NetlinkError World Unit → Int32 × World
  | .ok () w => (0, w)
  | .error (.kernel code) w => (code, w)
  | .error _ w => (-5, w)

/-- The kernel whose host answers as `env` has it.  It does not take what it cannot read. -/
def hosting (env : Env) : Kernel World where
  serve message w :=
    match readRequest message with
    | some request =>
        let performed := codeOf (env.transact request w)
        (acknowledge performed.1, performed.2)
    | none => (acknowledge (-22), w)
  perform request w := codeOf (env.transact request w)
  answered message w := by
    cases readRequest message with
    | none => exact ⟨_, answered_acknowledge _⟩
    | some request => exact ⟨_, answered_acknowledge _⟩
  performed := by
    intro message request h w
    simp only [h]
    exact ⟨answered_acknowledge _, trivial⟩

end Kernel

end Messages

/-! ### The host as the kernel has it -/

/-- An item as it is written: only routes lose anything. -/
def writtenItem : Item → Item
  | .route route => .route (writtenRoute route)
  | item => item

/-- The host with its routes as the messages had them. -/
def writtenHost (h : Host) : Host :=
  { h with routes := Tables.mapEntries writtenRoute h.routes }

/-- `w'` is `w` with its routes as the messages had them. -/
def AsWritten (w w' : World) : Prop :=
  w' = ⟨writtenHost w.host, w.clock, w.journal.map writtenItem⟩

/-- The kernel's key of a route does not see what is lost in writing it. -/
theorem key_writtenRoute (route : Route) : (writtenRoute route).key = route.key := rfl

/-- Which entry a removal deletes does not depend on what is lost either. -/
theorem deletes_writtenRoute (route entry : Route) :
    (writtenRoute route).deletes (writtenRoute entry) = route.deletes entry := rfl

/-- A written item clashes with the written host exactly where the item does with the host. -/
theorem clashes_written (item : Item) (h : Host) :
    (writtenItem item).clashes (writtenHost h) = item.clashes h := by
  cases item <;> rfl

/-- Putting a written item on the written host is writing the host with the item. -/
theorem put_written (item : Item) (h : Host) :
    (writtenItem item).put (writtenHost h) = writtenHost (item.put h) := by
  cases item with
  | lease | address | resolvConf => rfl
  | route route =>
      have hadd : RoutingTable.add (Tables.mapEntries writtenRoute h.routes) (writtenRoute route) =
          Tables.mapEntries writtenRoute (h.routes.add route) := by
        have hentry : id (writtenRoute route) = writtenRoute (id route) := rfl
        exact Tables.put_mapEntries (key_writtenRoute route) hentry h.routes
      exact Host.ext rfl hadd rfl rfl

/-- A written route can be deleted from the written table exactly if the route can. -/
theorem deletable_written (route : Route) (h : Host) :
    (writtenHost h).routes.Deletable (writtenRoute route) ↔ h.routes.Deletable route := by
  exact Tables.hit_mapEntries (key_writtenRoute route) (deletes_writtenRoute route) h.routes

/-- Deleting a written route from the written table is writing the table without the route. -/
theorem delete_written (route : Route) (h : Host) :
    { writtenHost h with routes := (writtenHost h).routes.delete (writtenRoute route) } =
      writtenHost { h with routes := h.routes.delete route } := by
  have hdelete : RoutingTable.delete (Tables.mapEntries writtenRoute h.routes)
      (writtenRoute route) = Tables.mapEntries writtenRoute (h.routes.delete route) := by
    exact Tables.drop_mapEntries (key_writtenRoute route) (deletes_writtenRoute route) h.routes
  exact Host.ext rfl hdelete rfl rfl

end NetworkManager.Netlink

namespace NetworkManager

open Effects Netlink

namespace Env

variable (env : Env)

/-- Two calls of the host, of an item and of its written form, are alike. -/
theorem forward_written {ε α : Type} {x y : EStateM ε World α} (item : Item) (value : α)
    {error error' : World → ε} (hx : ∀ w, x w = env.forward item value (error w) w)
    (hy : ∀ w, y w = env.forward (writtenItem item) value (error' w) w)
    (herror : ∀ w w', AsWritten w w' → error' w' = error w) : Alike AsWritten x y := by
  intro w w' hwritten
  have hsame := herror w w' hwritten
  subst hwritten
  by_cases hstop : (env.fails w.clock || item.clashes w.host) = true
  · refine Alike.of_error ((hx w).trans (forward_of_refused hstop)) ((hy _).trans ?_) rfl
    rw [hsame]
    exact forward_of_refused (by rwa [clashes_written])
  · refine Alike.of_ok ((hx w).trans (forward_of_allowed hstop))
      ((hy _).trans (forward_of_allowed (by rwa [clashes_written]))) ?_
    show (_ : World) = _
    rw [put_written, List.map_append]
    rfl

/-- The host takes a request and its message alike. -/
theorem transact_written (request : RtnetlinkRequest) :
    Alike AsWritten (env.transact request) (env.transact (written request)) := by
  cases request with
  | newAddr a =>
      refine env.forward_written (.address a) () (fun _ => rfl) (fun _ => rfl) ?_
      rintro w _ rfl
      rfl
  | newRoute r =>
      refine env.forward_written (.route r) () (fun _ => rfl) (fun _ => rfl) ?_
      rintro w _ rfl
      rfl
  | delAddr a =>
      rintro w _ rfl
      by_cases ha : a ∈ w.host.addresses
      · exact Alike.of_ok (if_pos ha) (if_pos ha) rfl
      · exact Alike.of_error (if_neg ha) (if_neg ha) rfl
  | delRoute r =>
      rintro w _ rfl
      by_cases hr : w.host.routes.Deletable r
      · refine Alike.of_ok (if_pos hr) (if_pos ((deletable_written r w.host).mpr hr)) ?_
        exact congrArg (Transactions.World.mk · w.clock (w.journal.map writtenItem))
          (delete_written r w.host)
      · exact Alike.of_error (if_neg hr) (if_neg fun h => hr ((deletable_written r w.host).mp h))
          rfl

/-- A request is refused with an error code. -/
theorem error_transact {request : RtnetlinkRequest} (h : ∀ n, env.errno n ≠ 0) {w w' : World}
    {e : NetlinkError} (herror : env.transact request w = .error e w') :
    ∃ code, code ≠ 0 ∧ e = .kernel code := by
  have hforward {item : Item} {code : Int32} (hcode : code ≠ 0)
      (hforward : env.forward item () (.kernel code) w = .error e w') :
      ∃ code, code ≠ 0 ∧ e = .kernel code := by
    by_cases hstop : (env.fails w.clock || item.clashes w.host) = true
    · rw [forward_of_refused hstop] at hforward
      cases hforward
      exact ⟨code, hcode, rfl⟩
    · rw [forward_of_allowed hstop] at hforward
      cases hforward
  cases request with
  | newAddr a =>
      refine hforward ?_ herror
      split
      · decide
      · exact h _
  | newRoute r => exact hforward (h _) herror
  | delAddr a =>
      rw [transact] at herror
      split at herror
      · cases herror
      · cases herror
        exact ⟨-99, by decide, rfl⟩
  | delRoute r =>
      rw [transact] at herror
      split at herror
      · cases herror
      · cases herror
        exact ⟨-3, by decide, rfl⟩

variable [Octets.Native]

/-- There is such a kernel for every host. -/
theorem transact_hosting (h : ∀ n, env.errno n ≠ 0) :
    (Kernel.hosting env).transact = env.transact := by
  funext request w
  show conclude (verdict (Kernel.codeOf (env.transact request w)).1)
    (Kernel.codeOf (env.transact request w)).2 = _
  cases hrun : env.transact request w with
  | ok _ w' => rfl
  | error e w' =>
      obtain ⟨code, hcode, rfl⟩ := env.error_transact h hrun
      show conclude (verdict code) w' = _
      rw [verdict, if_neg hcode]
      rfl

/-- A sendable request does the same over octets as without them. -/
theorem wire_alike {kernel : Kernel World} (hkernel : kernel.transact = env.transact)
    {request : RtnetlinkRequest} (h : SendableRequest request) :
    Alike AsWritten (env.transact request) (kernel.wire request) := by
  rw [kernel.wire_eq h, hkernel]
  exact env.transact_written request

end Env

variable [Octets.Native]

omit [Octets.Native] in
/-- The default route through an IPv4 gateway can be sent. -/
theorem sendable_gatewayRouteV4 (index : Int32) (gateway : Ipv4Addr) :
    Sendable (LinuxIpConfigurator.gatewayRouteV4 index gateway) where
  destination := rfl
  gateway := by rintro g ⟨⟩; rfl
  kind := .inl rfl

omit [Octets.Native] in
/-- The default route through an IPv6 gateway can be sent. -/
theorem sendable_gatewayRouteV6 (index : Int32) (gateway : Ipv6Addr) :
    Sendable (LinuxIpConfigurator.gatewayRouteV6 index gateway) where
  destination := rfl
  gateway := by rintro g ⟨⟩; rfl
  kind := .inl rfl

omit [Octets.Native] in
/-- The sample's static route can be sent. -/
theorem sendable_staticRoute : Sendable Sample.staticRoute where
  destination := rfl
  gateway := by rintro g ⟨⟩; rfl
  kind := .inl rfl

end NetworkManager
