import NetworkManager.Linux.Netlink.Requests
import NetworkManager.Linux.Nl80211
import NetworkManager.Support.Sorting
import NetworkManager.Support.Utf8

/-!
# Linux — Netlink — Sockets

The requests of `linux/netlink.rs` over an rtnetlink socket: the three dumps, and
`transact_rtnetlink`.  Each opens a socket, sends one message and receives until a message decides;
what is received of a datagram is what fits the buffer.  The socket is gone when a request returns,
so only the result is kept; `none` says that the request still waits.

* `receive_datagrams`: how messages lie in datagrams makes no difference.
* `Lists`: messages that list a table, up to `NLMSG_DONE`.  `dumps_complete`: a dump returns a table
  exactly if one is listed, sorted.
* `Acknowledges`: messages that decide about a request.  `transactRtnetlink_iff`.
* `tables_read_back`: tables written message by message come back whole, in whichever order and
  datagrams they were sent.
-/

namespace NetworkManager

/-! ### Orders -/

instance : Ord IpFamily := ⟨compareOn fun family => family == .v6⟩

instance : Std.TransOrd IpFamily := inferInstanceAs (Std.TransCmp (compareOn _))

instance : Std.LawfulEqOrd IpFamily where
  compare_self := Std.ReflOrd.compare_self
  eq_of_compare := by
    intro a b h
    have hcompare : compare (a == .v6) (b == .v6) = .eq := h
    have hv6 := Std.LawfulEqCmp.eq_of_compare hcompare
    cases a <;> cases b <;> first | rfl | cases hv6

/-- IPv4 first, then by the octets. -/
def IpAddr.rank : IpAddr → IpFamily ×ₗ ℕ
  | .v4 address => toLex (.v4, address.toNat)
  | .v6 address => toLex (.v6, address.toNat)

/-- The rank tells addresses apart. -/
theorem IpAddr.rank_injective : Function.Injective IpAddr.rank := by
  rintro (a | a) (b | b) h
  · exact congrArg IpAddr.v4 (BitVec.eq_of_toNat_eq (Prod.mk.inj h).2)
  · cases (Prod.mk.inj h).1
  · cases (Prod.mk.inj h).1
  · exact congrArg IpAddr.v6 (BitVec.eq_of_toNat_eq (Prod.mk.inj h).2)

instance : Ord IpAddr := ⟨compareOn IpAddr.rank⟩

instance : Std.TransOrd IpAddr := inferInstanceAs (Std.TransCmp (compareOn _))

instance : Std.LawfulEqOrd IpAddr where
  compare_self := Std.ReflOrd.compare_self
  eq_of_compare := by
    intro a b h
    have hcompare : compare a.rank b.rank = .eq := h
    exact IpAddr.rank_injective (Std.LawfulEqCmp.eq_of_compare hcompare)

end NetworkManager

namespace NetworkManager.Netlink

open Records Octets Layout Header Sorting
open Nl80211 (Inbox Socket)

/-! ### Keys -/

/-- The sort key of a link: its index. -/
def linkKey (link : Link) : Int32 := link.index

/-- The sort key of an address: its interface, then the address. -/
def addressKey (address : Address) : UInt32 ×ₗ IpAddr :=
  toLex (address.interfaceIndex, address.address)

/-- The sort key of a route: family, destination, prefix length, metric, output interface. -/
def routeKey (route : Route) : IpFamily ×ₗ IpAddr ×ₗ UInt8 ×ₗ Option UInt32 ×ₗ Option Int32 :=
  toLex (route.family, toLex (route.destination, toLex (route.prefixLength,
    toLex (route.metric, route.outputInterface))))

/-! ### Receiving -/

/-- Goes on receiving unless what was seen decides. -/
def resume {σ R : Type} (seen : Except NetlinkError (σ ⊕ R))
    (k : σ → Option (Except NetlinkError R)) : Option (Except NetlinkError R) :=
  match seen with
  | .error e => some (.error e)
  | .ok (.inl s) => k s
  | .ok (.inr result) => some (.ok result)

/-- A receive loop.  `look` sees each datagram as far as it fits the buffer. -/
def receive {σ R : Type} (capacity : ℕ) (look : List UInt8 → σ → Except NetlinkError (σ ⊕ R)) :
    Inbox → σ → Option (Except NetlinkError R)
  | [], _ => none
  | .error e :: _, _ => some (.error e)
  | .ok datagram :: inbox, s =>
      resume (look (datagram.take capacity) s) (receive capacity look inbox)

/-- Sends a message over a socket that has been opened, and receives. -/
def request {R : Type} (socket : Except NetlinkError Socket) (message : List UInt8)
    (loop : Inbox → Option (Except NetlinkError R)) : Option (Except NetlinkError R) :=
  match socket with
  | .error e => some (.error e)
  | .ok socket =>
      match socket.send message with
      | .error e => some (.error e)
      | .ok _ => loop socket.inbox

section Requests
variable [Native]

/-! ### Dumps -/

def rtmGetlink : UInt16 := 18
def rtmGetaddr : UInt16 := 22
def rtmGetroute : UInt16 := 26
def nlmFDump : UInt16 := 0x0300

/-- A request to dump a table: a header, and a structure of zeros. -/
def dumpRequest {I : Type} [Layout I] (messageType : UInt16) (sequence : UInt32) (info : I) :
    List UInt8 :=
  write ({ nlmsgLen := .ofNat (16 + size I)
           nlmsgType := messageType
           nlmsgFlags := nlmFRequest ||| nlmFDump
           nlmsgSeq := sequence
           nlmsgPid := 0 } : NlMsgHdr) ++ write info

/-- The request for all links. -/
def linkDumpRequest (sequence : UInt32) : List UInt8 :=
  dumpRequest rtmGetlink sequence
    { ifiFamily := 0, ifiType := 0, ifiIndex := 0, ifiFlags := 0, ifiChange := 0 : IfInfoMsg }

/-- The request for all addresses, of any family. -/
def addressDumpRequest (sequence : UInt32) : List UInt8 :=
  dumpRequest rtmGetaddr sequence
    { ifaFamily := 0, ifaPrefixlen := 0, ifaFlags := 0, ifaScope := 0, ifaIndex := 0 : IfAddrMsg }

/-- The request for all routes, of any family. -/
def routeDumpRequest (sequence : UInt32) : List UInt8 :=
  dumpRequest rtmGetroute sequence
    { rtmFamily := 0, rtmDstLen := 0, rtmSrcLen := 0, rtmTos := 0, rtmTable := 0, rtmProtocol := 0
      rtmScope := 0, rtmType := 0, rtmFlags := 0 : RtMsg }

/-- One datagram of a dump. -/
def dumpLook {T : Type} (parse : List UInt8 → List T → Except NetlinkError (List T × Bool))
    (buf : List UInt8) (kept : List T) : Except NetlinkError (List T ⊕ List T) := do
  let (kept, done) ← parse buf kept
  return if done then .inr kept else .inl kept

/-- A dump: the items of all datagrams, sorted. -/
def dump {T K : Type} [Ord K] (socket : Except NetlinkError Socket) (message : List UInt8)
    (parse : List UInt8 → List T → Except NetlinkError (List T × Bool)) (key : T → K) :
    Option (Except NetlinkError (List T)) :=
  (request socket message fun inbox => receive 8192 (dumpLook parse) inbox []).map
    (Except.map (sortByKey key))

/-- The addresses of the host, sorted; `none` if the dump never ends. -/
def getAddresses (socket : Except NetlinkError Socket) :
    Option (Except NetlinkError (List Address)) :=
  dump socket (addressDumpRequest 2) parseAddressMessages addressKey

/-- The links of the host, sorted; `none` if the dump never ends. -/
def getLinks (socket : Except NetlinkError Socket) : Option (Except NetlinkError (List Link)) :=
  dump socket (linkDumpRequest 1) parseLinkMessages linkKey

/-- The routes of the host, sorted; `none` if the dump never ends. -/
def getRoutes (socket : Except NetlinkError Socket) : Option (Except NetlinkError (List Route)) :=
  dump socket (routeDumpRequest 3) parseRouteMessages routeKey

/-! ### Transactions -/

/-- What the code of an error reply says about the request: 0 acknowledges it. -/
def verdict (code : Int32) : Except NetlinkError Unit :=
  if code = 0 then .ok () else .error (.kernel code)

/-- The first error reply decides.  Every other message is passed over, `NLMSG_DONE` too. -/
def ackStep (_ : Unit) (header : NlMsgHdr) (payload : List UInt8) :
    Except NetlinkError (Unit ⊕ Unit) :=
  if header.nlmsgType = nlmsgError then (parseKernelErrorCode payload >>= verdict).map .inr
  else .ok (.inl ())

/-- What one datagram says of an acknowledgement: settled, or nothing yet. -/
def ackLook (buf : List UInt8) (s : Unit) : Except NetlinkError (Unit ⊕ Unit) :=
  (walk (.malformedMessage "invalid ack length") ackStep buf 0 s).map (Sum.map Prod.fst id)

/-- A request that is acknowledged: sent, then read until the acknowledgement comes. -/
def transactRtnetlink (socket : Except NetlinkError Socket) (message : List UInt8) :
    Option (Except NetlinkError Unit) :=
  request socket message fun inbox => receive 4096 ackLook inbox ()

/-! ### Datagrams -/

/-- A message of the kernel. -/
def reply (messageType : UInt16) (body : List UInt8) (h : 16 + body.length < 2 ^ 32) :
    Record NlMsgHdr :=
  .padded (requestHeader messageType 0 body.length) body (by
    show (UInt32.ofNat (16 + body.length)).toNat = 16 + body.length
    rw [UInt32.toNat_ofNat', Nat.mod_eq_of_lt h])

/-- What the receives return when the messages come in these datagrams, and then `rest`. -/
def delivered (datagrams : List (List (Record NlMsgHdr))) (rest : Inbox) : Inbox :=
  datagrams.map (fun datagram => .ok (octets datagram)) ++ rest

/-- **How the messages lie in datagrams makes no difference**: the loop sees one message after
another. -/
theorem receive_datagrams {σ R : Type} {capacity : ℕ}
    {look : List UInt8 → σ → Except NetlinkError (σ ⊕ R)}
    {step : σ → NlMsgHdr → List UInt8 → Except NetlinkError (σ ⊕ R)}
    (hlook : ∀ messages s, look (octets messages) s = steps step messages s)
    {datagrams : List (List (Record NlMsgHdr))}
    (hfit : ∀ datagram ∈ datagrams, (octets datagram).length ≤ capacity) (rest : Inbox) (s : σ) :
    receive capacity look (delivered datagrams rest) s =
      resume (steps step datagrams.flatten s) (receive capacity look rest) := by
  induction datagrams generalizing s with
  | nil => rfl
  | cons datagram datagrams ih =>
      have hwhole : (octets datagram).take capacity = octets datagram :=
        List.take_of_length_le (hfit datagram List.mem_cons_self)
      show resume (look ((octets datagram).take capacity) s)
        (receive capacity look (delivered datagrams rest)) = _
      rw [hwhole, hlook, List.flatten_cons, steps_append]
      rcases steps step datagram s with e | s' | result
      · rfl
      · exact ih (fun d hd => hfit d (List.mem_cons_of_mem _ hd)) s'
      · rfl

/-- A socket over which a message can be sent, and what it then yields. -/
def answering (send : List UInt8 → Except NetlinkError Unit)
    (datagrams : List (List (Record NlMsgHdr))) (rest : Inbox) : Except NetlinkError Socket :=
  .ok { send, inbox := delivered datagrams rest }

/-- A kernel that takes the request leaves its answer to be read. -/
theorem request_answering {R : Type} {send : List UInt8 → Except NetlinkError Unit}
    {message : List UInt8} (hsend : send message = .ok ())
    (datagrams : List (List (Record NlMsgHdr))) (rest : Inbox)
    (loop : Inbox → Option (Except NetlinkError R)) :
    request (answering send datagrams rest) message loop = loop (delivered datagrams rest) := by
  simp only [request, answering, hsend]

/-- Behind the datagrams comes no other one: the socket yields nothing more, or the system fails
the next receive. -/
def Exhausted (rest : Inbox) : Prop := ∀ received ∈ rest.head?, ∃ err, received = .error (.io err)

omit [Native] in
/-- A loop over what is left says nothing that a message would say. -/
theorem receive_exhausted {σ R : Type} {capacity : ℕ}
    {look : List UInt8 → σ → Except NetlinkError (σ ⊕ R)} {rest : Inbox} (h : Exhausted rest)
    (s : σ) : receive capacity look rest s = none ∨
      ∃ err, receive capacity look rest s = some (.error (.io err)) := by
  cases rest with
  | nil => exact .inl rfl
  | cons received rest =>
      obtain ⟨err, rfl⟩ := h received rfl
      exact .inr ⟨err, rfl⟩

/-! ### Tables -/

section Tables

variable {T K : Type} [Ord K] {messageType : UInt16}
  {parse : List UInt8 → Except NetlinkError (Option T)}

/-- Messages that list a table, up to the first `NLMSG_DONE`: each item in one message of the
type, and in between messages of other types, or such that the parser passes over. -/
inductive Lists (messageType : UInt16) (parse : List UInt8 → Except NetlinkError (Option T)) :
    List (Record NlMsgHdr) → List T → Prop
  | done {m : Record NlMsgHdr} (rest : List (Record NlMsgHdr))
      (hdone : m.header.nlmsgType = nlmsgDone) : Lists messageType parse (m :: rest) []
  | item {m : Record NlMsgHdr} {messages : List (Record NlMsgHdr)} {item : T} {table : List T}
      (htype : m.header.nlmsgType = messageType) (hparse : parse m.body = .ok (some item))
      (h : Lists messageType parse messages table) :
      Lists messageType parse (m :: messages) (item :: table)
  | other {m : Record NlMsgHdr} {messages : List (Record NlMsgHdr)} {table : List T}
      (hdone : m.header.nlmsgType ≠ nlmsgDone) (herror : m.header.nlmsgType ≠ nlmsgError)
      (hparse : m.header.nlmsgType = messageType → parse m.body = .ok none)
      (h : Lists messageType parse messages table) : Lists messageType parse (m :: messages) table

/-- A table has an end. -/
theorem Lists.exists_done {messages : List (Record NlMsgHdr)} {table : List T}
    (h : Lists messageType parse messages table) :
    ∃ m ∈ messages, m.header.nlmsgType = nlmsgDone := by
  induction h with
  | @done m rest hdone => exact ⟨m, List.mem_cons_self, hdone⟩
  | item htype hparse h ih =>
      obtain ⟨m, hm, hdone⟩ := ih
      exact ⟨m, List.mem_cons_of_mem _ hm, hdone⟩
  | other hdone herror hparse h ih =>
      obtain ⟨m, hm, hdone⟩ := ih
      exact ⟨m, List.mem_cons_of_mem _ hm, hdone⟩

/-- Messages that list a table are consumed with the table appended to what was kept. -/
theorem steps_of_lists (hdone : messageType ≠ nlmsgDone) (herror : messageType ≠ nlmsgError)
    {messages : List (Record NlMsgHdr)} {table : List T}
    (h : Lists messageType parse messages table) (kept : List T) :
    steps (messageStep (keepItem messageType parse)) messages kept =
      .ok (.inr (kept ++ table)) := by
  induction h generalizing kept with
  | @done m rest hm => rw [steps, messageStep, if_pos hm, proceed_inr, List.append_nil]
  | @item m messages item table htype hparse h ih =>
      have hkeep : keepItem messageType parse kept m.header m.body = .ok (kept ++ [item]) := by
        rw [keepItem, if_pos htype, hparse]
        rfl
      rw [steps, messageStep, if_neg (htype ▸ hdone), if_neg (htype ▸ herror), hkeep]
      exact (ih _).trans (by rw [List.append_assoc]; rfl)
  | @other m messages table hm hm' hparse h ih =>
      have hkeep : keepItem messageType parse kept m.header m.body = .ok kept := by
        rw [keepItem]
        split
        · next htype =>
            rw [hparse htype]
            exact congrArg Except.ok (List.append_nil kept)
        · rfl
      rw [steps, messageStep, if_neg hm, if_neg hm', hkeep]
      exact ih kept

/-- Messages that were consumed up to their end list a table. -/
theorem lists_of_steps {messages : List (Record NlMsgHdr)} {kept result : List T}
    (h : steps (messageStep (keepItem messageType parse)) messages kept = .ok (.inr result)) :
    ∃ table, Lists messageType parse messages table ∧ result = kept ++ table := by
  induction messages generalizing kept with
  | nil => cases h
  | cons m messages ih =>
      rw [steps, messageStep] at h
      by_cases hdone : m.header.nlmsgType = nlmsgDone
      · rw [if_pos hdone] at h
        cases h
        exact ⟨[], .done messages hdone, (List.append_nil _).symm⟩
      rw [if_neg hdone] at h
      by_cases herror : m.header.nlmsgType = nlmsgError
      · rw [if_pos herror] at h
        cases h
      rw [if_neg herror, keepItem] at h
      by_cases htype : m.header.nlmsgType = messageType
      · rw [if_pos htype] at h
        cases hparse : parse m.body with
        | error e =>
            rw [hparse] at h
            cases h
        | ok found =>
            rw [hparse] at h
            obtain ⟨table, htable, rfl⟩ := ih h
            cases found with
            | none => exact ⟨table, .other hdone herror (fun _ => hparse) htable, by simp⟩
            | some item => exact ⟨item :: table, .item htype hparse htable, by simp⟩
      · rw [if_neg htype] at h
        obtain ⟨table, htable, hresult⟩ := ih h
        exact ⟨table, .other hdone herror (fun h => absurd h htype) htable, hresult⟩

/-- A datagram of records is looked at record by record. -/
theorem dumpLook_octets (messages : List (Record NlMsgHdr)) (kept : List T) :
    dumpLook (parseDump messageType parse) (octets messages) kept =
      steps (messageStep (keepItem messageType parse)) messages kept := by
  rw [dumpLook, parseDump, parseMessages, walk_octets]
  rcases steps (messageStep (keepItem messageType parse)) messages kept with e | kept | kept <;> rfl

/-- **A dump is complete**: it succeeds exactly if the messages list a table, and returns this
table, sorted. -/
theorem dump_eq_ok_iff {key : T → K} (hdone : messageType ≠ nlmsgDone)
    (herror : messageType ≠ nlmsgError) {send : List UInt8 → Except NetlinkError Unit}
    {message : List UInt8} (hsend : send message = .ok ())
    {datagrams : List (List (Record NlMsgHdr))}
    (hfit : ∀ datagram ∈ datagrams, (octets datagram).length ≤ 8192) {rest : Inbox}
    (hrest : Exhausted rest) (items : List T) :
    dump (answering send datagrams rest) message (parseDump messageType parse) key =
        some (.ok items) ↔
      ∃ table, Lists messageType parse datagrams.flatten table ∧ items = sortByKey key table := by
  rw [dump, request_answering hsend, receive_datagrams dumpLook_octets hfit]
  constructor
  · intro h
    obtain ⟨result, hresult, hsorted⟩ := Option.map_eq_some_iff.mp h
    cases hseen : steps (messageStep (keepItem messageType parse)) datagrams.flatten [] with
    | error e =>
        rw [hseen] at hresult
        cases hresult
        cases hsorted
    | ok seen =>
        rw [hseen] at hresult
        cases seen with
        | inl kept =>
            rcases receive_exhausted hrest kept with hnone | ⟨err, herr⟩
            · cases hnone.symm.trans hresult
            · cases herr.symm.trans hresult
              cases hsorted
        | inr kept =>
            cases hresult
            obtain ⟨table, htable, rfl⟩ := lists_of_steps hseen
            exact ⟨_, htable, (Except.ok.inj hsorted).symm⟩
  · rintro ⟨table, htable, rfl⟩
    rw [steps_of_lists hdone herror htable]
    rfl

end Tables

/-- **Dumps are complete.**  Each of the three returns a table exactly if it is listed whole, and
sorts it. -/
theorem dumps_complete {send : List UInt8 → Except NetlinkError Unit}
    (hsend : ∀ message, send message = .ok ()) {datagrams : List (List (Record NlMsgHdr))}
    (hfit : ∀ datagram ∈ datagrams, (octets datagram).length ≤ 8192) {rest : Inbox}
    (hrest : Exhausted rest) :
    (∀ links, getLinks (answering send datagrams rest) = some (.ok links) ↔
      ∃ table, Lists rtmNewlink parseLink datagrams.flatten table ∧
        links = sortByKey linkKey table) ∧
    (∀ addresses, getAddresses (answering send datagrams rest) = some (.ok addresses) ↔
      ∃ table, Lists rtmNewaddr parseAddress datagrams.flatten table ∧
        addresses = sortByKey addressKey table) ∧
    (∀ routes, getRoutes (answering send datagrams rest) = some (.ok routes) ↔
      ∃ table, Lists rtmNewroute parseRoute datagrams.flatten table ∧
        routes = sortByKey routeKey table) :=
  ⟨dump_eq_ok_iff (by decide) (by decide) (hsend _) hfit hrest,
    dump_eq_ok_iff (by decide) (by decide) (hsend _) hfit hrest,
    dump_eq_ok_iff (by decide) (by decide) (hsend _) hfit hrest⟩

omit [Native] in
/-- The default route comes back from a dump that ends, and from none that does not. -/
theorem dumps_complete_gatewayOfTen :
    let _ : Native := littleMachine
    let route := reply rtmNewroute (routePayload gatewayOfTen) (by decide)
    let done := reply nlmsgDone [] (by decide)
    getRoutes (answering (fun _ => .ok ()) [[route, done]] []) = some (.ok [gatewayOfTen]) ∧
      ¬ ∃ routes, getRoutes (answering (fun _ => .ok ()) [[route]] []) = some (.ok routes) := by
  intro machine route done
  constructor
  · refine ((dumps_complete (fun _ => rfl) ?_ (by rintro _ ⟨⟩)).2.2 _).mpr
      ⟨[gatewayOfTen], .item rfl (parseRoute_routePayload gatewayOfTen_requestable)
        (.done [] rfl), (List.mergeSort_singleton _).symm⟩
    rintro datagram (_ | ⟨_, ⟨⟩⟩)
    exact by decide
  · rintro ⟨routes, hroutes⟩
    obtain ⟨table, hlists, -⟩ := ((dumps_complete (fun _ => rfl) (by
      rintro datagram (_ | ⟨_, ⟨⟩⟩)
      exact by decide) (by rintro _ ⟨⟩)).2.2 _).mp hroutes
    obtain ⟨m, hm, hdone⟩ := hlists.exists_done
    have hroute : m = route := by
      rcases List.mem_flatten.mp hm with ⟨datagram, _ | ⟨_, ⟨⟩⟩, hm⟩
      exact List.mem_singleton.mp hm
    rw [hroute] at hdone
    exact absurd hdone (by decide)

/-! ### Verdicts -/

/-- Messages in which the kernel answers a request with a code: the first error reply has it. -/
inductive Answers : List (Record NlMsgHdr) → Int32 → Prop
  | reply {m : Record NlMsgHdr} {code : Int32} (rest : List (Record NlMsgHdr))
      (htype : m.header.nlmsgType = nlmsgError) (hcode : parseKernelErrorCode m.body = .ok code) :
      Answers (m :: rest) code
  | other {m : Record NlMsgHdr} {messages : List (Record NlMsgHdr)} {code : Int32}
      (htype : m.header.nlmsgType ≠ nlmsgError) (h : Answers messages code) :
      Answers (m :: messages) code

omit [Native] in
/-- The verdict tells the codes apart. -/
theorem verdict_injective : Function.Injective verdict := by
  intro code code' h
  rw [verdict, verdict] at h
  split at h <;> split at h
  · next hzero hzero' => rw [hzero, hzero']
  · cases h
  · cases h
  · cases h
    rfl

omit [Native] in
/-- A code is either a success or an error of the kernel with that code. -/
theorem verdict_cases (code : Int32) :
    verdict code = .ok () ∨ verdict code = .error (.kernel code) := by
  rw [verdict]
  split
  · exact .inl rfl
  · exact .inr rfl

/-- The steps over an answer end with the verdict of its code. -/
theorem steps_of_answers {messages : List (Record NlMsgHdr)} {code : Int32}
    (h : Answers messages code) : steps ackStep messages () = (verdict code).map .inr := by
  induction h with
  | @reply m code rest htype hcode =>
      rw [steps, ackStep, if_pos htype, hcode]
      rcases verdict_cases code with hverdict | hverdict <;>
        · show proceed ((verdict code).map .inr) _ = _
          rw [hverdict]
          rfl
  | @other m messages code htype h ih =>
      rw [steps, ackStep, if_neg htype]
      exact ih

/-- Without an answer, the loop goes on or meets an error reply that is too short. -/
theorem steps_ackStep (messages : List (Record NlMsgHdr)) :
    (∃ code, Answers messages code) ∨ steps ackStep messages () = .ok (.inl ()) ∨
      steps ackStep messages () = .error (.malformedMessage "short nlmsgerr") := by
  induction messages with
  | nil => exact .inr (.inl rfl)
  | cons m messages ih =>
      by_cases htype : m.header.nlmsgType = nlmsgError
      · cases hcode : parseKernelErrorCode m.body with
        | ok code => exact .inl ⟨code, .reply messages htype hcode⟩
        | error e =>
            have hshort : e = .malformedMessage "short nlmsgerr" := by
              rw [parseKernelErrorCode] at hcode
              split at hcode
              · exact (Except.error.inj hcode).symm
              · cases hcode
            refine .inr (.inr ?_)
            rw [steps, ackStep, if_pos htype, hcode, hshort]
            rfl
      · rw [steps, ackStep, if_neg htype, proceed_inl]
        refine ih.imp_left ?_
        rintro ⟨code, hcode⟩
        exact ⟨code, .other htype hcode⟩

/-- A datagram of records is looked at for an acknowledgement record by record. -/
theorem ackLook_octets (messages : List (Record NlMsgHdr)) (s : Unit) :
    ackLook (octets messages) s = steps ackStep messages s := by
  rw [ackLook, walk_octets]
  rcases steps ackStep messages s with e | s | result <;> rfl

section Transactions

variable {send : List UInt8 → Except NetlinkError Unit} {message : List UInt8}
  (hsend : send message = .ok ()) {datagrams : List (List (Record NlMsgHdr))}
  (hfit : ∀ datagram ∈ datagrams, (octets datagram).length ≤ 4096) {rest : Inbox} {code : Int32}

include hsend hfit

/-- A transaction ends with the verdict of the code that is answered. -/
theorem transactRtnetlink_of_answers (h : Answers datagrams.flatten code) :
    transactRtnetlink (answering send datagrams rest) message = some (verdict code) := by
  rw [transactRtnetlink, request_answering hsend, receive_datagrams ackLook_octets hfit,
    steps_of_answers h]
  rcases verdict_cases code with hverdict | hverdict <;> rw [hverdict] <;> rfl

/-- **Verdicts.**  A transaction comes to what a code says exactly if the kernel answers with this
code. -/
theorem transactRtnetlink_iff (hrest : Exhausted rest) :
    transactRtnetlink (answering send datagrams rest) message = some (verdict code) ↔
      Answers datagrams.flatten code := by
  refine ⟨fun h => ?_, transactRtnetlink_of_answers hsend hfit⟩
  rcases steps_ackStep datagrams.flatten with ⟨code', hcode'⟩ | hseen
  · have hanswered : transactRtnetlink (answering send datagrams rest) message =
        some (verdict code') := transactRtnetlink_of_answers hsend hfit hcode'
    rwa [← verdict_injective (Option.some.inj (hanswered.symm.trans h))]
  rw [transactRtnetlink, request_answering hsend, receive_datagrams ackLook_octets hfit] at h
  rcases hseen with hmore | hshort
  · rw [hmore] at h
    have hio (err : IoError) : verdict code ≠ .error (.io err) := by
      rcases verdict_cases code with hverdict | hverdict <;> rw [hverdict] <;> simp
    rcases receive_exhausted hrest () with hnone | ⟨err, herr⟩
    · cases hnone.symm.trans h
    · exact absurd (Option.some.inj (herr.symm.trans h)).symm (hio err)
  · rw [hshort] at h
    rcases verdict_cases code with hverdict | hverdict <;> rw [hverdict] at h <;> cases h

end Transactions

omit [Native] in
/-- A transaction that the kernel refuses because the entry exists. -/
theorem transactRtnetlink_iff_exists :
    let _ : Native := littleMachine
    let done := reply nlmsgDone [] (by decide)
    let exists_ := reply nlmsgError (native 4 (2 ^ 32 - 17)) (by decide)
    transactRtnetlink (answering (fun _ => .ok ()) [[done], [exists_]] []) [] =
      some (verdict (-17)) := by
  intro machine done exists_
  refine (transactRtnetlink_iff rfl ?_ (by rintro _ ⟨⟩)).mpr
    (.other (by decide) (.reply [] rfl (by decide)))
  rintro datagram (_ | ⟨_, _ | ⟨_, ⟨⟩⟩⟩)
  · exact by decide
  · exact by decide

/-! ### Reading back -/

open Paths (osStr)

omit [Native] in
/-- A text that ends with a NUL is read up to it. -/
theorem textFromBytes_osStr {text : String} (h : Char.ofNat 0 ∉ text.toList) (rest : List UInt8) :
    textFromBytes (osStr text ++ 0 :: rest) = text := by
  have hnonzero : ∀ b ∈ osStr text, (b ≠ 0 : Bool) = true := by
    intro b hb
    rw [Paths.osStr_eq_flatMap, List.mem_flatMap] at hb
    obtain ⟨c, hc, hb⟩ := hb
    refine decide_eq_true fun hzero => h ?_
    have hval : c.toNat = b.toNat := Paths.ascii_mem_utf8EncodeChar (hzero ▸ by decide) hb
    have hchar : c = Char.ofNat 0 := Char.ext (UInt32.toNat_inj.mp (hval.trans (hzero ▸ rfl)))
    rwa [← hchar]
  have htake : (osStr text ++ 0 :: rest).takeWhile (· ≠ 0) = osStr text := by
    rw [List.takeWhile_append_of_pos hnonzero]
    exact List.append_nil _
  rw [textFromBytes, htake, Text.fromUtf8Lossy_osStr, String.ofList_toList]

/-- A link as the kernel writes it: the name ends with a NUL. -/
def linkPayload (link : Link) : List UInt8 :=
  pushAttrs (write { ifiFamily := 0, ifiType := 0, ifiIndex := link.index, ifiFlags := link.flags
                     ifiChange := 0 : IfInfoMsg })
    [(iflaIfname, osStr link.name ++ [0])]

/-- The payload of the kernel's message about an address. -/
def addressPayload (address : Address) : List UInt8 :=
  ifaddrPayload (familyBytes address.address.family) address.prefixLength
    address.interfaceIndex.toInt32 (addressAttrs (ipBytes address.address))

/-- A link whose name fits an attribute. -/
structure Nameable (link : Link) : Prop where
  noNul : Char.ofNat 0 ∉ link.name.toList
  length_lt : (osStr link.name).length < 65531

/-- A link is read back from the message about it. -/
theorem parseLink_linkPayload {link : Link} (h : Nameable link) :
    parseLink (linkPayload link) = .ok (some link) := by
  let info : IfInfoMsg :=
    { ifiFamily := 0, ifiType := 0, ifiIndex := link.index, ifiFlags := link.flags, ifiChange := 0 }
  let attrs := [(iflaIfname, osStr link.name ++ [0])]
  let payload := pushAttrs (write info) attrs
  have hshort : ¬ payload.length < size IfInfoMsg := Nat.not_lt.mpr (size_le_pushAttrs info _)
  have hinfo : read payload = info := read_pushAttrs info _
  have hvalues : ∀ a ∈ attrs, a.2.length < 65532 := by
    intro a ha
    have hlt := h.length_lt
    rw [List.mem_singleton.mp ha, List.length_append, List.length_singleton]
    omega
  have hname := readAttrs_pushAttrs hvalues (fun name rtaType value =>
    .ok (if rtaType = iflaIfname then some (textFromBytes value) else name)) (write info) none
  rw [length_write] at hname
  show parseLink payload = _
  rw [parseLink, if_neg hshort, hinfo, hname]
  show Except.ok (some { index := link.index, name := textFromBytes (osStr link.name ++ [0])
                         flags := link.flags : Link }) = _
  rw [textFromBytes_osStr h.noNul]

/-- An address is read back from the message about it. -/
theorem parseAddress_addressPayload (address : Address) :
    parseAddress (addressPayload address) = .ok (some address) := by
  rw [addressPayload, parseAddress_ifaddrPayload, UInt32.toUInt32_toInt32]

section Carries

variable {T : Type} {messageType : UInt16} {payload : T → List UInt8}

/-- Messages that carry a table, up to `NLMSG_DONE`: each item in one message, and in between
messages of other types. -/
inductive Carries (messageType : UInt16) (payload : T → List UInt8) :
    List (Record NlMsgHdr) → List T → Prop
  | done {m : Record NlMsgHdr} (rest : List (Record NlMsgHdr))
      (hdone : m.header.nlmsgType = nlmsgDone) : Carries messageType payload (m :: rest) []
  | item {m : Record NlMsgHdr} {messages : List (Record NlMsgHdr)} {item : T} {table : List T}
      (htype : m.header.nlmsgType = messageType) (hbody : m.body = payload item)
      (h : Carries messageType payload messages table) :
      Carries messageType payload (m :: messages) (item :: table)
  | other {m : Record NlMsgHdr} {messages : List (Record NlMsgHdr)} {table : List T}
      (hdone : m.header.nlmsgType ≠ nlmsgDone) (herror : m.header.nlmsgType ≠ nlmsgError)
      (htype : m.header.nlmsgType ≠ messageType) (h : Carries messageType payload messages table) :
      Carries messageType payload (m :: messages) table

/-- Messages that carry a table list it. -/
theorem Carries.lists {parse : List UInt8 → Except NetlinkError (Option T)}
    {messages : List (Record NlMsgHdr)} {table : List T}
    (h : Carries messageType payload messages table)
    (hparse : ∀ item ∈ table, parse (payload item) = .ok (some item)) :
    Lists messageType parse messages table := by
  induction h with
  | done rest hdone => exact .done rest hdone
  | @item m messages item table htype hbody h ih =>
      refine .item htype ?_ (ih fun item hitem => hparse item (List.mem_cons_of_mem _ hitem))
      rw [hbody]
      exact hparse item List.mem_cons_self
  | @other m messages table hdone herror htype h ih =>
      exact .other hdone herror (fun h => absurd h htype) (ih hparse)

/-- A table that was sent in any order comes back sorted. -/
theorem dump_reads_back {K : Type} [Ord K] [Std.TransOrd K] [Std.LawfulEqOrd K] {key : T → K}
    {parse : List UInt8 → Except NetlinkError (Option T)} (hdone : messageType ≠ nlmsgDone)
    (herror : messageType ≠ nlmsgError) {send : List UInt8 → Except NetlinkError Unit}
    {message : List UInt8} (hsend : send message = .ok ())
    {datagrams : List (List (Record NlMsgHdr))}
    (hfit : ∀ datagram ∈ datagrams, (octets datagram).length ≤ 8192) {table listed : List T}
    (hparse : ∀ item ∈ table, parse (payload item) = .ok (some item))
    (hkey : Set.InjOn key {item | item ∈ table}) (hperm : listed.Perm table)
    (hcarries : Carries messageType payload datagrams.flatten listed) :
    dump (answering send datagrams []) message (parseDump messageType parse) key =
      some (.ok (sortByKey key table)) := by
  have hlists := hcarries.lists fun item hitem => hparse item (hperm.mem_iff.mp hitem)
  have hsorted : sortByKey key table = sortByKey key listed :=
    (sortByKey_congr hperm fun a ha b hb => hkey ha hb).symm
  exact (dump_eq_ok_iff hdone herror hsend hfit (by rintro _ ⟨⟩) _).mpr ⟨listed, hlists, hsorted⟩

end Carries

/-- **Tables read back.**  What comes back does not depend on the order of the items, on the
datagrams, or on other messages in between. -/
theorem tables_read_back {send : List UInt8 → Except NetlinkError Unit}
    (hsend : ∀ message, send message = .ok ()) {datagrams : List (List (Record NlMsgHdr))}
    (hfit : ∀ datagram ∈ datagrams, (octets datagram).length ≤ 8192) :
    (∀ links listed : List Link, (∀ link ∈ links, Nameable link) →
      Set.InjOn linkKey {link | link ∈ links} → listed.Perm links →
      Carries rtmNewlink linkPayload datagrams.flatten listed →
      getLinks (answering send datagrams []) = some (.ok (sortByKey linkKey links))) ∧
    (∀ addresses listed : List Address, Set.InjOn addressKey {address | address ∈ addresses} →
      listed.Perm addresses → Carries rtmNewaddr addressPayload datagrams.flatten listed →
      getAddresses (answering send datagrams []) =
        some (.ok (sortByKey addressKey addresses))) ∧
    (∀ routes listed : List Route, (∀ route ∈ routes, Requestable route) →
      Set.InjOn routeKey {route | route ∈ routes} → listed.Perm routes →
      Carries rtmNewroute routePayload datagrams.flatten listed →
      getRoutes (answering send datagrams []) = some (.ok (sortByKey routeKey routes))) := by
  refine ⟨fun links listed hlinks hkey hperm hcarries => ?_,
    fun addresses listed hkey hperm hcarries => ?_,
    fun routes listed hroutes hkey hperm hcarries => ?_⟩
  · exact dump_reads_back (by decide) (by decide) (hsend _) hfit
      (fun link hlink => parseLink_linkPayload (hlinks link hlink)) hkey hperm hcarries
  · exact dump_reads_back (by decide) (by decide) (hsend _) hfit
      (fun address _ => parseAddress_addressPayload address) hkey hperm hcarries
  · exact dump_reads_back (by decide) (by decide) (hsend _) hfit
      (fun route hroute => parseRoute_routePayload (hroutes route hroute)) hkey hperm hcarries

end Requests

/-- The default route comes first, whatever is sent first. -/
theorem routeKey_gatewayOfTen_siteOfTen :
    SortedBy routeKey [gatewayOfTen, siteOfTen] ∧ routeKey gatewayOfTen ≠ routeKey siteOfTen := by
  constructor
  · refine List.pairwise_pair.mpr ?_
    decide
  · intro heq
    have hdestination : gatewayOfTen.destination = siteOfTen.destination := congrArg (·.2.1) heq
    exact absurd hdestination (by decide)

/-- Two routes, the later one first, in two datagrams with an address in between. -/
theorem tables_read_back_siteOfTen :
    let _ : Native := littleMachine
    let site := reply rtmNewroute (routePayload siteOfTen) (by decide)
    let address := reply rtmNewaddr (addressPayload ⟨7, .v4 (.new 10 0 0 5), 24⟩) (by decide)
    let gateway := reply rtmNewroute (routePayload gatewayOfTen) (by decide)
    let done := reply nlmsgDone [] (by decide)
    getRoutes (answering (fun _ => .ok ()) [[site, address], [gateway, done]] []) =
      some (.ok [gatewayOfTen, siteOfTen]) := by
  intro machine site address gateway done
  obtain ⟨hsorted, hne⟩ := routeKey_gatewayOfTen_siteOfTen
  have hfixed : sortByKey routeKey [gatewayOfTen, siteOfTen] = [gatewayOfTen, siteOfTen] :=
    List.mergeSort_of_pairwise hsorted
  rw [← hfixed]
  refine (tables_read_back (fun _ => rfl) ?_).2.2 [gatewayOfTen, siteOfTen]
    [siteOfTen, gatewayOfTen] ?_ ?_ (.swap _ _ _)
    (.item rfl rfl (.other (by decide) (by decide) (by decide) (.item rfl rfl (.done [] rfl))))
  · rintro datagram (_ | ⟨_, _ | ⟨_, ⟨⟩⟩⟩)
    · exact by decide +kernel
    · exact by decide +kernel
  · rintro r (_ | ⟨_, _ | ⟨_, ⟨⟩⟩⟩)
    · exact gatewayOfTen_requestable
    · exact siteOfTen_requestable
  · rintro r (_ | ⟨_, _ | ⟨_, ⟨⟩⟩⟩) r' (_ | ⟨_, _ | ⟨_, ⟨⟩⟩⟩) heq
    · rfl
    · exact (hne heq).elim
    · exact (hne heq.symm).elim
    · rfl

end NetworkManager.Netlink
