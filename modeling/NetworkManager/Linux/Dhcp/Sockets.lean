import NetworkManager.Linux.Dhcp.Selection
import NetworkManager.Support.Tracing

/-!
# Linux — Dhcp — Sockets

What becomes of the socket that `acquire` and `release` open.  `Logged` holds the client once more,
with a log of its system calls on the socket; `tracks_acquire` and `tracks_release` say that the
log is all that it adds.

* `Leaves fd closed calls`: the socket `fd` is closed after its last use if `closed`, and left open
  otherwise.
* `socket_ledger_iff`: when the socket is closed once; it is never used after that.
-/

namespace NetworkManager

open Effects

/-! ### Releasing a lease -/

/-- `DhcpClient::release`. -/
def Dhcpv4Client.release (os : DhcpOs) (lease : DhcpLease) : Exchange Unit := do
  match readMacAddress os lease.interfaceName with
  | .error err => throw err
  | .ok mac => do
    let fd ← openSocket os lease.interfaceName
    let server := lease.serverIdentifier.getD .broadcast
    let result ← attempt (sendPacket os
      ⟨DhcpPacket.buildRelease os.transactionId mac lease.address server, 67, server.octets⟩)
    closeSocket fd
    MonadExcept.ofExcept (result : Except DhcpError Unit)

/-! ### The system calls -/

/-- A system call on the socket.  The polls and receives of one wait are taken together. -/
inductive SocketCall where
  | opened (fd : Int32)
  | used (fd : Int32)
  | closed (fd : Int32)
  deriving DecidableEq

namespace SocketCall

/-- Each descriptor that was opened was closed exactly once. -/
def ClosedOnce (calls : List SocketCall) : Prop :=
  ∀ fd, .opened fd ∈ calls → calls.count (.closed fd) = 1

/-- No descriptor was used after it was closed. -/
def UsedOpen (calls : List SocketCall) : Prop :=
  ∀ fd before after, calls = before ++ .closed fd :: after → .used fd ∉ after

/-- A socket that was opened and used, and nothing else. -/
def StillOpen (fd : Int32) (calls : List SocketCall) : Prop :=
  ∃ n, calls = .opened fd :: List.replicate n (.used fd)

/-- A socket that was opened, used and then closed. -/
def Finished (fd : Int32) (calls : List SocketCall) : Prop :=
  ∃ before, StillOpen fd before ∧ calls = before ++ [.closed fd]

/-- The socket is closed exactly if `closed` holds. -/
def Leaves (fd : Int32) (closed : Prop) (calls : List SocketCall) : Prop :=
  (closed → Finished fd calls) ∧ (¬ closed → StillOpen fd calls)

variable {fd : Int32} {calls : List SocketCall}

/-- A use leaves the socket open. -/
theorem StillOpen.used (h : StillOpen fd calls) : StillOpen fd (calls ++ [.used fd]) := by
  obtain ⟨n, rfl⟩ := h
  exact ⟨n + 1, by rw [List.cons_append, ← List.replicate_succ']⟩

theorem StillOpen.closed_not_mem (h : StillOpen fd calls) (fd' : Int32) : .closed fd' ∉ calls := by
  obtain ⟨n, rfl⟩ := h
  simp [List.mem_replicate]

/-- A socket that is open is used while it is. -/
theorem StillOpen.usedOpen (h : StillOpen fd calls) : UsedOpen calls := by
  intro fd' before after hcalls
  exact absurd (by rw [hcalls]; simp) (h.closed_not_mem fd')

/-- A socket that is open was not closed. -/
theorem StillOpen.not_closedOnce (h : StillOpen fd calls) : ¬ ClosedOnce calls := by
  intro hclosed
  have hcount : calls.count (.closed fd) = 0 := List.count_eq_zero.mpr (h.closed_not_mem fd)
  obtain ⟨n, rfl⟩ := h
  have hone := hclosed fd List.mem_cons_self
  omega

/-- A socket that is finished was used while it was open. -/
theorem Finished.usedOpen (h : Finished fd calls) : UsedOpen calls := by
  obtain ⟨uses, huses, rfl⟩ := h
  intro fd' before after hcalls
  cases after using List.reverseRecOn with
  | nil => exact List.not_mem_nil
  | append_singleton after call _ =>
      rw [← List.cons_append, ← List.append_assoc] at hcalls
      obtain ⟨hfront, -⟩ := List.append_inj' hcalls rfl
      exact absurd (by rw [hfront]; simp) (huses.closed_not_mem fd')

/-- A socket that is finished was closed once. -/
theorem Finished.closedOnce (h : Finished fd calls) : ClosedOnce calls := by
  obtain ⟨uses, huses, rfl⟩ := h
  intro fd' hopened
  have hsame : fd' = fd := by
    obtain ⟨n, rfl⟩ := huses
    simpa [List.mem_replicate] using hopened
  rw [List.count_append, List.count_eq_zero.mpr (huses.closed_not_mem fd'), hsame]
  simp

theorem Leaves.usedOpen {closed : Prop} (h : Leaves fd closed calls) : UsedOpen calls := by
  by_cases hclosed : closed
  · exact (h.1 hclosed).usedOpen
  · exact (h.2 hclosed).usedOpen

/-- What is left behind is closed once exactly under the condition. -/
theorem Leaves.closedOnce_iff {closed : Prop} (h : Leaves fd closed calls) :
    ClosedOnce calls ↔ closed := by
  by_cases hclosed : closed
  · exact iff_of_true (h.1 hclosed).closedOnce hclosed
  · exact iff_of_false (h.2 hclosed).not_closedOnce hclosed

/-- The ledger, by what is left behind. -/
theorem Leaves.ledger {closed C : Prop} (h : Leaves fd closed calls) (hiff : closed ↔ C) :
    UsedOpen calls ∧ (ClosedOnce calls ↔ C) :=
  ⟨h.usedOpen, h.closedOnce_iff.trans hiff⟩

theorem Leaves.congr {closed closed' : Prop} (h : Leaves fd closed calls)
    (hiff : closed ↔ closed') : Leaves fd closed' calls := by rwa [← propext hiff]

end SocketCall

open SocketCall

/-! ### What closes the socket -/

/-- The options of the socket can be set. -/
def DhcpOs.Configures (os : DhcpOs) (interfaceName : String) : Prop :=
  os.reuseAddr = .ok () ∧ os.broadcast = .ok () ∧ os.bindToDevice interfaceName = .ok ()

/-- The datagram that is handed to the socket after `n` others goes out as a whole. -/
def DhcpOs.SendsWhole (os : DhcpOs) (n : ℕ) (payload : List UInt8) : Prop :=
  os.sendto n payload = .ok payload.length

/-- An offer with an address. -/
def UsableOffer (packet : DhcpPacket) : Prop :=
  packet.messageType = .offer ∧ packet.yourAddress ≠ none

/-- The exchange goes on until an answer of the server ends it, or until there is a lease. -/
def Dhcpv4Client.Ends (client : Dhcpv4Client) (os : DhcpOs) (request : DhcpRequest)
    (mac : MacAddress) : Prop :=
  os.SendsWhole 0 (DhcpPacket.buildDiscover os.transactionId mac request.hostname
    request.requestedAddress) ∧
  ∃ offer rest, client.packets os request = offer :: rest ∧ (UsableOffer offer →
    os.SendsWhole 1 (requestFor mac os.transactionId offer request.hostname) ∧
    ∃ ack, rest.head? = some ack ∧ (ack.messageType = .ack → ∃ lease,
      ack.toLease request.interfaceIndex request.interfaceName mac = .ok lease))

/-- A socket that is opened has its options set, and once it is bound the exchange ends. -/
def Dhcpv4Client.Closes (client : Dhcpv4Client) (os : DhcpOs) (request : DhcpRequest) : Prop :=
  ∀ mac fd, readMacAddress os request.interfaceName = .ok mac → os.socket = .ok fd →
    os.Configures request.interfaceName ∧ (os.bind 68 = .ok () → client.Ends os request mac)

/-! ### The client with its log -/

namespace Logged

/-- What the client does, with the calls about sockets on record. -/
abbrev Exchange := EStateM DhcpError (Traced SocketCall Conversation)

/-- `close_socket`. -/
def closeSocket (fd : Int32) : Exchange Unit :=
  record (.closed fd) (NetworkManager.closeSocket fd)

/-- `open_socket`: closed again only if it cannot be bound. -/
def openSocket (os : DhcpOs) (interfaceName : String) : Exchange Int32 := do
  let fd ← recordOk .opened (do
    let fd ← orFail os.socket
    modify fun c => { c with opened := c.opened ++ [fd] }
    return fd)
  record (.used fd) (orFail os.reuseAddr)
  record (.used fd) (orFail os.broadcast)
  record (.used fd) (orFail (os.bindToDevice interfaceName))
  match ← attempt (record (.used fd) (orFail (os.bind 68))) with
  | .ok _ => return fd
  | .error err => do
    closeSocket fd
    throw err

/-- `send_packet`. -/
def sendPacket (os : DhcpOs) (fd : Int32) (sending : Sending) : Exchange Unit :=
  record (.used fd) (NetworkManager.sendPacket os sending)

/-- `wait_for_packet`. -/
def waitForPacket (fd : Int32) (xid : UInt32) (interfaceName : String) : Exchange DhcpPacket :=
  record (.used fd) (NetworkManager.waitForPacket xid interfaceName)

/-- Closes the socket and fails. -/
def giveUp {α : Type} (fd : Int32) (msg : String) : Exchange α := do
  closeSocket fd
  throw (.malformedPacket msg)

/-- The offer, which has to be one and to have an address. -/
def takeOffer (fd : Int32) (xid : UInt32) (interfaceName : String) : Exchange DhcpPacket := do
  let offer ← waitForPacket fd xid interfaceName
  if offer.messageType ≠ .offer then
    giveUp fd "expected a DHCPOFFER in response to DISCOVER"
  else if offer.yourAddress = none ∨ offer.yourAddress = some .unspecified then
    giveUp fd "DHCPOFFER carried no usable address"
  else return offer

/-- The acknowledgement, which has to be one. -/
def takeAck (fd : Int32) (xid : UInt32) (interfaceName : String) : Exchange DhcpPacket := do
  let ack ← waitForPacket fd xid interfaceName
  match ack.messageType with
  | .ack => return ack
  | .nak => giveUp fd "server returned DHCPNAK"
  | _ => giveUp fd "expected a DHCPACK in response to REQUEST"

/-- The lease; the socket is closed only if there is one. -/
def takeLease (fd : Int32) (mac : MacAddress) (request : DhcpRequest) (ack : DhcpPacket) :
    Exchange DhcpLease := do
  match ack.toLease request.interfaceIndex request.interfaceName mac with
  | .error err => throw err
  | .ok lease => do
    closeSocket fd
    return lease

/-- `acquire`. -/
def acquire (client : Dhcpv4Client) (os : DhcpOs) (request : DhcpRequest) : Exchange DhcpLease := do
  match readMacAddress os request.interfaceName with
  | .error err => throw err
  | .ok mac => do
    let xid := os.transactionId
    let fd ← openSocket os request.interfaceName
    quiet (modify fun c => { c with inbox := os.deliveries (client.effectiveTimeout request) })
    sendPacket os fd (toAll (DhcpPacket.buildDiscover xid mac request.hostname
      request.requestedAddress))
    let offer ← takeOffer fd xid request.interfaceName
    sendPacket os fd (toAll (requestFor mac xid offer request.hostname))
    let ack ← takeAck fd xid request.interfaceName
    takeLease fd mac request ack

/-- `release`: sent to the server, or to everybody if there is none. -/
def release (os : DhcpOs) (lease : DhcpLease) : Exchange Unit := do
  match readMacAddress os lease.interfaceName with
  | .error err => throw err
  | .ok mac => do
    let fd ← openSocket os lease.interfaceName
    let server := lease.serverIdentifier.getD .broadcast
    let result ← attempt (sendPacket os fd
      ⟨DhcpPacket.buildRelease os.transactionId mac lease.address server, 67, server.octets⟩)
    closeSocket fd
    MonadExcept.ofExcept (result : Except DhcpError Unit)

/-! ### The log is all that is added -/

theorem tracks_closeSocket (fd : Int32) :
    Tracks Traced.state (closeSocket fd) (NetworkManager.closeSocket fd) := .record _ _

/-- The record does not change how a socket is opened. -/
theorem tracks_openSocket (os : DhcpOs) (interfaceName : String) :
    Tracks Traced.state (openSocket os interfaceName)
      (NetworkManager.openSocket os interfaceName) := by
  have hopen : NetworkManager.openSocket os interfaceName = (do
      let fd ← (do
        let fd ← orFail os.socket
        modify fun c => { c with opened := c.opened ++ [fd] }
        return fd)
      orFail os.reuseAddr
      orFail os.broadcast
      orFail (os.bindToDevice interfaceName)
      match ← attempt (orFail (os.bind 68)) with
      | .ok _ => return fd
      | .error err => do
        NetworkManager.closeSocket fd
        throw err) := by
    rw [NetworkManager.openSocket]
    simp only [bind_assoc, pure_bind]
    cases os.bind 68 <;> rfl
  rw [hopen]
  refine (Tracks.recordOk _ _).bind fun fd => ?_
  refine (Tracks.record _ _).bind fun _ => (Tracks.record _ _).bind fun _ =>
    (Tracks.record _ _).bind fun _ => (Tracks.record _ _).attempt.bind fun r => ?_
  cases r with
  | ok _ => exact .pure fd
  | error err => exact (tracks_closeSocket fd).bind fun _ => .throw err

theorem tracks_giveUp {α : Type} (fd : Int32) (msg : String) :
    Tracks Traced.state (giveUp (α := α) fd msg) (NetworkManager.giveUp fd msg) :=
  (tracks_closeSocket fd).bind fun _ => .throw _

theorem tracks_takeOffer (fd : Int32) (xid : UInt32) (interfaceName : String) :
    Tracks Traced.state (takeOffer fd xid interfaceName)
      (NetworkManager.takeOffer fd xid interfaceName) := by
  refine (Tracks.record _ _).bind fun offer => ?_
  split
  · exact tracks_giveUp fd _
  · split
    · exact tracks_giveUp fd _
    · exact .pure offer

theorem tracks_takeAck (fd : Int32) (xid : UInt32) (interfaceName : String) :
    Tracks Traced.state (takeAck fd xid interfaceName)
      (NetworkManager.takeAck fd xid interfaceName) := by
  refine (Tracks.record _ _).bind fun ack => ?_
  cases ack.messageType with
  | ack => exact .pure ack
  | nak => exact tracks_giveUp fd _
  | discover | offer | request | decline | release | inform | unknown value =>
      exact tracks_giveUp fd _

theorem tracks_takeLease (fd : Int32) (mac : MacAddress) (request : DhcpRequest)
    (ack : DhcpPacket) :
    Tracks Traced.state (takeLease fd mac request ack)
      (NetworkManager.takeLease fd mac request ack) := by
  unfold takeLease NetworkManager.takeLease
  cases ack.toLease request.interfaceIndex request.interfaceName mac with
  | error err => exact .throw err
  | ok lease => exact (tracks_closeSocket fd).bind fun _ => .pure lease

/-- **The record does not change what `acquire` does.** -/
theorem tracks_acquire (client : Dhcpv4Client) (os : DhcpOs) (request : DhcpRequest) :
    Tracks Traced.state (acquire client os request) (client.acquire os request) := by
  unfold acquire Dhcpv4Client.acquire
  cases readMacAddress os request.interfaceName with
  | error err => exact .throw err
  | ok mac =>
      refine (tracks_openSocket os request.interfaceName).bind fun fd => ?_
      refine (Tracks.quiet _).bind fun _ => (Tracks.record _ _).bind fun _ => ?_
      refine (tracks_takeOffer fd _ _).bind fun offer => (Tracks.record _ _).bind fun _ => ?_
      exact (tracks_takeAck fd _ _).bind fun ack => tracks_takeLease fd mac request ack

/-- The record does not change what `release` does. -/
theorem tracks_release (os : DhcpOs) (lease : DhcpLease) :
    Tracks Traced.state (release os lease) (Dhcpv4Client.release os lease) := by
  unfold release Dhcpv4Client.release
  cases readMacAddress os lease.interfaceName with
  | error err => exact .throw err
  | ok mac =>
      refine (tracks_openSocket os lease.interfaceName).bind fun fd => ?_
      refine (Tracks.record _ _).attempt.bind fun result => ?_
      refine (tracks_closeSocket fd).bind fun _ => ?_
      cases result with
      | ok _ => exact .pure _
      | error err => exact .throw err

/-! ### What is left of the socket -/

variable {os : DhcpOs} {fd : Int32} {t : Traced SocketCall Conversation}

/-- The calls of a run of `x` from `t`. -/
abbrev callsAfter {α : Type} (x : Exchange α) (t : Traced SocketCall Conversation) :
    List SocketCall := (after x t).calls

/-- Closing the socket finishes it. -/
theorem leaves_closed {α : Type} {f : Unit → Exchange α} (hopen : StillOpen fd t.calls)
    (hf : ∀ t', (after (f ()) t').calls = t'.calls) :
    Leaves fd True (callsAfter (closeSocket fd >>= f) t) := by
  have hclose : closeSocket fd t =
      .ok () ⟨{ t.state with closed := t.state.closed ++ [fd] }, t.calls ++ [.closed fd]⟩ := rfl
  rw [callsAfter, after_bind_of_ok hclose, hf]
  exact ⟨fun _ => ⟨_, hopen, rfl⟩, fun h => absurd trivial h⟩

/-- A use of the socket after which it is left open if the use fails. -/
theorem leaves_use {α β : Type} {x : NetworkManager.Exchange α} {f : α → Exchange β}
    {C : α → Conversation → Prop} (hopen : StillOpen fd t.calls)
    (hf : ∀ a c, x t.state = .ok a c →
      Leaves fd (C a c) (callsAfter (f a) ⟨c, t.calls ++ [.used fd]⟩)) :
    Leaves fd (∃ a c, x t.state = .ok a c ∧ C a c)
      (callsAfter (record (.used fd) x >>= f) t) := by
  cases hx : x t.state with
  | ok a c =>
      rw [callsAfter, after_bind_of_ok (record_of_ok hx)]
      refine (hf a c hx).congr ⟨fun h => ⟨a, c, rfl, h⟩, ?_⟩
      rintro ⟨_, _, ⟨⟩, h⟩
      exact h
  | error err c =>
      have hrun : (record (.used fd) x >>= f) t = .error err ⟨c, t.calls ++ [.used fd]⟩ :=
        bind_of_error (by rw [record, hx])
      rw [callsAfter, after_of_error hrun]
      refine ⟨?_, fun _ => hopen.used⟩
      rintro ⟨_, _, ⟨⟩, _⟩

/-- Giving up closes the socket, and nothing follows. -/
theorem leaves_giveUp_bind {α β : Type} {f : α → Exchange β} (hopen : StillOpen fd t.calls)
    (msg : String) : Leaves fd True (callsAfter (giveUp fd msg >>= f) t) := by
  rw [giveUp, bind_assoc]
  exact leaves_closed hopen fun _ => rfl

/-- The socket is closed exactly if there is a lease. -/
theorem leaves_takeLease (hopen : StillOpen fd t.calls) (mac : MacAddress) (request : DhcpRequest)
    (ack : DhcpPacket) :
    Leaves fd (∃ lease, ack.toLease request.interfaceIndex request.interfaceName mac = .ok lease)
      (callsAfter (takeLease fd mac request ack) t) := by
  unfold takeLease
  cases ack.toLease request.interfaceIndex request.interfaceName mac with
  | error err => exact ⟨fun ⟨_, h⟩ => (nomatch h), fun _ => hopen⟩
  | ok lease => exact (leaves_closed hopen fun _ => rfl).congr (iff_of_true trivial ⟨lease, rfl⟩)

/-- The socket is left as what follows leaves it, and closed where it was no acknowledgement. -/
theorem leaves_takeAck {β : Type} {f : DhcpPacket → Exchange β} (xid : UInt32)
    (interfaceName : String) {C : DhcpPacket → Conversation → Prop}
    (hopen : StillOpen fd t.calls)
    (hf : ∀ ack c, Leaves fd (C ack c) (callsAfter (f ack) ⟨c, t.calls ++ [.used fd]⟩)) :
    Leaves fd (∃ ack c, NetworkManager.waitForPacket xid interfaceName t.state = .ok ack c ∧
        (ack.messageType = .ack → C ack c))
      (callsAfter (takeAck fd xid interfaceName >>= f) t) := by
  rw [takeAck, bind_assoc]
  refine leaves_use hopen fun ack c _ => ?_
  cases htype : ack.messageType with
  | ack => exact (hf ack c).congr ⟨fun h _ => h, fun h => h rfl⟩
  | nak => exact (leaves_giveUp_bind hopen.used _).congr (iff_of_true trivial nofun)
  | discover | offer | request | decline | release | inform | unknown value =>
      exact (leaves_giveUp_bind hopen.used _).congr (iff_of_true trivial nofun)

/-- The socket is left as what follows leaves it, and closed where it was no offer. -/
theorem leaves_takeOffer {β : Type} {f : DhcpPacket → Exchange β} (xid : UInt32)
    (interfaceName : String) {C : DhcpPacket → Conversation → Prop}
    (hopen : StillOpen fd t.calls)
    (hf : ∀ offer c, Leaves fd (C offer c) (callsAfter (f offer) ⟨c, t.calls ++ [.used fd]⟩)) :
    Leaves fd (∃ offer c, NetworkManager.waitForPacket xid interfaceName t.state = .ok offer c ∧
        (UsableOffer offer → C offer c))
      (callsAfter (takeOffer fd xid interfaceName >>= f) t) := by
  rw [takeOffer, bind_assoc]
  refine leaves_use hopen fun offer c _ => ?_
  split
  · next htype =>
      exact (leaves_giveUp_bind hopen.used _).congr
        (iff_of_true trivial fun husable => absurd husable.1 htype)
  · next htype =>
      split
      · next hnone =>
          refine (leaves_giveUp_bind hopen.used _).congr (iff_of_true trivial fun husable => ?_)
          exact absurd (hnone.resolve_right (DhcpPacket.addressField_ne_unspecified _)) husable.2
      · next haddress =>
          have husable : UsableOffer offer := ⟨not_not.mp htype, fun h => haddress (.inl h)⟩
          exact (hf offer c).congr ⟨fun h _ => h, fun h => h husable⟩

/-- A use of the socket whose failure is handed over. -/
theorem leaves_attempt {α β : Type} {x : NetworkManager.Exchange α}
    {k : Except DhcpError α → Exchange β} {C : Prop}
    (hk : ∀ r c, Leaves fd C (callsAfter (k r) ⟨c, t.calls ++ [.used fd]⟩)) :
    Leaves fd C (callsAfter (attempt (record (.used fd) x) >>= k) t) := by
  obtain ⟨r, hr⟩ : ∃ r, (attempt (record (.used fd) x) : Exchange (Except DhcpError α)) t =
      .ok r (after (record (.used fd) x) t) := attempt_apply _ t
  have hstate : after (record (.used fd) x) t =
      ⟨(after (record (.used fd) x) t).state, t.calls ++ [.used fd]⟩ :=
    congrArg (Traced.mk _) (calls_after_record _ x t)
  rw [hstate] at hr
  rw [callsAfter, after_bind_of_ok hr]
  exact hk r _

/-- The call of `bind`, and what follows it. -/
theorem leaves_bind {β : Type} {k : Except DhcpError Unit → Exchange β} {C : Prop}
    (hok : Leaves fd C (callsAfter (k (.ok ())) ⟨t.state, t.calls ++ [.used fd]⟩))
    (herror : ∀ err, Leaves fd True
      (callsAfter (k (.error err)) ⟨t.state, t.calls ++ [.used fd]⟩)) :
    Leaves fd (os.bind 68 = .ok () → C)
      (callsAfter (attempt (record (.used fd) (orFail (os.bind 68))) >>= k) t) := by
  cases hbind : os.bind 68 with
  | ok _ =>
      have hrun : (attempt (record (.used fd) (orFail (.ok ()))) :
          Exchange (Except DhcpError Unit)) t =
          .ok (.ok ()) ⟨t.state, t.calls ++ [.used fd]⟩ := rfl
      rw [callsAfter, after_bind_of_ok hrun]
      exact hok.congr ⟨fun h _ => h, fun h => h rfl⟩
  | error err =>
      have hrun : (attempt (record (.used fd) (orFail (.error err))) :
          Exchange (Except DhcpError Unit)) t =
          .ok (.error (.io err)) ⟨t.state, t.calls ++ [.used fd]⟩ := rfl
      rw [callsAfter, after_bind_of_ok hrun]
      exact (herror _).congr (iff_of_true trivial nofun)

/-- Opening the socket, up to what is done with it; the calls before have none of it. -/
theorem leaves_openSocket {β : Type} {f : Int32 → Exchange β} {interfaceName : String}
    {C : Prop} (hcalls : t.calls = []) (hsocket : os.socket = .ok fd)
    (hf : ∀ calls, StillOpen fd calls → Leaves fd C
      (callsAfter (f fd) ⟨{ t.state with opened := t.state.opened ++ [fd] }, calls⟩)) :
    Leaves fd (os.Configures interfaceName ∧ (os.bind 68 = .ok () → C))
      (callsAfter (openSocket os interfaceName >>= f) t) := by
  -- the descriptor is the first call, and every option that fails closes it again
  have hopened : recordOk SocketCall.opened (do
      let fd ← orFail os.socket
      modify fun c => { c with opened := c.opened ++ [fd] }
      return fd) t = .ok fd
        ⟨{ t.state with opened := t.state.opened ++ [fd] }, t.calls ++ [.opened fd]⟩ := by
    rw [hsocket]
    rfl
  have hopen : StillOpen fd (t.calls ++ [.opened fd]) := ⟨0, by rw [hcalls]; rfl⟩
  unfold openSocket
  simp only [bind_assoc]
  rw [callsAfter, after_bind_of_ok hopened]
  refine (leaves_use hopen fun _ c hreuse => leaves_use hopen.used fun _ c' hbroadcast =>
    leaves_use (C := fun _ _ => os.bind 68 = .ok () → C) hopen.used.used
      fun _ c'' hdevice => ?_).congr ?_
  · obtain ⟨-, rfl⟩ := orFail_eq_ok.mp hreuse
    obtain ⟨-, rfl⟩ := orFail_eq_ok.mp hbroadcast
    obtain ⟨-, rfl⟩ := orFail_eq_ok.mp hdevice
    refine leaves_bind (hf _ hopen.used.used.used.used) fun err => ?_
    rw [bind_assoc]
    exact leaves_closed hopen.used.used.used.used fun _ => rfl
  · simp only [orFail_eq_ok]
    constructor
    · rintro ⟨_, _, ⟨hreuse, rfl⟩, _, _, ⟨hbroadcast, rfl⟩, _, _, ⟨hdevice, rfl⟩, hclosed⟩
      exact ⟨⟨hreuse, hbroadcast, hdevice⟩, hclosed⟩
    · rintro ⟨⟨hreuse, hbroadcast, hdevice⟩, hclosed⟩
      exact ⟨_, _, ⟨hreuse, rfl⟩, _, _, ⟨hbroadcast, rfl⟩, _, _, ⟨hdevice, rfl⟩, hclosed⟩

/-- The exchange over the open socket. -/
theorem leaves_exchange (hopen : StillOpen fd t.calls) (mac : MacAddress) (request : DhcpRequest)
    (discover : List UInt8) :
    Leaves fd (os.SendsWhole t.state.sent.length discover ∧
        ∃ offer rest, ours os.transactionId t.state.inbox = offer :: rest ∧ (UsableOffer offer →
          os.SendsWhole (t.state.sent.length + 1)
            (requestFor mac os.transactionId offer request.hostname) ∧
          ∃ ack, rest.head? = some ack ∧ (ack.messageType = .ack → ∃ lease,
            ack.toLease request.interfaceIndex request.interfaceName mac = .ok lease)))
      (callsAfter (do
        sendPacket os fd (toAll discover)
        let offer ← takeOffer fd os.transactionId request.interfaceName
        sendPacket os fd (toAll (requestFor mac os.transactionId offer request.hostname))
        let ack ← takeAck fd os.transactionId request.interfaceName
        takeLease fd mac request ack) t) := by
  -- put together from the end: the lease, the answer, the request, the offer
  have hack {calls : List SocketCall} (hcalls : StillOpen fd calls) (c : Conversation) :=
    leaves_takeAck os.transactionId request.interfaceName (t := ⟨c, calls⟩) hcalls
      fun ack _ => leaves_takeLease hcalls.used mac request ack
  have hrequest {calls : List SocketCall} (hcalls : StillOpen fd calls) (offer : DhcpPacket)
      (c : Conversation) :=
    leaves_use (t := ⟨c, calls⟩) (x := NetworkManager.sendPacket os
      (toAll (requestFor mac os.transactionId offer request.hostname))) hcalls
      fun _ c _ => hack hcalls.used c
  have hdiscover := leaves_use (x := NetworkManager.sendPacket os (toAll discover)) hopen
    fun _ c _ => leaves_takeOffer os.transactionId request.interfaceName
      (t := ⟨c, t.calls ++ [.used fd]⟩) hopen.used
      fun offer c => hrequest hopen.used.used offer c
  have hsent (sending : Sending) (c c' : Conversation) (u : Unit) :
      NetworkManager.sendPacket os sending c = .ok u c' ↔
        os.SendsWhole c.sent.length sending.payload ∧ c' = { c with sent := c.sent ++ [sending] } :=
    sendPacket_eq_ok
  refine hdiscover.congr ?_
  -- what is received in turn is what the inbox has for the transaction, in order
  simp only [hsent, waitForPacket_eq_ok]
  constructor
  · rintro ⟨_, _, ⟨hdiscover, rfl⟩, offer, _, ⟨rest, hwait, rfl⟩, hrest⟩
    refine ⟨hdiscover, offer, _, ours_of_waitFor hwait, fun husable => ?_⟩
    obtain ⟨_, _, ⟨hrequest, rfl⟩, ack, _, ⟨rest', hwait', rfl⟩, hlease⟩ := hrest husable
    rw [List.length_append] at hrequest
    refine ⟨hrequest, ack, ?_, hlease⟩
    rw [ours_of_waitFor hwait', List.head?_cons]
  · rintro ⟨hdiscover, offer, rest, hours, hrest⟩
    obtain ⟨inbox, hwait⟩ := waitFor_of_ours request.interfaceName hours
    refine ⟨(), _, ⟨hdiscover, rfl⟩, offer, _, ⟨inbox, hwait, rfl⟩, fun husable => ?_⟩
    obtain ⟨hrequest, ack, hack, hlease⟩ := hrest husable
    obtain ⟨rest', rfl⟩ := List.head?_eq_some_iff.mp hack
    have hinbox := (List.cons_eq_cons.mp ((ours_of_waitFor hwait).symm.trans hours)).2
    obtain ⟨inbox', hwait'⟩ := waitFor_of_ours request.interfaceName hinbox
    refine ⟨(), _, ⟨?_, rfl⟩, ack, _, ⟨inbox', hwait', rfl⟩, hlease⟩
    rw [List.length_append]
    exact hrequest

/-! ### Both calls -/

/-- No socket was opened. -/
theorem ledger_nil {C : Prop} (h : C) : UsedOpen [] ∧ (ClosedOnce [] ↔ C) :=
  ⟨fun _ _ _ h => by simp at h, iff_of_true (fun _ h => by simp at h) h⟩

/-- Without a socket there is nothing to close. -/
theorem ledger_of_no_socket {β : Type} {f : Int32 → Exchange β} {interfaceName : String}
    {err : IoError} {C : Prop} (hsocket : os.socket = .error err) (h : C) :
    UsedOpen (callsAfter (openSocket os interfaceName >>= f) ⟨{}, []⟩) ∧
      (ClosedOnce (callsAfter (openSocket os interfaceName >>= f) ⟨{}, []⟩) ↔ C) := by
  have hopen : openSocket os interfaceName ⟨{}, []⟩ = .error (.io err) ⟨{}, []⟩ := by
    rw [openSocket, hsocket]
    rfl
  rw [callsAfter, after_of_error (bind_of_error hopen)]
  exact ledger_nil h

/-- The sockets of `acquire`. -/
theorem acquire_ledger (client : Dhcpv4Client) (os : DhcpOs) (request : DhcpRequest) :
    UsedOpen (callsAfter (acquire client os request) ⟨{}, []⟩) ∧
      (ClosedOnce (callsAfter (acquire client os request) ⟨{}, []⟩) ↔
        client.Closes os request) := by
  unfold acquire Dhcpv4Client.Closes
  cases hmac : readMacAddress os request.interfaceName with
  | error err => exact ledger_nil nofun
  | ok mac =>
      cases hsocket : os.socket with
      | error err => exact ledger_of_no_socket hsocket nofun
      | ok fd =>
          refine Leaves.ledger (leaves_openSocket rfl hsocket fun calls hopen => leaves_exchange
            (t := ⟨{ opened := [fd], inbox := os.deliveries (client.effectiveTimeout request) },
              calls⟩) hopen mac request _) ⟨?_, fun h => h mac fd rfl rfl⟩
          rintro h _ _ ⟨⟩ ⟨⟩
          exact h

/-- The sockets of `release`. -/
theorem release_ledger (os : DhcpOs) (lease : DhcpLease) :
    UsedOpen (callsAfter (release os lease) ⟨{}, []⟩) ∧
      (ClosedOnce (callsAfter (release os lease) ⟨{}, []⟩) ↔
        ∀ mac fd, readMacAddress os lease.interfaceName = .ok mac → os.socket = .ok fd →
          os.Configures lease.interfaceName) := by
  unfold release
  cases hmac : readMacAddress os lease.interfaceName with
  | error err => exact ledger_nil nofun
  | ok mac =>
      cases hsocket : os.socket with
      | error err => exact ledger_of_no_socket hsocket nofun
      | ok fd =>
          refine Leaves.ledger (leaves_openSocket (C := True) rfl hsocket fun calls hopen =>
            leaves_attempt fun result c => leaves_closed hopen.used fun t =>
              congrArg Traced.calls (after_ofExcept result t))
            ⟨?_, fun h => ⟨h mac fd rfl rfl, fun _ => trivial⟩⟩
          rintro h _ _ ⟨⟩ ⟨⟩
          exact h.1

/-- **Sockets.**  A descriptor is never used after it is closed.  `acquire` closes the one it opens
once exactly if `Closes` holds, and `release` exactly if the options of the socket can be set. -/
theorem socket_ledger_iff (client : Dhcpv4Client) (os : DhcpOs) (request : DhcpRequest)
    (lease : DhcpLease) :
    (UsedOpen (callsAfter (acquire client os request) ⟨{}, []⟩) ∧
      (ClosedOnce (callsAfter (acquire client os request) ⟨{}, []⟩) ↔ client.Closes os request)) ∧
    UsedOpen (callsAfter (release os lease) ⟨{}, []⟩) ∧
      (ClosedOnce (callsAfter (release os lease) ⟨{}, []⟩) ↔
        ∀ mac fd, readMacAddress os lease.interfaceName = .ok mac → os.socket = .ok fd →
          os.Configures lease.interfaceName) :=
  ⟨acquire_ledger client os request, release_ledger os lease⟩

/-- Nobody answers, and the socket stays open. -/
theorem timeout_leaks_socket :
    ¬ ClosedOnce (callsAfter (acquire {} (.link []) linkRequest) ⟨{}, []⟩) := by
  rw [(acquire_ledger _ _ _).2]
  intro h
  obtain ⟨-, hends⟩ := h linkMac 3 rfl rfl
  obtain ⟨-, offer, rest, hpackets, -⟩ := hends rfl
  cases hpackets

end Logged

end NetworkManager
