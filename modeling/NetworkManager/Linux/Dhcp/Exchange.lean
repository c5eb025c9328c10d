import NetworkManager.Linux.Dhcp.Client

/-!
# Linux — Dhcp — Exchange

When `acquire` returns a lease, and from which packets.  The receive loop looks at the transaction
id only, so what decides is the list of the packets that carry ours (`ours`): the first one has to
be an offer and the very next one an acknowledgement.
-/

namespace NetworkManager

open Effects

/-- The packets of the transaction among the deliveries, up to the first error of the socket. -/
def ours (xid : UInt32) : List Delivery → List DhcpPacket
  | [] => []
  | .failed err :: rest => if err.kind = .interrupted then ours xid rest else []
  | .datagram bytes :: rest =>
    match receive bytes with
    | .ok packet => if packet.xid = xid then packet :: ours xid rest else ours xid rest
    | .error _ => ours xid rest

variable {xid : UInt32} {interfaceName : String} {os : DhcpOs} {c c' : Conversation} {fd : Int32}

/-! ### The steps of the exchange -/

/-- The packet that is waited for is the first one of the transaction. -/
theorem ours_of_waitFor {p : DhcpPacket} {inbox rest : List Delivery}
    (h : waitFor xid interfaceName inbox = (.ok p, rest)) :
    ours xid inbox = p :: ours xid rest := by
  fun_induction waitFor xid interfaceName inbox with
  | case1 => cases h
  | case2 err inbox hkind ih => rw [ours, if_pos hkind, ih h]
  | case3 err inbox hkind => cases h
  | case4 bytes inbox packet hpacket hxid =>
      cases h
      simp only [ours, hpacket, if_pos hxid]
  | case5 bytes inbox packet hpacket hxid ih => simp only [ours, hpacket, if_neg hxid, ih h]
  | case6 bytes inbox err hpacket ih => simp only [ours, hpacket, ih h]

/-- The receive loop returns a packet as soon as there is one. -/
theorem waitFor_of_ours (interfaceName : String) {p : DhcpPacket} {ps : List DhcpPacket}
    {inbox : List Delivery} (h : ours xid inbox = p :: ps) :
    ∃ rest, waitFor xid interfaceName inbox = (.ok p, rest) := by
  fun_induction ours xid inbox with
  | case1 => cases h
  | case2 err inbox hkind ih =>
      rw [waitFor, if_pos hkind]
      exact ih h
  | case3 err inbox hkind => cases h
  | case4 bytes inbox packet hpacket hxid ih =>
      cases h
      exact ⟨inbox, by simp only [waitFor, hpacket, if_pos hxid]⟩
  | case5 bytes inbox packet hpacket hxid ih =>
      simp only [waitFor, hpacket, if_neg hxid]
      exact ih h
  | case6 bytes inbox err hpacket ih =>
      simp only [waitFor, hpacket]
      exact ih h

/-- Waiting takes the packet, and all that comes before it. -/
theorem waitForPacket_eq_ok {p : DhcpPacket} :
    waitForPacket xid interfaceName c = .ok p c' ↔
      ∃ rest, waitFor xid interfaceName c.inbox = (.ok p, rest) ∧
        c' = { c with inbox := rest, received := c.received ++ [p] } := by
  rw [waitForPacket]
  split
  · next packet rest h =>
      rw [h]
      constructor
      · rintro ⟨⟩
        exact ⟨rest, rfl, rfl⟩
      · rintro ⟨rest', ⟨⟩, rfl⟩
        rfl
  · next err rest h =>
      rw [h]
      exact ⟨by rintro ⟨⟩, by rintro ⟨rest', ⟨⟩, -⟩⟩

/-- An offer is the next packet of the transaction, if it is an offer with an address. -/
theorem takeOffer_eq_ok {p : DhcpPacket} :
    takeOffer fd xid interfaceName c = .ok p c' ↔
      waitForPacket xid interfaceName c = .ok p c' ∧ p.messageType = .offer ∧
        p.yourAddress ≠ none := by
  rw [takeOffer, bind_eq_ok]
  constructor
  · rintro ⟨offer, c₁, hwait, h⟩
    split at h
    · cases h
    · next htype =>
        split at h
        · cases h
        · next haddress =>
            cases h
            exact ⟨hwait, not_not.mp htype, fun hnone => haddress (.inl hnone)⟩
  · rintro ⟨hwait, htype, haddress⟩
    refine ⟨p, c', hwait, ?_⟩
    rw [if_neg (not_not_intro htype), if_neg]
    · rfl
    · rintro (hnone | hzero)
      · exact haddress hnone
      · exact DhcpPacket.addressField_ne_unspecified _ hzero

/-- An acknowledgement is the next packet of the transaction, if it is one. -/
theorem takeAck_eq_ok {p : DhcpPacket} :
    takeAck fd xid interfaceName c = .ok p c' ↔
      waitForPacket xid interfaceName c = .ok p c' ∧ p.messageType = .ack := by
  rw [takeAck, bind_eq_ok]
  constructor
  · rintro ⟨ack, c₁, hwait, h⟩
    obtain ⟨type, htype⟩ : ∃ type, ack.messageType = type := ⟨_, rfl⟩
    rw [htype] at h
    cases type with
    | ack =>
        cases h
        exact ⟨hwait, htype⟩
    | nak => cases h
    | discover | offer | request | decline | release | inform | unknown value => cases h
  · rintro ⟨hwait, htype⟩
    refine ⟨p, c', hwait, ?_⟩
    rw [htype]
    rfl

/-- A lease is made of the acknowledgement, and the socket is closed. -/
theorem takeLease_eq_ok {mac : MacAddress} {request : DhcpRequest} {ack : DhcpPacket}
    {lease : DhcpLease} :
    takeLease fd mac request ack c = .ok lease c' ↔
      ack.toLease request.interfaceIndex request.interfaceName mac = .ok lease ∧
        c' = { c with closed := c.closed ++ [fd] } := by
  obtain ⟨r, hr⟩ : ∃ r, ack.toLease request.interfaceIndex request.interfaceName mac = r := ⟨_, rfl⟩
  rw [takeLease, hr]
  cases r with
  | error err => exact ⟨by rintro ⟨⟩, by rintro ⟨⟨⟩, -⟩⟩
  | ok lease' =>
      constructor
      · rintro ⟨⟩
        exact ⟨rfl, rfl⟩
      · rintro ⟨⟨⟩, rfl⟩
        rfl

theorem orFail_eq_ok {α : Type} {r : Except IoError α} {a : α} :
    orFail r c = .ok a c' ↔ r = .ok a ∧ c' = c := by
  cases r with
  | ok b =>
      constructor
      · rintro ⟨⟩
        exact ⟨rfl, rfl⟩
      · rintro ⟨⟨⟩, rfl⟩
        rfl
  | error err => exact ⟨by rintro ⟨⟩, by rintro ⟨⟨⟩, -⟩⟩

/-- What is sent is sent whole. -/
theorem sendPacket_eq_ok {sending : Sending} :
    sendPacket os sending c = .ok () c' ↔
      os.sendto c.sent.length sending.payload = .ok sending.payload.length ∧
        c' = { c with sent := c.sent ++ [sending] } := by
  rw [sendPacket, get_bind, modify_bind, bind_eq_ok]
  constructor
  · rintro ⟨count, c₁, h₁, h₂⟩
    obtain ⟨hcount, rfl⟩ := orFail_eq_ok.mp h₁
    split at h₂
    · cases h₂
    · next hlength =>
        cases h₂
        exact ⟨by rw [hcount, not_not.mp hlength], rfl⟩
  · rintro ⟨hcount, rfl⟩
    refine ⟨_, _, orFail_eq_ok.mpr ⟨hcount, rfl⟩, ?_⟩
    rw [if_neg (not_not_intro rfl)]
    rfl

/-- The socket can be opened, as the descriptor `fd`. -/
structure DhcpOs.Opens (os : DhcpOs) (interfaceName : String) (fd : Int32) : Prop where
  socket : os.socket = .ok fd
  reuseAddr : os.reuseAddr = .ok ()
  broadcast : os.broadcast = .ok ()
  bindToDevice : os.bindToDevice interfaceName = .ok ()
  bind : os.bind 68 = .ok ()

/-- A socket is opened in three steps. -/
theorem openSocket_eq_ok :
    openSocket os interfaceName c = .ok fd c' ↔
      os.Opens interfaceName fd ∧ c' = { c with opened := c.opened ++ [fd] } := by
  rw [openSocket]
  constructor
  · intro h
    obtain ⟨fd', c₁, h₁, h⟩ := bind_eq_ok.mp h
    obtain ⟨_, c₂, h₂, h⟩ := bind_eq_ok.mp h
    obtain ⟨_, c₃, h₃, h⟩ := bind_eq_ok.mp h
    obtain ⟨_, c₄, h₄, h⟩ := bind_eq_ok.mp h
    obtain ⟨_, c₅, h₅, h⟩ := bind_eq_ok.mp h
    obtain ⟨hsocket, rfl⟩ := orFail_eq_ok.mp h₁
    cases h₂
    obtain ⟨hreuse, rfl⟩ := orFail_eq_ok.mp h₃
    obtain ⟨hbroadcast, rfl⟩ := orFail_eq_ok.mp h₄
    obtain ⟨hdevice, rfl⟩ := orFail_eq_ok.mp h₅
    obtain ⟨r, hbind⟩ : ∃ r, os.bind 68 = r := ⟨_, rfl⟩
    rw [hbind] at h
    cases r with
    | ok _ =>
        cases h
        exact ⟨⟨hsocket, hreuse, hbroadcast, hdevice, hbind⟩, rfl⟩
    | error err => cases h
  · rintro ⟨hopens, rfl⟩
    rw [hopens.socket, hopens.reuseAddr, hopens.broadcast, hopens.bindToDevice, hopens.bind]
    rfl

/-! ### The exchange -/

namespace Dhcpv4Client

variable {client : Dhcpv4Client} {request : DhcpRequest} {lease : DhcpLease}

/-- The packets of its transaction that a call is given. -/
def packets (client : Dhcpv4Client) (os : DhcpOs) (request : DhcpRequest) : List DhcpPacket :=
  ours os.transactionId (os.deliveries (client.effectiveTimeout request))

/-- A call that returns a lease took the first two packets of its transaction for the offer and
the acknowledgement. -/
theorem acquire_ok (h : client.acquire os request {} = .ok lease c') :
    ∃ mac offer ack rest, readMacAddress os request.interfaceName = .ok mac ∧
      client.packets os request = offer :: ack :: rest ∧
      offer.messageType = .offer ∧ offer.yourAddress ≠ none ∧ ack.messageType = .ack ∧
      ack.toLease request.interfaceIndex request.interfaceName mac = .ok lease ∧
      c'.received = [offer, ack] ∧
      c'.sent = [toAll (DhcpPacket.buildDiscover os.transactionId mac request.hostname
        request.requestedAddress), toAll (requestFor mac os.transactionId offer request.hostname)] := by
  obtain ⟨r, hmac⟩ : ∃ r, readMacAddress os request.interfaceName = r := ⟨_, rfl⟩
  rw [acquire, hmac] at h
  cases r with
  | error err => cases h
  | ok mac =>
      obtain ⟨fd, c₁, h₁, h⟩ := bind_eq_ok.mp h
      obtain ⟨_, c₂, h₂, h⟩ := bind_eq_ok.mp h
      obtain ⟨_, c₃, h₃, h⟩ := bind_eq_ok.mp h
      obtain ⟨offer, c₄, h₄, h⟩ := bind_eq_ok.mp h
      obtain ⟨_, c₅, h₅, h⟩ := bind_eq_ok.mp h
      obtain ⟨ack, c₆, h₆, h⟩ := bind_eq_ok.mp h
      -- each step leaves its trace in the conversation: what was sent, and what is left in the
      -- inbox
      obtain ⟨-, rfl⟩ := openSocket_eq_ok.mp h₁
      cases h₂
      obtain ⟨-, rfl⟩ := sendPacket_eq_ok.mp h₃
      obtain ⟨hwait, htype, haddress⟩ := takeOffer_eq_ok.mp h₄
      obtain ⟨rest, hfirst, rfl⟩ := waitForPacket_eq_ok.mp hwait
      obtain ⟨-, rfl⟩ := sendPacket_eq_ok.mp h₅
      obtain ⟨hwait', htype'⟩ := takeAck_eq_ok.mp h₆
      obtain ⟨rest', hsecond, rfl⟩ := waitForPacket_eq_ok.mp hwait'
      obtain ⟨hlease, rfl⟩ := takeLease_eq_ok.mp h
      exact ⟨mac, offer, ack, _, hmac,
        (ours_of_waitFor hfirst).trans (congrArg _ (ours_of_waitFor hsecond)), htype, haddress,
        htype', hlease, rfl, rfl⟩

/-- Nothing but what arrives can keep the call from its lease. -/
structure Ready (os : DhcpOs) (request : DhcpRequest) (mac : MacAddress) : Prop where
  address : readMacAddress os request.interfaceName = .ok mac
  opens : ∃ fd, os.Opens request.interfaceName fd
  sends : ∀ n payload, os.sendto n payload = .ok payload.length

/-- **An offer and its acknowledgement** make a lease. -/
theorem acquire_of_packets {mac : MacAddress} (hready : Ready os request mac)
    {offer ack : DhcpPacket} {rest : List DhcpPacket}
    (hpackets : client.packets os request = offer :: ack :: rest)
    (htype : offer.messageType = .offer) (haddress : offer.yourAddress ≠ none)
    (htype' : ack.messageType = .ack)
    (hlease : ack.toLease request.interfaceIndex request.interfaceName mac = .ok lease) :
    ∃ c', client.acquire os request {} = .ok lease c' := by
  obtain ⟨fd, hopens⟩ := hready.opens
  obtain ⟨inbox, hfirst⟩ := waitFor_of_ours request.interfaceName hpackets
  have hrest : ours os.transactionId inbox = ack :: rest := by
    have hcons := ours_of_waitFor hfirst
    rw [packets] at hpackets
    rw [hpackets] at hcons
    exact (List.cons_eq_cons.mp hcons).2.symm
  obtain ⟨inbox', hsecond⟩ := waitFor_of_ours request.interfaceName hrest
  rw [acquire, hready.address]
  exact ⟨_, bind_eq_ok.mpr ⟨fd, _, openSocket_eq_ok.mpr ⟨hopens, rfl⟩,
    bind_eq_ok.mpr ⟨_, _, rfl,
    bind_eq_ok.mpr ⟨_, _, sendPacket_eq_ok.mpr ⟨hready.sends _ _, rfl⟩,
    bind_eq_ok.mpr ⟨offer, _, takeOffer_eq_ok.mpr
      ⟨waitForPacket_eq_ok.mpr ⟨inbox, hfirst, rfl⟩, htype, haddress⟩,
    bind_eq_ok.mpr ⟨_, _, sendPacket_eq_ok.mpr ⟨hready.sends _ _, rfl⟩,
    bind_eq_ok.mpr ⟨ack, _, takeAck_eq_ok.mpr
      ⟨waitForPacket_eq_ok.mpr ⟨inbox', hsecond, rfl⟩, htype'⟩,
    takeLease_eq_ok.mpr ⟨hlease, rfl⟩⟩⟩⟩⟩⟩⟩⟩

end Dhcpv4Client

end NetworkManager
