import NetworkManager.Linux.Dhcp.Exchange

/-!
# Linux — Dhcp — Selection

Which replies `acquire` settles on, on a link with several servers.

* `acquire_served_iff`: a client that is offered an address and gets it acknowledged has its lease
  exactly when the offer and the acknowledgement are the first two packets of the transaction.
* `lease_from_selected_iff`: what the two packets have to agree in, for the lease to be the one
  that was asked for; the client compares none of it.
-/

namespace NetworkManager

open Dhcpv4Client

namespace DhcpPacket

/-- An offer that can be taken. -/
def Offers (p : DhcpPacket) : Prop := p.messageType = .offer ∧ p.yourAddress ≠ none

/-- An acknowledgement to the client `mac`. -/
def Acknowledges (mac : MacAddress) (p : DhcpPacket) : Prop :=
  p.messageType = .ack ∧ p.hardwareAddress = mac ∧ p.yourAddress ≠ none

end DhcpPacket

/-- Some server offers an address, later one is acknowledged, and nobody refuses. -/
structure Served (mac : MacAddress) (ps : List DhcpPacket) : Prop where
  pair : ∃ offer ack : DhcpPacket, [offer, ack].Sublist ps ∧ offer.Offers ∧ ack.Acknowledges mac
  noNak : ∀ p ∈ ps, p.messageType ≠ .nak

/-- The offer and the acknowledgement come first, and next to each other. -/
def Direct (mac : MacAddress) (ps : List DhcpPacket) : Prop :=
  ∃ offer ack rest, ps = offer :: ack :: rest ∧ offer.Offers ∧ ack.Acknowledges mac

variable {client : Dhcpv4Client} {os : DhcpOs} {request : DhcpRequest} {mac : MacAddress}
  {lease : DhcpLease} {c : Conversation}

/-- What was acquired came directly. -/
theorem direct_of_acquire (h : client.acquire os request {} = .ok lease c)
    (hmac : readMacAddress os request.interfaceName = .ok mac) :
    Direct mac (client.packets os request) := by
  obtain ⟨mac', offer, ack, rest, hmac', hpackets, htype, haddress, htype', hlease, -, -⟩ :=
    acquire_ok h
  obtain rfl : mac' = mac := Except.ok.inj (hmac'.symm.trans hmac)
  obtain ⟨hyours, hours, -, -⟩ := DhcpPacket.toLease_eq_ok hlease
  rw [hpackets]
  exact ⟨offer, ack, rest, rfl, ⟨htype, haddress⟩, htype', hours,
    by rw [hyours]; exact Option.some_ne_none _⟩

/-- What comes directly is acquired. -/
theorem acquire_of_direct (hready : Ready os request mac)
    (h : Direct mac (client.packets os request)) :
    ∃ lease c, client.acquire os request {} = .ok lease c := by
  obtain ⟨offer, ack, rest, hps, ⟨htype, haddress⟩, htype', hours, haddress'⟩ := h
  obtain ⟨lease, hlease⟩ :=
    DhcpPacket.exists_toLease haddress' hours request.interfaceIndex request.interfaceName
  exact ⟨lease, acquire_of_packets hready hps htype haddress htype' hlease⟩

/-- **Interleaved traffic.**  A served client gets its lease exactly if no other packet of the
transaction comes before the acknowledgement, apart from the one offer. -/
theorem acquire_served_iff (client : Dhcpv4Client) (hready : Ready os request mac) :
    (Served mac (client.packets os request) →
        ∃ lease c, client.acquire os request {} = .ok lease c) ↔
      (Served mac (client.packets os request) → Direct mac (client.packets os request)) :=
  imp_congr_right fun _ =>
    ⟨fun ⟨_, _, h⟩ => direct_of_acquire h hready.address, acquire_of_direct hready⟩

/-! ### A link where nothing fails -/

/-- The link of the client `02:00:00:00:00:01`, on which these packets arrive. -/
def DhcpOs.link (ps : List DhcpPacket) : DhcpOs where
  addressFile := fun _ => .ok "02:00:00:00:00:01\n"
  transactionId := 7
  socket := .ok 3
  reuseAddr := .ok ()
  broadcast := .ok ()
  bindToDevice := fun _ => .ok ()
  bind := fun _ => .ok ()
  sendto := fun _ payload => .ok payload.length
  deliveries := fun _ => ps.map fun p => .datagram p.serialize

/-- The hardware address of the link. -/
def linkMac : MacAddress := ⟨[2, 0, 0, 0, 0, 1], rfl⟩

/-- The reply of the server `10.0.0.host`. -/
def serverReply (messageType : DhcpMessageType) (host : UInt8) (address : Ipv4Addr) : DhcpPacket :=
  .reply messageType 7 linkMac address
    [(DhcpPacket.optionServerId, (Ipv4Addr.new 10 0 0 host).octets.toList)]

/-- A request on the link. -/
def linkRequest : DhcpRequest := ⟨2, "eth0", none, none, 0⟩

theorem ready_link (ps : List DhcpPacket) : Ready (.link ps) linkRequest linkMac where
  address := rfl
  opens := ⟨3, rfl, rfl, rfl, rfl, rfl⟩
  sends := fun _ _ => rfl

/-- The packets of the link are those of the transaction. -/
theorem packets_link (ps : List DhcpPacket)
    (h : ∀ p ∈ ps, receive p.serialize = .ok p ∧ p.xid = 7) :
    client.packets (.link ps) request = ps := by
  show ours 7 (ps.map fun p => .datagram p.serialize) = ps
  -- by induction on the packets, each of which is received and is of the transaction
  induction ps with
  | nil => rfl
  | cons p ps ih =>
      obtain ⟨hreceive, hxid⟩ := h p List.mem_cons_self
      simp only [List.map_cons, ours, hreceive, if_pos hxid]
      rw [ih fun q hq => h q (List.mem_cons_of_mem _ hq)]

/-- What comes directly on the link is acquired. -/
theorem acquire_link {ps : List DhcpPacket}
    (hps : ∀ p ∈ ps, receive p.serialize = .ok p ∧ p.xid = 7) (h : Direct linkMac ps) :
    ∃ lease c, ({} : Dhcpv4Client).acquire (.link ps) linkRequest {} = .ok lease c := by
  refine acquire_of_direct (ready_link ps) ?_
  rw [packets_link ps hps]
  exact h

/-- A reply is received as it was sent. -/
theorem receive_serverReply (messageType : DhcpMessageType) (host : UInt8) (address : Ipv4Addr) :
    receive (serverReply messageType host address).serialize =
      .ok (serverReply messageType host address) := by
  have hlength : (serverReply messageType host address).serialize.length ≤ 4096 := by
    simp [serverReply, DhcpPacket.reply, DhcpPacket.serialize, DhcpPacket.serializeWithOptions,
      DhcpPacket.buildOptions, DhcpPacket.magicCookie, DhcpPacket.optionMessageType,
      DhcpPacket.optionServerId, DhcpPacket.optionPad, DhcpPacket.optionEnd]
  rw [receive, List.take_of_length_le hlength, DhcpPacket.parse_serialize]
  simp [DhcpPacket.Writable, serverReply, DhcpPacket.reply, DhcpPacket.optionMessageType,
    DhcpPacket.optionServerId, DhcpPacket.optionPad, DhcpPacket.optionEnd]

/-- An offer of the server `10.0.0.1`, one of `10.0.0.2`, and the acknowledgement of the first. -/
def twoOffers : List DhcpPacket :=
  [serverReply .offer 1 (.new 10 0 0 50), serverReply .offer 2 (.new 10 0 0 60),
    serverReply .ack 1 (.new 10 0 0 50)]

/-- The exchange of one server. -/
def oneServer : List DhcpPacket :=
  [serverReply .offer 1 (.new 10 0 0 50), serverReply .ack 1 (.new 10 0 0 50)]

theorem receive_twoOffers : ∀ p ∈ twoOffers, receive p.serialize = .ok p ∧ p.xid = 7 := by
  intro p hp
  simp only [twoOffers, List.mem_cons, List.not_mem_nil, or_false] at hp
  obtain rfl | rfl | rfl := hp <;> exact ⟨receive_serverReply _ _ _, rfl⟩

theorem receive_oneServer : ∀ p ∈ oneServer, receive p.serialize = .ok p ∧ p.xid = 7 := by
  intro p hp
  simp only [oneServer, List.mem_cons, List.not_mem_nil, or_false] at hp
  obtain rfl | rfl := hp <;> exact ⟨receive_serverReply _ _ _, rfl⟩

theorem served_oneServer : Served linkMac oneServer where
  pair := ⟨_, _, List.Sublist.refl _, ⟨rfl, by decide⟩, rfl, rfl, by decide⟩
  noNak := by decide

theorem direct_oneServer : Direct linkMac oneServer :=
  ⟨_, _, _, rfl, ⟨rfl, by decide⟩, rfl, rfl, by decide⟩

theorem acquire_oneServer :
    ∃ lease c, ({} : Dhcpv4Client).acquire (.link oneServer) linkRequest {} = .ok lease c :=
  acquire_link receive_oneServer direct_oneServer

/-- One server offers and acknowledges. -/
theorem acquire_served_iff_oneServer :
    Served linkMac oneServer ∧
      ∃ lease c, ({} : Dhcpv4Client).acquire (.link oneServer) linkRequest {} = .ok lease c := by
  have h := (acquire_served_iff {} (ready_link oneServer)).mpr
  rw [packets_link _ receive_oneServer] at h
  exact ⟨served_oneServer, h (fun _ => direct_oneServer) served_oneServer⟩

/-- A second server's offer that arrives before the acknowledgement is taken for it. -/
theorem second_offer_fails_acquire :
    Served linkMac (({} : Dhcpv4Client).packets (.link twoOffers) linkRequest) ∧
      ¬ ∃ lease c, ({} : Dhcpv4Client).acquire (.link twoOffers) linkRequest {} = .ok lease c := by
  constructor
  · rw [packets_link _ receive_twoOffers]
    exact ⟨⟨_, _, .cons_cons _ (.cons _ (.cons_cons _ .slnil)), ⟨rfl, by decide⟩, rfl, rfl,
      by decide⟩, by decide⟩
  · rintro ⟨lease, c, h⟩
    obtain ⟨offer, ack, rest, hpackets, -, hack, -⟩ :=
      direct_of_acquire h (ready_link twoOffers).address
    rw [packets_link _ receive_twoOffers] at hpackets
    cases hpackets
    exact absurd hack (by decide)

/-! ### The server that was selected -/

/-- The lease is the one that was offered and asked for, by a reply to this client of the server
that the request names. -/
def FromSelected (xid : UInt32) (request : DhcpRequest) (mac : MacAddress) (lease : DhcpLease)
    (c : Conversation) : Prop :=
  ∃ (offer ack : DhcpPacket) (server : Option Ipv4Addr), c.received = [offer, ack] ∧
    c.sent.getLast? = some (toAll (DhcpPacket.buildRequest xid mac (some lease.address) server
      request.hostname)) ∧
    (offer.op = DhcpPacket.opBootreply ∧ ack.op = DhcpPacket.opBootreply) ∧
    (offer.hardwareAddress = mac ∧ ack.hardwareAddress = mac) ∧
    offer.yourAddress = some lease.address ∧
    ∀ id, offer.serverIdentifier = some id → server = some id ∧ ack.serverIdentifier = some id

/-- The first two packets of the transaction are replies, the first one to this client, and the
second one confirms it. -/
def Matching (mac : MacAddress) (ps : List DhcpPacket) : Prop :=
  ∃ offer ack rest, ps = offer :: ack :: rest ∧
    (offer.op = DhcpPacket.opBootreply ∧ ack.op = DhcpPacket.opBootreply) ∧
    offer.hardwareAddress = mac ∧ ack.yourAddress = offer.yourAddress ∧
    ∀ id, offer.serverIdentifier = some id → ack.serverIdentifier = some id

/-- **The selected server.**  The client checks the transaction id, the types and the
acknowledgement's hardware address; the rest is up to what arrives. -/
theorem lease_from_selected_iff (hmac : readMacAddress os request.interfaceName = .ok mac)
    (h : client.acquire os request {} = .ok lease c) :
    FromSelected os.transactionId request mac lease c ↔
      Matching mac (client.packets os request) := by
  obtain ⟨mac', offer, ack, rest, hmac', hpackets, -, -, -, hlease, hreceived, hsent⟩ :=
    acquire_ok h
  obtain rfl : mac' = mac := Except.ok.inj (hmac'.symm.trans hmac)
  obtain ⟨hyours, hours, -, -⟩ := DhcpPacket.toLease_eq_ok hlease
  rw [hpackets]
  constructor
  -- the client looks at the first two packets of the transaction and at no others
  · rintro ⟨offer', ack', server, hreceived', -, hop, hmacs, haddress, hserver⟩
    rw [hreceived] at hreceived'
    cases hreceived'
    exact ⟨offer, ack, rest, rfl, hop, hmacs.1, hyours.trans haddress.symm,
      fun id hid => (hserver id hid).2⟩
  · rintro ⟨_, _, _, ⟨⟩, hop, hoffer, haddress, hserver⟩
    refine ⟨offer, ack, offer.serverIdentifier <|> offer.sourceAddress, hreceived, ?_, hop,
      ⟨hoffer, hours⟩, haddress ▸ hyours, fun id hid => ⟨by rw [hid]; rfl, hserver id hid⟩⟩
    rw [hsent, ← hyours, haddress]
    rfl

theorem matching_oneServer : Matching linkMac oneServer :=
  ⟨_, _, _, rfl, ⟨rfl, rfl⟩, rfl, rfl, fun _ h => h⟩

/-- One server offers and acknowledges. -/
theorem lease_from_selected_iff_oneServer :
    ∃ lease c, FromSelected 7 linkRequest linkMac lease c := by
  obtain ⟨lease, c, h⟩ := acquire_oneServer
  refine ⟨lease, c, (lease_from_selected_iff (ready_link oneServer).address h).mpr ?_⟩
  rw [packets_link _ receive_oneServer]
  exact matching_oneServer

/-- The offer of one server and the acknowledgement of another. -/
def twoServers : List DhcpPacket :=
  [serverReply .offer 1 (.new 10 0 0 50), serverReply .ack 2 (.new 10 0 0 60)]

theorem receive_twoServers : ∀ p ∈ twoServers, receive p.serialize = .ok p ∧ p.xid = 7 := by
  intro p hp
  simp only [twoServers, List.mem_cons, List.not_mem_nil, or_false] at hp
  obtain rfl | rfl := hp <;> exact ⟨receive_serverReply _ _ _, rfl⟩

/-- Another server's acknowledgement, of an address that was not asked for, gives a lease. -/
theorem other_server_gives_lease :
    ∃ lease c, ({} : Dhcpv4Client).acquire (.link twoServers) linkRequest {} = .ok lease c ∧
      ¬ FromSelected 7 linkRequest linkMac lease c := by
  have hdirect : Direct linkMac twoServers :=
    ⟨_, _, _, rfl, ⟨rfl, by decide⟩, rfl, rfl, by decide⟩
  obtain ⟨lease, c, h⟩ := acquire_link receive_twoServers hdirect
  refine ⟨lease, c, h, ?_⟩
  rintro ⟨offer', ack', server, hreceived', -, -, -, -, hserver⟩
  obtain ⟨mac', offer, ack, rest, -, hpackets, -, -, -, -, hreceived, -⟩ := acquire_ok h
  rw [packets_link _ receive_twoServers] at hpackets
  cases hpackets
  rw [hreceived] at hreceived'
  cases hreceived'
  exact absurd (hserver (.new 10 0 0 1) (by decide)).2 (by decide)

end NetworkManager
