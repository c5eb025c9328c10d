import NetworkManager.Linux.Dhcp.Packet
import NetworkManager.Support.Effects

/-!
# Linux — Dhcp — Client

`linux/dhcp/mod.rs`: the four-packet exchange over a UDP socket.

What the operating system answers during one call is given in advance (`DhcpOs`): each step may
fail, and until the deadline the socket yields a sequence of deliveries.  The client's state is the
rest of that sequence, with a record of what it sent, which packets it took, and which descriptors
it opened and closed.
-/

namespace NetworkManager

/-- What the socket yields at one turn of the receive loop: an error of `poll` or `recvfrom`, or a
datagram. -/
inductive Delivery where
  | failed (error : IoError)
  | datagram (bytes : List UInt8)

/-- The answers of the operating system.  `deliveries` is what arrives within a timeout. -/
structure DhcpOs where
  addressFile : String → Except IoError String
  transactionId : UInt32
  socket : Except IoError Int32
  reuseAddr : Except IoError Unit
  broadcast : Except IoError Unit
  bindToDevice : String → Except IoError Unit
  bind : UInt16 → Except IoError Unit
  sendto : ℕ → List UInt8 → Except IoError ℕ
  deliveries : ℕ → List Delivery

/-- A datagram handed to `sendto`. -/
structure Sending where
  payload : List UInt8
  port : UInt16
  address : Octets 4
  deriving DecidableEq

/-- What still arrives, what was sent and received, and which sockets were opened and closed. -/
structure Conversation where
  inbox : List Delivery := []
  sent : List Sending := []
  received : List DhcpPacket := []
  opened : List Int32 := []
  closed : List Int32 := []

/-! ### The hardware address -/

/-- The value of a hexadecimal digit. -/
def hexDigit (c : Char) : Option ℕ :=
  if '0' ≤ c ∧ c ≤ '9' then some (c.toNat - 48)
  else if 'a' ≤ c ∧ c ≤ 'f' then some (c.toNat - 87)
  else if 'A' ≤ c ∧ c ≤ 'F' then some (c.toNat - 55)
  else none

/-- `u8::from_str_radix(_, 16)`: digits, after an optional plus sign. -/
def hexOctet (part : List Char) : Option UInt8 :=
  let digits := match part with
    | '+' :: digits => digits
    | digits => digits
  if digits = [] then none
  else (digits.foldlM (fun value c => do
    let value := value * 16 + (← hexDigit c)
    if value < 256 then some value else none) 0).map UInt8.ofNat

/-- The octets that the first `n` parts spell. -/
def readOctets : (n : ℕ) → List (List Char) → Option (Octets n)
  | 0, _ => some .nil
  | _ + 1, [] => none
  | n + 1, part :: parts => do return (← hexOctet part) ::ᵥ (← readOctets n parts)

/-- Reads the interface MAC address from sysfs. -/
def readMacAddress (os : DhcpOs) (interfaceName : String) : Except DhcpError MacAddress :=
  match os.addressFile interfaceName with
  | .error err => .error (.io err)
  | .ok contents =>
    match readOctets 6 ((Text.trim contents.toList).splitOn ':') with
    | some mac => .ok mac
    | none => .error (.malformedPacket "invalid mac address format")

/-! ### Receiving -/

/-- The packet that a delivery of `recvfrom` holds; the buffer has 4096 bytes. -/
def receive (bytes : List UInt8) : Except DhcpError DhcpPacket := DhcpPacket.parse (bytes.take 4096)

/-- The receive loop: the first packet of the transaction, and what is left after it. -/
def waitFor (xid : UInt32) (interfaceName : String) :
    List Delivery → Except DhcpError DhcpPacket × List Delivery
  | [] => (.error (.timeout interfaceName), [])
  | .failed err :: rest =>
    if err.kind = .interrupted then waitFor xid interfaceName rest else (.error (.io err), rest)
  | .datagram bytes :: rest =>
    match receive bytes with
    | .ok packet =>
      if packet.xid = xid then (.ok packet, rest) else waitFor xid interfaceName rest
    | .error _ => waitFor xid interfaceName rest

/-- What the client does. -/
abbrev Exchange := EStateM DhcpError Conversation

/-- Receives up to the first packet of the transaction. -/
def waitForPacket (xid : UInt32) (interfaceName : String) : Exchange DhcpPacket := fun c =>
  match waitFor xid interfaceName c.inbox with
  | (.ok packet, rest) => .ok packet { c with inbox := rest, received := c.received ++ [packet] }
  | (.error err, rest) => .error err { c with inbox := rest }

/-! ### The socket -/

/-- A step that fails with an I/O error. -/
def orFail {α : Type} : Except IoError α → Exchange α
  | .ok a => return a
  | .error err => throw (.io err)

/-- `close_socket`. -/
def closeSocket (fd : Int32) : Exchange Unit := modify fun c => { c with closed := c.closed ++ [fd] }

/-- Opens a broadcast socket on the client port of the interface. -/
def openSocket (os : DhcpOs) (interfaceName : String) : Exchange Int32 := do
  let fd ← orFail os.socket
  modify fun c => { c with opened := c.opened ++ [fd] }
  orFail os.reuseAddr
  orFail os.broadcast
  orFail (os.bindToDevice interfaceName)
  match os.bind 68 with
  | .ok _ => return fd
  | .error err => do
    closeSocket fd
    throw (.io err)

/-- `send_packet`: sends it whole, or fails. -/
def sendPacket (os : DhcpOs) (sending : Sending) : Exchange Unit := do
  let n := (← get).sent.length
  modify fun c => { c with sent := c.sent ++ [sending] }
  let count ← orFail (os.sendto n sending.payload)
  if count ≠ sending.payload.length then throw (.malformedPacket "short DHCP send")

/-- To the server port of everybody on the link. -/
def toAll (payload : List UInt8) : Sending := ⟨payload, 67, Ipv4Addr.broadcast.octets⟩

/-- Closes the socket and fails. -/
def giveUp {α : Type} (fd : Int32) (msg : String) : Exchange α := do
  closeSocket fd
  throw (.malformedPacket msg)

/-! ### The exchange -/

/-- The packet taken for the offer: the first one of the transaction. -/
def takeOffer (fd : Int32) (xid : UInt32) (interfaceName : String) : Exchange DhcpPacket := do
  let offer ← waitForPacket xid interfaceName
  if offer.messageType ≠ .offer then
    giveUp fd "expected a DHCPOFFER in response to DISCOVER"
  else if offer.yourAddress = none ∨ offer.yourAddress = some .unspecified then
    giveUp fd "DHCPOFFER carried no usable address"
  else return offer

/-- The packet taken for the acknowledgement: the next one of the transaction. -/
def takeAck (fd : Int32) (xid : UInt32) (interfaceName : String) : Exchange DhcpPacket := do
  let ack ← waitForPacket xid interfaceName
  match ack.messageType with
  | .ack => return ack
  | .nak => giveUp fd "server returned DHCPNAK"
  | _ => giveUp fd "expected a DHCPACK in response to REQUEST"

/-- The REQUEST that answers an offer. -/
def requestFor (mac : MacAddress) (xid : UInt32) (offer : DhcpPacket) (hostname : Option String) :
    List UInt8 :=
  DhcpPacket.buildRequest xid mac offer.yourAddress
    (offer.serverIdentifier <|> offer.sourceAddress) hostname

/-- The lease of an acknowledgement.  When there is none the socket stays open. -/
def takeLease (fd : Int32) (mac : MacAddress) (request : DhcpRequest) (ack : DhcpPacket) :
    Exchange DhcpLease := do
  match ack.toLease request.interfaceIndex request.interfaceName mac with
  | .error err => throw err
  | .ok lease => do
    closeSocket fd
    return lease

/-- The client's own timeout is in milliseconds. -/
structure Dhcpv4Client where
  timeout : ℕ := 4000

namespace Dhcpv4Client

/-- The time a request has. -/
def effectiveTimeout (client : Dhcpv4Client) (request : DhcpRequest) : ℕ :=
  if request.timeout = 0 then client.timeout else request.timeout

/-- `DhcpClient::acquire`. -/
def acquire (client : Dhcpv4Client) (os : DhcpOs) (request : DhcpRequest) : Exchange DhcpLease := do
  match readMacAddress os request.interfaceName with
  | .error err => throw err
  | .ok mac => do
    let xid := os.transactionId
    let fd ← openSocket os request.interfaceName
    modify fun c => { c with inbox := os.deliveries (client.effectiveTimeout request) }
    sendPacket os (toAll (DhcpPacket.buildDiscover xid mac request.hostname
      request.requestedAddress))
    let offer ← takeOffer fd xid request.interfaceName
    sendPacket os (toAll (requestFor mac xid offer request.hostname))
    let ack ← takeAck fd xid request.interfaceName
    takeLease fd mac request ack

end Dhcpv4Client

end NetworkManager
