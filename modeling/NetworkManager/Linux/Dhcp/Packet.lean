import NetworkManager.Connection.Ip

/-!
# Linux — Dhcp — Packet

`linux/dhcp/packet.rs`: the BOOTP/DHCP codec (RFC 2131, RFC 2132).

`parse_serialize` is the round trip: a packet whose options can be written reads back as itself.
-/

namespace NetworkManager

/-- DHCP message type (option 53). -/
inductive DhcpMessageType where
  | discover | offer | request | decline | ack | nak | release | inform
  | unknown (value : UInt8)
  deriving DecidableEq

namespace DhcpMessageType

/-- The message type that the number stands for. -/
def fromU8 (value : UInt8) : DhcpMessageType :=
  if value = 1 then .discover
  else if value = 2 then .offer
  else if value = 3 then .request
  else if value = 4 then .decline
  else if value = 5 then .ack
  else if value = 6 then .nak
  else if value = 7 then .release
  else if value = 8 then .inform
  else .unknown value

/-- The number of the message type. -/
def asU8 : DhcpMessageType → UInt8
  | .discover => 1
  | .offer => 2
  | .request => 3
  | .decline => 4
  | .ack => 5
  | .nak => 6
  | .release => 7
  | .inform => 8
  | .unknown value => value

end DhcpMessageType

/-- An option: its code and its value. -/
abbrev DhcpOption := UInt8 × List UInt8

/-- A parsed BOOTP/DHCP message. -/
structure DhcpPacket where
  op : UInt8
  xid : UInt32
  flags : UInt16
  ciaddr : Octets 4
  yiaddr : Octets 4
  siaddr : Octets 4
  giaddr : Octets 4
  chaddr : Octets 16
  sname : Octets 64
  file : Octets 128
  options : List DhcpOption
  deriving DecidableEq

namespace DhcpPacket

def opBootrequest : UInt8 := 1
def opBootreply : UInt8 := 2

/-- What options start with. -/
def magicCookie : List UInt8 := [0x63, 0x82, 0x53, 0x63]

/-- Fixed header and magic cookie; the options start here. -/
def optionsOffset : ℕ := 240

def optionPad : UInt8 := 0
def optionSubnetMask : UInt8 := 1
def optionRouter : UInt8 := 3
def optionDns : UInt8 := 6
def optionHostname : UInt8 := 12
def optionDomainName : UInt8 := 15
def optionRequestedIp : UInt8 := 50
def optionLeaseTime : UInt8 := 51
def optionMessageType : UInt8 := 53
def optionServerId : UInt8 := 54
def optionT1 : UInt8 := 58
def optionT2 : UInt8 := 59
def optionEnd : UInt8 := 255

/-- `[0; n]`. -/
def zeros (n : ℕ) : Octets n := List.Vector.replicate n 0

/-- A packet without options, with the hardware address in front of padding. -/
def basePacket (op : UInt8) (xid : UInt32) (flags : UInt16) (ciaddr yiaddr : Ipv4Addr)
    (mac : MacAddress) : DhcpPacket where
  op := op
  xid := xid
  flags := flags
  ciaddr := ciaddr.octets
  yiaddr := yiaddr.octets
  siaddr := zeros 4
  giaddr := zeros 4
  chaddr := ⟨mac.toList ++ List.replicate 10 0, by simp⟩
  sname := zeros 64
  file := zeros 128
  options := []

/-! ### Writing -/

/-- Encodes options, without those that would read as padding or as the end; the length octet
wraps. -/
def buildOptions : List DhcpOption → List UInt8
  | [] => [optionEnd]
  | (code, value) :: entries =>
    if code = optionPad ∨ code = optionEnd then buildOptions entries
    else code :: UInt8.ofNat value.length :: (value ++ buildOptions entries)

/-- The octets of the packet, with its own options and more behind them. -/
def serializeWithOptions (p : DhcpPacket) (extraOptions : List DhcpOption) : List UInt8 :=
  [p.op, 1, 6, 0] ++ Octets.bigEndian 4 p.xid.toNat ++ Octets.bigEndian 2 0 ++
    Octets.bigEndian 2 p.flags.toNat ++ p.ciaddr.toList ++ p.yiaddr.toList ++ p.siaddr.toList ++
    p.giaddr.toList ++ p.chaddr.toList ++ p.sname.toList ++ p.file.toList ++ magicCookie ++
    buildOptions (p.options ++ extraOptions)

/-- The octets of the packet. -/
def serialize (p : DhcpPacket) : List UInt8 := p.serializeWithOptions []

/-! ### Reading -/

/-- The options up to the end marker; pads are skipped. -/
def parseOptions : List UInt8 → Except DhcpError (List DhcpOption)
  | [] => .ok []
  | code :: bytes =>
    if code = optionEnd then .ok []
    else if code = optionPad then parseOptions bytes
    else match bytes with
      | [] => .error (.malformedPacket "truncated DHCP option header")
      | len :: bytes =>
        if bytes.length < len.toNat then .error (.malformedPacket "truncated DHCP option value")
        else do return (code, bytes.take len.toNat) :: (← parseOptions (bytes.drop len.toNat))
termination_by bytes => bytes.length
decreasing_by
  · simp
  · simp only [List.length_drop, List.length_cons]
    omega

open Octets (slice ofBigEndian) in
/-- The packet whose fixed header these octets are. -/
def ofHeader (bytes : List UInt8) (h : 240 ≤ bytes.length) (options : List DhcpOption) :
    DhcpPacket where
  op := (slice bytes 0 1 (by omega)).head
  xid := UInt32.ofNat (ofBigEndian (slice bytes 4 4 (by omega)).toList)
  flags := UInt16.ofNat (ofBigEndian (slice bytes 10 2 (by omega)).toList)
  ciaddr := slice bytes 12 4 (by omega)
  yiaddr := slice bytes 16 4 (by omega)
  siaddr := slice bytes 20 4 (by omega)
  giaddr := slice bytes 24 4 (by omega)
  chaddr := slice bytes 28 16 (by omega)
  sname := slice bytes 44 64 (by omega)
  file := slice bytes 108 128 (by omega)
  options := options

/-- Parses a raw UDP payload, validating the magic cookie. -/
def parse (bytes : List UInt8) : Except DhcpError DhcpPacket :=
  if h : 240 ≤ bytes.length then
    if (Octets.slice bytes 236 4 h).toList ≠ magicCookie then
      .error (.malformedPacket "missing DHCP magic cookie")
    else do return ofHeader bytes h (← parseOptions (bytes.drop optionsOffset))
  else .error (.malformedPacket "packet shorter than fixed header")

/-! ### Requests and replies -/

/-- An option that is there only if its value is. -/
def optional {α : Type} (code : UInt8) (encode : α → List UInt8) (value : Option α) :
    List DhcpOption := (value.map fun a => (code, encode a)).toList

/-- The bytes of a host name. -/
def hostnameBytes (hostname : String) : List UInt8 := hostname.toUTF8.data.toList

/-- Builds a DISCOVER request. -/
def buildDiscover (xid : UInt32) (mac : MacAddress) (hostname : Option String)
    (requestedAddress : Option Ipv4Addr) : List UInt8 :=
  (basePacket opBootrequest xid 0x8000 .unspecified .unspecified mac).serializeWithOptions
    ((optionMessageType, [DhcpMessageType.discover.asU8]) ::
      (optional optionHostname hostnameBytes hostname ++
        optional optionRequestedIp (·.octets.toList) requestedAddress))

/-- Builds a REQUEST confirming the offered address. -/
def buildRequest (xid : UInt32) (mac : MacAddress)
    (requestedAddress serverIdentifier : Option Ipv4Addr) (hostname : Option String) :
    List UInt8 :=
  (basePacket opBootrequest xid 0x8000 .unspecified .unspecified mac).serializeWithOptions
    ((optionMessageType, [DhcpMessageType.request.asU8]) ::
      (optional optionRequestedIp (·.octets.toList) requestedAddress ++
        optional optionServerId (·.octets.toList) serverIdentifier ++
        optional optionHostname hostnameBytes hostname))

/-- Builds a RELEASE for a lease the client no longer needs. -/
def buildRelease (xid : UInt32) (mac : MacAddress) (address serverIdentifier : Ipv4Addr) :
    List UInt8 :=
  (basePacket opBootrequest xid 0 address .unspecified mac).serializeWithOptions
    [(optionMessageType, [DhcpMessageType.release.asU8]),
      (optionServerId, serverIdentifier.octets.toList)]

/-- The packet of a server's reply. -/
def reply (messageType : DhcpMessageType) (xid : UInt32) (mac : MacAddress) (yiaddr : Ipv4Addr)
    (extraOptions : List DhcpOption) : DhcpPacket :=
  { basePacket opBootreply xid 0 .unspecified yiaddr mac with
    options := (optionMessageType, [messageType.asU8]) :: extraOptions }

/-- Builds a server's reply. -/
def buildReply (messageType : DhcpMessageType) (xid : UInt32) (mac : MacAddress)
    (yiaddr : Ipv4Addr) (extraOptions : List DhcpOption) : List UInt8 :=
  (reply messageType xid mac yiaddr extraOptions).serialize

/-! ### What a packet says -/

variable (p : DhcpPacket)

/-- The value of the first option with this code. -/
def getOption (code : UInt8) : Option (List UInt8) :=
  (p.options.find? fun o => o.1 == code).map Prod.snd

/-- The type of the message, if it says so. -/
def messageType : DhcpMessageType :=
  (((p.getOption optionMessageType).bind List.head?).map DhcpMessageType.fromU8).getD (.unknown 0)

/-- The client's MAC address: the first six octets of `chaddr`. -/
def hardwareAddress : MacAddress := ⟨p.chaddr.toList.take 6, by simp⟩

/-- An address field; all zeros stand for no address. -/
def addressField (field : Octets 4) : Option Ipv4Addr :=
  if Ipv4Addr.ofOctets field = .unspecified then none else some (Ipv4Addr.ofOctets field)

/-- An address of the header is given only if it is specified. -/
theorem addressField_ne_unspecified (field : Octets 4) :
    addressField field ≠ some .unspecified := by
  rw [addressField]
  split
  · simp
  · next h => simpa using h

/-- `yiaddr()`. -/
def yourAddress : Option Ipv4Addr := addressField p.yiaddr

/-- `source_address()`. -/
def sourceAddress : Option Ipv4Addr := addressField p.siaddr

/-- `as_ipv4` of four octets. -/
def asIpv4 : List UInt8 → Option Ipv4Addr
  | [a, b, c, d] => some (.new a b c d)
  | _ => none

/-- `chunks_exact(4).map(as_ipv4)`. -/
def asIpv4s : List UInt8 → List Ipv4Addr
  | a :: b :: c :: d :: bytes => .new a b c d :: asIpv4s bytes
  | _ => []

/-- The subnet mask. -/
def subnetMask : Option Ipv4Addr := (p.getOption optionSubnetMask).bind asIpv4

/-- The routers, in the order of preference. -/
def routers : List Ipv4Addr := ((p.getOption optionRouter).map asIpv4s).getD []

/-- The DNS servers, in the order of preference. -/
def dnsServers : List Ipv4Addr := ((p.getOption optionDns).map asIpv4s).getD []

/-- The text of an option, up to its first zero octet. -/
def stringOption (code : UInt8) : Option String :=
  (p.getOption code).map fun bytes =>
    String.ofList (Text.trim (Text.fromUtf8Lossy (bytes.takeWhile (· ≠ 0))))

/-- The domain name. -/
def domainName : Option String := p.stringOption optionDomainName

/-- A number of four octets. -/
def u32Option (code : UInt8) : Option UInt32 :=
  ((p.getOption code).filter fun bytes => bytes.length = 4).map fun bytes =>
    UInt32.ofNat (Octets.ofBigEndian bytes)

/-- How long the lease lasts. -/
def leaseSeconds : Option UInt32 := p.u32Option optionLeaseTime

/-- When the lease is to be renewed. -/
def t1Seconds : Option UInt32 := p.u32Option optionT1

/-- When the lease is to be rebound. -/
def t2Seconds : Option UInt32 := p.u32Option optionT2

/-- The address of the server. -/
def serverIdentifier : Option Ipv4Addr := (p.getOption optionServerId).bind asIpv4

/-- The number of leading ones of an octet. -/
def leadingOnes (byte : UInt8) : UInt8 :=
  UInt8.ofNat (((List.range 8).takeWhile fun i => byte.toBitVec.getMsbD i).length)

/-- Counts the leading set bits of each octet of a netmask. -/
def prefixLengthFromNetmask (netmask : Ipv4Addr) : UInt8 :=
  netmask.octets.toList.foldl (fun count byte => count + leadingOnes byte) 0

/-- The classful mask of an address, for a lease that names none (RFC 2132 §3.3). -/
def defaultNetmask (address : Ipv4Addr) : Ipv4Addr :=
  if address.octets.head < 128 then .new 255 0 0 0
  else if address.octets.head < 192 then .new 255 255 0 0
  else .new 255 255 255 0

/-- Derives a lease from a DHCPACK. -/
def toLease (interfaceIndex : Int32) (interfaceName : String) (mac : MacAddress) :
    Except DhcpError DhcpLease := do
  match p.yourAddress with
  | none => throw (.malformedPacket "DHCPACK carried no address")
  | some address =>
    if p.hardwareAddress ≠ mac then
      throw (.malformedPacket "DHCPACK addressed to another client")
    let netmask := p.subnetMask.getD (defaultNetmask address)
    return {
      interfaceIndex, interfaceName, address
      prefixLength := prefixLengthFromNetmask netmask, netmask
      gateway := p.routers.head?, dnsServers := p.dnsServers
      searchDomains := p.domainName.toList, serverIdentifier := p.serverIdentifier
      leaseSeconds := p.leaseSeconds, t1Seconds := p.t1Seconds, t2Seconds := p.t2Seconds }

/-- What a lease takes from the packet. -/
theorem toLease_eq_ok {p : DhcpPacket} {interfaceIndex : Int32} {interfaceName : String}
    {mac : MacAddress} {lease : DhcpLease}
    (h : p.toLease interfaceIndex interfaceName mac = .ok lease) :
    p.yourAddress = some lease.address ∧ p.hardwareAddress = mac ∧
      lease.searchDomains = p.domainName.toList ∧ lease.dnsServers = p.dnsServers := by
  rw [toLease] at h
  split at h
  · cases h
  · next address haddress =>
      split at h
      · cases h
      · next hmac =>
          cases h
          exact ⟨haddress, not_not.mp hmac, rfl, rfl⟩

/-- An acknowledgement of an address to this client gives a lease. -/
theorem exists_toLease {p : DhcpPacket} {mac : MacAddress} (haddress : p.yourAddress ≠ none)
    (hmac : p.hardwareAddress = mac) (interfaceIndex : Int32) (interfaceName : String) :
    ∃ lease, p.toLease interfaceIndex interfaceName mac = .ok lease := by
  obtain ⟨address, haddress⟩ := Option.ne_none_iff_exists'.mp haddress
  rw [toLease, haddress]
  dsimp only
  rw [if_neg (not_not_intro hmac)]
  exact ⟨_, rfl⟩

/-! ### The round trip -/

/-- Options that are written as they are. -/
def Writable (options : List DhcpOption) : Prop :=
  ∀ o ∈ options, o.1 ≠ optionPad ∧ o.1 ≠ optionEnd ∧ o.2.length ≤ 255

/-- Writable options are read back. -/
theorem parseOptions_buildOptions {options : List DhcpOption} (h : Writable options) :
    parseOptions (buildOptions options) = .ok options := by
  induction options with
  | nil => rw [buildOptions, parseOptions, if_pos rfl]
  | cons o options ih =>
      obtain ⟨code, value⟩ := o
      obtain ⟨hpad, hend, hlength⟩ := h (code, value) List.mem_cons_self
      have hlen : (UInt8.ofNat value.length).toNat = value.length := by
        rw [UInt8.toNat_ofNat', Nat.mod_eq_of_lt (Nat.lt_succ_of_le hlength)]
      have hrest : parseOptions (buildOptions options) = .ok options :=
        ih fun o ho => h o (List.mem_cons_of_mem _ ho)
      rw [buildOptions, if_neg (not_or.mpr ⟨hpad, hend⟩), parseOptions, if_neg hend, if_neg hpad]
      simp [hlen, hrest]

/-- The octets of a packet from `offset` on, field by field. -/
theorem drop_serialize (offset : ℕ) :
    p.serialize.drop offset =
      ([p.op, 1, 6, 0].drop offset) ++ ((Octets.bigEndian 4 p.xid.toNat).drop (offset - 4) ++
      ((Octets.bigEndian 2 0).drop (offset - 8) ++
      ((Octets.bigEndian 2 p.flags.toNat).drop (offset - 10) ++
      (p.ciaddr.toList.drop (offset - 12) ++ (p.yiaddr.toList.drop (offset - 16) ++
      (p.siaddr.toList.drop (offset - 20) ++ (p.giaddr.toList.drop (offset - 24) ++
      (p.chaddr.toList.drop (offset - 28) ++ (p.sname.toList.drop (offset - 44) ++
      (p.file.toList.drop (offset - 108) ++ (magicCookie.drop (offset - 236) ++
      (buildOptions p.options).drop (offset - 240)))))))))))) := by
  simp only [serialize, serializeWithOptions, magicCookie, List.append_nil, List.append_assoc,
    List.drop_append, List.length_cons, List.length_nil, Octets.length_bigEndian,
    List.Vector.toList_length, Nat.sub_sub, Nat.reduceAdd]

/-- The header is read back. -/
theorem ofHeader_serialize (h : 240 ≤ p.serialize.length) :
    ofHeader p.serialize h p.options = p := by
  have hfield : ∀ (offset n : ℕ) (field : Octets n) (hn : offset + n ≤ p.serialize.length),
      (p.serialize.drop offset).take n = field.toList →
        Octets.slice p.serialize offset n hn = field := fun _ _ _ _ h => Subtype.ext h
  have hxid : (p.serialize.drop 4).take 4 = Octets.bigEndian 4 p.xid.toNat := by
    simp [drop_serialize, List.drop_eq_nil_of_le]
  have hflags : (p.serialize.drop 10).take 2 = Octets.bigEndian 2 p.flags.toNat := by
    simp [drop_serialize, List.drop_eq_nil_of_le]
  rw [ofHeader, hfield 12 4 p.ciaddr, hfield 16 4 p.yiaddr, hfield 20 4 p.siaddr,
    hfield 24 4 p.giaddr, hfield 28 16 p.chaddr, hfield 44 64 p.sname, hfield 108 128 p.file,
    hfield 4 4 ⟨_, Octets.length_bigEndian 4 p.xid.toNat⟩ _ hxid,
    hfield 10 2 ⟨_, Octets.length_bigEndian 2 p.flags.toNat⟩ _ hflags]
  · simp only [List.Vector.toList_mk]
    rw [Octets.ofBigEndian_of_lt p.xid.toNat_lt, Octets.ofBigEndian_of_lt p.flags.toNat_lt,
      UInt32.ofNat_toNat, UInt16.ofNat_toNat]
    rfl
  all_goals simp [drop_serialize, List.drop_eq_nil_of_le]

/-- **A packet reads back** as itself, if its options can be written. -/
theorem parse_serialize (h : Writable p.options) :
    parse p.serialize = .ok p := by
  have hlong : 240 ≤ p.serialize.length := by
    simp [serialize, serializeWithOptions, magicCookie]
    omega
  have hcookie : (Octets.slice p.serialize 236 4 hlong).toList = magicCookie := by
    simp [Octets.slice, drop_serialize, magicCookie, List.drop_eq_nil_of_le]
  have hoptions : p.serialize.drop optionsOffset = buildOptions p.options := by
    simp [drop_serialize, optionsOffset, magicCookie, List.drop_eq_nil_of_le]
  rw [parse, dif_pos hlong, if_neg (not_not_intro hcookie), hoptions, parseOptions_buildOptions h]
  exact congrArg Except.ok (p.ofHeader_serialize hlong)

end DhcpPacket

end NetworkManager
