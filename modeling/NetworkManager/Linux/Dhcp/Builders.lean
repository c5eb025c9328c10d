import NetworkManager.Linux.Dhcp.Grammar

/-!
# Linux — Dhcp — Builders

What the requests and replies say to whom reads them.

* `Says`: the octets are a packet of this kind, from this client, with these options.
* `says_serialize_iff`: a packet says what it was built from if its options can be written; the
  length octet of any longer value wraps.
* `builders_say_iff`: the four builders.
-/

namespace NetworkManager

namespace DhcpPacket

/-- What is read in the octets. -/
def Says (bytes : List UInt8) (op : UInt8) (xid : UInt32) (mac : MacAddress)
    (options : List DhcpOption) : Prop :=
  ∃ p, parse bytes = .ok p ∧ p.op = op ∧ p.xid = xid ∧ p.hardwareAddress = mac ∧
    p.options = options

/-- The hardware address is read back. -/
theorem hardwareAddress_basePacket (op : UInt8) (xid : UInt32) (flags : UInt16)
    (ciaddr yiaddr : Ipv4Addr) (mac : MacAddress) :
    (basePacket op xid flags ciaddr yiaddr mac).hardwareAddress = mac := by
  obtain ⟨bytes, hlength⟩ := mac
  exact Subtype.ext (List.take_left' hlength)

/-- Options that are handed over while writing are written behind those of the packet. -/
theorem serializeWithOptions_eq (p : DhcpPacket) (extraOptions : List DhcpOption) :
    p.serializeWithOptions extraOptions =
      { p with options := p.options ++ extraOptions }.serialize := by
  rw [serialize, serializeWithOptions, serializeWithOptions, List.append_nil]

/-- **What a packet says**: its own options, if each is short enough for its length octet. -/
theorem says_serialize_iff {p : DhcpPacket} {mac : MacAddress} (hmac : p.hardwareAddress = mac)
    (hcodes : ∀ o ∈ p.options, o.1 ≠ optionPad ∧ o.1 ≠ optionEnd) :
    Says p.serialize p.op p.xid mac p.options ↔ ∀ o ∈ p.options, o.2.length ≤ 255 := by
  constructor
  · rintro ⟨q, hparse, -, -, -, hoptions⟩ o ho
    obtain ⟨_, options, -, harea, rfl⟩ := parse_eq_ok.mp hparse
    obtain rfl : options = p.options := hoptions
    exact (harea.writable o ho).2.2
  · intro hshort
    have hwritable : Writable p.options :=
      fun o ho => ⟨(hcodes o ho).1, (hcodes o ho).2, hshort o ho⟩
    exact ⟨p, parse_serialize p hwritable, rfl, rfl, hmac, rfl⟩

/-- A request says what it was built from, if its options are short enough. -/
theorem says_request_iff (xid : UInt32) (flags : UInt16) (ciaddr : Ipv4Addr) (mac : MacAddress)
    (options : List DhcpOption)
    (hcodes : ∀ o ∈ options, o.1 ≠ optionPad ∧ o.1 ≠ optionEnd) :
    Says ((basePacket opBootrequest xid flags ciaddr .unspecified mac).serializeWithOptions options)
      opBootrequest xid mac options ↔ ∀ o ∈ options, o.2.length ≤ 255 := by
  rw [serializeWithOptions_eq]
  have hmac := hardwareAddress_basePacket opBootrequest xid flags ciaddr .unspecified mac
  exact says_serialize_iff hmac hcodes

/-- The options a DISCOVER request is to carry. -/
def discoverOptions (hostname : Option String) (requestedAddress : Option Ipv4Addr) :
    List DhcpOption :=
  (optionMessageType, [1]) ::
    ((hostname.map fun name => (optionHostname, hostnameBytes name)).toList ++
      (requestedAddress.map fun address => (optionRequestedIp, address.octets.toList)).toList)

/-- The options a REQUEST is to carry. -/
def requestOptions (requestedAddress serverIdentifier : Option Ipv4Addr)
    (hostname : Option String) : List DhcpOption :=
  (optionMessageType, [3]) ::
    ((requestedAddress.map fun address => (optionRequestedIp, address.octets.toList)).toList ++
      (serverIdentifier.map fun server => (optionServerId, server.octets.toList)).toList ++
      (hostname.map fun name => (optionHostname, hostnameBytes name)).toList)

/-- The options a RELEASE is to carry. -/
def releaseOptions (serverIdentifier : Ipv4Addr) : List DhcpOption :=
  [(optionMessageType, [7]), (optionServerId, serverIdentifier.octets.toList)]

/-- A discovery says what it was built from exactly if the host name fits its length octet. -/
theorem says_buildDiscover_iff (xid : UInt32) (mac : MacAddress) (hostname : Option String)
    (requestedAddress : Option Ipv4Addr) :
    Says (buildDiscover xid mac hostname requestedAddress) opBootrequest xid mac
        (discoverOptions hostname requestedAddress) ↔
      ∀ name ∈ hostname, (hostnameBytes name).length ≤ 255 := by
  have hsays := says_request_iff xid 0x8000 .unspecified mac
    (discoverOptions hostname requestedAddress) ?_
  · refine hsays.trans ?_
    cases hostname <;> cases requestedAddress <;> simp [discoverOptions]
  · cases hostname <;> cases requestedAddress <;> simp [discoverOptions] <;> decide

/-- A request says what it was built from exactly if the host name fits its length octet. -/
theorem says_buildRequest_iff (xid : UInt32) (mac : MacAddress)
    (requestedAddress serverIdentifier : Option Ipv4Addr) (hostname : Option String) :
    Says (buildRequest xid mac requestedAddress serverIdentifier hostname) opBootrequest xid mac
        (requestOptions requestedAddress serverIdentifier hostname) ↔
      ∀ name ∈ hostname, (hostnameBytes name).length ≤ 255 := by
  have hsays := says_request_iff xid 0x8000 .unspecified mac
    (requestOptions requestedAddress serverIdentifier hostname) ?_
  · refine hsays.trans ?_
    cases hostname <;> cases requestedAddress <;> cases serverIdentifier <;>
      simp [requestOptions]
  · cases hostname <;> cases requestedAddress <;> cases serverIdentifier <;>
      simp [requestOptions] <;> decide

/-- A release says what it was built from. -/
theorem says_buildRelease (xid : UInt32) (mac : MacAddress) (address serverIdentifier : Ipv4Addr) :
    Says (buildRelease xid mac address serverIdentifier) opBootrequest xid mac
      (releaseOptions serverIdentifier) := by
  refine (says_request_iff xid 0 address mac (releaseOptions serverIdentifier) ?_).mpr ?_
  · simp [releaseOptions]
    decide
  · simp [releaseOptions]

/-- A reply says what it was built from exactly if its options fit. -/
theorem says_buildReply_iff (messageType : DhcpMessageType) (xid : UInt32) (mac : MacAddress)
    (yiaddr : Ipv4Addr) {extraOptions : List DhcpOption}
    (hcodes : ∀ o ∈ extraOptions, o.1 ≠ 0 ∧ o.1 ≠ 255) :
    Says (buildReply messageType xid mac yiaddr extraOptions) opBootreply xid mac
        ((optionMessageType, [messageType.asU8]) :: extraOptions) ↔
      ∀ o ∈ extraOptions, o.2.length ≤ 255 := by
  have hmac : (reply messageType xid mac yiaddr extraOptions).hardwareAddress = mac :=
    hardwareAddress_basePacket opBootreply xid 0 .unspecified yiaddr mac
  have htype : optionMessageType ≠ optionPad ∧ optionMessageType ≠ optionEnd := by decide
  refine (says_serialize_iff hmac fun o ho => ?_).trans ?_
  · rcases List.mem_cons.mp ho with rfl | ho
    · exact htype
    · exact hcodes o ho
  · simp [reply]

/-- **Each builder says what was asked for** if the host name, or every value that is handed over,
has 255 octets at most. -/
theorem builders_say_iff (xid : UInt32) (mac : MacAddress) (hostname : Option String)
    (requestedAddress serverIdentifier : Option Ipv4Addr) (address server : Ipv4Addr)
    (messageType : DhcpMessageType) (yiaddr : Ipv4Addr) (extraOptions : List DhcpOption)
    (hcodes : ∀ o ∈ extraOptions, o.1 ≠ 0 ∧ o.1 ≠ 255) :
    (Says (buildDiscover xid mac hostname requestedAddress) opBootrequest xid mac
        (discoverOptions hostname requestedAddress) ↔
      ∀ name ∈ hostname, (hostnameBytes name).length ≤ 255) ∧
    (Says (buildRequest xid mac requestedAddress serverIdentifier hostname) opBootrequest xid mac
        (requestOptions requestedAddress serverIdentifier hostname) ↔
      ∀ name ∈ hostname, (hostnameBytes name).length ≤ 255) ∧
    Says (buildRelease xid mac address server) opBootrequest xid mac (releaseOptions server) ∧
    (Says (buildReply messageType xid mac yiaddr extraOptions) opBootreply xid mac
        ((optionMessageType, [messageType.asU8]) :: extraOptions) ↔
      ∀ o ∈ extraOptions, o.2.length ≤ 255) :=
  ⟨says_buildDiscover_iff xid mac hostname requestedAddress,
    says_buildRequest_iff xid mac requestedAddress serverIdentifier hostname,
    says_buildRelease xid mac address server,
    says_buildReply_iff messageType xid mac yiaddr hcodes⟩

/-- An offer with a router. -/
theorem builders_say_iff_router :
    Says (buildReply .offer 7 (zeros 6) (.new 10 0 0 5) [(optionRouter, [10, 0, 0, 1])])
      opBootreply 7 (zeros 6) [(optionMessageType, [2]), (optionRouter, [10, 0, 0, 1])] :=
  (builders_say_iff 7 (zeros 6) none none none (.new 10 0 0 5) (.new 10 0 0 1) .offer
    (.new 10 0 0 5) [(optionRouter, [10, 0, 0, 1])] (by decide)).2.2.2.mpr (by decide)

/-- A name of 256 octets is announced as one of none, and its octets are read as options. -/
theorem long_hostname_unreadable :
    parse (buildDiscover 7 (zeros 6) (some (String.ofList (List.replicate 256 'a'))) none) =
      .error (.malformedPacket "truncated DHCP option value") ∧
    ¬ Says (buildDiscover 7 (zeros 6) (some (String.ofList (List.replicate 256 'a'))) none)
      opBootrequest 7 (zeros 6)
      (discoverOptions (some (String.ofList (List.replicate 256 'a'))) none) := by
  have hparse : parse (buildDiscover 7 (zeros 6)
      (some (String.ofList (List.replicate 256 'a'))) none) =
      .error (.malformedPacket "truncated DHCP option value") := by decide +kernel
  refine ⟨hparse, ?_⟩
  rintro ⟨p, hp, -⟩
  cases hparse.symm.trans hp

end DhcpPacket

end NetworkManager
