import Mathlib
import NetworkManager.Support.Octets

/-!
# Linux — Model

The data of `linux/model.rs` that the connection layer and the engines read: addresses, routes,
SSIDs and BSSIDs, and the errors of the netlink backends.  Fixed-width integers keep their width;
an IP address is its bits.
-/

namespace NetworkManager

/-- A fixed-size byte array `[u8; n]`. -/
abbrev Octets (n : ℕ) := List.Vector UInt8 n

/-! ### Errors -/

/-- The kinds of `io::Error` the code distinguishes. -/
inductive IoErrorKind where
  | notFound | interrupted | wouldBlock | invalidData | other
  deriving DecidableEq, Repr

/-- An I/O error: its kind and its text. -/
structure IoError where
  kind : IoErrorKind
  message : String
  deriving DecidableEq, Repr

instance : ToString IoError := ⟨IoError.message⟩

/-- What rtnetlink can fail with. -/
inductive NetlinkError where
  | io (error : IoError)
  | kernel (code : Int32)
  | malformedMessage (message : String)
  deriving DecidableEq

instance : ToString NetlinkError where
  toString
    | .io err => "netlink I/O failed: " ++ toString err
    | .kernel code => "kernel returned netlink error " ++ toString code
    | .malformedMessage msg => "malformed netlink message: " ++ msg

/-! ### Addresses -/

/-- An IPv4 address. -/
abbrev Ipv4Addr := BitVec 32

/-- An IPv6 address. -/
abbrev Ipv6Addr := BitVec 128

namespace Ipv4Addr

/-- `Ipv4Addr::new`. -/
def new (a b c d : UInt8) : Ipv4Addr := a.toBitVec ++ b.toBitVec ++ c.toBitVec ++ d.toBitVec

/-- `0.0.0.0`. -/
def unspecified : Ipv4Addr := 0

/-- `255.255.255.255`. -/
def broadcast : Ipv4Addr := BitVec.allOnes 32

/-- The four octets, most significant first. -/
def octets (a : Ipv4Addr) : Octets 4 :=
  ⟨[24, 16, 8, 0].map fun i => UInt8.ofBitVec (a.extractLsb' i 8), rfl⟩

/-- `Ipv4Addr::from([u8; 4])`. -/
def ofOctets (b : Octets 4) : Ipv4Addr := new (b.get 0) (b.get 1) (b.get 2) (b.get 3)

/-- An address is the one of its octets. -/
theorem ofOctets_octets (a : Ipv4Addr) : ofOctets a.octets = a := by
  show (a.extractLsb' 24 8 ++ a.extractLsb' 16 8 ++ a.extractLsb' 8 8 ++ a.extractLsb' 0 8 :
    BitVec 32) = a
  ext i hi
  simp only [BitVec.getElem_append, BitVec.getElem_extractLsb']
  grind

/-- The octets that an address is made of. -/
theorem octets_new (a b c d : UInt8) : (new a b c d).octets.toList = [a, b, c, d] := by
  have ha : (new a b c d).extractLsb' 24 8 = a.toBitVec := by rw [new]; ext i hi; grind
  have hb : (new a b c d).extractLsb' 16 8 = b.toBitVec := by rw [new]; ext i hi; grind
  have hc : (new a b c d).extractLsb' 8 8 = c.toBitVec := by rw [new]; ext i hi; grind
  have hd : (new a b c d).extractLsb' 0 8 = d.toBitVec := by rw [new]; ext i hi; grind
  simp only [octets, List.Vector.toList_mk, List.map_cons, List.map_nil, ha, hb, hc, hd]

/-- Octets are those of their address. -/
theorem octets_ofOctets (b : Octets 4) : (ofOctets b).octets = b := by
  obtain ⟨bytes, hlength⟩ := b
  obtain ⟨a, b, c, d, rfl⟩ := List.length_eq_four.mp hlength
  exact Subtype.ext (octets_new a b c d)

end Ipv4Addr

namespace Ipv6Addr

/-- `::`. -/
def unspecified : Ipv6Addr := 0

/-- The sixteen octets, most significant first. -/
def octets (a : Ipv6Addr) : Octets 16 :=
  ⟨Octets.bigEndian 16 a.toNat, Octets.length_bigEndian 16 a.toNat⟩

/-- `Ipv6Addr::from([u8; 16])`. -/
def ofOctets (b : Octets 16) : Ipv6Addr := BitVec.ofNat 128 (Octets.ofBigEndian b.toList)

/-- An address is the one of its octets. -/
theorem ofOctets_octets (a : Ipv6Addr) : ofOctets a.octets = a := by
  rw [ofOctets, octets, List.Vector.toList_mk, Octets.ofBigEndian_of_lt a.isLt]
  exact BitVec.ofNat_toNat 128 a

/-- `Ipv6Addr::is_unicast_link_local`: `fe80::/10`. -/
def isUnicastLinkLocal (a : Ipv6Addr) : Bool := a.extractLsb' 118 10 == 0x3fa#10

end Ipv6Addr

/-- The address families. -/
inductive IpFamily where
  | v4 | v6
  deriving DecidableEq, Repr

/-- An address of either family. -/
inductive IpAddr where
  | v4 (address : Ipv4Addr)
  | v6 (address : Ipv6Addr)
  deriving DecidableEq

namespace IpAddr

/-- The family of the address. -/
def family : IpAddr → IpFamily
  | .v4 _ => .v4
  | .v6 _ => .v6

/-- The address is one of IPv4. -/
def isIpv4 : IpAddr → Bool
  | .v4 _ => true
  | .v6 _ => false

/-- The IPv4 address, if it is one. -/
def toV4 : IpAddr → Option Ipv4Addr
  | .v4 address => some address
  | .v6 _ => none

/-- The IPv6 address, if it is one. -/
def toV6 : IpAddr → Option Ipv6Addr
  | .v4 _ => none
  | .v6 address => some address

end IpAddr

/-- A kernel interface address snapshot (rtnetlink). -/
structure Address where
  interfaceIndex : UInt32
  address : IpAddr
  prefixLength : UInt8
  deriving DecidableEq

/-- A kernel link snapshot (rtnetlink). -/
structure Link where
  index : Int32
  name : String
  flags : UInt32
  deriving DecidableEq

/-! ### Routes -/

/-- The kinds of a route; the kernel's other numbers are kept. -/
inductive RouteKind where
  | unicast | localRoute | broadcast | anycast | multicast | blackhole | unreachable
  | other (value : UInt8)
  deriving DecidableEq

/-- The scopes of a route; the kernel's other numbers are kept. -/
inductive RouteScope where
  | universe | link | host
  | other (value : UInt8)
  deriving DecidableEq

/-- A route of the kernel's table. -/
structure Route where
  family : IpFamily
  destination : IpAddr
  prefixLength : UInt8
  gateway : Option IpAddr
  outputInterface : Option Int32
  metric : Option UInt32
  kind : RouteKind
  scope : RouteScope
  deriving DecidableEq

/-! ### Wi-Fi identifiers -/

/-- An 802.11 service set identifier. -/
structure Ssid where
  bytes : List UInt8
  deriving DecidableEq

/-- At most 32 octets make an SSID. -/
def Ssid.fromBytes (bytes : List UInt8) : Option Ssid :=
  if bytes.length ≤ 32 then some ⟨bytes⟩ else none

/-- The hardware address of an access point. -/
structure Bssid where
  octets : Octets 6
  deriving DecidableEq

/-- Six octets in hexadecimal, with colons between them. -/
def formatMacAddress (bytes : Octets 6) : String :=
  String.ofList ([':'].intercalate (bytes.toList.map fun byte =>
    [Nat.digitChar (byte.toNat / 16), Nat.digitChar (byte.toNat % 16)]))

end NetworkManager
