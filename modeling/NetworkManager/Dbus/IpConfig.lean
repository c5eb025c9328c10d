import NetworkManager.Support.Masks
import NetworkManager.Linux.Dhcp.Netmask
import NetworkManager.Dbus.Routes

/-!
# Dbus — IpConfig

`dbus/ipconfig.rs`: what an IP configuration object says of an outcome, and the arithmetic of
addresses behind it.

* `networkAddress`, `broadcastAddress`: of an address and a prefix length.
* `ipv4RouteEntry`, `ipv6RouteEntry`, `routeDataEntry`: the two renderings of a route.
* `address_arithmetic`: the engine, the lease code and the facade compute the same masks, and none
  of their differences and shifts overflows.
-/

namespace NetworkManager

open Masks

/-! ### Addresses -/

/-- Masks `address` down to its network address for the given prefix. -/
def networkAddress (address : IpAddr) (prefixLength : UInt8) : IpAddr :=
  match address with
  | .v4 address =>
    let mask : BitVec 32 :=
      if prefixLength = 0 then 0 else BitVec.allOnes 32 <<< (32 - min prefixLength.toNat 32)
    .v4 (address &&& mask)
  | .v6 address =>
    let mask : BitVec 128 :=
      if prefixLength = 0 then 0 else BitVec.allOnes 128 <<< (128 - min prefixLength.toNat 128)
    .v6 (address &&& mask)

/-- Broadcast address for an address/prefix pair. -/
def broadcastAddress (address : Ipv4Addr) (prefixLength : UInt8) : Ipv4Addr :=
  let hostMask : BitVec 32 :=
    if prefixLength = 0 then BitVec.allOnes 32
    else (1 <<< (32 - min prefixLength.toNat 32)) - 1
  address ||| hostMask

theorem networkAddress_v4 (address : Ipv4Addr) (prefixLength : UInt8) :
    networkAddress (.v4 address) prefixLength = .v4 (networkAddressV4 address prefixLength) := rfl

theorem networkAddress_v6 (address : Ipv6Addr) (prefixLength : UInt8) :
    networkAddress (.v6 address) prefixLength = .v6 (networkAddressV6 address prefixLength) := rfl

/-! ### Routes -/

/-- The octets, read little-endian. -/
def ipv4U32 (address : Ipv4Addr) : UInt32 := address.toLeBytes

/-- An entry of `Routes`: destination, prefix, next hop and metric. -/
def ipv4RouteEntry (route : Route) : List UInt32 :=
  let destination := route.destination.toV4.getD .unspecified
  let nextHop := route.gateway.bind IpAddr.toV4
  [ipv4U32 destination, route.prefixLength.toUInt32, (nextHop.map ipv4U32).getD 0,
    route.metric.getD 0]

/-- An entry of `Routes`: destination, prefix, next hop and metric. -/
def ipv6RouteEntry (route : Route) : RouteV6Entry :=
  let destination := route.destination.toV6.getD .unspecified
  let nextHop := (route.gateway.bind IpAddr.toV6).getD .unspecified
  (destination.octets.toList, route.prefixLength.toUInt32, nextHop.octets.toList,
    route.metric.getD 0)

/-- An entry of `RouteData`. -/
def routeDataEntry (ip : IpText) (route : Route) : SettingsSection Value :=
  [("dest", .str (ip.display (networkAddress route.destination route.prefixLength))),
    ("prefix", .u32 route.prefixLength.toUInt32)] ++
  SettingsSection.optional "next-hop" (route.gateway.map fun gateway => .str (ip.display gateway)) ++
  [("metric", .u32 (route.metric.getD 0))]

/-! ### Arithmetic -/

section Arithmetic

open DhcpPacket Panics

/-- The network address is the address masked. -/
theorem networkAddressV4_eq (address : Ipv4Addr) (prefixLength : UInt8) :
    networkAddressV4 address prefixLength = address &&& prefixMask 32 prefixLength.toNat := by
  simp only [networkAddressV4, prefixMask, ← UInt8.toNat_inj, UInt8.toNat_zero]

/-- The network address is the address masked. -/
theorem networkAddressV6_eq (address : Ipv6Addr) (prefixLength : UInt8) :
    networkAddressV6 address prefixLength = address &&& prefixMask 128 prefixLength.toNat := by
  simp only [networkAddressV6, prefixMask, ← UInt8.toNat_inj, UInt8.toNat_zero]

/-- The subnet mask is the mask of the prefix. -/
theorem subnetMask_eq (prefixLength : UInt8) :
    NetworkManager.subnetMask prefixLength = prefixMask 32 prefixLength.toNat := by
  simp only [NetworkManager.subnetMask, prefixMask, ← UInt8.toNat_inj, UInt8.toNat_zero]

/-- The broadcast address sets all bits beyond the prefix. -/
theorem broadcastAddress_eq (address : Ipv4Addr) (prefixLength : UInt8) :
    broadcastAddress address prefixLength = address ||| hostMask 32 prefixLength.toNat := by
  simp only [broadcastAddress, hostMask, ← UInt8.toNat_inj, UInt8.toNat_zero]
  rfl

/-- `network_address_v4`, and `network_address` of an IPv4 address. -/
def networkAddressV4Checked (address : Ipv4Addr) (prefixLength : UInt8) : Option Ipv4Addr := do
  return address &&& (← prefixMaskChecked 32 prefixLength.toNat)

/-- `network_address_v6`, and `network_address` of an IPv6 address. -/
def networkAddressV6Checked (address : Ipv6Addr) (prefixLength : UInt8) : Option Ipv6Addr := do
  return address &&& (← prefixMaskChecked 128 prefixLength.toNat)

/-- `subnet_mask`. -/
def subnetMaskChecked (prefixLength : UInt8) : Option Ipv4Addr :=
  prefixMaskChecked 32 prefixLength.toNat

/-- `broadcast_address`. -/
def broadcastAddressChecked (address : Ipv4Addr) (prefixLength : UInt8) : Option Ipv4Addr := do
  return address ||| (← hostMaskChecked 32 prefixLength.toNat)

/-- No difference and no shift overflows. -/
structure NoOverflow (address : Ipv4Addr) (address6 : Ipv6Addr) (prefixLength : UInt8) : Prop where
  networkV4 : networkAddressV4Checked address prefixLength =
    some (networkAddressV4 address prefixLength)
  networkV6 : networkAddressV6Checked address6 prefixLength =
    some (networkAddressV6 address6 prefixLength)
  mask : subnetMaskChecked prefixLength = some (NetworkManager.subnetMask prefixLength)
  broadcast : broadcastAddressChecked address prefixLength =
    some (broadcastAddress address prefixLength)

/-- No shift overflows, whatever the prefix. -/
theorem noOverflow (address : Ipv4Addr) (address6 : Ipv6Addr) (prefixLength : UInt8) :
    NoOverflow address address6 prefixLength where
  networkV4 := by
    rw [networkAddressV4Checked, prefixMaskChecked_eq (by decide), networkAddressV4_eq]
    rfl
  networkV6 := by
    rw [networkAddressV6Checked, prefixMaskChecked_eq (by decide), networkAddressV6_eq]
    rfl
  mask := by
    rw [subnetMaskChecked, prefixMaskChecked_eq (by decide), subnetMask_eq]
  broadcast := by
    rw [broadcastAddressChecked, hostMaskChecked_eq (by decide), broadcastAddress_eq]
    rfl

/-- A function to networks: it keeps the first bits, clears the others, and changes no network. -/
structure Masking {w : ℕ} (network : BitVec w → UInt8 → BitVec w) : Prop where
  bits : ∀ address prefixLength i, (network address prefixLength).getMsbD i =
    (address.getMsbD i && decide (i < min prefixLength.toNat w))
  idempotent : ∀ address prefixLength,
    network (network address prefixLength) prefixLength = network address prefixLength

/-- IPv4 network addresses are masked by their prefix. -/
theorem masking_networkAddressV4 : Masking networkAddressV4 where
  bits address prefixLength i := by rw [networkAddressV4_eq, getMsbD_and_prefixMask]
  idempotent address prefixLength := by
    rw [networkAddressV4_eq, networkAddressV4_eq, and_prefixMask_and_prefixMask]

/-- IPv6 network addresses are masked by their prefix. -/
theorem masking_networkAddressV6 : Masking networkAddressV6 where
  bits address prefixLength i := by rw [networkAddressV6_eq, getMsbD_and_prefixMask]
  idempotent address prefixLength := by
    rw [networkAddressV6_eq, networkAddressV6_eq, and_prefixMask_and_prefixMask]

/-- **Address arithmetic.**  The network addresses of the engine and of the facade are the same;
the mask, the broadcast address and the prefix length of a mask go with them. -/
theorem address_arithmetic :
    (∀ address address6 prefixLength, NoOverflow address address6 prefixLength) ∧
    (∀ address prefixLength, networkAddress (.v4 address) prefixLength =
      .v4 (networkAddressV4 address prefixLength)) ∧
    (∀ address prefixLength, networkAddress (.v6 address) prefixLength =
      .v6 (networkAddressV6 address prefixLength)) ∧
    Masking networkAddressV4 ∧ Masking networkAddressV6 ∧
    ∀ (address : Ipv4Addr) (prefixLength : UInt8), prefixLength ≤ 32 →
      address &&& NetworkManager.subnetMask prefixLength = networkAddressV4 address prefixLength ∧
      broadcastAddress address prefixLength =
        address ||| ~~~ NetworkManager.subnetMask prefixLength ∧
      prefixLengthFromNetmask (NetworkManager.subnetMask prefixLength) = prefixLength := by
  refine ⟨noOverflow, networkAddress_v4, networkAddress_v6, masking_networkAddressV4,
    masking_networkAddressV6, fun address prefixLength hle => ⟨?_, ?_, ?_⟩⟩
  · rw [networkAddressV4_eq, subnetMask_eq]
  · rw [broadcastAddress_eq, subnetMask_eq, hostMask_eq]
  · exact prefixLengthFromNetmask_subnetMask hle

/-- The arithmetic of a home network. -/
theorem address_arithmetic_home :
    Ipv4Addr.new 192 168 1 7 &&& NetworkManager.subnetMask 24 =
      networkAddressV4 (.new 192 168 1 7) 24 :=
  (address_arithmetic.2.2.2.2.2 (.new 192 168 1 7) 24 (by decide)).1

end Arithmetic

end NetworkManager
