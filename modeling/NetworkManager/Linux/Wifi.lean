import NetworkManager.Daemon
import NetworkManager.Linux.Model

/-!
# Linux — Wifi

The Wi-Fi data of `linux/model.rs` in full, as nl80211 reports it.  The daemon's cut of a wireless
interface and of an access point (`Daemon`) is what the device objects render of it.
-/

namespace NetworkManager.Nl80211

/-- nl80211 interface mode. -/
inductive InterfaceType where
  | unspecified | adhoc | station | ap | apVlan | wds | monitor | meshPoint | p2pClient | p2pGo
  | p2pDevice | ocb | nan | nanData
  | other (value : UInt8)
  deriving DecidableEq

/-- The type that the kernel's number stands for. -/
def InterfaceType.fromU8 (value : UInt8) : InterfaceType :=
  match value with
  | 0 => .unspecified
  | 1 => .adhoc
  | 2 => .station
  | 3 => .ap
  | 4 => .apVlan
  | 5 => .wds
  | 6 => .monitor
  | 7 => .meshPoint
  | 8 => .p2pClient
  | 9 => .p2pGo
  | 10 => .p2pDevice
  | 11 => .ocb
  | 12 => .nan
  | 13 => .nanData
  | _ => .other value

/-- The bands of the radio. -/
inductive WifiBandId where
  | ghz2 | ghz5 | ghz60 | ghz6 | subGhz | lc
  | other (value : UInt8)
  deriving DecidableEq

/-- The band that the kernel's number stands for. -/
def WifiBandId.fromU8 (value : UInt8) : WifiBandId :=
  match value with
  | 0 => .ghz2
  | 1 => .ghz5
  | 2 => .ghz60
  | 3 => .ghz6
  | 4 => .subGhz
  | 5 => .lc
  | _ => .other value

/-- What a radio can do in a band. -/
structure WifiBand where
  id : WifiBandId
  channels : List UInt16
  frequencies : List UInt32
  htCapabilities : Option UInt16
  vhtCapabilities : Option UInt32
  deriving DecidableEq

/-- IEEE 802.11 cipher suites (well-known OUI 00-0F-AC values). -/
inductive WifiCipher where
  | wep40 | wep104 | tkip | ccmp | ccmp256 | gcmp | gcmp256 | aesCmac | bipCmac256 | bipGmac128
  | bipGmac256 | wapiSms4
  | other (value : UInt32)
  deriving DecidableEq

/-- The cipher that the kernel's number stands for. -/
def WifiCipher.fromU32 (value : UInt32) : WifiCipher :=
  match value with
  | 0x000FAC01 => .wep40
  | 0x000FAC05 => .wep104
  | 0x000FAC02 => .tkip
  | 0x000FAC04 => .ccmp
  | 0x000FAC0A => .ccmp256
  | 0x000FAC08 => .gcmp
  | 0x000FAC09 => .gcmp256
  | 0x000FAC06 => .aesCmac
  | 0x000FAC0B => .bipCmac256
  | 0x000FAC0C => .bipGmac128
  | 0x000FAC0D => .bipGmac256
  | 0x00147201 => .wapiSms4
  | _ => .other value

/-- What a radio can do. -/
structure WifiCapabilities where
  supportedInterfaces : List InterfaceType := []
  cipherSuites : List WifiCipher := []
  bands : List WifiBand := []
  maxScanSsids : Option UInt32 := none
  scanSupported : Bool := false
  deriving DecidableEq

/-- A discovered wireless interface. -/
structure WirelessInterface where
  index : Int32
  name : String
  wiphyIndex : Option UInt32
  wiphyName : Option String
  interfaceType : InterfaceType
  mac : Option MacAddress
  up : Bool
  capabilities : WifiCapabilities
  deriving DecidableEq

/-- What the device objects render of an interface. -/
def WirelessInterface.rendered (interface : WirelessInterface) :
    NetworkManager.WirelessInterface where
  index := interface.index
  name := interface.name
  mac := interface.mac
  up := interface.up

/-- Key management suites.  WPA (vendor element) uses the values 1 (IEEE 802.1X) and 2 (PSK); RSN
uses the IEEE 802.11 AKM suite identifiers. -/
inductive WifiAuthSuite where
  | wpa1Psk | wpa18021x | rsn8021x | rsnPsk | rsnFt8021x | rsnFtPsk | rsn8021xSha256
  | rsnPskSha256 | rsnSae | rsnSaeFt | rsnApPsk | rsnSuiteB | rsnSuiteB192 | rsnFt8021xSha384
  | rsnFilsSha256 | rsnFilsSha384 | rsnFtFilsSha256 | rsnFtFilsSha384 | rsnOwe
  | rsnFtPskSha384 | rsnPskSha384 | rsnPasn
  | other (value : UInt32)
  deriving DecidableEq

/-- The suite that the number stands for in an RSN element. -/
def WifiAuthSuite.fromRsnAkm (value : UInt32) : WifiAuthSuite :=
  match value with
  | 0x000FAC01 => .rsn8021x
  | 0x000FAC02 => .rsnPsk
  | 0x000FAC03 => .rsnFt8021x
  | 0x000FAC04 => .rsnFtPsk
  | 0x000FAC05 => .rsn8021xSha256
  | 0x000FAC06 => .rsnPskSha256
  | 0x000FAC08 => .rsnSae
  | 0x000FAC09 => .rsnSaeFt
  | 0x000FAC0A => .rsnApPsk
  | 0x000FAC0B => .rsnSuiteB
  | 0x000FAC0C => .rsnSuiteB192
  | 0x000FAC0D => .rsnFt8021xSha384
  | 0x000FAC0E => .rsnFilsSha256
  | 0x000FAC0F => .rsnFilsSha384
  | 0x000FAC10 => .rsnFtFilsSha256
  | 0x000FAC11 => .rsnFtFilsSha384
  | 0x000FAC12 => .rsnOwe
  | 0x000FAC13 => .rsnFtPskSha384
  | 0x000FAC14 => .rsnPskSha384
  | 0x000FAC15 => .rsnPasn
  | _ => .other value

/-- Security and authentication capabilities of an access point. -/
structure AccessPointSecurity where
  wep : Bool
  wpa1 : Bool
  wpa2 : Bool
  wpa3 : Bool
  enterprise : Bool
  managementFrameProtection : Bool
  authSuites : List WifiAuthSuite
  deriving DecidableEq

/-- An access point found by a scan. -/
structure AccessPoint where
  bssid : Option Bssid
  ssid : Option Ssid
  frequency : Option UInt32
  channel : Option UInt16
  signalDbm : Option Int32
  signalUnspecified : Option UInt8
  capability : Option UInt16
  security : AccessPointSecurity
  seenMillisAgo : Option UInt32
  deriving DecidableEq

/-- What the registration of an access point reads of it. -/
def AccessPoint.rendered (point : AccessPoint) : NetworkManager.AccessPoint := ⟨point.bssid⟩

/-- The 802.11 channel of a center frequency in MHz. -/
def frequencyToChannel (freqMhz : UInt32) : Option UInt16 :=
  let freq := freqMhz.toNat
  if 2412 ≤ freq ∧ freq ≤ 2472 then some (.ofNat ((freq - 2407) / 5))
  else if freq = 2484 then some 14
  else if 5000 ≤ freq ∧ freq ≤ 5895 then some (.ofNat ((freq - 5000) / 5))
  else if 5955 ≤ freq ∧ freq ≤ 7115 then some (.ofNat ((freq - 5950) / 5))
  else none

end NetworkManager.Nl80211
