import NetworkManager.Linux.Netlink
import NetworkManager.Linux.Wifi

/-!
# Linux — Nl80211

`linux/nl80211.rs`: generic netlink messages (`RawMsg`), the attributes in them, what nl80211 says
with these about interfaces, radios and access points, and the requests over the socket.

What the socket yields during a request is given in advance (`Inbox`): each receive returns a
datagram or an error; when nothing is left, it waits.
-/

namespace NetworkManager.Nl80211

open Records Octets Layout Netlink

/-! ### Constants -/

def nlmFDump : UInt16 := 0x0300
def nlaFNested : UInt16 := 0x8000
def nlaTypeMask : UInt16 := 0x3fff
def genlIdCtrl : UInt16 := 0x10
def ctrlCmdGetfamily : UInt8 := 3
def ctrlAttrFamilyId : UInt16 := 1
def ctrlAttrFamilyName : UInt16 := 2
def ctrlAttrMcastGroups : UInt16 := 7
def ctrlAttrMcastGrpName : UInt16 := 1
def ctrlAttrMcastGrpId : UInt16 := 2

def cmdGetWiphy : UInt8 := 1
def cmdNewWiphy : UInt8 := 3
def cmdGetInterface : UInt8 := 5
def cmdNewInterface : UInt8 := 7
def cmdGetScan : UInt8 := 32
def cmdTriggerScan : UInt8 := 33
def cmdNewScanResults : UInt8 := 34
def cmdScanAborted : UInt8 := 35

def attrWiphy : UInt16 := 1
def attrWiphyName : UInt16 := 2
def attrIfindex : UInt16 := 3
def attrIfname : UInt16 := 4
def attrIftype : UInt16 := 5
def attrMac : UInt16 := 6
def attrWiphyBands : UInt16 := 22
def attrSupportedIftypes : UInt16 := 32
def attrWiphyFreq : UInt16 := 38
def attrMaxNumScanSsids : UInt16 := 43
def attrBss : UInt16 := 47
def attrSsid : UInt16 := 52
def attrCipherSuites : UInt16 := 57

def bssBssid : UInt16 := 1
def bssFrequency : UInt16 := 2
def bssCapability : UInt16 := 5
def bssInformationElements : UInt16 := 6
def bssSignalMbm : UInt16 := 7
def bssSignalUnspec : UInt16 := 8
def bssSeenMsAgo : UInt16 := 10
def bssBeaconIes : UInt16 := 11

def bandAttrFreqs : UInt16 := 1
def bandAttrHtCapa : UInt16 := 4
def bandAttrVhtCapa : UInt16 := 8
def frequencyAttrFreq : UInt16 := 1
def frequencyAttrDisabled : UInt16 := 2

def ieSsid : UInt8 := 0
def ieRsn : UInt8 := 48
def ieVendor : UInt8 := 221

/-- The vendor of the WPA element. -/
def wpaOui : List UInt8 := [0x00, 0x50, 0xf2]
def wpaOuiType : UInt8 := 1
/-- Privacy bit in the 802.11 capability field. -/
def bssCapabilityPrivacy : UInt16 := 0x0010
/-- RSN capability bits for management frame protection. -/
def rsnCapabilityMfp : UInt16 := 0x00c0

/-! ### Structures -/

/-- The header of a generic netlink message. -/
structure GenlHdr where
  cmd : UInt8
  version : UInt8
  reserved : UInt16
  deriving DecidableEq

/-- The header of an attribute. -/
structure NlAttr where
  nlaLen : UInt16
  nlaType : UInt16
  deriving DecidableEq

/-- The two octets in front of an information element. -/
structure ElementHdr where
  id : UInt8
  len : UInt8
  deriving DecidableEq

instance : Header ElementHdr where
  size := 2
  write h := [h.id, h.len]
  read bytes := { id := bytes.getD 0 0, len := bytes.getD 1 0 }
  length_write h := rfl
  read_write h rest := rfl
  span h := 2 + h.len.toNat
  alignment := 1
  size_pos := by decide
  alignment_pos := by decide

section Layouts
variable [Native]

instance : Layout GenlHdr where
  size := 4
  write h := h.cmd :: h.version :: native 2 h.reserved.toNat
  read bytes :=
    { cmd := bytes.getD 0 0
      version := bytes.getD 1 0
      reserved := u16 bytes 2 }
  length_write h := by simp
  read_write h rest := by simp

instance : Header NlAttr where
  size := 4
  write attr := native 2 attr.nlaLen.toNat ++ (native 2 attr.nlaType.toNat)
  read bytes := { nlaLen := u16 bytes 0, nlaType := u16 bytes 2 }
  length_write attr := by simp
  read_write attr rest := by simp
  span attr := attr.nlaLen.toNat
  alignment := 4
  size_pos := Nat.zero_lt_succ _
  alignment_pos := Nat.zero_lt_succ _

end Layouts

/-- A decoded netlink attribute. -/
structure RawAttr where
  typ : UInt16
  nested : Bool
  payload : List UInt8
  deriving DecidableEq

/-- A decoded generic netlink message. -/
structure RawMsg where
  nlmsgType : UInt16
  nlmsgFlags : UInt16
  cmd : Option UInt8
  attrs : List RawAttr
  payload : List UInt8
  deriving DecidableEq

/-- Resolved generic netlink family information. -/
structure FamilyInfo where
  id : UInt16
  mcastGroups : List (String × UInt32)
  deriving DecidableEq

/-- A wiphy together with the capabilities it advertises. -/
structure WiphyInfo where
  index : UInt32
  name : String
  capabilities : WifiCapabilities
  deriving DecidableEq

section Wire
variable [Native]

/-! ### Building -/

/-- The bytes that the attributes take, each padded to four. -/
def attrLen (attrs : List (UInt16 × List UInt8)) : ℕ :=
  (attrs.map fun (_, payload) => align (size NlAttr + payload.length) 4).sum

/-- Appends an attribute, and zeros until the buffer has whole words. -/
def appendAttr (buf : List UInt8) (typ : UInt16) (payload : List UInt8) : List UInt8 :=
  let buf := buf ++ (native 2 (UInt16.ofNat (size NlAttr + payload.length)).toNat) ++
    (native 2 typ.toNat) ++ payload
  buf ++ List.replicate (align buf.length 4 - buf.length) 0

/-- The length is computed from the attributes before any of them is written. -/
def buildMessage (familyId : UInt16) (cmd : UInt8) (flags : UInt16) (seq : UInt32)
    (attrs : List (UInt16 × List UInt8)) : List UInt8 :=
  let len := size NlMsgHdr + 4 + attrLen attrs
  let buf := native 4 (UInt32.ofNat len).toNat ++ (native 2 familyId.toNat) ++
    (native 2 flags.toNat) ++ (native 4 seq.toNat) ++ (native 4 0) ++ [cmd, 1, 0, 0]
  attrs.foldl (fun buf (typ, payload) => appendAttr buf typ payload) buf

/-! ### Attributes and messages -/

/-- Parses a sequence of attributes.  What is left behind the last one is not looked at. -/
def parseAttrs (payload : List UInt8) : Except NetlinkError (List RawAttr) :=
  match walk (α := NlAttr) (ρ := Empty) (.malformedMessage "invalid nlattr length")
    (fun attrs header payload =>
      .ok (.inl (attrs ++ [{ typ := header.nlaType &&& nlaTypeMask
                             nested := header.nlaType &&& nlaFNested ≠ 0
                             payload }])))
    payload 0 [] with
  | .error e => .error e
  | .ok (.inl (attrs, _)) => .ok attrs

/-- One generic netlink message. -/
def genlMessage (header : NlMsgHdr) (payload : List UInt8) : Except NetlinkError RawMsg :=
  if header.nlmsgType = nlmsgDone ∨ header.nlmsgType = nlmsgError then
    .ok { nlmsgType := header.nlmsgType, nlmsgFlags := header.nlmsgFlags, cmd := none, attrs := []
          payload }
  else if payload.length < 4 then .error (.malformedMessage "short genl header")
  else do
    let genl : GenlHdr := read payload
    let attrs ← parseAttrs (payload.drop 4)
    return { nlmsgType := header.nlmsgType, nlmsgFlags := header.nlmsgFlags, cmd := some genl.cmd
             attrs, payload }

/-- Parses all generic netlink messages in a receive buffer. -/
def parseGenlMessages (buf : List UInt8) : Except NetlinkError (List RawMsg) :=
  match walk (α := NlMsgHdr) (ρ := Empty) (.malformedMessage "invalid nlmsghdr length")
    (fun messages header payload => do
      return .inl (messages ++ [← genlMessage header payload]))
    buf 0 [] with
  | .error e => .error e
  | .ok (.inl (messages, offset)) =>
      if offset ≠ buf.length then .error (.malformedMessage "trailing partial nlmsghdr")
      else .ok messages

/-- The code 0 is a success. -/
def parseAckError (payload : List UInt8) : Except NetlinkError Unit := do
  let code ← parseKernelErrorCode payload
  if code = 0 then .ok () else .error (.kernel code)

/-! ### Readers -/

/-- The first attribute of a type. -/
def findAttr (attrs : List RawAttr) (typ : UInt16) : Option RawAttr :=
  attrs.find? fun attr => attr.typ == typ

/-- The payload of the first attribute of a type, if it has the right length. -/
def readFixed (n : ℕ) (message : String) (attrs : List RawAttr) (typ : UInt16) :
    Except NetlinkError (Option (List.Vector UInt8 n)) :=
  match findAttr attrs typ with
  | none => .ok none
  | some attr =>
      if h : attr.payload.length = n then .ok (some ⟨attr.payload, h⟩)
      else .error (.malformedMessage message)

/-- A byte of exactly this length. -/
def readU8 (attrs : List RawAttr) (typ : UInt16) : Except NetlinkError (Option UInt8) :=
  (readFixed 1 "invalid u8 attribute length" attrs typ).map (Option.map (·.head))

/-- A 16-bit number of exactly this length. -/
def readU16 (attrs : List RawAttr) (typ : UInt16) : Except NetlinkError (Option UInt16) :=
  (readFixed 2 "invalid u16 attribute length" attrs typ).map (Option.map (u16 ·.toList 0))

/-- A 32-bit number of exactly this length. -/
def readU32 (attrs : List RawAttr) (typ : UInt16) : Except NetlinkError (Option UInt32) :=
  (readFixed 4 "invalid u32 attribute length" attrs typ).map (Option.map (u32 ·.toList 0))

/-- A signed 32-bit number of exactly this length. -/
def readI32 (attrs : List RawAttr) (typ : UInt16) : Except NetlinkError (Option Int32) :=
  (readFixed 4 "invalid i32 attribute length" attrs typ).map
    (Option.map fun bytes => (u32 bytes.toList 0).toInt32)

/-- A hardware address of exactly this length. -/
def readMac (attrs : List RawAttr) (typ : UInt16) : Except NetlinkError (Option MacAddress) :=
  readFixed 6 "invalid mac attribute length" attrs typ

/-- A text, up to its first NUL. -/
def readString (attrs : List RawAttr) (typ : UInt16) : Option String :=
  (findAttr attrs typ).map fun attr => textFromBytes attr.payload

/-- An SSID; more than 32 bytes are an error. -/
def readSsid (attrs : List RawAttr) (typ : UInt16) : Except NetlinkError (Option Ssid) :=
  match findAttr attrs typ with
  | none => .ok none
  | some attr =>
      if 32 < attr.payload.length then .error (.malformedMessage "invalid ssid length")
      else .ok (Ssid.fromBytes attr.payload)

/-- The bytes of the attribute. -/
def readBytes (attrs : List RawAttr) (typ : UInt16) : Option (List UInt8) :=
  (findAttr attrs typ).map (·.payload)

/-- The attributes within the attribute, if it is there. -/
def nestedAttrs (attrs : List RawAttr) (typ : UInt16) : Except NetlinkError (List RawAttr) :=
  match findAttr attrs typ with
  | some attr => parseAttrs attr.payload
  | none => .ok []

/-! ### Interfaces and radios -/

/-- `up` is not known here: nl80211 does not report the link flags. -/
def interfaceFromAttrs (attrs : List RawAttr) :
    Except NetlinkError (Option WirelessInterface) := do
  match ← readU32 attrs attrIfindex with
  | none => return none
  | some index =>
    let name := (readString attrs attrIfname).getD ""
    let wiphyIndex ← readU32 attrs attrWiphy
    let interfaceType := match ← readU8 attrs attrIftype with
      | some value => .fromU8 value
      | none => .unspecified
    let mac ← readMac attrs attrMac
    return some
      { index := index.toInt32, name, wiphyIndex, wiphyName := none, interfaceType, mac
        up := false, capabilities := {} }

/-- The native numbers a payload of whole words holds. -/
def chunksExact : List UInt8 → List UInt32
  | a :: b :: c :: d :: bytes => u32 [a, b, c, d] 0 :: chunksExact bytes
  | _ => []

/-- The cipher suites, four bytes each. -/
def parseCipherSuites (payload : List UInt8) : Except NetlinkError (List WifiCipher) :=
  if payload.length % 4 ≠ 0 then .error (.malformedMessage "invalid cipher suite length")
  else .ok ((chunksExact payload).map .fromU32)

/-- A frequency entry adds a channel, unless the frequency is disabled or not named. -/
def addFrequency (band : WifiBand) (entry : RawAttr) : Except NetlinkError WifiBand := do
  let inner ← parseAttrs entry.payload
  if inner.any fun attr => attr.typ == frequencyAttrDisabled then return band
  match ← readU32 inner frequencyAttrFreq with
  | none => return band
  | some frequency =>
    return { band with
      channels := band.channels ++ [entry.typ]
      frequencies := band.frequencies ++ [frequency] }

/-- A band, with its frequencies. -/
def bandFromAttrs (bandId : UInt8) (payload : List UInt8) :
    Except NetlinkError (Option WifiBand) := do
  let attrs ← parseAttrs payload
  let band : WifiBand :=
    { id := .fromU8 bandId, channels := [], frequencies := [], htCapabilities := none
      vhtCapabilities := none }
  let band ← (← nestedAttrs attrs bandAttrFreqs).foldlM addFrequency band
  let htCapabilities ← readU16 attrs bandAttrHtCapa
  let vhtCapabilities ← readU32 attrs bandAttrVhtCapa
  return some { band with htCapabilities, vhtCapabilities }

/-- A radio, if the message gives it an index. -/
def wiphyFromAttrs (attrs : List RawAttr) : Except NetlinkError (Option WiphyInfo) := do
  match ← readU32 attrs attrWiphy with
  | none => return none
  | some index =>
    let name := (readString attrs attrWiphyName).getD ""
    let supported ← nestedAttrs attrs attrSupportedIftypes
    let cipherSuites ← match findAttr attrs attrCipherSuites with
      | some ciphers => parseCipherSuites ciphers.payload
      | none => .ok []
    let maxScanSsids ← readU8 attrs attrMaxNumScanSsids
    let bands ← (← nestedAttrs attrs attrWiphyBands).mapM fun band =>
      bandFromAttrs band.typ.toUInt8 band.payload
    return some
      { index, name
        capabilities :=
          { supportedInterfaces := supported.map fun attr => .fromU8 attr.typ.toUInt8
            cipherSuites, bands := bands.reduceOption
            maxScanSsids := maxScanSsids.map (·.toUInt32)
            scanSupported := maxScanSsids.isSome } }

/-- The controller's answer about a family; none if it names no id. -/
def familyInfoFromAttrs (attrs : List RawAttr) : Except NetlinkError (Option FamilyInfo) := do
  match ← readFixed 2 "invalid family id length" attrs ctrlAttrFamilyId with
  | none => return none
  | some id =>
    let groups ← (← nestedAttrs attrs ctrlAttrMcastGroups).mapM fun group => do
      let inner ← parseAttrs group.payload
      let groupId ← readU32 inner ctrlAttrMcastGrpId
      return (readString inner ctrlAttrMcastGrpName).bind fun name =>
        groupId.map fun groupId => (name, groupId)
    return some { id := u16 id.toList 0, mcastGroups := groups.reduceOption }

end Wire

/-! ### Information elements -/

/-- The little-endian number of two bytes. -/
def readLeU16 (bytes : List UInt8) : UInt16 := .ofNat (ofLittleEndian bytes)

/-- Reads a number of the element, and moves on. -/
def readIeU16 (data : List UInt8) (offset : ℕ) : Except NetlinkError (UInt16 × ℕ) :=
  if data.length < offset + 2 then .error (.malformedMessage "malformed information element")
  else .ok (readLeU16 (data.extract offset (offset + 2)), offset + 2)

/-- Skips bytes of the element. -/
def skipIeBytes (data : List UInt8) (offset count : ℕ) : Except NetlinkError ℕ :=
  if data.length < offset + count then .error (.malformedMessage "malformed information element")
  else .ok (offset + count)

/-- Skips as many items as a number of the element says. -/
def skipIeCounted (data : List UInt8) (offset elementSize : ℕ) : Except NetlinkError ℕ := do
  let (count, offset) ← readIeU16 data offset
  skipIeBytes data offset (count.toNat * elementSize)

/-- Reads `count` selectors of four octets, the least significant first. -/
def readSelectors (message : String) (data : List UInt8) :
    (count offset : ℕ) → Except NetlinkError (List UInt32 × ℕ)
  | 0, offset => .ok ([], offset)
  | count + 1, offset =>
      if data.length < offset + 4 then .error (.malformedMessage message)
      else do
        let selector := .ofNat (ofLittleEndian (data.extract offset (offset + 4)))
        let (selectors, offset) ← readSelectors message data count (offset + 4)
        return (selector :: selectors, offset)

/-- A count of selectors, and that many of them. -/
def readCounted (message : String) (data : List UInt8) (offset : ℕ) :
    Except NetlinkError (List UInt32 × ℕ) := do
  let (count, offset) ← readIeU16 data offset
  if data.length < offset + count.toNat * 4 then throw (.malformedMessage message)
  readSelectors message data count.toNat offset

/-- An RSN element: its auth suites, and whether it offers management frame protection. -/
def parseRsnIe (data : List UInt8) : Except NetlinkError (List WifiAuthSuite × Bool) := do
  let (_, offset) ← readIeU16 data 0
  let offset ← skipIeBytes data offset 4
  let offset ← skipIeCounted data offset 4
  let (selectors, offset) ← readCounted "malformed rsn ie" data offset
  let mfp :=
    if offset + 2 ≤ data.length then
      readLeU16 (data.extract offset (offset + 2)) &&& rsnCapabilityMfp != 0
    else false
  return (selectors.map .fromRsnAkm, mfp)

/-- The suite that the number stands for in a WPA element. -/
def wpaSuite (value : UInt32) : WifiAuthSuite :=
  match value with
  | 1 => .wpa18021x
  | 2 => .wpa1Psk
  | _ => .other value

/-- The auth suites of a WPA element, behind its OUI and type. -/
def parseWpaIe (data : List UInt8) : Except NetlinkError (List WifiAuthSuite) := do
  let offset ← skipIeBytes data 0 2
  let offset ← skipIeBytes data offset 4
  let offset ← skipIeCounted data offset 4
  let (selectors, _) ← readCounted "malformed wpa ie" data offset
  return selectors.map wpaSuite

/-- What `parse_security` has seen so far. -/
structure Seen where
  authSuites : List WifiAuthSuite
  rsnSeen : Bool
  wpaSeen : Bool
  managementFrameProtection : Bool
  deriving DecidableEq

/-- Nothing seen yet. -/
def Seen.empty : Seen :=
  { authSuites := [], rsnSeen := false, wpaSeen := false, managementFrameProtection := false }

/-- A vendor element is a WPA element if it starts with the OUI and the type. -/
def isWpa (data : List UInt8) : Bool :=
  4 ≤ data.length && wpaOui.isPrefixOf data && data.getD 3 0 == wpaOuiType

/-- One element: RSN and WPA elements add their suites, the others nothing. -/
def securityStep (seen : Seen) (header : ElementHdr) (data : List UInt8) :
    Except NetlinkError Seen :=
  if header.id = ieRsn then do
    let (suites, mfp) ← parseRsnIe data
    return { seen with
      authSuites := seen.authSuites ++ suites
      rsnSeen := true
      managementFrameProtection := seen.managementFrameProtection || mfp }
  else if header.id = ieVendor ∧ isWpa data then do
    let suites ← parseWpaIe (data.drop 4)
    return { seen with authSuites := seen.authSuites ++ suites, wpaSeen := true }
  else .ok seen

/-- The suites that make a network one of WPA3. -/
def WifiAuthSuite.isWpa3 : WifiAuthSuite → Bool
  | .rsnSae | .rsnSaeFt | .rsnOwe | .rsnPskSha384 | .rsnFt8021xSha384 | .rsnFtPskSha384
  | .rsnSuiteB192 | .rsnPasn => true
  | _ => false

/-- The suites that make a network one of WPA2. -/
def WifiAuthSuite.isWpa2 : WifiAuthSuite → Bool
  | .rsnSae | .rsnSaeFt | .rsnOwe | .rsnPasn | .other _ => false
  | _ => true

/-- The suites of an enterprise login. -/
def WifiAuthSuite.isEnterprise : WifiAuthSuite → Bool
  | .wpa18021x | .rsn8021x | .rsnFt8021x | .rsn8021xSha256 | .rsnFt8021xSha384 | .rsnSuiteB
  | .rsnSuiteB192 => true
  | _ => false

/-- The flags, once all elements are seen. -/
def Seen.security (seen : Seen) (capability : Option UInt16) : AccessPointSecurity where
  authSuites := seen.authSuites
  managementFrameProtection := seen.managementFrameProtection
  wpa1 := seen.wpaSeen
  wpa3 := seen.authSuites.any (·.isWpa3)
  wpa2 := seen.rsnSeen && seen.authSuites.any (·.isWpa2)
  enterprise := seen.authSuites.any (·.isEnterprise)
  wep := (capability.map fun cap => cap &&& bssCapabilityPrivacy != 0).getD false &&
    !seen.rsnSeen && !seen.wpaSeen

/-- The security that the elements and the capability tell of. -/
def parseSecurity (ies : List UInt8) (capability : Option UInt16) :
    Except NetlinkError AccessPointSecurity :=
  match walk (α := ElementHdr) (ρ := Empty) (.malformedMessage "malformed information element")
    (fun seen header data => (securityStep seen header data).map .inl) ies 0 Seen.empty with
  | .error e => .error e
  | .ok (.inl (seen, _)) => .ok (seen.security capability)

/-- The first SSID element; a malformed list has none. -/
def ssidFromIes (ies : List UInt8) : Option Ssid :=
  match walk (α := ElementHdr) () (fun (_ : Unit) header data =>
    .ok (if header.id = ieSsid then .inr (Ssid.fromBytes data) else .inl ())) ies 0 () with
  | .ok (.inr ssid) => ssid
  | _ => none

section Requests
variable [Native]

/-! ### Access points and scan events -/

/-- An access point, if the message has one. -/
def bssFromAttrs (attrs : List RawAttr) : Except NetlinkError (Option AccessPoint) :=
  match findAttr attrs attrBss with
  | none => .ok none
  | some bssAttr => do
    let bss ← parseAttrs bssAttr.payload
    let bssid ← readMac bss bssBssid
    let frequency ← readU32 bss bssFrequency
    let capability ← readU16 bss bssCapability
    let signalMbm ← readI32 bss bssSignalMbm
    let signalUnspecified ← readU8 bss bssSignalUnspec
    let seenMillisAgo ← readU32 bss bssSeenMsAgo
    let informationElements :=
      readBytes bss bssInformationElements <|> readBytes bss bssBeaconIes
    let ssid := (← readSsid attrs attrSsid) <|> informationElements.bind ssidFromIes
    let security ← parseSecurity (informationElements.getD []) capability
    return some
      { bssid := bssid.map (⟨·⟩), ssid, frequency
        channel := frequency.bind frequencyToChannel
        signalDbm := signalMbm.map (· / 100)
        signalUnspecified, capability, security, seenMillisAgo }

/-- The scan event of the command. -/
def scanEventKind (cmd : Option UInt8) : Option WifiEventKind :=
  if cmd = some cmdNewScanResults then some .scanResults
  else if cmd = some cmdScanAborted then some .scanAborted
  else none

/-- The scan event of a message, if it names an interface. -/
def scanEvent (message : RawMsg) : Except NetlinkError (Option WifiEvent) :=
  match scanEventKind message.cmd with
  | none => .ok none
  | some kind => do
    match ← readU32 message.attrs attrIfindex with
    | none => return none
    | some index =>
      let frequency := (← readU32 message.attrs attrWiphyFreq).filter (· ≠ 0)
      return some { kind, interfaceIndex := index.toInt32, interfaceName := none, frequency }

/-- Parses the scan notifications of a buffer. -/
def parseScanEvents (buf : List UInt8) : Except NetlinkError (List WifiEvent) := do
  return (← (← parseGenlMessages buf).mapM scanEvent).reduceOption

/-! ### Requests -/

/-- What the receives of a request return, one after another. -/
abbrev Inbox := List (Except NetlinkError (List UInt8))

/-- The result of a request and what it has not received, or `none` while it waits. -/
abbrev Reply (α : Type) := Option (Except NetlinkError α × Inbox)

/-- One datagram of a dump: `NLMSG_DONE` completes it, `NLMSG_ERROR` fails it, and every other
message is kept. -/
def takeDump : List RawMsg → List RawMsg → List RawMsg ⊕ Except NetlinkError (List RawMsg)
  | [], messages => .inl messages
  | message :: rest, messages =>
      if message.nlmsgType = nlmsgDone then .inr (.ok messages)
      else if message.nlmsgType = nlmsgError then .inr (.error (parseKernelError message.payload))
      else takeDump rest (messages ++ [message])

/-- The receive loop of `transact_dump`. -/
def receiveDump : Inbox → List RawMsg → Reply (List RawMsg)
  | [], _ => none
  | .error e :: inbox, _ => some (.error e, inbox)
  | .ok buf :: inbox, messages =>
      match parseGenlMessages buf with
      | .error e => some (.error e, inbox)
      | .ok parsed =>
          match takeDump parsed messages with
          | .inl messages => receiveDump inbox messages
          | .inr result => some (result, inbox)

/-- The receive loop of `transact_ack`. -/
def receiveAck : Inbox → Reply Unit
  | [] => none
  | .error e :: inbox => some (.error e, inbox)
  | .ok buf :: inbox =>
      match parseGenlMessages buf with
      | .error e => some (.error e, inbox)
      | .ok parsed =>
          match parsed.find? fun message => message.nlmsgType == nlmsgError with
          | some message => some (parseAckError message.payload, inbox)
          | none => receiveAck inbox

/-- The first message that tells the family.  A message without a command tells nothing. -/
def firstFamily : List RawMsg → Except NetlinkError (Option FamilyInfo)
  | [] => .ok none
  | message :: rest =>
      if message.cmd = none then firstFamily rest
      else do
        match ← familyInfoFromAttrs message.attrs with
        | some info => return some info
        | none => firstFamily rest

/-- The receive loop of `resolve_nl80211_family`. -/
def receiveFamily : Inbox → Reply FamilyInfo
  | [] => none
  | .error e :: inbox => some (.error e, inbox)
  | .ok buf :: inbox =>
      match parseGenlMessages buf >>= firstFamily with
      | .error e => some (.error e, inbox)
      | .ok (some info) => some (.ok info, inbox)
      | .ok none => receiveFamily inbox

/-- A generic netlink socket, and what it will yield. -/
structure Socket where
  send : List UInt8 → Except NetlinkError Unit
  inbox : Inbox

/-- A connection for nl80211 operations. -/
structure Nl80211Connection where
  familyId : UInt16
  socket : Socket

/-- Asks the controller for the family and its groups. -/
def resolveNl80211Family (socket : Socket) : Reply FamilyInfo :=
  match socket.send (buildMessage genlIdCtrl ctrlCmdGetfamily nlmFRequest 1
    [(ctrlAttrFamilyName, "nl80211".toUTF8.data.toList)]) with
  | .error e => some (.error e, socket.inbox)
  | .ok _ => receiveFamily socket.inbox

/-- The number that `open` binds the socket with: the id of the first group named `scan`. -/
def scanGroups (family : FamilyInfo) : UInt32 :=
  ((family.mcastGroups.find? fun group => group.1 == "scan").map (·.2)).getD 0

namespace Nl80211Connection

/-- `Nl80211Connection::open`, up to the bind of its socket (`nl_groups`). -/
def openGroups (controller : Socket) : Reply UInt32 :=
  (resolveNl80211Family controller).map fun (family, inbox) => (family.map scanGroups, inbox)

variable (connection : Nl80211Connection)

/-- Asks for a dump, and receives it to its end. -/
def transactDump (cmd : UInt8) (attrs : List (UInt16 × List UInt8)) : Reply (List RawMsg) :=
  match connection.socket.send
    (buildMessage connection.familyId cmd (nlmFRequest ||| nlmFDump) 1 attrs) with
  | .error e => some (.error e, connection.socket.inbox)
  | .ok _ => receiveDump connection.socket.inbox []

/-- Asks for something to be done, and receives the answer. -/
def transactAck (cmd : UInt8) (attrs : List (UInt16 × List UInt8)) : Reply Unit :=
  match connection.socket.send
    (buildMessage connection.familyId cmd (nlmFRequest ||| nlmFAck) 1 attrs) with
  | .error e => some (.error e, connection.socket.inbox)
  | .ok _ => receiveAck connection.socket.inbox

/-- What the messages of a dump with one of two commands say. -/
def keepMessages {T : Type} (get new : UInt8)
    (fromAttrs : List RawAttr → Except NetlinkError (Option T)) (messages : List RawMsg) :
    Except NetlinkError (List T) := do
  return (← (messages.filter fun message => message.cmd == some get || message.cmd == some new).mapM
    fun message => fromAttrs message.attrs).reduceOption

/-- The wireless interfaces, by their indices. -/
def dumpInterfaces : Reply (List WirelessInterface) :=
  (connection.transactDump cmdGetInterface []).map fun (messages, inbox) =>
    ((messages.bind (keepMessages cmdGetInterface cmdNewInterface interfaceFromAttrs)).map
      (·.mergeSort fun a b => a.index ≤ b.index), inbox)

/-- The radios, by their indices. -/
def dumpWiphys : Reply (List WiphyInfo) :=
  (connection.transactDump cmdGetWiphy []).map fun (messages, inbox) =>
    ((messages.bind (keepMessages cmdGetWiphy cmdNewWiphy wiphyFromAttrs)).map
      (·.mergeSort fun a b => a.index ≤ b.index), inbox)

/-- The attribute that names an interface. -/
def ifindexAttrs (ifindex : Int32) : List (UInt16 × List UInt8) :=
  [(attrIfindex, native 4 ifindex.toUInt32.toNat)]

/-- Asks for a scan. -/
def triggerScan (ifindex : Int32) : Reply Unit :=
  connection.transactAck cmdTriggerScan (ifindexAttrs ifindex)

/-- The access points keep the order of the dump. -/
def dumpScan (ifindex : Int32) : Reply (List AccessPoint) :=
  (connection.transactDump cmdGetScan (ifindexAttrs ifindex)).map fun (messages, inbox) =>
    (messages.bind (keepMessages cmdGetScan cmdNewScanResults bssFromAttrs), inbox)

end Nl80211Connection

end Requests

end NetworkManager.Nl80211
