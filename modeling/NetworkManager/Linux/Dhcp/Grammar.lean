import NetworkManager.Support.Panics
import NetworkManager.Linux.Dhcp.Netmask

/-!
# Linux — Dhcp — Grammar

What `parse` accepts, and that it does so without panicking.

* `OptionArea`: the octets behind the fixed header, by the rules of RFC 2132, and the options in
  them.  `parseOptions_iff`: the parser accepts these octets and no others.
* `parse_iff`: the whole packet.
* `calm_parse`: `parse` with every index, slice and sum checked.  `Readable`, `readable`: the same
  for what a packet is asked for.
* `round_trip`: what is parsed can be written, and reads back.
-/

namespace NetworkManager

namespace DhcpPacket

/-! ### The grammar -/

/-- The octets of an option area, and the options in it. -/
inductive OptionArea : List UInt8 → List DhcpOption → Prop
  | endOfInput : OptionArea [] []
  | endMarker (rest : List UInt8) : OptionArea (optionEnd :: rest) []
  | pad {bytes : List UInt8} {options : List DhcpOption} (h : OptionArea bytes options) :
      OptionArea (optionPad :: bytes) options
  | option {code len : UInt8} {value bytes : List UInt8} {options : List DhcpOption}
      (hpad : code ≠ optionPad) (hend : code ≠ optionEnd) (hlen : value.length = len.toNat)
      (h : OptionArea bytes options) :
      OptionArea (code :: len :: (value ++ bytes)) ((code, value) :: options)

/-- The end marker ends the options. -/
theorem parseOptions_endMarker (bytes : List UInt8) :
    parseOptions (optionEnd :: bytes) = .ok [] := by
  rw [parseOptions.eq_def]
  exact if_pos rfl

/-- A pad octet is skipped. -/
theorem parseOptions_pad (bytes : List UInt8) :
    parseOptions (optionPad :: bytes) = parseOptions bytes := by
  rw [parseOptions.eq_def]
  exact (if_neg (by decide)).trans (if_pos rfl)

/-- A code without a length is truncated. -/
theorem parseOptions_header {code : UInt8} (hend : code ≠ optionEnd) (hpad : code ≠ optionPad) :
    parseOptions [code] = .error (.malformedPacket "truncated DHCP option header") := by
  rw [parseOptions, if_neg hend, if_neg hpad]

/-- An option is read whole, or truncated. -/
theorem parseOptions_option {code : UInt8} (hend : code ≠ optionEnd) (hpad : code ≠ optionPad)
    (len : UInt8) (bytes : List UInt8) :
    parseOptions (code :: len :: bytes) =
      if bytes.length < len.toNat then .error (.malformedPacket "truncated DHCP option value")
      else do return (code, bytes.take len.toNat) :: (← parseOptions (bytes.drop len.toNat)) := by
  rw [parseOptions, if_neg hend, if_neg hpad]

/-- An option area parses to its options. -/
theorem OptionArea.parse {bytes : List UInt8} {options : List DhcpOption}
    (h : OptionArea bytes options) : parseOptions bytes = .ok options := by
  induction h with
  | endOfInput => rw [parseOptions]
  | endMarker rest => exact parseOptions_endMarker rest
  | pad h ih => rw [parseOptions_pad, ih]
  | @option code len value bytes options hpad hend hlen h ih =>
      have hlong : ¬ (value ++ bytes).length < len.toNat := by
        rw [List.length_append, hlen]
        omega
      rw [parseOptions_option hend hpad, if_neg hlong, ← hlen, List.drop_left, List.take_left, ih]
      rfl

/-- What parses is an option area. -/
theorem optionArea_of_parse {bytes : List UInt8} {options : List DhcpOption}
    (h : parseOptions bytes = .ok options) : OptionArea bytes options := by
  induction bytes using parseOptions.induct generalizing options with
  | case1 =>
      rw [parseOptions] at h
      cases h
      exact .endOfInput
  | case2 bytes =>
      rw [parseOptions_endMarker] at h
      cases h
      exact .endMarker bytes
  | case3 bytes hend ih =>
      rw [parseOptions_pad] at h
      exact .pad (ih h)
  | case4 code hend hpad =>
      rw [parseOptions_header hend hpad] at h
      cases h
  | case5 code hend hpad len bytes hshort =>
      rw [parseOptions_option hend hpad, if_pos hshort] at h
      cases h
  -- the value is cut off by its length, and the rest is an area by induction
  | case6 code hend hpad len bytes hlong ih =>
      rw [parseOptions_option hend hpad, if_neg hlong] at h
      cases hrest : parseOptions (bytes.drop len.toNat) with
      | error e =>
          rw [hrest] at h
          cases h
      | ok rest =>
          rw [hrest] at h
          obtain rfl : (code, bytes.take len.toNat) :: rest = options := Except.ok.inj h
          have hvalue : (bytes.take len.toNat).length = len.toNat := by
            rw [List.length_take]
            omega
          have harea := OptionArea.option hpad hend hvalue (ih hrest)
          rwa [List.take_append_drop] at harea

/-- **The loop accepts the option areas** and no other octets, and returns their options. -/
theorem parseOptions_iff {bytes : List UInt8} {options : List DhcpOption} :
    parseOptions bytes = .ok options ↔ OptionArea bytes options :=
  ⟨optionArea_of_parse, OptionArea.parse⟩

/-- A packet parses if it has a header, the cookie and an option area. -/
theorem parse_eq_ok {bytes : List UInt8} {p : DhcpPacket} :
    parse bytes = .ok p ↔ ∃ (h : 240 ≤ bytes.length) (options : List DhcpOption),
      (Octets.slice bytes 236 4 h).toList = magicCookie ∧
      OptionArea (bytes.drop 240) options ∧ p = ofHeader bytes h options := by
  constructor
  · intro hparse
    rw [parse] at hparse
    split at hparse
    · next h =>
        split at hparse
        · cases hparse
        · next hcookie =>
            cases hoptions : parseOptions (bytes.drop optionsOffset) with
            | error e =>
                rw [hoptions] at hparse
                cases hparse
            | ok options =>
                rw [hoptions] at hparse
                exact ⟨h, options, not_not.mp hcookie, optionArea_of_parse hoptions,
                  (Except.ok.inj hparse).symm⟩
    · cases hparse
  · rintro ⟨h, options, hcookie, harea, rfl⟩
    have hoptions : parseOptions (bytes.drop optionsOffset) = .ok options := harea.parse
    rw [parse, dif_pos h, if_neg (not_not_intro hcookie), hoptions]
    rfl

/-- The options of an option area can be written. -/
theorem OptionArea.writable {bytes : List UInt8} {options : List DhcpOption}
    (h : OptionArea bytes options) : Writable options := by
  induction h with
  | endOfInput | endMarker => exact nofun
  | pad _ ih => exact ih
  | @option code len value bytes options hpad hend hlen _ ih =>
      intro o ho
      rcases List.mem_cons.mp ho with rfl | ho
      · exact ⟨hpad, hend, by rw [hlen]; exact Nat.le_of_lt_succ len.toNat_lt⟩
      · exact ih o ho

/-! ### No panics -/

section Checked

open Panics

/-- The loop over the options, with at most so many turns. -/
def parseOptionsChecked (bytes : List UInt8) :
    ℕ → ℕ → List DhcpOption → Panicking DhcpError (List DhcpOption)
  | 0, _, _ => liftM (none : Option (List DhcpOption))
  | turns + 1, offset, options =>
    if offset < bytes.length then do
      let code ← index bytes offset
      if code = optionEnd then return options
      else if code = optionPad then do
        let offset ← usize (offset + 1)
        parseOptionsChecked bytes turns offset options
      else do
        let start ← usize (offset + 2)
        if bytes.length < start then throw (.malformedPacket "truncated DHCP option header")
        else do
          let at_ ← usize (offset + 1)
          let len ← index bytes at_
          let stop ← usize (start + len.toNat)
          if bytes.length < stop then throw (.malformedPacket "truncated DHCP option value")
          else do
            let value ← range bytes start stop
            parseOptionsChecked bytes turns stop (options ++ [(code, value)])
    else return options

/-- `parse`. -/
def parseChecked (bytes : List UInt8) : Panicking DhcpError DhcpPacket :=
  if bytes.length < optionsOffset then throw (.malformedPacket "packet shorter than fixed header")
  else do
    let cookie ← range bytes (optionsOffset - 4) optionsOffset
    if cookie ≠ magicCookie then throw (.malformedPacket "missing DHCP magic cookie")
    else do
      let options ← parseOptionsChecked bytes (bytes.length + 1) optionsOffset []
      let chaddr ← copied 16 bytes 28 44
      let sname ← copied 64 bytes 44 108
      let file ← copied 128 bytes 108 236
      let ciaddr ← copied 4 bytes 12 16
      let yiaddr ← copied 4 bytes 16 20
      let siaddr ← copied 4 bytes 20 24
      let giaddr ← copied 4 bytes 24 28
      let xid ← copied 4 bytes 4 8
      let flags ← copied 2 bytes 10 12
      let op ← index bytes 0
      return {
        op
        xid := UInt32.ofNat (Octets.ofBigEndian xid.toList)
        flags := UInt16.ofNat (Octets.ofBigEndian flags.toList)
        ciaddr, yiaddr, siaddr, giaddr, chaddr, sname, file, options }

/-- The loop does not panic: an offset never goes past the end. -/
theorem calm_parseOptions {bytes : List UInt8} (hbytes : bytes.length < 2 ^ 63)
    {turns offset : ℕ} (hturns : bytes.length < offset + turns) (hoffset : offset ≤ bytes.length)
    (options : List DhcpOption) :
    Calm (parseOptionsChecked bytes turns offset options)
      ((options ++ ·) <$> parseOptions (bytes.drop offset)) := by
  induction turns generalizing offset options with
  | zero => omega
  | succ turns ih =>
      rw [parseOptionsChecked]
      -- each turn takes an end, a pad or an option, and the offset stays within the octets
      by_cases hmore : offset < bytes.length
      · have hdrop := List.drop_eq_getElem_cons hmore
        rw [if_pos hmore]
        refine calm_step (calm_lift (index_eq hmore)) ?_
        generalize bytes[offset] = code at hdrop
        by_cases hend : code = optionEnd
        · rw [hdrop, if_pos hend, hend, parseOptions_endMarker]
          refine calm_congr (calm_pure options) ?_
          exact congrArg Except.ok (List.append_nil options).symm
        by_cases hpad : code = optionPad
        · rw [hdrop, if_neg hend, if_pos hpad, hpad, parseOptions_pad]
          refine calm_step (calm_lift (usize_eq (by omega))) ?_
          exact ih (by omega) (by omega) options
        rw [if_neg hend, if_neg hpad]
        refine calm_step (calm_lift (usize_eq (by omega))) ?_
        by_cases hheader : bytes.length < offset + 2
        · have hnil : bytes.drop (offset + 1) = [] := List.drop_eq_nil_of_le (by omega)
          rw [hdrop, if_pos hheader, hnil, parseOptions_header hend hpad]
          exact calm_throw _
        have hnext : offset + 1 < bytes.length := by omega
        have hdrop' := List.drop_eq_getElem_cons hnext
        rw [if_neg hheader]
        refine calm_step (calm_lift (usize_eq (by omega))) ?_
        refine calm_step (calm_lift (index_eq hnext)) ?_
        generalize bytes[offset + 1] = len at hdrop'
        have hlen : len.toNat < 256 := len.toNat_lt
        refine calm_step (calm_lift (usize_eq (by omega))) ?_
        rw [hdrop, hdrop', parseOptions_option hend hpad, List.length_drop]
        by_cases hshort : bytes.length < offset + 2 + len.toNat
        · rw [if_pos hshort, if_pos (by omega)]
          exact calm_throw _
        have hvalue : bytes.extract (offset + 2) (offset + 2 + len.toNat) =
            (bytes.drop (offset + 1 + 1)).take len.toNat := by
          rw [List.extract_eq_take_drop, Nat.add_sub_cancel_left]
        rw [if_neg hshort, if_neg (by omega)]
        refine calm_step (calm_lift (range_eq (by omega) (by omega))) ?_
        rw [hvalue, List.drop_drop]
        refine calm_congr (ih (by omega) (by omega) _) ?_
        cases parseOptions (bytes.drop (offset + 2 + len.toNat)) with
        | error e => rfl
        | ok rest => exact congrArg Except.ok (List.append_assoc options _ rest)
      · have hnil : bytes.drop offset = [] := List.drop_eq_nil_of_le (by omega)
        rw [if_neg hmore, hnil, parseOptions]
        refine calm_congr (calm_pure options) ?_
        exact congrArg Except.ok (List.append_nil options).symm

/-- **The parser does not panic**, and comes to what `parse` comes to. -/
theorem calm_parse (b : Slice) : Calm (parseChecked b.bytes) (parse b.bytes) := by
  obtain ⟨bytes, hfits⟩ := b
  show Calm (parseChecked bytes) (parse bytes)
  rw [parseChecked, parse]
  by_cases hshort : bytes.length < optionsOffset
  · rw [if_pos hshort, dif_neg (by rw [optionsOffset] at hshort; omega)]
    exact calm_throw _
  have hlong : 240 ≤ bytes.length := not_lt.mp hshort
  have hcookie : bytes.extract (optionsOffset - 4) optionsOffset =
      (Octets.slice bytes 236 4 hlong).toList := by
    rw [List.extract_eq_take_drop]
    rfl
  have hturns : bytes.length < optionsOffset + (bytes.length + 1) := by omega
  rw [if_neg hshort, dif_pos hlong]
  refine calm_step (calm_lift (range_eq (Nat.sub_le _ _) hlong)) ?_
  rw [hcookie]
  refine calm_ite (fun _ => calm_throw _) fun _ => ?_
  have hoptions := calm_parseOptions hfits hturns hlong []
  rw [show ([] ++ · : List DhcpOption → List DhcpOption) = id from rfl, id_map] at hoptions
  refine calm_bind hoptions ?_
  intro options _
  iterate 9 refine calm_step (calm_lift (copied_eq (by omega))) ?_
  refine calm_step (calm_lift (index_eq (by omega))) ?_
  cases bytes with
  | nil => cases hlong
  | cons b bytes => exact calm_pure _

/-- `as_ipv4`. -/
def asIpv4Checked (bytes : List UInt8) : Option Ipv4Addr := do
  return .new (← index bytes 0) (← index bytes 1) (← index bytes 2) (← index bytes 3)

/-- `chunks_exact(4)`. -/
def chunksExact4 : List UInt8 → List (List UInt8)
  | a :: b :: c :: d :: bytes => [a, b, c, d] :: chunksExact4 bytes
  | _ => []

/-- `yiaddr()`, `ciaddr()` and `source_address()`. -/
def addressFieldChecked (field : Octets 4) : Option (Option Ipv4Addr) := do
  let address ← asIpv4Checked field.toList
  return if address = .unspecified then none else some address

variable (p : DhcpPacket)

/-- `hardware_address`. -/
def hardwareAddressChecked : Option MacAddress := copied 6 p.chaddr.toList 0 6

/-- `subnet_mask` and `server_identifier`. -/
def addressOptionChecked (code : UInt8) : Option (Option Ipv4Addr) :=
  ((p.getOption code).filter fun bytes => bytes.length = 4).mapM asIpv4Checked

/-- `routers` and `dns_servers`. -/
def addressesChecked (code : UInt8) : Option (List Ipv4Addr) := do
  let addresses ← (p.getOption code).mapM fun bytes => (chunksExact4 bytes).mapM asIpv4Checked
  return addresses.getD []

/-- `string_option`. -/
def stringOptionChecked (code : UInt8) : Option (Option String) :=
  (p.getOption code).mapM fun bytes => do
    let text ← range bytes 0 (bytes.findIdx (· = 0))
    return String.ofList (Text.trim (Text.fromUtf8Lossy text))

/-- `u32_option`. -/
def u32OptionChecked (code : UInt8) : Option (Option UInt32) :=
  ((p.getOption code).filter fun bytes => bytes.length = 4).mapM fun bytes => do
    return UInt32.ofNat (Octets.ofBigEndian (← sized 4 bytes).toList)

/-- `prefix_length_from_netmask`. -/
def prefixLengthChecked (netmask : Ipv4Addr) : Option UInt8 :=
  netmask.octets.toList.foldlM (fun count byte => u8 (count.toNat + (leadingOnes byte).toNat)) 0

/-- The classful mask in `to_lease`. -/
def defaultNetmaskChecked (address : Ipv4Addr) : Option Ipv4Addr := do
  let first ← index address.octets.toList 0
  return if first < 128 then .new 255 0 0 0
  else if first < 192 then .new 255 255 0 0
  else .new 255 255 255 0

/-- `to_lease`. -/
def toLeaseChecked (interfaceIndex : Int32) (interfaceName : String) (mac : MacAddress) :
    Panicking DhcpError DhcpLease := do
  match ← addressFieldChecked p.yiaddr with
  | none => throw (.malformedPacket "DHCPACK carried no address")
  | some address =>
    let hardwareAddress ← p.hardwareAddressChecked
    if hardwareAddress ≠ mac then
      throw (.malformedPacket "DHCPACK addressed to another client")
    else do
      let subnetMask ← p.addressOptionChecked optionSubnetMask
      let netmask ← (subnetMask.elim (defaultNetmaskChecked address) some : Option Ipv4Addr)
      let prefixLength ← prefixLengthChecked netmask
      let routers ← p.addressesChecked optionRouter
      let dnsServers ← p.addressesChecked optionDns
      let domainName ← p.stringOptionChecked optionDomainName
      let serverIdentifier ← p.addressOptionChecked optionServerId
      let leaseSeconds ← p.u32OptionChecked optionLeaseTime
      let t1Seconds ← p.u32OptionChecked optionT1
      let t2Seconds ← p.u32OptionChecked optionT2
      return {
        interfaceIndex, interfaceName, address, prefixLength, netmask
        gateway := routers.head?, dnsServers, searchDomains := domainName.toList
        serverIdentifier, leaseSeconds, t1Seconds, t2Seconds }

/-- An address of the header is read without a panic. -/
theorem addressFieldChecked_eq (field : Octets 4) :
    addressFieldChecked field = some (addressField field) := by
  obtain ⟨bytes, hlength⟩ := field
  obtain ⟨a, b, c, d, rfl⟩ := List.length_eq_four.mp hlength
  rfl

theorem hardwareAddressChecked_eq : p.hardwareAddressChecked = some p.hardwareAddress :=
  copied_eq (by simp)

/-- An address option is read without a panic. -/
theorem asIpv4Checked_eq (value : Option (List UInt8)) :
    (value.filter fun bytes => bytes.length = 4).mapM asIpv4Checked = some (value.bind asIpv4) := by
  cases value with
  | none => rfl
  | some bytes =>
      by_cases hlength : bytes.length = 4
      · obtain ⟨a, b, c, d, rfl⟩ := List.length_eq_four.mp hlength
        rfl
      · have hnone : asIpv4 bytes = none := by
          rw [asIpv4]
          rintro a b c d rfl
          exact hlength rfl
        rw [Option.filter_some, if_neg (by simpa using hlength), Option.bind_some, hnone]
        rfl

/-- A list of addresses is read without a panic. -/
theorem mapM_chunksExact4 (bytes : List UInt8) :
    (chunksExact4 bytes).mapM asIpv4Checked = some (asIpv4s bytes) := by
  induction bytes using chunksExact4.induct with
  | case1 a b c d bytes ih =>
      rw [chunksExact4, List.mapM_cons, ih, asIpv4s]
      rfl
  | case2 bytes hshort =>
      rw [chunksExact4, asIpv4s]
      · rfl
      · exact hshort
      · exact hshort

/-- The addresses of an option are read without a panic. -/
theorem addressesChecked_eq (code : UInt8) :
    p.addressesChecked code = some (((p.getOption code).map asIpv4s).getD []) := by
  rw [addressesChecked]
  cases p.getOption code with
  | none => rfl
  | some bytes =>
      have hbytes := mapM_chunksExact4 bytes
      rw [Option.mapM_some, hbytes]
      rfl

/-- The text of an option is read without a panic. -/
theorem stringOptionChecked_eq (code : UInt8) :
    p.stringOptionChecked code = some (p.stringOption code) := by
  rw [stringOptionChecked, stringOption]
  cases p.getOption code with
  | none => rfl
  | some bytes =>
      rw [Option.mapM_some, range_findIdx]
      rfl

/-- The number of an option is read without a panic. -/
theorem u32OptionChecked_eq (code : UInt8) :
    p.u32OptionChecked code = some (p.u32Option code) := by
  rw [u32OptionChecked, u32Option]
  cases p.getOption code with
  | none => rfl
  | some bytes =>
      by_cases hlength : bytes.length = 4
      · rw [Option.filter_some, if_pos (by simpa using hlength), Option.mapM_some,
          sized_eq hlength]
        rfl
      · rw [Option.filter_some, if_neg (by simpa using hlength)]
        rfl

/-- The sum over a few octets stays an octet. -/
theorem foldlM_leadingOnes {octets : List UInt8} {count : UInt8}
    (h : count.toNat + 8 * octets.length < 256) :
    octets.foldlM (fun count byte => u8 (count.toNat + (leadingOnes byte).toNat)) count =
      some (octets.foldl (fun count byte => count + leadingOnes byte) count) := by
  induction octets generalizing count with
  | nil => rfl
  | cons byte octets ih =>
      have hle := leadingOnes_le byte
      rw [List.length_cons] at h
      have hsum : (count + leadingOnes byte).toNat = count.toNat + (leadingOnes byte).toNat := by
        rw [UInt8.toNat_add, Nat.mod_eq_of_lt (by omega)]
      rw [List.foldlM_cons, u8, if_pos (by omega), ← hsum, UInt8.ofNat_toNat, List.foldl_cons]
      exact ih (by omega)

/-- A prefix is computed without a panic. -/
theorem prefixLengthChecked_eq (netmask : Ipv4Addr) :
    prefixLengthChecked netmask = some (prefixLengthFromNetmask netmask) :=
  foldlM_leadingOnes (by simp)

/-- A default netmask is computed without a panic. -/
theorem defaultNetmaskChecked_eq (address : Ipv4Addr) :
    defaultNetmaskChecked address = some (defaultNetmask address) := by
  rw [defaultNetmaskChecked, defaultNetmask]
  obtain ⟨octets, hlength⟩ := address.octets
  obtain ⟨a, b, c, d, rfl⟩ := List.length_eq_four.mp hlength
  rfl

/-- A lease is made without a panic. -/
theorem calm_toLease (interfaceIndex : Int32) (interfaceName : String) (mac : MacAddress) :
    Calm (p.toLeaseChecked interfaceIndex interfaceName mac)
      (p.toLease interfaceIndex interfaceName mac) := by
  rw [toLeaseChecked, toLease]
  refine calm_step (calm_lift (addressFieldChecked_eq p.yiaddr)) ?_
  show Calm (match p.yourAddress with | none => _ | some address => _) _
  cases p.yourAddress with
  | none => exact calm_throw _
  | some address =>
      refine calm_step (calm_lift p.hardwareAddressChecked_eq) ?_
      refine calm_ite (fun _ => calm_throw _) fun _ => ?_
      have hmask : p.addressOptionChecked optionSubnetMask = some p.subnetMask :=
        asIpv4Checked_eq _
      have hserver : p.addressOptionChecked optionServerId = some p.serverIdentifier :=
        asIpv4Checked_eq _
      refine calm_step (calm_lift hmask) ?_
      have hnetmask : p.subnetMask.elim (defaultNetmaskChecked address) some =
          some (p.subnetMask.getD (defaultNetmask address)) := by
        cases p.subnetMask with
        | none => exact defaultNetmaskChecked_eq address
        | some netmask => rfl
      refine calm_step (calm_lift hnetmask) ?_
      refine calm_step (calm_lift (prefixLengthChecked_eq _)) ?_
      refine calm_step (calm_lift (p.addressesChecked_eq _)) ?_
      refine calm_step (calm_lift (p.addressesChecked_eq _)) ?_
      refine calm_step (calm_lift (p.stringOptionChecked_eq _)) ?_
      refine calm_step (calm_lift hserver) ?_
      refine calm_step (calm_lift (p.u32OptionChecked_eq _)) ?_
      refine calm_step (calm_lift (p.u32OptionChecked_eq _)) ?_
      refine calm_step (calm_lift (p.u32OptionChecked_eq _)) ?_
      exact calm_pure _

/-- What a packet says, read without a panic. -/
structure Readable : Prop where
  addressField : ∀ field, addressFieldChecked field = some (addressField field)
  hardwareAddress : p.hardwareAddressChecked = some p.hardwareAddress
  subnetMask : p.addressOptionChecked optionSubnetMask = some p.subnetMask
  serverIdentifier : p.addressOptionChecked optionServerId = some p.serverIdentifier
  routers : p.addressesChecked optionRouter = some p.routers
  dnsServers : p.addressesChecked optionDns = some p.dnsServers
  stringOption : ∀ code, p.stringOptionChecked code = some (p.stringOption code)
  u32Option : ∀ code, p.u32OptionChecked code = some (p.u32Option code)
  prefixLength : ∀ netmask, prefixLengthChecked netmask = some (prefixLengthFromNetmask netmask)
  toLease : ∀ interfaceIndex interfaceName mac,
    Calm (p.toLeaseChecked interfaceIndex interfaceName mac)
      (p.toLease interfaceIndex interfaceName mac)

/-- Every packet can be read without a panic. -/
theorem readable : p.Readable where
  addressField := addressFieldChecked_eq
  hardwareAddress := p.hardwareAddressChecked_eq
  subnetMask := asIpv4Checked_eq _
  serverIdentifier := asIpv4Checked_eq _
  routers := p.addressesChecked_eq _
  dnsServers := p.addressesChecked_eq _
  stringOption := p.stringOptionChecked_eq
  u32Option := p.u32OptionChecked_eq
  prefixLength := prefixLengthChecked_eq
  toLease := p.calm_toLease

/-- **The parser accepts its grammar**, and neither it nor what reads its packets panics. -/
theorem parse_grammar (b : Slice) :
    Calm (parseChecked b.bytes) (parse b.bytes) ∧
    ((∃ p, parse b.bytes = .ok p) ↔ ∃ (h : 240 ≤ b.bytes.length) (options : List DhcpOption),
      (Octets.slice b.bytes 236 4 h).toList = magicCookie ∧
      OptionArea (b.bytes.drop 240) options) ∧
    ∀ p, parse b.bytes = .ok p →
      (∀ options, OptionArea (b.bytes.drop 240) options ↔ options = p.options) ∧ p.Readable := by
  refine ⟨calm_parse b, ⟨?_, ?_⟩, ?_⟩
  · rintro ⟨p, hparse⟩
    obtain ⟨h, options, hcookie, harea, -⟩ := parse_eq_ok.mp hparse
    exact ⟨h, options, hcookie, harea⟩
  · rintro ⟨h, options, hcookie, harea⟩
    exact ⟨_, parse_eq_ok.mpr ⟨h, options, hcookie, harea, rfl⟩⟩
  · intro p hparse
    obtain ⟨h, options, -, harea, rfl⟩ := parse_eq_ok.mp hparse
    refine ⟨fun others => ⟨fun hothers => ?_, ?_⟩, readable _⟩
    · exact Except.ok.inj (hothers.parse.symm.trans harea.parse)
    · rintro rfl
      exact harea

/-- An acknowledgement with pads, a router and octets behind the end marker. -/
theorem parse_grammar_padded :
    let blank := basePacket opBootreply 7 0 0 0 (zeros 6)
    let p := { blank with options := [(optionMessageType, [5]), (optionRouter, [192, 168, 1, 1])] }
    let bytes := blank.serialize.take 240 ++
      [optionPad, 53, 1, 5, optionPad, optionPad, 3, 4, 192, 168, 1, 1, optionEnd, 9]
    Calm (parseChecked bytes) (parse bytes) ∧ parse bytes = .ok p ∧
      OptionArea (bytes.drop 240) p.options ∧ p.Readable := by
  intro blank p bytes
  have hparse : parse bytes = .ok p := by decide +kernel
  obtain ⟨hcalm, -, hread⟩ := parse_grammar ⟨bytes, by decide +kernel⟩
  obtain ⟨hunique, hreadable⟩ := hread p hparse
  exact ⟨hcalm, hparse, (hunique p.options).mpr rfl, hreadable⟩

end Checked

/-- **What is parsed reads back** when it is written again, and so does every packet that can be
written. -/
theorem codec_round_trip :
    (∀ p, Writable p.options → parse p.serialize = .ok p) ∧
    ∀ bytes p, parse bytes = .ok p → parse p.serialize = .ok p := by
  refine ⟨parse_serialize, fun bytes p hparse => ?_⟩
  obtain ⟨h, options, -, harea, rfl⟩ := parse_eq_ok.mp hparse
  exact parse_serialize _ harea.writable

/-- A packet with a pad and an option. -/
theorem codec_round_trip_padded :
    let blank := basePacket opBootreply 7 0 0 0 (zeros 6)
    let p := { blank with options := [(optionMessageType, [5])] }
    let bytes := p.serialize.take 240 ++ [0, 53, 1, 5, 0, 255, 9]
    parse blank.serialize = .ok blank ∧ parse bytes = .ok p ∧ parse p.serialize = .ok p := by
  intro blank p bytes
  have hparse : parse bytes = .ok p := by decide +kernel
  exact ⟨codec_round_trip.1 blank nofun, hparse, codec_round_trip.2 bytes p hparse⟩

end DhcpPacket

end NetworkManager
