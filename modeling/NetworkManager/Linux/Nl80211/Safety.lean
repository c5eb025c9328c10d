import NetworkManager.Linux.Netlink.Safety
import NetworkManager.Linux.Nl80211

/-!
# Linux — Nl80211 — Safety

The nl80211 and information-element parsers on any octets.

* `…Checked`: the parsers of `Nl80211` with every index, slice, copy, sum and product checked.
* `AttrsCalm`, `ElementsCalm`: none of them panics, and each comes to what the parser comes to.
-/

namespace NetworkManager.Nl80211

open Records Octets Layout Header Netlink Panics

/-! ### Readers -/

/-- `copy_from_slice` into an array of `n` octets, behind a check of the length. -/
def readFixedChecked (n : ℕ) (message : String) (attrs : List RawAttr) (typ : UInt16) :
    Panicking NetlinkError (Option (List.Vector UInt8 n)) :=
  match findAttr attrs typ with
  | none => return none
  | some attr =>
      if attr.payload.length ≠ n then throw (.malformedMessage message)
      else do return some (← sized n attr.payload)

/-- `read_u8`, which takes the octet by its index. -/
def readU8Checked (attrs : List RawAttr) (typ : UInt16) : Panicking NetlinkError (Option UInt8) :=
  match findAttr attrs typ with
  | none => return none
  | some attr =>
      if attr.payload.length ≠ 1 then throw (.malformedMessage "invalid u8 attribute length")
      else do return some (← index attr.payload 0)

/-- `read_mac`. -/
def readMacChecked (attrs : List RawAttr) (typ : UInt16) :
    Panicking NetlinkError (Option MacAddress) :=
  readFixedChecked 6 "invalid mac attribute length" attrs typ

/-- `read_string`. -/
def readStringChecked (attrs : List RawAttr) (typ : UInt16) : Option (Option String) :=
  (findAttr attrs typ).mapM fun attr => textFromBytesChecked attr.payload

/-- An attribute of a fixed length is read without a panic. -/
theorem calm_readFixed (n : ℕ) (message : String) (attrs : List RawAttr) (typ : UInt16) :
    Calm (readFixedChecked n message attrs typ) (readFixed n message attrs typ) := by
  rw [readFixedChecked, readFixed]
  cases findAttr attrs typ with
  | none => exact calm_pure _
  | some attr =>
      by_cases hlength : attr.payload.length = n
      · simp only [ne_eq, hlength, not_true_eq_false, if_false, dif_pos]
        exact calm_step (calm_lift (sized_eq hlength)) (calm_pure _)
      · simp only [ne_eq, hlength, not_false_eq_true, if_true, dif_neg]
        exact calm_throw _

theorem calm_readU8 (attrs : List RawAttr) (typ : UInt16) :
    Calm (readU8Checked attrs typ) (readU8 attrs typ) := by
  rw [readU8Checked, readU8, readFixed]
  cases findAttr attrs typ with
  | none => exact calm_pure _
  | some attr =>
      by_cases hlength : attr.payload.length = 1
      · obtain ⟨typ', nested, payload⟩ := attr
        obtain ⟨b, rfl⟩ := List.length_eq_one_iff.mp hlength
        rfl
      · simp only [ne_eq, hlength, not_false_eq_true, if_true, dif_neg]
        exact calm_throw _

/-- The payload of an attribute that was found is a slice. -/
theorem fits_of_findAttr {attrs : List RawAttr}
    (hattrs : ∀ attr ∈ attrs, attr.payload.length < 2 ^ 63) {typ : UInt16} {attr : RawAttr}
    (h : findAttr attrs typ = some attr) : attr.payload.length < 2 ^ 63 :=
  hattrs attr (List.mem_of_find?_eq_some h)

/-- A string attribute is read without a panic. -/
theorem readStringChecked_eq (attrs : List RawAttr) (typ : UInt16) :
    readStringChecked attrs typ = some (readString attrs typ) := by
  rw [readStringChecked, readString]
  cases findAttr attrs typ with
  | none => rfl
  | some attr =>
      rw [Option.mapM_some, textFromBytesChecked_eq]
      rfl

/-! ### Attributes and messages -/

/-- A list of attributes in memory: each has a payload that a slice can be taken of. -/
structure Attrs where
  attrs : List RawAttr
  fits : ∀ attr ∈ attrs, attr.payload.length < 2 ^ 63

/-- An attribute as it is kept. -/
def rawAttrOf (header : NlAttr) (payload : List UInt8) : RawAttr where
  typ := header.nlaType &&& nlaTypeMask
  nested := header.nlaType &&& nlaFNested ≠ 0
  payload := payload

/-- The walk over the attributes keeps each of them. -/
def attrStep (attrs : List RawAttr) (header : NlAttr) (payload : List UInt8) :
    Except NetlinkError (List RawAttr ⊕ Empty) :=
  .ok (.inl (attrs ++ [rawAttrOf header payload]))

/-- The attributes are the records of the payload, in order. -/
theorem visit_attrStep (places : List (Place NlAttr)) (attrs : List RawAttr) :
    visit attrStep places attrs =
      .ok (.inl (attrs ++ places.map fun p => rawAttrOf p.header p.body)) := by
  induction places generalizing attrs with
  | nil => rw [visit, List.map_nil, List.append_nil]
  | cons p places ih =>
      rw [visit, attrStep, proceed_inl, ih, List.append_assoc, List.map_cons, List.singleton_append]

section Wire
variable [Native]

/-- `parse_attrs`. -/
def parseAttrsChecked (payload : List UInt8) : Panicking NetlinkError (List RawAttr) :=
  (fun r => (unended r).1) <$>
    walkChecked (.malformedMessage "invalid nlattr length")
      (fun attrs header payload => quiet (attrStep attrs header payload)) payload
      (payload.length + 5) 0 []

/-- A message of `parse_genl_messages`. -/
def genlMessageChecked (header : NlMsgHdr) (payload : List UInt8) :
    Panicking NetlinkError RawMsg :=
  if header.nlmsgType = nlmsgDone ∨ header.nlmsgType = nlmsgError then
    return { nlmsgType := header.nlmsgType, nlmsgFlags := header.nlmsgFlags, cmd := none
             attrs := [], payload }
  else if payload.length < 4 then throw (.malformedMessage "short genl header")
  else do
    let genl ← (readChecked payload : Option GenlHdr)
    let rest ← range payload 4 payload.length
    let attrs ← parseAttrsChecked rest
    return { nlmsgType := header.nlmsgType, nlmsgFlags := header.nlmsgFlags, cmd := some genl.cmd
             attrs, payload }

/-- `parse_genl_messages`. -/
def parseGenlMessagesChecked (buf : List UInt8) : Panicking NetlinkError (List RawMsg) := do
  let (messages, offset) ← unended <$>
    walkChecked (α := NlMsgHdr) (.malformedMessage "invalid nlmsghdr length")
      (fun messages header payload => do
        return .inl (messages ++ [← genlMessageChecked header payload]))
      buf (buf.length + 5) 0 []
  if offset ≠ buf.length then throw (.malformedMessage "trailing partial nlmsghdr")
  else return messages

/-- The attributes of a payload are a walk from its start. -/
theorem parseAttrs_eq (payload : List UInt8) : parseAttrs payload =
    match walk (.malformedMessage "invalid nlattr length") attrStep payload 0 [] with
    | .error e => .error e
    | .ok (.inl (attrs, _)) => .ok attrs := rfl

/-- The attributes are read without a panic. -/
theorem calm_parseAttrs {payload : List UInt8} (hpayload : payload.length < 2 ^ 63) :
    Calm (parseAttrsChecked payload) (parseAttrs payload) := by
  have hspan (attr : NlAttr) : span attr < 2 ^ 32 := attr.nlaLen.toNat_lt.trans (by decide)
  have hwalk := calm_walk (.malformedMessage "invalid nlattr length") hpayload
    (fun attrs header payload _ => calm_quiet (attrStep attrs header payload)) hspan
    (show 4 < 2 ^ 32 by decide) (show 4 < 2 ^ 32 by decide) []
    (show payload.length + 4 < 0 + (payload.length + 5) by omega) (Nat.zero_le _)
  rw [parseAttrs_eq]
  refine calm_congr (calm_map (fun r : (List RawAttr × ℕ) ⊕ Empty => (unended r).1) hwalk) ?_
  cases walk (.malformedMessage "invalid nlattr length") attrStep payload 0 [] with
  | error e => rfl
  | ok r =>
      rcases r with r | r
      · rfl
      · exact r.elim

/-- An attribute is no longer than the payload it is read from. -/
theorem length_of_parseAttrs {payload : List UInt8} {attrs : List RawAttr}
    (h : parseAttrs payload = .ok attrs) : ∀ attr ∈ attrs, attr.payload.length ≤ payload.length := by
  rw [parseAttrs_eq] at h
  rcases hwalk : walk (.malformedMessage "invalid nlattr length") attrStep payload 0 [] with
    e | ⟨attrs', stop⟩ | r
  · rw [hwalk] at h
    cases h
  · rw [hwalk] at h
    obtain rfl : attrs' = attrs := Except.ok.inj h
    obtain ⟨places, hchain, -, hvisit⟩ := (walk_eq_stop _ _).mp hwalk
    rw [visit_attrStep] at hvisit
    obtain rfl := Sum.inl.inj (Except.ok.inj hvisit)
    intro attr hattr
    rw [List.nil_append] at hattr
    obtain ⟨p, hp, rfl⟩ := List.mem_map.mp hattr
    exact (hchain.lies p hp).length_body
  · exact r.elim

/-- A generic message is read without a panic. -/
theorem calm_genlMessage (header : NlMsgHdr) {payload : List UInt8}
    (hpayload : payload.length < 2 ^ 63) :
    Calm (genlMessageChecked header payload) (genlMessage header payload) := by
  refine calm_ite (fun _ => calm_pure _) fun _ => calm_ite (fun _ => calm_throw _) fun hlong => ?_
  have hrest : payload.extract 4 payload.length = payload.drop 4 := by
    rw [List.extract_eq_take_drop, List.take_of_length_le (by simp)]
  refine calm_step (calm_lift (readChecked_eq hlong)) ?_
  refine calm_step (calm_lift (range_eq (not_lt.mp hlong) (Nat.le_refl _))) ?_
  rw [hrest]
  have hlength : (payload.drop 4).length < 2 ^ 63 := by
    rw [List.length_drop]
    omega
  exact calm_bind (calm_parseAttrs hlength) fun _ _ => calm_pure _

/-- The messages of a datagram are read without a panic. -/
theorem calm_parseGenlMessages (b : Slice) :
    Calm (parseGenlMessagesChecked b.bytes) (parseGenlMessages b.bytes) := by
  have hspan (header : NlMsgHdr) : span header < 2 ^ 32 := header.nlmsgLen.toNat_lt
  have hstep (messages : List RawMsg) (header : NlMsgHdr) (payload : List UInt8)
      (hpayload : payload.length ≤ b.bytes.length) :
      Calm (do return .inl (messages ++ [← genlMessageChecked header payload]))
        (do return (.inl (messages ++ [← genlMessage header payload]) : List RawMsg ⊕ Empty)) :=
    calm_bind (calm_genlMessage header (Nat.lt_of_le_of_lt hpayload b.fits)) fun _ _ => calm_pure _
  have hwalk := calm_map unended (calm_walk (.malformedMessage "invalid nlmsghdr length") b.fits
    hstep hspan (show 16 < 2 ^ 32 by decide) (show 4 < 2 ^ 32 by decide) []
    (show b.bytes.length + 4 < 0 + (b.bytes.length + 5) by omega) (Nat.zero_le _))
  refine calm_congr (calm_bind hwalk (fun r _ => ?_) (g := fun r =>
    if r.2 ≠ b.bytes.length then .error (.malformedMessage "trailing partial nlmsghdr")
    else .ok r.1)) ?_
  · exact calm_ite (fun _ => calm_throw _) fun _ => calm_pure _
  · rw [parseGenlMessages]
    cases walk (α := NlMsgHdr) (.malformedMessage "invalid nlmsghdr length")
      (fun messages header payload => do
        return .inl (messages ++ [← genlMessage header payload])) b.bytes 0 [] with
    | error e => rfl
    | ok r =>
        rcases r with r | r
        · rfl
        · exact r.elim

/-! ### Numbers and nested attributes -/

/-- `read_u16`. -/
def readU16Checked (attrs : List RawAttr) (typ : UInt16) :
    Panicking NetlinkError (Option UInt16) :=
  Option.map (u16 ·.toList 0) <$> readFixedChecked 2 "invalid u16 attribute length" attrs typ

/-- `read_u32`. -/
def readU32Checked (attrs : List RawAttr) (typ : UInt16) :
    Panicking NetlinkError (Option UInt32) :=
  Option.map (u32 ·.toList 0) <$> readFixedChecked 4 "invalid u32 attribute length" attrs typ

/-- `read_i32`. -/
def readI32Checked (attrs : List RawAttr) (typ : UInt16) : Panicking NetlinkError (Option Int32) :=
  Option.map (fun bytes => (u32 bytes.toList 0).toInt32) <$>
    readFixedChecked 4 "invalid i32 attribute length" attrs typ

/-- `nested_attrs`. -/
def nestedAttrsChecked (attrs : List RawAttr) (typ : UInt16) :
    Panicking NetlinkError (List RawAttr) :=
  match findAttr attrs typ with
  | some attr => parseAttrsChecked attr.payload
  | none => return []

theorem calm_readU16 (attrs : List RawAttr) (typ : UInt16) :
    Calm (readU16Checked attrs typ) (readU16 attrs typ) :=
  calm_map _ (calm_readFixed _ _ attrs typ)

theorem calm_readU32 (attrs : List RawAttr) (typ : UInt16) :
    Calm (readU32Checked attrs typ) (readU32 attrs typ) :=
  calm_map _ (calm_readFixed _ _ attrs typ)

theorem calm_readI32 (attrs : List RawAttr) (typ : UInt16) :
    Calm (readI32Checked attrs typ) (readI32 attrs typ) :=
  calm_map _ (calm_readFixed _ _ attrs typ)

/-- The payloads of the attributes of a slice are slices. -/
theorem fits_of_parseAttrs {payload : List UInt8} (hpayload : payload.length < 2 ^ 63)
    {attrs : List RawAttr} (h : parseAttrs payload = .ok attrs) :
    ∀ attr ∈ attrs, attr.payload.length < 2 ^ 63 :=
  fun attr hattr => Nat.lt_of_le_of_lt (length_of_parseAttrs h attr hattr) hpayload

/-- Nested attributes are read without a panic. -/
theorem calm_nestedAttrs {attrs : List RawAttr}
    (hattrs : ∀ attr ∈ attrs, attr.payload.length < 2 ^ 63) (typ : UInt16) :
    Calm (nestedAttrsChecked attrs typ) (nestedAttrs attrs typ) := by
  rw [nestedAttrsChecked, nestedAttrs]
  cases hattr : findAttr attrs typ with
  | none => exact calm_pure _
  | some attr => exact calm_parseAttrs (fits_of_findAttr hattrs hattr)

/-- So are the payloads of nested attributes. -/
theorem fits_of_nestedAttrs {attrs nested : List RawAttr}
    (hattrs : ∀ attr ∈ attrs, attr.payload.length < 2 ^ 63) {typ : UInt16}
    (h : nestedAttrs attrs typ = .ok nested) : ∀ attr ∈ nested, attr.payload.length < 2 ^ 63 := by
  rw [nestedAttrs] at h
  cases hattr : findAttr attrs typ with
  | none =>
      rw [hattr] at h
      cases h
      exact nofun
  | some attr =>
      rw [hattr] at h
      exact fits_of_parseAttrs (fits_of_findAttr hattrs hattr) h

/-! ### Interfaces and radios -/

/-- `interface_from_attrs`. -/
def interfaceFromAttrsChecked (attrs : List RawAttr) :
    Panicking NetlinkError (Option WirelessInterface) := do
  match ← readU32Checked attrs attrIfindex with
  | none => return none
  | some index =>
    let name := (← readStringChecked attrs attrIfname).getD ""
    let wiphyIndex ← readU32Checked attrs attrWiphy
    let interfaceType := match ← readU8Checked attrs attrIftype with
      | some value => .fromU8 value
      | none => .unspecified
    let mac ← readMacChecked attrs attrMac
    return some
      { index := index.toInt32, name, wiphyIndex, wiphyName := none, interfaceType, mac
        up := false, capabilities := {} }

/-- `chunks_exact(4)`, each chunk copied into an array. -/
def cipherChunks : List UInt8 → Option (List UInt32)
  | a :: b :: c :: d :: bytes => do
      let chunk ← sized 4 [a, b, c, d]
      return u32 chunk.toList 0 :: (← cipherChunks bytes)
  | _ => some []

/-- `parse_cipher_suites`. -/
def parseCipherSuitesChecked (payload : List UInt8) : Panicking NetlinkError (List WifiCipher) :=
  if payload.length % 4 ≠ 0 then throw (.malformedMessage "invalid cipher suite length")
  else do
    let values ← cipherChunks payload
    return values.map .fromU32

/-- A frequency entry of `band_from_attrs`. -/
def addFrequencyChecked (band : WifiBand) (entry : RawAttr) : Panicking NetlinkError WifiBand := do
  let inner ← parseAttrsChecked entry.payload
  if inner.any fun attr => attr.typ == frequencyAttrDisabled then return band
  else do
    match ← readU32Checked inner frequencyAttrFreq with
    | none => return band
    | some frequency =>
      return { band with
        channels := band.channels ++ [entry.typ]
        frequencies := band.frequencies ++ [frequency] }

/-- `band_from_attrs`. -/
def bandFromAttrsChecked (bandId : UInt8) (payload : List UInt8) :
    Panicking NetlinkError (Option WifiBand) := do
  let attrs ← parseAttrsChecked payload
  let band : WifiBand :=
    { id := .fromU8 bandId, channels := [], frequencies := [], htCapabilities := none
      vhtCapabilities := none }
  let band ← (← nestedAttrsChecked attrs bandAttrFreqs).foldlM addFrequencyChecked band
  let htCapabilities ← readU16Checked attrs bandAttrHtCapa
  let vhtCapabilities ← readU32Checked attrs bandAttrVhtCapa
  return some { band with htCapabilities, vhtCapabilities }

/-- `wiphy_from_attrs`. -/
def wiphyFromAttrsChecked (attrs : List RawAttr) : Panicking NetlinkError (Option WiphyInfo) := do
  match ← readU32Checked attrs attrWiphy with
  | none => return none
  | some index =>
    let name := (← readStringChecked attrs attrWiphyName).getD ""
    let supported ← nestedAttrsChecked attrs attrSupportedIftypes
    let cipherSuites ← match findAttr attrs attrCipherSuites with
      | some ciphers => parseCipherSuitesChecked ciphers.payload
      | none => pure []
    let maxScanSsids ← readU8Checked attrs attrMaxNumScanSsids
    let bands ← (← nestedAttrsChecked attrs attrWiphyBands).mapM fun band =>
      bandFromAttrsChecked band.typ.toUInt8 band.payload
    return some
      { index, name
        capabilities :=
          { supportedInterfaces := supported.map fun attr => .fromU8 attr.typ.toUInt8
            cipherSuites, bands := bands.reduceOption
            maxScanSsids := maxScanSsids.map (·.toUInt32)
            scanSupported := maxScanSsids.isSome } }

/-- An interface is read without a panic. -/
theorem calm_interfaceFromAttrs (attrs : List RawAttr) :
    Calm (interfaceFromAttrsChecked attrs) (interfaceFromAttrs attrs) := by
  refine calm_bind (calm_readU32 attrs attrIfindex) fun index _ => ?_
  cases index with
  | none => exact calm_pure _
  | some index =>
      refine calm_step (calm_lift (readStringChecked_eq attrs attrIfname)) ?_
      refine calm_bind (calm_readU32 attrs attrWiphy) fun wiphyIndex _ => ?_
      refine calm_bind (calm_readU8 attrs attrIftype) fun interfaceType _ => ?_
      exact calm_bind (calm_readFixed _ _ attrs attrMac) fun mac _ => calm_pure _

/-- The chunks of four octets are cut without a panic. -/
theorem cipherChunks_eq (payload : List UInt8) :
    cipherChunks payload = some (chunksExact payload) := by
  induction payload using cipherChunks.induct with
  | case1 a b c d bytes ih =>
      rw [cipherChunks, ih, chunksExact]
      rfl
  | case2 bytes hshort =>
      rw [cipherChunks, chunksExact]
      · exact hshort
      · exact hshort

/-- The cipher suites are read without a panic. -/
theorem calm_parseCipherSuites (payload : List UInt8) :
    Calm (parseCipherSuitesChecked payload) (parseCipherSuites payload) := by
  refine calm_ite (fun _ => calm_throw _) fun _ => ?_
  exact calm_step (calm_lift (cipherChunks_eq payload)) (calm_pure _)

/-- A frequency is read without a panic. -/
theorem calm_addFrequency (band : WifiBand) {entry : RawAttr}
    (hentry : entry.payload.length < 2 ^ 63) :
    Calm (addFrequencyChecked band entry) (addFrequency band entry) := by
  refine calm_bind (calm_parseAttrs hentry) fun inner _ => ?_
  by_cases hdisabled : inner.any fun attr => attr.typ == frequencyAttrDisabled
  · simp only [hdisabled, if_true]
    exact calm_pure _
  · simp only [hdisabled, Bool.false_eq_true, if_false]
    refine calm_bind (calm_readU32 inner frequencyAttrFreq) fun frequency _ => ?_
    cases frequency with
    | none => exact calm_pure _
    | some frequency => exact calm_pure _

/-- A band is read without a panic. -/
theorem calm_bandFromAttrs (bandId : UInt8) {payload : List UInt8}
    (hpayload : payload.length < 2 ^ 63) :
    Calm (bandFromAttrsChecked bandId payload) (bandFromAttrs bandId payload) := by
  refine calm_bind (calm_parseAttrs hpayload) fun attrs hattrs => ?_
  have hfits := fits_of_parseAttrs hpayload hattrs
  refine calm_bind (calm_nestedAttrs hfits bandAttrFreqs) fun entries hentries => ?_
  have hentry := fits_of_nestedAttrs hfits hentries
  refine calm_bind (calm_foldlM (fun band entry h => calm_addFrequency band (hentry entry h)) _)
    fun band _ => ?_
  refine calm_bind (calm_readU16 attrs bandAttrHtCapa) fun _ _ => ?_
  exact calm_bind (calm_readU32 attrs bandAttrVhtCapa) fun _ _ => calm_pure _

/-- A wireless device is read without a panic. -/
theorem calm_wiphyFromAttrs (a : Attrs) :
    Calm (wiphyFromAttrsChecked a.attrs) (wiphyFromAttrs a.attrs) := by
  obtain ⟨attrs, hfits⟩ := a
  refine calm_bind (calm_readU32 attrs attrWiphy) fun index _ => ?_
  cases index with
  | none => exact calm_pure _
  | some index =>
      refine calm_step (calm_lift (readStringChecked_eq attrs attrWiphyName)) ?_
      refine calm_bind (calm_nestedAttrs hfits attrSupportedIftypes) fun supported _ => ?_
      -- The rest is the same, whether there are cipher suites or not.
      cases findAttr attrs attrCipherSuites
      case' none => refine calm_bind (calm_pure []) fun cipherSuites _ => ?_
      case' some ciphers => refine calm_bind (calm_parseCipherSuites _) fun cipherSuites _ => ?_
      all_goals
        refine calm_bind (calm_readU8 attrs attrMaxNumScanSsids) fun maxScanSsids _ => ?_
        refine calm_bind (calm_nestedAttrs hfits attrWiphyBands) fun bands hbands => ?_
        have hband := fits_of_nestedAttrs hfits hbands
        exact calm_bind (calm_mapM fun band h => calm_bandFromAttrs _ (hband band h))
          fun _ _ => calm_pure _

end Wire

/-! ### Information elements -/

/-- `read_le_u16`. -/
def readLeU16Checked (bytes : List UInt8) : Option UInt16 := do
  return readLeU16 [← index bytes 0, ← index bytes 1]

/-- `read_ie_u16`. -/
def readIeU16Checked (data : List UInt8) (offset : ℕ) : Panicking NetlinkError (UInt16 × ℕ) := do
  let stop ← usize (offset + 2)
  if data.length < stop then throw (.malformedMessage "malformed information element")
  else do
    let bytes ← range data offset stop
    let value ← readLeU16Checked bytes
    return (value, stop)

/-- `skip_ie_bytes`. -/
def skipIeBytesChecked (data : List UInt8) (offset count : ℕ) : Panicking NetlinkError ℕ := do
  let stop ← usize (offset + count)
  if data.length < stop then throw (.malformedMessage "malformed information element")
  else return stop

/-- `skip_ie_counted`. -/
def skipIeCountedChecked (data : List UInt8) (offset elementSize : ℕ) :
    Panicking NetlinkError ℕ := do
  let (count, offset) ← readIeU16Checked data offset
  let n ← usize (count.toNat * elementSize)
  skipIeBytesChecked data offset n

/-- The loop over `count` selectors. -/
def readSelectorsChecked (message : String) (data : List UInt8) :
    (count offset : ℕ) → Panicking NetlinkError (List UInt32 × ℕ)
  | 0, offset => return ([], offset)
  | count + 1, offset => do
      let stop ← usize (offset + 4)
      if data.length < stop then throw (.malformedMessage message)
      else do
        let bytes ← copied 4 data offset stop
        let (selectors, offset) ← readSelectorsChecked message data count stop
        return (.ofNat (ofLittleEndian bytes.toList) :: selectors, offset)

/-- A count of selectors, and that many of them. -/
def readCountedChecked (message : String) (data : List UInt8) (offset : ℕ) :
    Panicking NetlinkError (List UInt32 × ℕ) := do
  let (count, offset) ← readIeU16Checked data offset
  let n ← usize (count.toNat * 4)
  let stop ← usize (offset + n)
  if data.length < stop then throw (.malformedMessage message)
  else readSelectorsChecked message data count.toNat offset

/-- `parse_rsn_ie`. -/
def parseRsnIeChecked (data : List UInt8) :
    Panicking NetlinkError (List WifiAuthSuite × Bool) := do
  let (_, offset) ← readIeU16Checked data 0
  let offset ← skipIeBytesChecked data offset 4
  let offset ← skipIeCountedChecked data offset 4
  let (selectors, offset) ← readCountedChecked "malformed rsn ie" data offset
  let stop ← usize (offset + 2)
  if stop ≤ data.length then do
    let bytes ← range data offset stop
    let capabilities ← readLeU16Checked bytes
    return (selectors.map .fromRsnAkm, capabilities &&& rsnCapabilityMfp != 0)
  else return (selectors.map .fromRsnAkm, false)

/-- `parse_wpa_ie`. -/
def parseWpaIeChecked (data : List UInt8) : Panicking NetlinkError (List WifiAuthSuite) := do
  let offset ← skipIeBytesChecked data 0 2
  let offset ← skipIeBytesChecked data offset 4
  let offset ← skipIeCountedChecked data offset 4
  let (selectors, _) ← readCountedChecked "malformed wpa ie" data offset
  return selectors.map wpaSuite

/-- The guard of the vendor elements in `parse_security`. -/
def isWpaChecked (data : List UInt8) : Option Bool :=
  if 4 ≤ data.length ∧ wpaOui.isPrefixOf data then do
    let ouiType ← index data 3
    return ouiType == wpaOuiType
  else return false

/-- An element of `parse_security`. -/
def securityStepChecked (seen : Seen) (header : ElementHdr) (data : List UInt8) :
    Panicking NetlinkError Seen :=
  if header.id = ieRsn then do
    let (suites, mfp) ← parseRsnIeChecked data
    return { seen with
      authSuites := seen.authSuites ++ suites
      rsnSeen := true
      managementFrameProtection := seen.managementFrameProtection || mfp }
  else if header.id = ieVendor then do
    if ← isWpaChecked data then do
      let rest ← range data 4 data.length
      let suites ← parseWpaIeChecked rest
      return { seen with authSuites := seen.authSuites ++ suites, wpaSeen := true }
    else return seen
  else return seen

/-- A step of `parse_security`. -/
def elementStep (seen : Seen) (header : ElementHdr) (data : List UInt8) :
    Except NetlinkError (Seen ⊕ Empty) :=
  (securityStep seen header data).map .inl

/-- `parse_security`. -/
def parseSecurityChecked (ies : List UInt8) (capability : Option UInt16) :
    Panicking NetlinkError AccessPointSecurity :=
  (fun r => (unended r).1.security capability) <$>
    walkChecked (.malformedMessage "malformed information element")
      (fun seen header data => Sum.inl <$> securityStepChecked seen header data) ies
      (ies.length + 2) 0 Seen.empty

/-- A step of `ssid_from_ies`. -/
def ssidStep (_ : Unit) (header : ElementHdr) (data : List UInt8) :
    Except Unit (Unit ⊕ Option Ssid) :=
  .ok (if header.id = ieSsid then .inr (Ssid.fromBytes data) else .inl ())

/-- `ssid_from_ies`. -/
def ssidFromIesChecked (ies : List UInt8) : Option (Option Ssid) :=
  (walkChecked () (fun s header data => quiet (ssidStep s header data)) ies (ies.length + 2) 0
    ()).run.map fun
      | .ok (.inr ssid) => ssid
      | _ => none

/-- Two octets of an element are read without a panic. -/
theorem calm_readIeU16 {data : List UInt8} (hdata : data.length < 2 ^ 63) {offset : ℕ}
    (hoffset : offset ≤ data.length) :
    Calm (readIeU16Checked data offset) (readIeU16 data offset) := by
  refine calm_step (calm_lift (usize_eq (by omega))) ?_
  refine calm_ite (fun _ => calm_throw _) fun hlong => ?_
  refine calm_step (calm_lift (range_eq (by omega) (by omega))) ?_
  have hlength : (data.extract offset (offset + 2)).length = 2 := by
    rw [List.extract_eq_take_drop, List.length_take, List.length_drop]
    omega
  obtain ⟨a, b, hbytes⟩ := List.length_eq_two.mp hlength
  rw [hbytes]
  exact calm_pure _

/-- A read of two octets stays within the element. -/
theorem offset_of_readIeU16 {data : List UInt8} {offset stop : ℕ} {value : UInt16}
    (h : readIeU16 data offset = .ok (value, stop)) : stop ≤ data.length := by
  rw [readIeU16] at h
  split_ifs at h
  cases h
  omega

/-- Octets of an element are skipped without a panic. -/
theorem calm_skipIeBytes {data : List UInt8} {offset count : ℕ}
    (h : offset + count < 2 ^ 64) :
    Calm (skipIeBytesChecked data offset count) (skipIeBytes data offset count) := by
  refine calm_step (calm_lift (usize_eq h)) ?_
  exact calm_ite (fun _ => calm_throw _) fun _ => calm_pure _

/-- A skip stays within the element. -/
theorem offset_of_skipIeBytes {data : List UInt8} {offset count stop : ℕ}
    (h : skipIeBytes data offset count = .ok stop) : stop ≤ data.length := by
  rw [skipIeBytes] at h
  split_ifs at h
  cases h
  omega

/-- A counted list is skipped without a panic. -/
theorem calm_skipIeCounted {data : List UInt8} (hdata : data.length < 2 ^ 63) {offset : ℕ}
    (hoffset : offset ≤ data.length) :
    Calm (skipIeCountedChecked data offset 4) (skipIeCounted data offset 4) := by
  refine calm_bind (calm_readIeU16 hdata hoffset) ?_
  rintro ⟨count, middle⟩ hcount
  have hmiddle := offset_of_readIeU16 hcount
  have hlt : count.toNat < 65536 := count.toNat_lt
  refine calm_step (calm_lift (usize_eq (by omega))) ?_
  exact calm_skipIeBytes (by omega)

/-- A skipped list stays within the element. -/
theorem offset_of_skipIeCounted {data : List UInt8} {offset elementSize stop : ℕ}
    (h : skipIeCounted data offset elementSize = .ok stop) : stop ≤ data.length := by
  obtain ⟨⟨count, middle⟩, -, h⟩ := Results.bind_eq_ok.mp h
  exact offset_of_skipIeBytes h

/-- Selectors are read without a panic, however many are announced. -/
theorem calm_readSelectors (message : String) {data : List UInt8} (hdata : data.length < 2 ^ 63)
    (count : ℕ) {offset : ℕ} (hoffset : offset ≤ data.length) :
    Calm (readSelectorsChecked message data count offset)
      (readSelectors message data count offset) := by
  induction count generalizing offset with
  | zero => exact calm_pure _
  | succ count ih =>
      refine calm_step (calm_lift (usize_eq (by omega))) ?_
      rw [readSelectors]
      refine calm_ite (fun _ => calm_throw _) fun hlong => ?_
      have hcopied : copied 4 data offset (offset + 4) = some (slice data offset 4 (by omega)) :=
        copied_eq (by omega)
      have hvalue : data.extract offset (offset + 4) =
          (slice data offset 4 (by omega)).toList := by
        rw [List.extract_eq_take_drop, Nat.add_sub_cancel_left]
        rfl
      refine calm_step (calm_lift hcopied) ?_
      rw [hvalue]
      refine calm_bind (ih (by omega)) ?_
      rintro ⟨selectors, stop⟩ -
      exact calm_pure _

/-- Selectors that were read stay within the element. -/
theorem offset_of_readSelectors {message : String} {data : List UInt8} {count offset stop : ℕ}
    {selectors : List UInt32} (hoffset : offset ≤ data.length)
    (h : readSelectors message data count offset = .ok (selectors, stop)) :
    stop ≤ data.length := by
  induction count generalizing offset selectors with
  | zero =>
      cases h
      exact hoffset
  | succ count ih =>
      rw [readSelectors] at h
      split_ifs at h with hshort
      obtain ⟨⟨rest, stop'⟩, hrest, h⟩ := Results.bind_eq_ok.mp h
      cases h
      exact ih (by omega) hrest

/-- A counted list of selectors is read without a panic. -/
theorem calm_readCounted (message : String) {data : List UInt8} (hdata : data.length < 2 ^ 63)
    {offset : ℕ} (hoffset : offset ≤ data.length) :
    Calm (readCountedChecked message data offset) (readCounted message data offset) := by
  refine calm_bind (calm_readIeU16 hdata hoffset) ?_
  rintro ⟨count, middle⟩ hcount
  have hmiddle := offset_of_readIeU16 hcount
  have hlt : count.toNat < 65536 := count.toNat_lt
  refine calm_step (calm_lift (usize_eq (by omega))) ?_
  refine calm_step (calm_lift (usize_eq (by omega))) ?_
  dsimp only
  by_cases hshort : data.length < middle + count.toNat * 4
  · rw [if_pos hshort, if_pos hshort]
    exact calm_throw _
  · rw [if_neg hshort, if_neg hshort]
    exact calm_readSelectors message hdata _ hmiddle

/-- A counted list stays within the element. -/
theorem offset_of_readCounted {message : String} {data : List UInt8} {offset stop : ℕ}
    {selectors : List UInt32} (h : readCounted message data offset = .ok (selectors, stop)) :
    stop ≤ data.length := by
  obtain ⟨⟨count, middle⟩, hcount, h⟩ := Results.bind_eq_ok.mp h
  obtain ⟨-, h⟩ := Results.guard_eq_ok.mp h
  exact offset_of_readSelectors (offset_of_readIeU16 hcount) h

/-- An RSN element is read without a panic. -/
theorem calm_parseRsnIe {data : List UInt8} (hdata : data.length < 2 ^ 63) :
    Calm (parseRsnIeChecked data) (parseRsnIe data) := by
  refine calm_bind (calm_readIeU16 hdata (Nat.zero_le _)) ?_
  rintro ⟨version, offset⟩ hversion
  have hoffset := offset_of_readIeU16 hversion
  refine calm_bind (calm_skipIeBytes (by omega)) fun group hgroup => ?_
  refine calm_bind (calm_skipIeCounted hdata (offset_of_skipIeBytes hgroup))
    fun pairwise hpairwise => ?_
  refine calm_bind (calm_readCounted _ hdata (offset_of_skipIeCounted hpairwise)) ?_
  rintro ⟨selectors, stop⟩ hselectors
  have hstop := offset_of_readCounted hselectors
  refine calm_step (calm_lift (usize_eq (by omega))) ?_
  dsimp only
  by_cases hmfp : stop + 2 ≤ data.length
  · have hlength : (data.extract stop (stop + 2)).length = 2 := by
      rw [List.extract_eq_take_drop, List.length_take, List.length_drop]
      omega
    obtain ⟨a, b, hbytes⟩ := List.length_eq_two.mp hlength
    rw [if_pos hmfp, if_pos hmfp]
    refine calm_step (calm_lift (range_eq (by omega) hmfp)) ?_
    rw [hbytes]
    exact calm_pure _
  · rw [if_neg hmfp, if_neg hmfp]
    exact calm_pure _

/-- A WPA element is read without a panic. -/
theorem calm_parseWpaIe {data : List UInt8} (hdata : data.length < 2 ^ 63) :
    Calm (parseWpaIeChecked data) (parseWpaIe data) := by
  refine calm_bind (calm_skipIeBytes (by omega)) fun version hversion => ?_
  have hoffset := offset_of_skipIeBytes hversion
  refine calm_bind (calm_skipIeBytes (by omega)) fun group hgroup => ?_
  refine calm_bind (calm_skipIeCounted hdata (offset_of_skipIeBytes hgroup))
    fun pairwise hpairwise => ?_
  refine calm_bind (calm_readCounted _ hdata (offset_of_skipIeCounted hpairwise)) ?_
  rintro ⟨selectors, stop⟩ -
  exact calm_pure _

/-- A vendor element is recognised without a panic. -/
theorem isWpaChecked_eq (data : List UInt8) : isWpaChecked data = some (isWpa data) := by
  rw [isWpaChecked, isWpa]
  by_cases hstart : 4 ≤ data.length ∧ wpaOui.isPrefixOf data = true
  · have hindex : index data 3 = some (data.getD 3 0) := by
      have hlt : 3 < data.length := hstart.1
      rw [index_eq hlt, List.getD_eq_getElem _ _ hlt]
    rw [if_pos hstart, hindex, decide_eq_true hstart.1, hstart.2]
    rfl
  · rw [if_neg hstart]
    rcases not_and_or.mp hstart with hshort | hother
    · rw [decide_eq_false hshort]
      rfl
    · rw [Bool.not_eq_true] at hother
      rw [hother, Bool.and_false]
      rfl

/-- An element is taken into account without a panic. -/
theorem calm_securityStep (seen : Seen) (header : ElementHdr) {data : List UInt8}
    (hdata : data.length < 2 ^ 63) :
    Calm (securityStepChecked seen header data) (securityStep seen header data) := by
  rw [securityStepChecked, securityStep]
  by_cases hrsn : header.id = ieRsn
  · rw [if_pos hrsn, if_pos hrsn]
    refine calm_bind (calm_parseRsnIe hdata) ?_
    rintro ⟨suites, mfp⟩ -
    exact calm_pure _
  rw [if_neg hrsn, if_neg hrsn]
  by_cases hvendor : header.id = ieVendor
  · rw [if_pos hvendor]
    refine calm_step (calm_lift (isWpaChecked_eq data)) ?_
    by_cases hwpa : isWpa data = true
    · have hlong : 4 ≤ data.length := by
        rw [isWpa, Bool.and_eq_true, Bool.and_eq_true, decide_eq_true_eq] at hwpa
        exact hwpa.1.1
      have hrest : data.extract 4 data.length = data.drop 4 := by
        rw [List.extract_eq_take_drop, List.take_of_length_le (by simp)]
      rw [if_pos hwpa, if_pos ⟨hvendor, hwpa⟩]
      refine calm_step (calm_lift (range_eq hlong (Nat.le_refl _))) ?_
      rw [hrest]
      have hlength : (data.drop 4).length < 2 ^ 63 := by
        rw [List.length_drop]
        omega
      exact calm_bind (calm_parseWpaIe hlength) fun _ _ => calm_pure _
    · rw [if_neg hwpa, if_neg fun h => hwpa h.2]
      exact calm_pure _
  · rw [if_neg hvendor, if_neg fun h => hvendor h.1]
    exact calm_pure _

/-- An element spans at most a few hundred octets. -/
theorem span_element (header : ElementHdr) : span header < 2 ^ 32 := by
  have hlen := header.len.toNat_lt
  show 2 + header.len.toNat < 2 ^ 32
  omega

/-- The security of an access point is a walk over its elements. -/
theorem parseSecurity_eq (ies : List UInt8) (capability : Option UInt16) :
    parseSecurity ies capability =
      match walk (.malformedMessage "malformed information element") elementStep ies 0
        Seen.empty with
      | .error e => .error e
      | .ok (.inl (seen, _)) => .ok (seen.security capability) := rfl

/-- The security is read without a panic. -/
theorem calm_parseSecurity {ies : List UInt8} (hies : ies.length < 2 ^ 63)
    (capability : Option UInt16) :
    Calm (parseSecurityChecked ies capability) (parseSecurity ies capability) := by
  have hstep (seen : Seen) (header : ElementHdr) (data : List UInt8)
      (hdata : data.length ≤ ies.length) :
      Calm (Sum.inl <$> securityStepChecked seen header data) (elementStep seen header data) :=
    calm_map Sum.inl (calm_securityStep seen header (Nat.lt_of_le_of_lt hdata hies))
  have hwalk := calm_walk (.malformedMessage "malformed information element") hies hstep
    span_element (show 2 < 2 ^ 32 by decide) (show 1 < 2 ^ 32 by decide) Seen.empty
    (show ies.length + 1 < 0 + (ies.length + 2) by omega) (Nat.zero_le _)
  rw [parseSecurity_eq]
  refine calm_congr
    (calm_map (fun r : (Seen × ℕ) ⊕ Empty => (unended r).1.security capability) hwalk) ?_
  cases walk (.malformedMessage "malformed information element") elementStep ies 0 Seen.empty with
  | error e => rfl
  | ok r =>
      rcases r with r | r
      · rfl
      · exact r.elim

/-- The name of a network is a walk over the elements that ends at the first name. -/
theorem ssidFromIes_eq (ies : List UInt8) : ssidFromIes ies =
    match walk () ssidStep ies 0 () with
    | .ok (.inr ssid) => ssid
    | _ => none := rfl

/-- The name is read without a panic. -/
theorem ssidFromIesChecked_eq {ies : List UInt8} (hies : ies.length < 2 ^ 63) :
    ssidFromIesChecked ies = some (ssidFromIes ies) := by
  have hwalk := calm_walk () hies
    (fun s header data _ => calm_quiet (ssidStep s header data)) span_element
    (show 2 < 2 ^ 32 by decide) (show 1 < 2 ^ 32 by decide) ()
    (show ies.length + 1 < 0 + (ies.length + 2) by omega) (Nat.zero_le _)
  rw [ssidFromIesChecked, hwalk, ssidFromIes_eq]
  rfl

/-! ### Access points -/

/-- `frequency_to_channel`. -/
def frequencyToChannelChecked (freqMhz : UInt32) : Option (Option UInt16) :=
  let freq := freqMhz.toNat
  if 2412 ≤ freq ∧ freq ≤ 2472 then do return some (.ofNat ((← minus freq 2407) / 5))
  else if freq = 2484 then some (some 14)
  else if 5000 ≤ freq ∧ freq ≤ 5895 then do return some (.ofNat ((← minus freq 5000) / 5))
  else if 5955 ≤ freq ∧ freq ≤ 7115 then do return some (.ofNat ((← minus freq 5950) / 5))
  else some none

/-- The channel of a frequency is computed without a panic. -/
theorem frequencyToChannelChecked_eq (freqMhz : UInt32) :
    frequencyToChannelChecked freqMhz = some (frequencyToChannel freqMhz) := by
  simp only [frequencyToChannelChecked, frequencyToChannel]
  split_ifs with h₁ h₂ h₃ h₄
  · rw [minus_eq (by omega)]
    rfl
  · rfl
  · rw [minus_eq (by omega)]
    rfl
  · rw [minus_eq (by omega)]
    rfl
  · rfl

/-- The octets of an attribute are a slice. -/
theorem fits_of_readBytes {attrs : List RawAttr}
    (hattrs : ∀ attr ∈ attrs, attr.payload.length < 2 ^ 63) {typ : UInt16} {bytes : List UInt8}
    (h : readBytes attrs typ = some bytes) : bytes.length < 2 ^ 63 := by
  obtain ⟨attr, hattr, rfl⟩ := Option.map_eq_some_iff.mp h
  exact fits_of_findAttr hattrs hattr

section Wire
variable [Native]

/-- `bss_from_attrs`. -/
def bssFromAttrsChecked (attrs : List RawAttr) : Panicking NetlinkError (Option AccessPoint) :=
  match findAttr attrs attrBss with
  | none => return none
  | some bssAttr => do
    let bss ← parseAttrsChecked bssAttr.payload
    let bssid ← readMacChecked bss bssBssid
    let frequency ← readU32Checked bss bssFrequency
    let channel ← (frequency.mapM frequencyToChannelChecked : Option (Option (Option UInt16)))
    let capability ← readU16Checked bss bssCapability
    let signalMbm ← readI32Checked bss bssSignalMbm
    let signalUnspecified ← readU8Checked bss bssSignalUnspec
    let seenMillisAgo ← readU32Checked bss bssSeenMsAgo
    let informationElements :=
      readBytes bss bssInformationElements <|> readBytes bss bssBeaconIes
    let named ← quiet (readSsid attrs attrSsid)
    let found ← (informationElements.mapM ssidFromIesChecked : Option (Option (Option Ssid)))
    let security ← parseSecurityChecked (informationElements.getD []) capability
    return some
      { bssid := bssid.map (⟨·⟩), ssid := named <|> found.join, frequency
        channel := channel.join
        signalDbm := signalMbm.map (· / 100)
        signalUnspecified, capability, security, seenMillisAgo }

/-- An access point is read without a panic. -/
theorem calm_bssFromAttrs (a : Attrs) :
    Calm (bssFromAttrsChecked a.attrs) (bssFromAttrs a.attrs) := by
  obtain ⟨attrs, hfits⟩ := a
  rw [bssFromAttrsChecked, bssFromAttrs]
  cases hbss : findAttr attrs attrBss with
  | none => exact calm_pure _
  | some bssAttr =>
      have hpayload := fits_of_findAttr hfits hbss
      refine calm_bind (calm_parseAttrs hpayload) fun bss hattrs => ?_
      have hfits' := fits_of_parseAttrs hpayload hattrs
      refine calm_bind (calm_readFixed _ _ bss bssBssid) fun bssid _ => ?_
      refine calm_bind (calm_readU32 bss bssFrequency) fun frequency _ => ?_
      have hchannel : frequency.mapM frequencyToChannelChecked =
          some (frequency.map frequencyToChannel) := by
        cases frequency with
        | none => rfl
        | some freq =>
            rw [Option.mapM_some, frequencyToChannelChecked_eq]
            rfl
      refine calm_step (calm_lift hchannel) ?_
      refine calm_bind (calm_readU16 bss bssCapability) fun capability _ => ?_
      refine calm_bind (calm_readI32 bss bssSignalMbm) fun signalMbm _ => ?_
      refine calm_bind (calm_readU8 bss bssSignalUnspec) fun signalUnspecified _ => ?_
      refine calm_bind (calm_readU32 bss bssSeenMsAgo) fun seenMillisAgo _ => ?_
      -- the elements of the probe response, or of the beacon where there are none
      generalize hies : (readBytes bss bssInformationElements <|> readBytes bss bssBeaconIes) = ies
      have hlength : ∀ bytes ∈ ies, bytes.length < 2 ^ 63 := by
        rintro bytes rfl
        cases hprobe : readBytes bss bssInformationElements with
        | some probe =>
            rw [hprobe] at hies
            obtain rfl : probe = bytes := Option.some.inj hies
            exact fits_of_readBytes hfits' hprobe
        | none =>
            rw [hprobe] at hies
            exact fits_of_readBytes hfits' hies
      refine calm_bind (calm_quiet (readSsid attrs attrSsid)) fun named _ => ?_
      have hfound : ies.mapM ssidFromIesChecked = some (ies.map ssidFromIes) := by
        cases ies with
        | none => rfl
        | some bytes =>
            rw [Option.mapM_some, ssidFromIesChecked_eq (hlength bytes rfl)]
            rfl
      refine calm_step (calm_lift hfound) ?_
      -- without elements the security is that of the empty list
      have hlength' : (ies.getD []).length < 2 ^ 63 := by
        cases ies with
        | none => decide
        | some bytes => exact hlength bytes rfl
      refine calm_bind (calm_parseSecurity hlength' capability) fun security _ => ?_
      refine calm_congr (calm_pure _) ?_
      cases frequency <;> cases ies <;> rfl

end Wire

/-! ### Where elements begin -/

/-- `ssid_from_ies` gets to the element. -/
def SsidVisits (ies : List UInt8) (p : Place ElementHdr) : Prop := Visits ssidStep ies 0 () p

/-- `parse_security` gets to the element. -/
def SecurityVisits (ies : List UInt8) (p : Place ElementHdr) : Prop :=
  Visits elementStep ies 0 Seen.empty p

/-- `ssid_from_ies` takes the SSID from the element. -/
structure TakenFrom (ies : List UInt8) (p : Place ElementHdr) (ssid : Ssid) : Prop where
  visited : SsidVisits ies p
  id_eq : p.header.id = ieSsid
  ssid_eq : Ssid.fromBytes p.body = some ssid

/-- An RSN or WPA element that `parse_security` gets to and does not understand. -/
structure Rejected (ies : List UInt8) (p : Place ElementHdr) : Prop where
  visited : SecurityVisits ies p
  suites : p.header.id = ieRsn ∨ p.header.id = ieVendor ∧ isWpa p.body
  fails : ∃ seen e, securityStep seen p.header p.body = .error e

/-- The two loops over a list of elements agree on where they begin. -/
structure ElementsAgree (ies : List UInt8) : Prop where
  taken_iff : ∀ ssid, ssidFromIes ies = some ssid ↔ ∃ p, TakenFrom ies p ssid
  one_chain : ∀ p q, SsidVisits ies p → SecurityVisits ies q →
    ∃ places stop, Chain ies 0 places stop ∧ p ∈ places ∧ q ∈ places
  visited_or_failed : ∀ p, SsidVisits ies p → SecurityVisits ies p ∨
    ∃ q, Rejected ies q ∧ ∀ capability, ∃ e, parseSecurity ies capability = .error e

/-- The name that is taken is that of the first element that carries one. -/
theorem taken_iff (ies : List UInt8) (ssid : Ssid) :
    ssidFromIes ies = some ssid ↔ ∃ p, TakenFrom ies p ssid := by
  have hended : ssidFromIes ies = some ssid ↔
      walk () ssidStep ies 0 () = .ok (.inr (some ssid)) := by
    rw [ssidFromIes_eq]
    cases walk () ssidStep ies 0 () with
    | error e => exact ⟨nofun, nofun⟩
    | ok r =>
        cases r with
        | inl r => exact ⟨nofun, nofun⟩
        | inr found => exact ⟨fun h => h ▸ rfl, fun h => Sum.inr.inj (Except.ok.inj h)⟩
  rw [hended, walk_eq_ended]
  constructor
  · rintro ⟨before, p, stop, s, hchain, hvisit, hlast⟩
    have hstep := Except.ok.inj hlast
    by_cases hid : p.header.id = ieSsid
    · rw [if_pos hid] at hstep
      exact ⟨p, ⟨before, stop, s, hchain, hvisit⟩, hid, Sum.inr.inj hstep⟩
    · rw [if_neg hid] at hstep
      cases hstep
  · rintro ⟨p, ⟨before, stop, s, hchain, hvisit⟩, hid, hssid⟩
    exact ⟨before, p, stop, s, hchain, hvisit, by rw [ssidStep, if_pos hid, hssid]⟩

/-- Only RSN and WPA elements are read. -/
theorem read_of_securityStep {seen : Seen} {header : ElementHdr} {data : List UInt8}
    {e : NetlinkError} (h : securityStep seen header data = .error e) :
    header.id = ieRsn ∨ header.id = ieVendor ∧ isWpa data := by
  rw [securityStep] at h
  by_cases hrsn : header.id = ieRsn
  · exact .inl hrsn
  by_cases hwpa : header.id = ieVendor ∧ isWpa data
  · exact .inr hwpa
  rw [if_neg hrsn, if_neg hwpa] at h
  cases h

/-- The security and the name are read off the same elements. -/
theorem elementsAgree (ies : List UInt8) : ElementsAgree ies where
  taken_iff := taken_iff ies
  one_chain := by
    rintro p q ⟨before, stop, -, hchain, -⟩ ⟨before', stop', -, hchain', -⟩
    rcases hchain.comparable hchain' with ⟨rest, heq, -⟩ | ⟨rest, heq, -⟩
    · refine ⟨before' ++ [q], stop', hchain', ?_, by simp⟩
      rw [heq]
      simp
    · refine ⟨before ++ [p], stop, hchain, by simp, ?_⟩
      rw [heq]
      simp
  visited_or_failed := by
    rintro p ⟨before, stop, -, hchain, -⟩
    rcases visits_or_fails (.malformedMessage "malformed information element") elementStep hchain
      Seen.empty with hvisits | ⟨q, -, seen, e, hvisits, hfails, hwalk⟩
    · exact .inl hvisits
    · refine .inr ⟨q, ?_, fun capability => ⟨e, ?_⟩⟩
      · have hstep : securityStep seen q.header q.body = .error e := by
          rw [elementStep] at hfails
          cases hstep : securityStep seen q.header q.body with
          | error e' =>
              rw [hstep] at hfails
              exact congrArg Except.error (Except.error.inj hfails)
          | ok seen' =>
              rw [hstep] at hfails
              cases hfails
        exact ⟨hvisits, read_of_securityStep hstep, seen, e, hstep⟩
      · rw [parseSecurity_eq, hwalk]

section Wire
variable [Native]

/-- The information elements of an access point: the probe response's, or else the beacon's. -/
def informationElements (attrs : List RawAttr) : Option (List UInt8) := do
  let bssAttr ← findAttr attrs attrBss
  let bss ← (parseAttrs bssAttr.payload).toOption
  readBytes bss bssInformationElements <|> readBytes bss bssBeaconIes

/-- The SSID of a reported access point is the one named beside it, or taken from an element that
`parse_security` gets to as well. -/
theorem ssid_of_bssFromAttrs {attrs : List RawAttr} {point : AccessPoint} {ssid : Ssid}
    (h : bssFromAttrs attrs = .ok (some point)) (hssid : point.ssid = some ssid) :
    readSsid attrs attrSsid = .ok (some ssid) ∨
      ∃ ies p, informationElements attrs = some ies ∧ TakenFrom ies p ssid ∧
        SecurityVisits ies p := by
  rw [bssFromAttrs] at h
  cases hbss : findAttr attrs attrBss with
  | none =>
      rw [hbss] at h
      cases h
  | some bssAttr =>
      rw [hbss] at h
      obtain ⟨bss, hattrs, h⟩ := Results.bind_eq_ok.mp h
      obtain ⟨bssid, -, h⟩ := Results.bind_eq_ok.mp h
      obtain ⟨frequency, -, h⟩ := Results.bind_eq_ok.mp h
      obtain ⟨capability, -, h⟩ := Results.bind_eq_ok.mp h
      obtain ⟨signalMbm, -, h⟩ := Results.bind_eq_ok.mp h
      obtain ⟨signalUnspecified, -, h⟩ := Results.bind_eq_ok.mp h
      obtain ⟨seenMillisAgo, -, h⟩ := Results.bind_eq_ok.mp h
      obtain ⟨named, hnamed, h⟩ := Results.bind_eq_ok.mp h
      obtain ⟨security, hsecurity, h⟩ := Results.bind_eq_ok.mp h
      cases h
      cases named with
      | some named => exact .inl (hnamed.trans (congrArg Except.ok hssid))
      | none =>
          obtain ⟨ies, hies, htaken⟩ := Option.bind_eq_some_iff.mp hssid
          obtain ⟨p, hp⟩ := (taken_iff ies ssid).mp htaken
          have helements : informationElements attrs = some ies := by
            rw [informationElements, hbss, Option.bind_eq_bind, Option.bind_some, hattrs]
            exact hies
          rw [hies, Option.getD_some] at hsecurity
          -- the security was read from the same elements, so its loop did not fail before this one
          rcases (elementsAgree ies).visited_or_failed p hp.visited with hvisits | ⟨q, -, hfails⟩
          · exact .inr ⟨ies, p, helements, hp, hvisits⟩
          · obtain ⟨e, he⟩ := hfails capability
            rw [he] at hsecurity
            cases hsecurity

/-- No parser panics on the octets of a slice and on attributes in memory, and each comes to what
it comes to. -/
structure ParsersCalm (b : Slice) (a : Attrs) : Prop where
  messages : Calm (parseGenlMessagesChecked b.bytes) (parseGenlMessages b.bytes)
  attrs : Calm (parseAttrsChecked b.bytes) (parseAttrs b.bytes)
  interface : Calm (interfaceFromAttrsChecked a.attrs) (interfaceFromAttrs a.attrs)
  wiphy : Calm (wiphyFromAttrsChecked a.attrs) (wiphyFromAttrs a.attrs)
  bss : Calm (bssFromAttrsChecked a.attrs) (bssFromAttrs a.attrs)
  security : ∀ capability,
    Calm (parseSecurityChecked b.bytes capability) (parseSecurity b.bytes capability)
  rsn : Calm (parseRsnIeChecked b.bytes) (parseRsnIe b.bytes)
  wpa : Calm (parseWpaIeChecked b.bytes) (parseWpaIe b.bytes)
  ssid : ssidFromIesChecked b.bytes = some (ssidFromIes b.bytes)

/-- Every parser is calm. -/
theorem parsersCalm (b : Slice) (a : Attrs) : ParsersCalm b a where
  messages := calm_parseGenlMessages b
  attrs := calm_parseAttrs b.fits
  interface := calm_interfaceFromAttrs a.attrs
  wiphy := calm_wiphyFromAttrs a
  bss := calm_bssFromAttrs a
  security := calm_parseSecurity b.fits
  rsn := calm_parseRsnIe b.fits
  wpa := calm_parseWpaIe b.fits
  ssid := ssidFromIesChecked_eq b.fits

/-- **The nl80211 parsers on any octets.**  None panics.  An SSID is taken from an element that
`parse_security` gets to as well, unless it fails before, and with it `bss_from_attrs`. -/
theorem parsers_calm_and_agree (b : Slice) (a : Attrs) :
    ParsersCalm b a ∧ ElementsAgree b.bytes ∧
    ∀ point ssid, bssFromAttrs a.attrs = .ok (some point) → point.ssid = some ssid →
      readSsid a.attrs attrSsid = .ok (some ssid) ∨
        ∃ ies p, informationElements a.attrs = some ies ∧ TakenFrom ies p ssid ∧
          SecurityVisits ies p :=
  ⟨parsersCalm b a, elementsAgree b.bytes, fun _ _ => ssid_of_bssFromAttrs⟩

end Wire

/-- An RSN element without content, then the SSID `A`: `ssid_from_ies` takes it, and
`parse_security` does not get there. -/
theorem ssid_behind_rejected :
    ∃ p ssid, TakenFrom [48, 0, 0, 1, 65] p ssid ∧ ssidFromIes [48, 0, 0, 1, 65] = some ssid ∧
      ¬ SecurityVisits [48, 0, 0, 1, 65] p := by
  have hssid : ssidFromIes [48, 0, 0, 1, 65] = Ssid.fromBytes [65] := by decide +kernel
  obtain ⟨ssid, hsome⟩ : ∃ ssid, Ssid.fromBytes [65] = some ssid := ⟨_, rfl⟩
  rw [hsome] at hssid
  obtain ⟨p, hp⟩ := (taken_iff _ ssid).mp hssid
  refine ⟨p, ssid, hp, hssid, ?_⟩
  rintro ⟨before, stop, seen, hchain, hvisit⟩
  cases before with
  | nil =>
      obtain ⟨hoffset, hlies, -⟩ := hchain.cons_inv
      have hid := hp.id_eq
      rw [← hlies.header_eq, hoffset] at hid
      exact absurd hid (by decide)
  | cons q before =>
      obtain ⟨hoffset, hlies, -⟩ := hchain.cons_inv
      have hheader := hlies.header_eq
      have hbody := hlies.body_eq
      rw [hoffset] at hheader
      rw [hoffset, ← hheader] at hbody
      have hfails : elementStep Seen.empty q.header q.body =
          .error (.malformedMessage "malformed information element") := by
        rw [← hbody, ← hheader]
        rfl
      rw [visit, hfails] at hvisit
      cases hvisit

end NetworkManager.Nl80211
