import NetworkManager.Linux.Nl80211

/-!
# Linux — Nl80211 — Suites

What `parse_security` finds in one information element, octet by octet.

* `SuiteLists`: the fields an RSN element and a WPA element share, as they are transmitted.
* `parseRsnIe_octets`, `parseWpaIe_octets`: the parsers find the selectors, in order, each as the
  number its octets spell with the least significant first.
* `parseSecurity_rsn`, `parseSecurity_wpa`: so does `parse_security` on the one element.
* `suites_decoded_iff`: a selector is transmitted with its OUI first, so what is found is what was
  meant only where there is nothing to find.
-/

namespace NetworkManager.Nl80211

open Records Octets Layout Header

/-- A counted list of suites: the count in two octets, the least significant first, and the
suites. -/
def counted (suites : List (List.Vector UInt8 4)) : List UInt8 :=
  littleEndian 2 suites.length ++ suites.flatMap (·.toList)

/-- The number the parsers take a selector for. -/
def selectorValue (selector : List.Vector UInt8 4) : UInt32 :=
  .ofNat (ofLittleEndian selector.toList)

/-- The fields of an element from its version on.  The suites of the group and of the pairs are of
no interest, nor is what follows the selectors. -/
structure SuiteLists where
  version : List.Vector UInt8 2
  group : List.Vector UInt8 4
  pairwise : List (List.Vector UInt8 4)
  selectors : List (List.Vector UInt8 4)
  rest : List UInt8

namespace SuiteLists

/-- The fields as they are transmitted. -/
def octets (lists : SuiteLists) : List UInt8 :=
  lists.version.toList ++ (lists.group.toList ++
    (counted lists.pairwise ++ (counted lists.selectors ++ lists.rest)))

/-- The numbers the parsers take the selectors for. -/
def values (lists : SuiteLists) : List UInt32 :=
  lists.selectors.map selectorValue

end SuiteLists

/-! ### Reading at an offset -/

section Offsets

variable (front rest : List UInt8)

/-- The octets behind `front` are cut out of the whole. -/
theorem extract_front (bytes : List UInt8) :
    (front ++ (bytes ++ rest)).extract front.length (front.length + bytes.length) = bytes := by
  rw [List.extract_eq_take_drop, List.drop_left, Nat.add_sub_cancel_left, List.take_left]

/-- A number of two octets is read behind `front`. -/
theorem readIeU16_front {bytes : List UInt8} (hbytes : bytes.length = 2) :
    readIeU16 (front ++ (bytes ++ rest)) front.length =
      .ok (readLeU16 bytes, (front ++ bytes).length) := by
  have hextract := extract_front front rest bytes
  rw [hbytes] at hextract
  rw [readIeU16, if_neg (by simp only [List.length_append]; omega), hextract, List.length_append,
    hbytes]

/-- A count, read back. -/
theorem toNat_count {n : ℕ} (hn : n < 65536) : (readLeU16 (littleEndian 2 n)).toNat = n := by
  rw [readLeU16, ofLittleEndian_littleEndian (by simpa using hn), UInt16.toNat_ofNat',
    Nat.mod_eq_of_lt (by simpa using hn)]

/-- Octets are skipped behind `front`. -/
theorem skipIeBytes_front (bytes : List UInt8) :
    skipIeBytes (front ++ (bytes ++ rest)) front.length bytes.length =
      .ok (front ++ bytes).length := by
  rw [skipIeBytes, if_neg (by simp), List.length_append]

/-- Vectors of `n` octets, one behind another, have as many octets as that makes. -/
theorem length_flatMap_vectors {n : ℕ} (vectors : List (List.Vector UInt8 n)) :
    (vectors.flatMap (·.toList)).length = vectors.length * n := by
  induction vectors with
  | nil => simp
  | cons v vectors ih =>
      rw [List.flatMap_cons, List.length_append, ih, List.Vector.toList_length, List.length_cons,
        Nat.succ_mul, Nat.add_comm]

/-- Selectors are read one behind another. -/
theorem readSelectors_front (message : String) (selectors : List (List.Vector UInt8 4)) :
    readSelectors message (front ++ (selectors.flatMap (·.toList) ++ rest)) selectors.length
        front.length =
      .ok (selectors.map selectorValue,
        front.length + selectors.length * 4) := by
  induction selectors generalizing front with
  | nil => rfl
  | cons selector selectors ih =>
      have hextract := extract_front front (selectors.flatMap (·.toList) ++ rest) selector.toList
      have hrest := ih (front ++ selector.toList)
      rw [List.Vector.toList_length] at hextract
      rw [List.length_append, List.Vector.toList_length, List.append_assoc] at hrest
      rw [List.flatMap_cons, List.append_assoc, List.length_cons, readSelectors, if_neg (by simp),
        hextract, hrest]
      show Except.ok (selectorValue selector :: _, _) = _
      rw [List.map_cons, Nat.succ_mul, Nat.add_assoc, Nat.add_comm 4]

/-- A counted list is skipped whole. -/
theorem skipIeCounted_front {suites : List (List.Vector UInt8 4)} (h : suites.length < 65536) :
    skipIeCounted (front ++ (counted suites ++ rest)) front.length 4 =
      .ok (front ++ counted suites).length := by
  have hcount := readIeU16_front front (suites.flatMap (·.toList) ++ rest)
    (length_littleEndian 2 suites.length)
  have hskip := skipIeBytes_front (front ++ littleEndian 2 suites.length) rest
    (suites.flatMap (·.toList))
  rw [length_flatMap_vectors] at hskip
  simp only [List.append_assoc] at hskip
  rw [counted, List.append_assoc, skipIeCounted, hcount]
  show skipIeBytes _ _ ((readLeU16 _).toNat * 4) = _
  rw [toNat_count h, hskip]

/-- A counted list is read whole. -/
theorem readCounted_front (message : String) {suites : List (List.Vector UInt8 4)}
    (h : suites.length < 65536) :
    readCounted message (front ++ (counted suites ++ rest)) front.length =
      .ok (suites.map selectorValue,
        (front ++ counted suites).length) := by
  have hcount := readIeU16_front front (suites.flatMap (·.toList) ++ rest)
    (length_littleEndian 2 suites.length)
  have hread := readSelectors_front (front ++ littleEndian 2 suites.length) rest message suites
  have hlength := length_flatMap_vectors suites
  simp only [List.append_assoc] at hread
  have hfits : ¬ (front ++ (littleEndian 2 suites.length ++ (suites.flatMap (·.toList) ++
      rest))).length < (front ++ littleEndian 2 suites.length).length + suites.length * 4 := by
    simp only [List.length_append, hlength]
    omega
  rw [counted, List.append_assoc, readCounted, hcount]
  show (if _ < _ + (readLeU16 _).toNat * 4 then _ else readSelectors _ _ (readLeU16 _).toNat _) = _
  rw [toNat_count h, if_neg hfits, hread]
  simp only [List.length_append, hlength, Nat.add_assoc]

end Offsets

/-! ### The elements -/


section Lists

variable (lists : SuiteLists)

/-- The two octets of the version and the four of the group's suite are passed over. -/
theorem version_group_octets :
    readIeU16 lists.octets 0 = .ok (readLeU16 lists.version.toList, 2) ∧
      skipIeBytes lists.octets 0 2 = .ok 2 ∧ skipIeBytes lists.octets 2 4 = .ok 6 := by
  have hversion := lists.version.toList_length
  have hgroup := lists.group.toList_length
  have hread := readIeU16_front [] (lists.group.toList ++ (counted lists.pairwise ++
    (counted lists.selectors ++ lists.rest))) hversion
  have hskip := skipIeBytes_front [] (lists.group.toList ++ (counted lists.pairwise ++
    (counted lists.selectors ++ lists.rest))) lists.version.toList
  have hskip' := skipIeBytes_front lists.version.toList (counted lists.pairwise ++
    (counted lists.selectors ++ lists.rest)) lists.group.toList
  rw [List.nil_append, List.nil_append, hversion] at hread
  rw [List.nil_append, List.nil_append, hversion] at hskip
  rw [List.length_append, hversion, hgroup] at hskip'
  exact ⟨hread, hskip, hskip'⟩

/-- The suites of the pairs are passed over, and the selectors are read. -/
theorem suites_octets (hpairwise : lists.pairwise.length < 65536)
    (hselectors : lists.selectors.length < 65536) (message : String) :
    ∃ offset offset', skipIeCounted lists.octets 6 4 = .ok offset ∧
      readCounted message lists.octets offset = .ok (lists.values, offset') := by
  have hskip := skipIeCounted_front (lists.version.toList ++ lists.group.toList)
    (counted lists.selectors ++ lists.rest) hpairwise
  have hread := readCounted_front (lists.version.toList ++ lists.group.toList ++
    counted lists.pairwise) lists.rest message hselectors
  have hsix : (lists.version.toList ++ lists.group.toList).length = 6 := by simp
  rw [hsix] at hskip
  simp only [List.append_assoc] at hskip hread
  exact ⟨_, _, hskip, hread⟩

/-- The body of an RSN element with these lists is read as the suites of the selectors. -/
theorem parseRsnIe_octets (hpairwise : lists.pairwise.length < 65536)
    (hselectors : lists.selectors.length < 65536) :
    ∃ mfp, parseRsnIe lists.octets = .ok (lists.values.map .fromRsnAkm, mfp) := by
  obtain ⟨hversion, -, hgroup⟩ := version_group_octets lists
  obtain ⟨offset, offset', hskip, hread⟩ :=
    suites_octets lists hpairwise hselectors "malformed rsn ie"
  rw [parseRsnIe, hversion]
  show ∃ mfp, (skipIeBytes lists.octets 2 4 >>= _) = _
  rw [hgroup]
  show ∃ mfp, (skipIeCounted lists.octets 6 4 >>= _) = _
  rw [hskip]
  show ∃ mfp, (readCounted "malformed rsn ie" lists.octets offset >>= _) = _
  rw [hread]
  exact ⟨_, rfl⟩

/-- The body of a WPA element with these lists is read as the suites of the selectors. -/
theorem parseWpaIe_octets (hpairwise : lists.pairwise.length < 65536)
    (hselectors : lists.selectors.length < 65536) :
    parseWpaIe lists.octets = .ok (lists.values.map wpaSuite) := by
  obtain ⟨-, hversion, hgroup⟩ := version_group_octets lists
  obtain ⟨offset, offset', hskip, hread⟩ :=
    suites_octets lists hpairwise hselectors "malformed wpa ie"
  rw [parseWpaIe, hversion]
  show (skipIeBytes lists.octets 2 4 >>= _) = _
  rw [hgroup]
  show (skipIeCounted lists.octets 6 4 >>= _) = _
  rw [hskip]
  show (readCounted "malformed wpa ie" lists.octets offset >>= _) = _
  rw [hread]
  rfl

end Lists

/-- An element with the id and the data. -/
def element (id : UInt8) (data : List UInt8) : List UInt8 :=
  id :: UInt8.ofNat data.length :: data

/-- An element is one record, without padding. -/
theorem octets_element (id : UInt8) {data : List UInt8} (h : data.length ≤ 255) :
    ∃ r : Record ElementHdr, octets [r] = element id data ∧ r.header.id = id ∧ r.body = data := by
  have hspan : 2 + (UInt8.ofNat data.length).toNat = 2 + data.length := by
    rw [UInt8.toNat_ofNat', Nat.mod_eq_of_lt (by omega)]
  let header : ElementHdr := { id, len := UInt8.ofNat data.length }
  let r : Record ElementHdr := .padded header data hspan
  have hpadding : r.padding = [] := by
    show List.replicate (align (span header) 1 - span header) 0 = []
    rw [align_of_dvd (by decide) (Nat.one_dvd _), Nat.sub_self]
    rfl
  refine ⟨r, ?_, rfl, rfl⟩
  show write header ++ (data ++ r.padding) ++ [] = _
  rw [hpadding, List.append_nil, List.append_nil]
  rfl

/-- The security of a single element is what it adds to nothing. -/
theorem parseSecurity_element (id : UInt8) {data : List UInt8} (h : data.length ≤ 255)
    (capability : Option UInt16) :
    parseSecurity (element id data) capability =
      (securityStep Seen.empty { id, len := .ofNat data.length } data).map
        (·.security capability) := by
  obtain ⟨r, hoctets, hid, hbody⟩ := octets_element id h
  have hstep : securityStep Seen.empty r.header r.body =
      securityStep Seen.empty { id, len := .ofNat data.length } data := by
    rw [hbody, securityStep, securityStep, hid]
  rw [parseSecurity, ← hoctets, walk_octets, steps, hstep]
  cases securityStep Seen.empty { id, len := .ofNat data.length } data <;> rfl

/-! ### Selectors -/

/-- An RSN selector: the OUI `00-0F-AC`, and the type of the suite. -/
def rsnSelector (akm : UInt8) : List.Vector UInt8 4 := ⟨[0x00, 0x0f, 0xac, akm], rfl⟩

/-- A WPA selector: the OUI `00-50-F2`, and the type. -/
def wpaSelector (akm : UInt8) : List.Vector UInt8 4 := ⟨[0x00, 0x50, 0xf2, akm], rfl⟩

/-- The suite an RSN selector stands for. -/
def rsnMeaning (akm : UInt8) : WifiAuthSuite := .fromRsnAkm (0x000FAC00 + akm.toUInt32)

/-- The suites a WPA selector may be read as. -/
def WpaMeans (akm : UInt8) (suite : WifiAuthSuite) : Prop :=
  if akm = 1 then suite = .wpa18021x
  else if akm = 2 then suite = .wpa1Psk
  else ∃ value, suite = .other value

/-- No RSN selector is read as the suite it stands for. -/
theorem rsnSelector_misread (akm : UInt8) :
    WifiAuthSuite.fromRsnAkm (selectorValue (rsnSelector akm)) ≠
      rsnMeaning akm := by
  revert akm
  refine forall_octet ?_
  decide +kernel

/-- Every WPA selector is read as an unknown suite. -/
theorem wpaSelector_other (akm : UInt8) :
    wpaSuite (selectorValue (wpaSelector akm)) = .other (selectorValue (wpaSelector akm)) := by
  revert akm
  refine forall_octet ?_
  decide +kernel

/-- An unknown suite is the meaning of every WPA suite but those that have a name. -/
theorem wpaMeans_other (akm : UInt8) (value : UInt32) :
    WpaMeans akm (.other value) ↔ akm ≠ 1 ∧ akm ≠ 2 := by
  unfold WpaMeans
  split
  · rename_i h
    exact ⟨by rintro ⟨⟩, fun h' => (h'.1 h).elim⟩
  · rename_i h
    split
    · rename_i h'
      exact ⟨by rintro ⟨⟩, fun h'' => (h''.2 h').elim⟩
    · rename_i h'
      exact ⟨fun _ => ⟨h, h'⟩, fun _ => ⟨value, rfl⟩⟩

/-! ### The suites of one element -/

namespace SuiteLists

/-- The data of the RSN element that advertises `akms`. -/
def rsnData (lists : SuiteLists) (akms : List UInt8) : List UInt8 :=
  { lists with selectors := akms.map rsnSelector }.octets

/-- The data of the WPA element that advertises `akms`. -/
def wpaData (lists : SuiteLists) (akms : List UInt8) : List UInt8 :=
  wpaOui ++ wpaOuiType :: { lists with selectors := akms.map wpaSelector }.octets

/-- The body takes ten octets besides the lists and the rest. -/
theorem length_octets (lists : SuiteLists) : lists.octets.length =
    10 + lists.pairwise.length * 4 + lists.selectors.length * 4 + lists.rest.length := by
  simp only [octets, counted, List.length_append, List.Vector.toList_length, length_littleEndian,
    length_flatMap_vectors]
  omega

/-- The lists of an element are short enough to be counted. -/
theorem lengths_lt {lists : SuiteLists} (h : lists.octets.length ≤ 255) :
    lists.pairwise.length < 65536 ∧ lists.selectors.length < 65536 := by
  rw [length_octets] at h
  omega

end SuiteLists

variable (lists : SuiteLists) (akms : List UInt8) (capability : Option UInt16)

omit lists akms in
/-- The suites of an access point with one RSN element are those of the element. -/
theorem authSuites_rsn {data : List UInt8} (h : data.length ≤ 255) {suites : List WifiAuthSuite}
    {mfp : Bool} (hparse : parseRsnIe data = .ok (suites, mfp)) :
    (parseSecurity (element ieRsn data) capability).map (·.authSuites) = .ok suites := by
  have hstep : securityStep Seen.empty { id := ieRsn, len := .ofNat data.length } data =
      .ok { Seen.empty with authSuites := suites, rsnSeen := true
                            managementFrameProtection := mfp } := by
    simp only [securityStep, if_true, hparse]
    rfl
  rw [parseSecurity_element ieRsn h, hstep]
  rfl

omit lists akms in
/-- The suites of an access point with one WPA element are those of the element. -/
theorem authSuites_wpa {data : List UInt8} (h : data.length ≤ 255) {suites : List WifiAuthSuite}
    (hwpa : isWpa data = true) (hparse : parseWpaIe (data.drop 4) = .ok suites) :
    (parseSecurity (element ieVendor data) capability).map (·.authSuites) = .ok suites := by
  have hid : ieVendor ≠ ieRsn := by decide
  have hstep : securityStep Seen.empty { id := ieVendor, len := .ofNat data.length } data =
      .ok { Seen.empty with authSuites := suites, wpaSeen := true } := by
    simp only [securityStep, if_neg hid, hwpa, and_self, if_true, hparse]
    rfl
  rw [parseSecurity_element ieVendor h, hstep]
  rfl

/-- The WPA prefix is recognised whatever follows. -/
theorem isWpa_append (rest : List UInt8) : isWpa (wpaOui ++ wpaOuiType :: rest) = true := by
  simp [isWpa, wpaOui, wpaOuiType]

/-- The suites read off an RSN element that offers `akms`. -/
theorem parseSecurity_rsn (h : (lists.rsnData akms).length ≤ 255) :
    (parseSecurity (element ieRsn (lists.rsnData akms)) capability).map (·.authSuites) =
      .ok (akms.map fun akm => .fromRsnAkm (selectorValue (rsnSelector akm))) := by
  let fields : SuiteLists := { lists with selectors := akms.map rsnSelector }
  have hlists : fields.pairwise.length < 65536 ∧ fields.selectors.length < 65536 :=
    SuiteLists.lengths_lt h
  have hvalues : fields.values = akms.map fun akm => selectorValue (rsnSelector akm) :=
    List.map_map
  obtain ⟨mfp, hparse⟩ := parseRsnIe_octets fields hlists.1 hlists.2
  rw [hvalues, List.map_map] at hparse
  exact authSuites_rsn capability h hparse

/-- The suites read off a WPA element that offers `akms`. -/
theorem parseSecurity_wpa (h : (lists.wpaData akms).length ≤ 255) :
    (parseSecurity (element ieVendor (lists.wpaData akms)) capability).map (·.authSuites) =
      .ok (akms.map fun akm => .other (selectorValue (wpaSelector akm))) := by
  let fields : SuiteLists := { lists with selectors := akms.map wpaSelector }
  have hdata : lists.wpaData akms = wpaOui ++ wpaOuiType :: fields.octets := rfl
  have hfits : fields.octets.length ≤ 255 := by
    rw [hdata, List.length_append, List.length_cons] at h
    omega
  have hlists : fields.pairwise.length < 65536 ∧ fields.selectors.length < 65536 :=
    SuiteLists.lengths_lt hfits
  have hvalues : fields.values = akms.map fun akm => selectorValue (wpaSelector akm) :=
    List.map_map
  have hparse := parseWpaIe_octets fields hlists.1 hlists.2
  rw [hvalues, List.map_map] at hparse
  simp only [Function.comp_def, wpaSelector_other] at hparse
  have hwpa : isWpa (lists.wpaData akms) = true := isWpa_append fields.octets
  exact authSuites_wpa capability h hwpa hparse

/-- **What is found is what was meant** only where nothing is to be found: in an RSN element without
selectors, and in a WPA element without selectors of PSK or of 802.1X. -/
theorem suites_decoded_iff :
    ((lists.rsnData akms).length ≤ 255 →
      ((parseSecurity (element ieRsn (lists.rsnData akms)) capability).map (·.authSuites) =
          .ok (akms.map rsnMeaning) ↔ akms = [])) ∧
    ((lists.wpaData akms).length ≤ 255 →
      ((∃ suites, (parseSecurity (element ieVendor (lists.wpaData akms)) capability).map
            (·.authSuites) = .ok suites ∧ List.Forall₂ WpaMeans akms suites) ↔
          1 ∉ akms ∧ 2 ∉ akms)) := by
  constructor
  · intro h
    rw [parseSecurity_rsn lists akms capability h]
    constructor
    · intro hmeant
      cases akms with
      | nil => rfl
      | cons akm akms =>
          rw [List.map_cons, List.map_cons] at hmeant
          exact (rsnSelector_misread akm (List.cons.inj (Except.ok.inj hmeant)).1).elim
    · rintro rfl
      rw [List.map_nil, List.map_nil]
  · intro h
    rw [parseSecurity_wpa lists akms capability h]
    have hall : List.Forall₂ WpaMeans akms (akms.map fun akm =>
        .other (selectorValue (wpaSelector akm))) ↔ 1 ∉ akms ∧ 2 ∉ akms := by
      rw [List.forall₂_map_right_iff, List.forall₂_same]
      simp only [wpaMeans_other]
      exact ⟨fun h => ⟨fun h₁ => (h 1 h₁).1 rfl, fun h₂ => (h 2 h₂).2 rfl⟩,
        fun h akm hakm => ⟨fun h₁ => h.1 (h₁ ▸ hakm), fun h₂ => h.2 (h₂ ▸ hakm)⟩⟩
    rw [← hall]
    constructor
    · rintro ⟨suites, hsuites, hmeant⟩
      rwa [← Except.ok.inj hsuites] at hmeant
    · exact fun hmeant => ⟨_, rfl, hmeant⟩

/-- The lists of a network that offers CCMP and nothing else. -/
def ccmpLists : SuiteLists where
  version := ⟨[1, 0], rfl⟩
  group := rsnSelector 4
  pairwise := [rsnSelector 4]
  selectors := []
  rest := [0, 0]

omit lists akms capability in
/-- An RSN element with SAE and a WPA element with PSK, neither of them decoded. -/
theorem suites_decoded_iff_ccmp :
    ((parseSecurity (element ieRsn (ccmpLists.rsnData [8])) none).map (·.authSuites) =
      .ok ([8].map rsnMeaning) ↔ ([8] : List UInt8) = []) ∧
    ((∃ suites, (parseSecurity (element ieVendor (ccmpLists.wpaData [2])) none).map
        (·.authSuites) = .ok suites ∧ List.Forall₂ WpaMeans [2] suites) ↔
          (1 : UInt8) ∉ [2] ∧ (2 : UInt8) ∉ [2]) :=
  ⟨(suites_decoded_iff ccmpLists [8] none).1 (by decide),
    (suites_decoded_iff ccmpLists [2] none).2 (by decide)⟩

omit lists akms capability in
/-- The RSN element of a WPA2-PSK network, as it is transmitted. -/
theorem rsnPsk_not_recognised :
    (parseSecurity [48, 20, 1, 0, 0x00, 0x0f, 0xac, 4, 1, 0, 0x00, 0x0f, 0xac, 4,
      1, 0, 0x00, 0x0f, 0xac, 2, 0, 0] none).map (·.authSuites) ≠ .ok ([2].map rsnMeaning) := by
  have hfound := parseSecurity_rsn ccmpLists [2] none (by decide)
  have hne : WifiAuthSuite.fromRsnAkm (selectorValue (rsnSelector 2)) ≠ rsnMeaning 2 :=
    rsnSelector_misread 2
  intro hmeant
  have helement : element ieRsn (ccmpLists.rsnData [2]) =
      [48, 20, 1, 0, 0x00, 0x0f, 0xac, 4, 1, 0, 0x00, 0x0f, 0xac, 4,
        1, 0, 0x00, 0x0f, 0xac, 2, 0, 0] := by decide
  rw [helement, hmeant, List.map_singleton, List.map_singleton] at hfound
  exact hne (List.cons.inj (Except.ok.inj hfound)).1.symm

end NetworkManager.Nl80211
