import NetworkManager.Linux.Nl80211.Suites
import NetworkManager.Support.Results

/-!
# Linux — Nl80211 — Security

What `parse_security` says of a whole buffer, in terms of the elements in it.

* `elements`: the information elements of a buffer.  `suitesOf`: what one of them advertises.
* `parseSecurity_advertises`: the flags, as sums over the elements.
* `rsnSuites`: the suites of the RSN elements alone.  `wpa2_of_rsn_iff`: they determine `wpa3`, and
  `wpa2` unless WPA elements answer for RSN elements that leave it open.
-/

namespace NetworkManager.Nl80211

open Records Octets Layout Header

/-! ### Elements -/

/-- The id and the data of an information element. -/
abbrev Element := UInt8 × List UInt8

/-- The information elements of a buffer. -/
def elements (ies : List UInt8) : List Element :=
  match walk (α := ElementHdr) (ρ := Empty)
    (NetlinkError.malformedMessage "malformed information element")
    (fun found header data => .ok (.inl (found ++ [(header.id, data)]))) ies 0 [] with
  | .error _ => []
  | .ok (.inl (found, _)) => found

/-- An RSN element. -/
def isRsnElement (e : Element) : Bool := e.1 == ieRsn

/-- A vendor element that starts as the one of WPA does. -/
def isWpaElement (e : Element) : Bool := e.1 == ieVendor && isWpa e.2

/-- The suites an element advertises, as its parser reads them. -/
def suitesOf (e : Element) : List WifiAuthSuite :=
  if isRsnElement e then
    match parseRsnIe e.2 with
    | .ok (suites, _) => suites
    | .error _ => []
  else if isWpaElement e then
    match parseWpaIe (e.2.drop 4) with
    | .ok suites => suites
    | .error _ => []
  else []

/-- An RSN element is no WPA element. -/
theorem not_isWpaElement {e : Element} (h : isRsnElement e = true) : isWpaElement e = false := by
  have hid : e.1 = ieRsn := beq_iff_eq.mp h
  rw [isWpaElement, hid]
  rfl

/-! ### Sums -/

/-- What was seen of the elements so far. -/
structure Seen.Sums (seen : Seen) (es : List Element) : Prop where
  authSuites : seen.authSuites = es.flatMap suitesOf
  rsnSeen : seen.rsnSeen = es.any isRsnElement
  wpaSeen : seen.wpaSeen = es.any isWpaElement

/-- An element adds its suites. -/
theorem securityStep_sums {seen seen' : Seen} {es : List Element} (hseen : seen.Sums es)
    {header : ElementHdr} {data : List UInt8} (h : securityStep seen header data = .ok seen') :
    seen'.Sums (es ++ [(header.id, data)]) := by
  have hsuites := hseen.authSuites
  have hrsn := hseen.rsnSeen
  have hwpa := hseen.wpaSeen
  rw [securityStep] at h
  split at h
  -- an RSN element, a WPA element, or one that the loop passes over
  · rename_i hid
    obtain ⟨⟨suites, mfp⟩, hparse, h⟩ := Results.bind_eq_ok.mp h
    obtain rfl := Except.ok.inj h
    have his : isRsnElement (header.id, data) = true := beq_iff_eq.mpr hid
    have hof : suitesOf (header.id, data) = suites := by rw [suitesOf, if_pos his, hparse]
    constructor <;> simp [hsuites, hwpa, hof, his, not_isWpaElement his]
  · rename_i hid
    have hisnt : isRsnElement (header.id, data) = false := beq_eq_false_iff_ne.mpr hid
    split at h
    · rename_i hvendor
      obtain ⟨suites, hparse, h⟩ := Results.bind_eq_ok.mp h
      obtain rfl := Except.ok.inj h
      have his : isWpaElement (header.id, data) = true := by
        rw [isWpaElement, Bool.and_eq_true, beq_iff_eq]
        exact hvendor
      have hof : suitesOf (header.id, data) = suites := by
        rw [suitesOf, hisnt, if_neg Bool.false_ne_true, if_pos his, hparse]
      constructor <;> simp [hsuites, hrsn, hof, his, hisnt]
    · rename_i hvendor
      obtain rfl := Except.ok.inj h
      have hother : isWpaElement (header.id, data) = false := by
        rw [Bool.eq_false_iff]
        intro his
        rw [isWpaElement, Bool.and_eq_true, beq_iff_eq] at his
        exact hvendor his
      have hof : suitesOf (header.id, data) = [] := by
        rw [suitesOf, hisnt, hother]
        rfl
      constructor <;> simp [hsuites, hrsn, hwpa, hof, hother, hisnt]

/-- The flags of a buffer, as sums over its elements. -/
structure Advertises (es : List Element) (security : AccessPointSecurity) : Prop where
  authSuites : security.authSuites = es.flatMap suitesOf
  wpa1 : security.wpa1 = es.any isWpaElement
  wpa2 : security.wpa2 = (es.any isRsnElement && (es.flatMap suitesOf).any (·.isWpa2))
  wpa3 : security.wpa3 = (es.flatMap suitesOf).any (·.isWpa3)

/-- A security that was read off the elements is what they advertise. -/
theorem parseSecurity_advertises {ies : List UInt8} {capability : Option UInt16}
    {security : AccessPointSecurity} (h : parseSecurity ies capability = .ok security) :
    Advertises (elements ies) security := by
  have hstep : ∀ (seen : Seen) (found : List Element) (header : ElementHdr) (data : List UInt8)
      (x : Seen ⊕ Empty), seen.Sums found → (securityStep seen header data).map .inl = .ok x →
      ∃ y : List Element ⊕ Empty, (.ok (.inl (found ++ [(header.id, data)])) :
        Except NetlinkError (List Element ⊕ Empty)) = .ok y ∧
          Sum.LiftRel Seen.Sums (fun _ _ => True) x y := by
    intro seen found header data x hseen hx
    cases hnext : securityStep seen header data with
    | error e =>
        rw [hnext] at hx
        cases hx
    | ok seen' =>
        rw [hnext] at hx
        obtain rfl := Except.ok.inj hx
        exact ⟨_, rfl, .inl (securityStep_sums hseen hnext)⟩
  have hstart : Seen.empty.Sums [] := ⟨rfl, rfl, rfl⟩
  rw [parseSecurity] at h
  split at h
  · cases h
  · rename_i seen offset hwalk
    obtain rfl := Except.ok.inj h
    obtain ⟨y, hy, hrel⟩ := walk_lift _
      (NetlinkError.malformedMessage "malformed information element") _ _ hstep ies 0 Seen.empty []
      _ hstart hwalk
    cases hrel with
    | @inl _ b hsums =>
        obtain ⟨⟨hsuites, hrsn, hwpa⟩, -⟩ := hsums
        have helements : elements ies = b.1 := by
          rw [elements, hy]
        rw [helements]
        exact ⟨hsuites, hwpa, by rw [← hrsn, ← hsuites]; rfl, by rw [← hsuites]; rfl⟩

/-! ### WPA2 -/

/-- The suites that the RSN elements advertise, in order. -/
def rsnSuites (es : List Element) : List WifiAuthSuite := (es.filter isRsnElement).flatMap suitesOf

/-- The WPA elements advertise PSK or 802.1X. -/
def wpaOffers (es : List Element) : Bool :=
  es.any fun e => isWpaElement e && (suitesOf e).any (·.isWpa2)

/-- RSN elements are there, none with a suite that counts as WPA2, and the WPA elements answer in
their place. -/
def wpaDecides (es : List Element) : Bool :=
  es.any isRsnElement && !(rsnSuites es).any (·.isWpa2) && wpaOffers es

/-- The elements that are no WPA elements. -/
def withoutWpa (es : List Element) : List Element := es.filter fun e => !isWpaElement e

/-- The suites of the RSN elements, element by element. -/
theorem any_rsnSuites (es : List Element) (p : WifiAuthSuite → Bool) :
    (rsnSuites es).any p = es.any fun e => isRsnElement e && (suitesOf e).any p := by
  rw [rsnSuites, List.any_flatMap, List.any_filter]

/-- WPA elements, wherever they are in the buffer, add nothing to the suites of the RSN elements. -/
theorem rsnSuites_withoutWpa (es : List Element) : rsnSuites (withoutWpa es) = rsnSuites es := by
  have hfilter : ∀ e, (isRsnElement e && !isWpaElement e) = isRsnElement e := by
    intro e
    cases hrsn : isRsnElement e with
    | false => rfl
    | true => rw [not_isWpaElement hrsn, Bool.not_false, Bool.and_true]
  rw [rsnSuites, rsnSuites, withoutWpa, List.filter_filter, funext hfilter]

/-- No suite of a WPA element is taken for one of WPA3. -/
theorem wpaSuite_isWpa3 (value : UInt32) : (wpaSuite value).isWpa3 = false := by
  unfold wpaSuite
  split <;> rfl

/-- Nor is any of those that the parser of a WPA element finds. -/
theorem parseWpaIe_isWpa3 {data : List UInt8} {suites : List WifiAuthSuite}
    (h : parseWpaIe data = .ok suites) : suites.any (·.isWpa3) = false := by
  obtain ⟨_, -, h⟩ := Results.bind_eq_ok.mp h
  obtain ⟨_, -, h⟩ := Results.bind_eq_ok.mp h
  obtain ⟨_, -, h⟩ := Results.bind_eq_ok.mp h
  obtain ⟨⟨selectors, _⟩, -, h⟩ := Results.bind_eq_ok.mp h
  obtain rfl := Except.ok.inj h
  rw [List.any_map, List.any_eq_false]
  intro value _
  rw [Function.comp_apply, wpaSuite_isWpa3]
  exact Bool.false_ne_true

/-- Only RSN elements advertise WPA3. -/
theorem suitesOf_isWpa3 (e : Element) :
    (suitesOf e).any (·.isWpa3) = (isRsnElement e && (suitesOf e).any (·.isWpa3)) := by
  cases hrsn : isRsnElement e with
  | true => rfl
  | false =>
      rw [Bool.false_and, suitesOf, hrsn, if_neg Bool.false_ne_true]
      split
      · cases hparse : parseWpaIe (e.2.drop 4) with
        | error _ => rfl
        | ok suites => exact parseWpaIe_isWpa3 hparse
      · rfl

/-- Only RSN and WPA elements advertise WPA2. -/
theorem suitesOf_isWpa2 (e : Element) :
    (suitesOf e).any (·.isWpa2) = (isRsnElement e && (suitesOf e).any (·.isWpa2) ||
      isWpaElement e && (suitesOf e).any (·.isWpa2)) := by
  cases hrsn : isRsnElement e with
  | true => simp
  | false =>
      cases hwpa : isWpaElement e with
      | true => simp
      | false =>
          rw [suitesOf, hrsn, hwpa]
          rfl

/-- `wpa3` is what the RSN elements say. -/
theorem Advertises.wpa3_eq {es : List Element} {security : AccessPointSecurity}
    (h : Advertises es security) : security.wpa3 = (rsnSuites es).any (·.isWpa3) := by
  rw [h.wpa3, List.any_flatMap, any_rsnSuites]
  congr 1
  funext e
  exact suitesOf_isWpa3 e

/-- `wpa2` is what the RSN elements say, or what the WPA elements say in their place. -/
theorem Advertises.wpa2_eq {es : List Element} {security : AccessPointSecurity}
    (h : Advertises es security) :
    security.wpa2 = ((rsnSuites es).any (·.isWpa2) || wpaDecides es) := by
  have hany : (es.flatMap suitesOf).any (·.isWpa2) =
      ((rsnSuites es).any (·.isWpa2) || wpaOffers es) := by
    rw [List.any_flatMap, funext suitesOf_isWpa2, any_rsnSuites, wpaOffers, Bool.eq_iff_iff]
    simp only [Bool.or_eq_true, List.any_eq_true, and_or_left, exists_or]
  -- a suite of an RSN element needs the element
  have hrsn : (rsnSuites es).any (·.isWpa2) = true → es.any isRsnElement = true := by
    rw [any_rsnSuites, List.any_eq_true, List.any_eq_true]
    rintro ⟨e, he, hoffers⟩
    exact ⟨e, he, (Bool.and_eq_true_iff.mp hoffers).1⟩
  rw [h.wpa2, hany, wpaDecides]
  cases hoffers : (rsnSuites es).any (·.isWpa2) with
  | true => simp [hrsn hoffers]
  | false => simp

/-- **WPA2 from RSN alone.**  `wpa3` is what the suites of the RSN elements say, and so is `wpa2`
exactly if no WPA element answers in their place.  Between two buffers whose RSN elements advertise
the same suites, as those do that differ in WPA elements only, `wpa3` is the same, and `wpa2` is
exactly if WPA elements answer in both or in neither; the capabilities have no part in it. -/
theorem wpa2_of_rsn_iff {ies : List UInt8} {capability : Option UInt16}
    {security : AccessPointSecurity} (h : parseSecurity ies capability = .ok security) :
    security.wpa3 = (rsnSuites (elements ies)).any (·.isWpa3) ∧
    (security.wpa2 = (rsnSuites (elements ies)).any (·.isWpa2) ↔
      wpaDecides (elements ies) = false) ∧
    ∀ ies' capability' security', parseSecurity ies' capability' = .ok security' →
      rsnSuites (elements ies) = rsnSuites (elements ies') →
      security.wpa3 = security'.wpa3 ∧
      (security.wpa2 = security'.wpa2 ↔
        wpaDecides (elements ies) = wpaDecides (elements ies')) := by
  have hadv := parseSecurity_advertises h
  -- WPA elements answer only where the RSN elements leave it open
  have hopen : ∀ es, wpaDecides es = true → (rsnSuites es).any (·.isWpa2) = false := by
    intro es hdecides
    simp only [wpaDecides, Bool.and_eq_true, Bool.not_eq_true'] at hdecides
    exact hdecides.1.2
  refine ⟨hadv.wpa3_eq, ?_, ?_⟩
  · rw [hadv.wpa2_eq]
    cases hdecides : wpaDecides (elements ies) with
    | false => simp
    | true => simp [hopen _ hdecides]
  · intro ies' capability' security' h' hsame
    have hadv' := parseSecurity_advertises h'
    have hopen' := hopen (elements ies')
    rw [hadv.wpa3_eq, hadv'.wpa3_eq, hadv.wpa2_eq, hadv'.wpa2_eq, ← hsame]
    rw [← hsame] at hopen'
    refine ⟨rfl, ?_⟩
    cases hdecides : wpaDecides (elements ies) with
    | true => simp [hopen _ hdecides]
    | false =>
        cases hdecides' : wpaDecides (elements ies') with
        | true => simp [hopen' hdecides']
        | false => simp

/-- The RSN element of an SAE network.  Its selectors are written as they are read. -/
def saeOnly : List UInt8 :=
  element ieRsn [1, 0, 4, 0xac, 0x0f, 0, 1, 0, 4, 0xac, 0x0f, 0, 1, 0, 8, 0xac, 0x0f, 0, 0, 0]

/-- The same network with a WPA element that offers PSK. -/
def saeWithWpa : List UInt8 :=
  saeOnly ++ element ieVendor
    [0x00, 0x50, 0xf2, 1, 1, 0, 2, 0xac, 0x0f, 0, 1, 0, 2, 0xac, 0x0f, 0, 1, 0, 2, 0, 0, 0]

/-- What is read off an RSN element with SAE alone. -/
def saeOnlySecurity : AccessPointSecurity where
  wep := false
  wpa1 := false
  wpa2 := false
  wpa3 := true
  enterprise := false
  managementFrameProtection := false
  authSuites := [.rsnSae]

/-- What is read off it with a WPA element behind it. -/
def saeWithWpaSecurity : AccessPointSecurity :=
  { saeOnlySecurity with wpa1 := true, wpa2 := true, authSuites := [.rsnSae, .wpa1Psk] }

/-- The WPA element that decides `wpa2` is the one difference between the two samples. -/
theorem wpa2_of_rsn_iff_sae :
    saeWithWpaSecurity.wpa3 = (rsnSuites (elements saeWithWpa)).any (·.isWpa3) ∧
      (saeWithWpaSecurity.wpa2 = (rsnSuites (elements saeWithWpa)).any (·.isWpa2) ↔
        wpaDecides (elements saeWithWpa) = false) ∧
      saeWithWpaSecurity.wpa3 = saeOnlySecurity.wpa3 ∧
      (saeWithWpaSecurity.wpa2 = saeOnlySecurity.wpa2 ↔
        wpaDecides (elements saeWithWpa) = wpaDecides (elements saeOnly)) := by
  have h : parseSecurity saeWithWpa none = .ok saeWithWpaSecurity := by decide +kernel
  have h' : parseSecurity saeOnly none = .ok saeOnlySecurity := by decide +kernel
  -- the two samples differ in a WPA element only
  have hwpa : withoutWpa (elements saeWithWpa) = withoutWpa (elements saeOnly) := by decide +kernel
  have hsuites : rsnSuites (elements saeWithWpa) = rsnSuites (elements saeOnly) := by
    rw [← rsnSuites_withoutWpa, hwpa, rsnSuites_withoutWpa]
  obtain ⟨hwpa3, hwpa2, hpair⟩ := wpa2_of_rsn_iff h
  exact ⟨hwpa3, hwpa2, hpair saeOnly none saeOnlySecurity h' hsuites⟩

/-- The WPA element makes an SAE network a WPA2 network. -/
theorem sae_reported_as_wpa2 :
    withoutWpa (elements saeWithWpa) = withoutWpa (elements saeOnly) ∧
      rsnSuites (elements saeWithWpa) = [.rsnSae] ∧
      (parseSecurity saeOnly none).map (·.wpa2) = .ok false ∧
      (parseSecurity saeWithWpa none).map (·.wpa2) = .ok true := by
  decide +kernel

end NetworkManager.Nl80211
