import NetworkManager.Linux.Nl80211.Security

/-!
# Dbus — AccessPoint

`dbus/access_point.rs`: the flags a client sees of an access point.

* `securityFlags`: the mask behind `WpaFlags` and `RsnFlags`.
* `FlagsReflect`: each of its bits says that a suite of its class is advertised.
* `flagsReflect_iff`: they do so where all four classes are advertised, and where there is no WPA3
  and the rest is unambiguous.
-/

namespace NetworkManager.Nl80211

def nm80211ApSecKeyMgmtPsk : UInt32 := 0x100
def nm80211ApSecKeyMgmt8021x : UInt32 := 0x200
def nm80211ApSecKeyMgmtSae : UInt32 := 0x400
def nm80211ApSecKeyMgmtOwe : UInt32 := 0x800

/-- Maps the security of an access point onto the WPA/RSN flag bitmasks. -/
def securityFlags (ap : AccessPoint) : UInt32 :=
  let flags : UInt32 := 0
  let flags :=
    if ap.security.wpa2 || ap.security.wpa3 then flags ||| nm80211ApSecKeyMgmtPsk else flags
  let flags :=
    if ap.security.wpa1 || ap.security.wpa2 then flags ||| nm80211ApSecKeyMgmt8021x else flags
  if ap.security.wpa3 then flags ||| (nm80211ApSecKeyMgmtSae ||| nm80211ApSecKeyMgmtOwe) else flags

/-! ### Classes of suites -/

namespace WifiAuthSuite

/-- A pre-shared key. -/
def isPsk : WifiAuthSuite → Bool
  | .wpa1Psk | .rsnPsk | .rsnFtPsk | .rsnPskSha256 | .rsnApPsk | .rsnFtPskSha384
  | .rsnPskSha384 => true
  | _ => false

/-- The suite is one of SAE. -/
def isSae : WifiAuthSuite → Bool
  | .rsnSae | .rsnSaeFt => true
  | _ => false

/-- The suite is the one of OWE. -/
def isOwe : WifiAuthSuite → Bool
  | .rsnOwe => true
  | _ => false

end WifiAuthSuite

/-- Each bit says that a suite of its class is advertised.  (The suites of IEEE 802.1X are those
that make a network an enterprise network.) -/
structure FlagsReflect (ap : AccessPoint) : Prop where
  psk : securityFlags ap &&& nm80211ApSecKeyMgmtPsk ≠ 0 ↔ ap.security.authSuites.any (·.isPsk)
  ieee8021x : securityFlags ap &&& nm80211ApSecKeyMgmt8021x ≠ 0 ↔
    ap.security.authSuites.any (·.isEnterprise)
  sae : securityFlags ap &&& nm80211ApSecKeyMgmtSae ≠ 0 ↔ ap.security.authSuites.any (·.isSae)
  owe : securityFlags ap &&& nm80211ApSecKeyMgmtOwe ≠ 0 ↔ ap.security.authSuites.any (·.isOwe)

/-! ### The bits -/

section Bits

variable (ap : AccessPoint)

/-- The bit for a pre-shared key is the flag of WPA2 or WPA3. -/
theorem securityFlags_psk : securityFlags ap &&& nm80211ApSecKeyMgmtPsk ≠ 0 ↔
    (ap.security.wpa2 || ap.security.wpa3) = true := by
  unfold securityFlags
  cases ap.security.wpa1 <;> cases ap.security.wpa2 <;> cases ap.security.wpa3 <;> decide

/-- The bit for an enterprise login is the flag of WPA1 or WPA2. -/
theorem securityFlags_8021x : securityFlags ap &&& nm80211ApSecKeyMgmt8021x ≠ 0 ↔
    (ap.security.wpa1 || ap.security.wpa2) = true := by
  unfold securityFlags
  cases ap.security.wpa1 <;> cases ap.security.wpa2 <;> cases ap.security.wpa3 <;> decide

/-- The bit for SAE is the flag of WPA3. -/
theorem securityFlags_sae : securityFlags ap &&& nm80211ApSecKeyMgmtSae ≠ 0 ↔
    ap.security.wpa3 = true := by
  unfold securityFlags
  cases ap.security.wpa1 <;> cases ap.security.wpa2 <;> cases ap.security.wpa3 <;> decide

/-- The bit for OWE is the flag of WPA3. -/
theorem securityFlags_owe : securityFlags ap &&& nm80211ApSecKeyMgmtOwe ≠ 0 ↔
    ap.security.wpa3 = true := by
  unfold securityFlags
  cases ap.security.wpa1 <;> cases ap.security.wpa2 <;> cases ap.security.wpa3 <;> decide

end Bits

/-! ### Where the bits are right -/

/-- What the elements have to advertise for the bits to be right. -/
inductive Unambiguous (es : List Element) : Prop
  /-- Every class is advertised, and every bit is set. -/
  | all (hpsk : (es.flatMap suitesOf).any (·.isPsk))
      (hieee8021x : (es.flatMap suitesOf).any (·.isEnterprise))
      (hsae : (es.flatMap suitesOf).any (·.isSae)) (howe : (es.flatMap suitesOf).any (·.isOwe))
  /-- No suite counts as WPA3, and an RSN element makes the network a WPA2 network. -/
  | wpa2 (hwpa3 : ¬ (es.flatMap suitesOf).any (·.isWpa3)) (hrsn : es.any isRsnElement)
      (hpsk : (es.flatMap suitesOf).any (·.isPsk))
      (hieee8021x : (es.flatMap suitesOf).any (·.isEnterprise))
  /-- No suite counts as WPA3 or makes the network a WPA2 network, and the WPA elements, if there
  are any, advertise 802.1X. -/
  | wpa1 (hwpa3 : ¬ (es.flatMap suitesOf).any (·.isWpa3))
      (hwpa2 : ¬ (es.any isRsnElement ∧ (es.flatMap suitesOf).any (·.isWpa2)))
      (hpsk : ¬ (es.flatMap suitesOf).any (·.isPsk))
      (hwpa : es.any isWpaElement ↔ (es.flatMap suitesOf).any (·.isEnterprise))

theorem any_mono {α : Type} {p q : α → Bool} (h : ∀ a, p a = true → q a = true) {l : List α}
    (hl : l.any p = true) : l.any q = true := by
  obtain ⟨a, ha, hp⟩ := List.any_eq_true.mp hl
  exact List.any_eq_true.mpr ⟨a, ha, h a hp⟩

/-- A pre-shared key makes a network of WPA2. -/
theorem isWpa2_of_isPsk : ∀ s : WifiAuthSuite, s.isPsk = true → s.isWpa2 = true := by
  rintro (_ | _) <;> simp [WifiAuthSuite.isPsk, WifiAuthSuite.isWpa2]

/-- SAE makes a network of WPA3. -/
theorem isWpa3_of_isSae : ∀ s : WifiAuthSuite, s.isSae = true → s.isWpa3 = true := by
  rintro (_ | _) <;> simp [WifiAuthSuite.isSae, WifiAuthSuite.isWpa3]

/-- OWE makes a network of WPA3. -/
theorem isWpa3_of_isOwe : ∀ s : WifiAuthSuite, s.isOwe = true → s.isWpa3 = true := by
  rintro (_ | _) <;> simp [WifiAuthSuite.isOwe, WifiAuthSuite.isWpa3]

/-- A suite of WPA3 takes an RSN element. -/
theorem any_isRsnElement_of_isWpa3 {es : List Element}
    (h : (es.flatMap suitesOf).any (·.isWpa3) = true) : es.any isRsnElement = true := by
  rw [List.any_flatMap, funext suitesOf_isWpa3] at h
  exact any_mono (fun e he => (Bool.and_eq_true_iff.mp he).1) h

/-- The flags reflect the suites exactly if each bit does. -/
theorem flagsReflect_bits (ap : AccessPoint) : FlagsReflect ap ↔
    ((ap.security.wpa2 || ap.security.wpa3) = true ↔ ap.security.authSuites.any (·.isPsk)) ∧
    ((ap.security.wpa1 || ap.security.wpa2) = true ↔
      ap.security.authSuites.any (·.isEnterprise)) ∧
    (ap.security.wpa3 = true ↔ ap.security.authSuites.any (·.isSae)) ∧
    (ap.security.wpa3 = true ↔ ap.security.authSuites.any (·.isOwe)) := by
  rw [← securityFlags_psk, ← securityFlags_8021x, ← securityFlags_sae]
  constructor
  · rintro ⟨hpsk, hx, hsae, howe⟩
    exact ⟨hpsk, hx, hsae, by rw [securityFlags_sae, ← securityFlags_owe]; exact howe⟩
  · rintro ⟨hpsk, hx, hsae, howe⟩
    exact ⟨hpsk, hx, hsae, by rw [securityFlags_owe, ← securityFlags_sae]; exact howe⟩

/-- **The flags reflect the suites** where nothing is ambiguous, and only there. -/
theorem flagsReflect_iff {ies : List UInt8} {capability : Option UInt16} {ap : AccessPoint}
    (h : parseSecurity ies capability = .ok ap.security) :
    FlagsReflect ap ↔ Unambiguous (elements ies) := by
  obtain ⟨hsuites, hwpa1, hwpa2, hwpa3⟩ := parseSecurity_advertises h
  have hpsk : ((elements ies).flatMap suitesOf).any (·.isPsk) = true →
      ((elements ies).flatMap suitesOf).any (·.isWpa2) = true := any_mono isWpa2_of_isPsk
  have hsae : ((elements ies).flatMap suitesOf).any (·.isSae) = true →
      ((elements ies).flatMap suitesOf).any (·.isWpa3) = true := any_mono isWpa3_of_isSae
  have howe : ((elements ies).flatMap suitesOf).any (·.isOwe) = true →
      ((elements ies).flatMap suitesOf).any (·.isWpa3) = true := any_mono isWpa3_of_isOwe
  have hrsn : ((elements ies).flatMap suitesOf).any (·.isWpa3) = true →
      (elements ies).any isRsnElement = true := any_isRsnElement_of_isWpa3
  rw [flagsReflect_bits, hsuites, hwpa1, hwpa2, hwpa3]
  constructor
  -- which of the three cases it is depends on whether a suite is of WPA3, or else of WPA2
  · rintro ⟨hpskBit, hxBit, hsaeBit, howeBit⟩
    by_cases hwpa3 : ((elements ies).flatMap suitesOf).any (·.isWpa3) = true
    · have hset := hpskBit.mp (by rw [hwpa3, Bool.or_true])
      refine .all hset (hxBit.mp ?_) (hsaeBit.mp hwpa3) (howeBit.mp hwpa3)
      rw [hrsn hwpa3, hpsk hset, Bool.and_self, Bool.or_true]
    · by_cases hwpa2 : (elements ies).any isRsnElement = true ∧
          ((elements ies).flatMap suitesOf).any (·.isWpa2) = true
      · have hand := Bool.and_eq_true_iff.mpr hwpa2
        exact .wpa2 hwpa3 hwpa2.1 (hpskBit.mp (by rw [hand, Bool.true_or]))
          (hxBit.mp (by rw [hand, Bool.or_true]))
      · have hand := Bool.eq_false_iff.mpr (mt Bool.and_eq_true_iff.mp hwpa2)
        rw [hand, Bool.false_or] at hpskBit
        rw [hand, Bool.or_false] at hxBit
        exact .wpa1 hwpa3 hwpa2 (mt hpskBit.mpr hwpa3) hxBit
  · rintro (⟨hset, hx, hsaeSet, howeSet⟩ | ⟨hno, hrsnSet, hset, hx⟩ | ⟨hno, hwpa2, hset, hwpa⟩)
    · have hwpa3 := hsae hsaeSet
      have hand : ((elements ies).any isRsnElement &&
          ((elements ies).flatMap suitesOf).any (·.isWpa2)) = true := by
        rw [hrsn hwpa3, hpsk hset, Bool.and_self]
      simp only [hand, hwpa3, hset, hx, hsaeSet, howeSet, Bool.or_true, and_self]
    · have hand : ((elements ies).any isRsnElement &&
          ((elements ies).flatMap suitesOf).any (·.isWpa2)) = true := by
        rw [hrsnSet, hpsk hset, Bool.and_self]
      simp only [hand, hset, hx, Bool.or_true, Bool.true_or, iff_false_intro hno,
        iff_false_intro (mt hsae hno), iff_false_intro (mt howe hno), and_self]
    · have hand := Bool.eq_false_iff.mpr (mt Bool.and_eq_true_iff.mp hwpa2)
      simp only [hand, Bool.or_false, Bool.false_or, hwpa, iff_false_intro hno,
        iff_false_intro hset, iff_false_intro (mt hsae hno), iff_false_intro (mt howe hno),
        and_self]

/-- The RSN element of a WPA2-PSK network.  Its selectors are written as they are read. -/
def pskNetwork : List UInt8 :=
  element ieRsn [1, 0, 4, 0xac, 0x0f, 0, 1, 0, 4, 0xac, 0x0f, 0, 1, 0, 2, 0xac, 0x0f, 0, 0, 0]

/-- An access point of WPA2 with a pre-shared key. -/
def pskPoint : AccessPoint where
  bssid := none
  ssid := none
  frequency := none
  channel := none
  signalDbm := none
  signalUnspecified := none
  capability := none
  security :=
    { wep := false, wpa1 := false, wpa2 := true, wpa3 := false, enterprise := false
      managementFrameProtection := false, authSuites := [.rsnPsk] }
  seenMillisAgo := none

/-- The flags of a WPA2-PSK network reflect it. -/
theorem flagsReflect_iff_psk : FlagsReflect pskPoint ↔ Unambiguous (elements pskNetwork) :=
  have h : parseSecurity pskNetwork none = .ok pskPoint.security := by decide +kernel
  flagsReflect_iff h

/-- A client is told that the network needs 802.1X. -/
theorem psk_reported_as_8021x :
    parseSecurity pskNetwork pskPoint.capability = .ok pskPoint.security ∧
      securityFlags pskPoint &&& nm80211ApSecKeyMgmt8021x ≠ 0 ∧
      pskPoint.security.authSuites.any (·.isEnterprise) = false := by
  decide +kernel

end NetworkManager.Nl80211
