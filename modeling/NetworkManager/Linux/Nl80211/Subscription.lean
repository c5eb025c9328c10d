import NetworkManager.Linux.Nl80211

/-!
# Linux — Nl80211 — Subscription

Which multicast groups the socket of `Nl80211Connection::open` is subscribed to.

* `groupSelected`: a group is selected by the bit below its id.
* `scan_subscribed_iff`: the id of the group is bound as if it were the mask, so the socket is
  subscribed to the group alone if the id is 1 or 2 only.
-/

namespace NetworkManager.Nl80211

open Records Octets Layout Netlink

/-- Bit `g - 1` of `nl_groups` selects group `g`. -/
def groupSelected (groups : UInt32) (g : ℕ) : Bool := groups.toNat.testBit (g - 1)

/-- The mask selects the one group, of all that a mask can select. -/
def SelectsOnly (groups : UInt32) (g : ℕ) : Prop :=
  ∀ n, 1 ≤ n → n ≤ 32 → (groupSelected groups n = true ↔ n = g)

/-- A power of two selects one group. -/
theorem selectsOnly_of_eq_two_pow {groups : UInt32} {g : ℕ} (hg : 1 ≤ g)
    (h : groups.toNat = 2 ^ (g - 1)) : SelectsOnly groups g := by
  intro n hn _
  rw [groupSelected, h, Nat.testBit_two_pow, decide_eq_true_iff]
  omega

/-- An id is the mask of its group if it is 1 or 2. -/
theorem selectsOnly_self_iff {g : UInt32} (hpos : 1 ≤ g.toNat) (hle : g.toNat ≤ 32) :
    SelectsOnly g g.toNat ↔ g = 1 ∨ g = 2 := by
  constructor
  · intro h
    have hselected : groupSelected g g.toNat = true := (h g.toNat hpos hle).mpr rfl
    have hpow : 2 ^ (g.toNat - 1) ≤ g.toNat := Nat.ge_two_pow_of_testBit hselected
    have hsmall : g.toNat ≤ 2 := by
      by_contra hlarge
      obtain ⟨k, hk⟩ : ∃ k, g.toNat = k + 3 := ⟨g.toNat - 3, by omega⟩
      have hlt : k + 1 < 2 ^ (k + 1) := Nat.lt_two_pow_self
      have hdouble : 2 ^ (k + 2) = 2 ^ (k + 1) * 2 := pow_succ 2 (k + 1)
      rw [hk] at hpow
      have hle : 2 ^ (k + 2) ≤ k + 3 := hpow
      omega
    rw [← UInt32.toNat_inj, ← UInt32.toNat_inj]
    show g.toNat = 1 ∨ g.toNat = 2
    omega
  · rintro (rfl | rfl)
    · exact selectsOnly_of_eq_two_pow (by decide) rfl
    · exact selectsOnly_of_eq_two_pow (by decide) rfl

variable [Native]

/-- **The scan group.**  If the family that the controller reports has a group named `scan` with an
id that a mask can select, the socket is bound to that group alone exactly if the id is 1 or 2. -/
theorem scan_subscribed_iff {controller : Socket} {family : FamilyInfo} {inbox : Inbox}
    (hfamily : resolveNl80211Family controller = some (.ok family, inbox)) {g : UInt32}
    (hscan : (family.mcastGroups.find? fun group => group.1 == "scan") = some ("scan", g))
    (hpos : 1 ≤ g.toNat) (hle : g.toNat ≤ 32) :
    ∃ groups, Nl80211Connection.openGroups controller = some (.ok groups, inbox) ∧
      (SelectsOnly groups g.toNat ↔ g = 1 ∨ g = 2) := by
  have hgroups : scanGroups family = g := by rw [scanGroups, hscan]; rfl
  refine ⟨g, ?_, selectsOnly_self_iff hpos hle⟩
  rw [Nl80211Connection.openGroups, hfamily, ← hgroups]
  rfl

/-- The controller's answer, with the groups `config` and `scan`. -/
def familyReply (configId scanId : UInt32) : List UInt8 :=
  let group (id : UInt32) (name : List UInt8) : List UInt8 :=
    appendAttr (appendAttr [] ctrlAttrMcastGrpId (native 4 id.toNat)) ctrlAttrMcastGrpName name
  let groups := appendAttr (appendAttr [] 1 (group configId [99, 111, 110, 102, 105, 103, 0])) 2
    (group scanId [115, 99, 97, 110, 0])
  buildMessage genlIdCtrl 1 0 1 [(ctrlAttrFamilyName, [110, 108, 56, 48, 50, 49, 49, 0]),
    (ctrlAttrFamilyId, native 2 0x1c), (ctrlAttrMcastGroups, groups)]

/-- A controller with this answer. -/
def controllerWith (configId scanId : UInt32) : Socket where
  send := fun _ => .ok ()
  inbox := [.ok (familyReply configId scanId)]

omit [Native] in
/-- A scan group with id 5, where the condition does not hold. -/
theorem scan_subscribed_iff_five :
    let _ : Native := littleMachine
    ∃ groups, Nl80211Connection.openGroups (controllerWith 4 5) = some (.ok groups, []) ∧
      (SelectsOnly groups 5 ↔ (5 : UInt32) = 1 ∨ (5 : UInt32) = 2) := by
  intro machine
  have hfamily : resolveNl80211Family (controllerWith 4 5) =
      some (.ok { id := 0x1c, mcastGroups := [("config", 4), ("scan", 5)] }, []) := by
    decide +kernel
  exact scan_subscribed_iff hfamily (g := 5) rfl (by decide) (by decide)

omit [Native] in
/-- With the id 5, the socket is subscribed to the groups 1 and 3, and not to `scan`. -/
theorem scan_five_not_subscribed :
    let _ : Native := littleMachine
    Nl80211Connection.openGroups (controllerWith 4 5) = some (.ok 5, []) ∧
      groupSelected 5 1 = true ∧ groupSelected 5 3 = true ∧ groupSelected 5 5 = false := by
  decide +kernel

end NetworkManager.Nl80211
