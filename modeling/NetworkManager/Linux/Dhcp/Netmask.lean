import NetworkManager.Linux.Dhcp.Packet

/-!
# Linux — Dhcp — Netmask

The prefix length of a lease, and the netmask it comes from.

* `leadingOnes32`: the leading ones of the mask as one number.
* `prefixLengthFromNetmask_eq_iff`: the code adds up the leading ones of the octets, which is the
  same if no octet has any behind the first that is not all ones.
* `lease_prefix_iff`: the same of a lease.
-/

namespace NetworkManager

open DhcpPacket

/-- The number of leading ones of a mask. -/
def leadingOnes32 (netmask : Ipv4Addr) : ℕ :=
  ((List.range 32).takeWhile fun i => netmask.getMsbD i).length

/-- `subnet_mask`: the mask for a prefix length. -/
def subnetMask (prefixLength : UInt8) : Ipv4Addr :=
  if prefixLength = 0 then 0 else BitVec.allOnes 32 <<< (32 - min prefixLength.toNat 32)

/-- All ones are in front of all zeros. -/
def Contiguous (netmask : Ipv4Addr) : Prop := ∃ n : UInt8, n ≤ 32 ∧ netmask = subnetMask n

/-- Behind the first octet that is not all ones, no octet starts with a one. -/
def OneRun : List UInt8 → Prop
  | [] => True
  | b :: bytes => if b = 255 then OneRun bytes else ∀ c ∈ bytes, c < 128

/-! ### Octets -/

/-- The bits of an octet, most significant first. -/
def bits (b : UInt8) : List Bool := (List.range 8).map fun i => b.toBitVec.getMsbD i

/-- The leading ones of an octet are its first bits that are set. -/
theorem toNat_leadingOnes (b : UInt8) :
    (leadingOnes b).toNat = ((bits b).takeWhile id).length := by
  revert b
  refine Octets.forall_octet ?_
  decide +kernel

theorem leadingOnes_le (b : UInt8) : (leadingOnes b).toNat ≤ 8 := by
  revert b
  refine Octets.forall_octet ?_
  decide +kernel

/-- An octet has no leading one exactly if it is below 128. -/
theorem leadingOnes_eq_zero_iff (b : UInt8) : (leadingOnes b).toNat = 0 ↔ b < 128 := by
  revert b
  refine Octets.forall_octet ?_
  decide +kernel

/-- An octet has eight leading ones exactly if it is full. -/
theorem leadingOnes_eq_eight_iff (b : UInt8) : (leadingOnes b).toNat = 8 ↔ b = 255 := by
  revert b
  refine Octets.forall_octet ?_
  decide +kernel

/-! ### Counting -/

/-- The leading ones of some octets, one after another. -/
def runLength (bytes : List UInt8) : ℕ := ((bytes.flatMap bits).takeWhile id).length

/-- A run goes on behind a full octet only. -/
theorem runLength_cons (b : UInt8) (bytes : List UInt8) : runLength (b :: bytes) =
    if b = 255 then 8 + runLength bytes else (leadingOnes b).toNat := by
  have hlength : (bits b).length = 8 := by rw [bits, List.length_map, List.length_range]
  rw [runLength, List.flatMap_cons, List.takeWhile_append, hlength, ← toNat_leadingOnes]
  simp only [leadingOnes_eq_eight_iff]
  split
  · rw [List.length_append, hlength, runLength]
  · rw [toNat_leadingOnes]

/-- The sum over the octets is the run if no further run starts. -/
theorem sum_eq_runLength_iff (bytes : List UInt8) :
    (bytes.map fun b => (leadingOnes b).toNat).sum = runLength bytes ↔ OneRun bytes := by
  induction bytes with
  | nil => exact iff_of_true rfl trivial
  | cons b bytes ih =>
      rw [List.map_cons, List.sum_cons, runLength_cons, OneRun]
      split
      · rename_i h
        rw [(leadingOnes_eq_eight_iff b).mpr h, Nat.add_left_cancel_iff]
        exact ih
      · rw [Nat.add_eq_left, List.sum_eq_zero_iff]
        simp only [List.mem_map, forall_exists_index, and_imp, forall_apply_eq_imp_iff₂,
          leadingOnes_eq_zero_iff]

/-- An octet of a mask has eight of its bits. -/
theorem bits_extract (netmask : Ipv4Addr) {k : ℕ} (hk : k ≤ 3) :
    bits (UInt8.ofBitVec (netmask.extractLsb' (24 - 8 * k) 8)) =
      (List.range 8).map fun i => netmask.getMsbD (8 * k + i) := by
  rw [bits]
  refine List.map_congr_left fun i hi => ?_
  have hi : i < 8 := List.mem_range.mp hi
  have hindex : 24 - 8 * k + (8 - 1 - i) = 32 - 1 - (8 * k + i) := by omega
  have hlt : 8 * k + i < 32 := by omega
  simp only [BitVec.getMsbD_eq_getLsbD, BitVec.getLsbD_extractLsb', hindex, hi, hlt,
    decide_true, Bool.true_and]
  rw [decide_eq_true (by omega), Bool.true_and]

/-- The leading ones of a netmask are the run of its octets. -/
theorem leadingOnes32_eq (netmask : Ipv4Addr) :
    leadingOnes32 netmask = runLength netmask.octets.toList := by
  -- the bits of the netmask are those of its four octets in turn
  have hbits : (List.range 32).map (fun i => netmask.getMsbD i) =
      netmask.octets.toList.flatMap bits := by
    have h₀ := bits_extract netmask (Nat.zero_le 3)
    have h₁ := bits_extract netmask (k := 1) (by decide)
    have h₂ := bits_extract netmask (k := 2) (by decide)
    have h₃ := bits_extract netmask (k := 3) (by decide)
    show _ = bits (UInt8.ofBitVec (netmask.extractLsb' (24 - 8 * 0) 8)) ++
      (bits (UInt8.ofBitVec (netmask.extractLsb' 16 8)) ++
        (bits (UInt8.ofBitVec (netmask.extractLsb' 8 8)) ++
          (bits (UInt8.ofBitVec (netmask.extractLsb' 0 8)) ++ [])))
    rw [h₀, h₁, h₂, h₃]
    rfl
  rw [leadingOnes32, runLength, ← hbits, List.takeWhile_map, List.length_map]
  rfl

/-- Nothing overflows in the sum. -/
theorem toNat_prefixLengthFromNetmask (netmask : Ipv4Addr) :
    (prefixLengthFromNetmask netmask).toNat =
      (netmask.octets.toList.map fun b => (leadingOnes b).toNat).sum := by
  obtain ⟨bytes, hlength⟩ : ∃ bytes, bytes = netmask.octets.toList := ⟨_, rfl⟩
  have hfour : bytes.length = 4 := hlength ▸ netmask.octets.toList_length
  rw [prefixLengthFromNetmask, ← hlength]
  obtain ⟨a, b, c, d, rfl⟩ := List.length_eq_four.mp hfour
  -- each octet adds at most eight, so the sum stays below 256
  have ha := leadingOnes_le a
  have hb := leadingOnes_le b
  have hc := leadingOnes_le c
  have hd := leadingOnes_le d
  simp only [List.foldl_cons, List.foldl_nil, UInt8.toNat_add, List.map_cons, List.map_nil,
    List.sum_cons, List.sum_nil, UInt8.toNat_zero]
  omega

/-- **The count is the run** if no octet starts a further run. -/
theorem prefixLengthFromNetmask_eq_iff (netmask : Ipv4Addr) :
    (prefixLengthFromNetmask netmask).toNat = leadingOnes32 netmask ↔
      OneRun netmask.octets.toList := by
  rw [toNat_prefixLengthFromNetmask, leadingOnes32_eq, sum_eq_runLength_iff]

/-- A prefix is at most 32. -/
theorem prefixLengthFromNetmask_le (netmask : Ipv4Addr) : prefixLengthFromNetmask netmask ≤ 32 := by
  have hsum := toNat_prefixLengthFromNetmask netmask
  have hle : ∀ bytes : List UInt8,
      (bytes.map fun b => (leadingOnes b).toNat).sum ≤ bytes.length * 8 := by
    intro bytes
    induction bytes with
    | nil => exact Nat.le_refl 0
    | cons b bytes ih =>
        have hb := leadingOnes_le b
        rw [List.map_cons, List.sum_cons, List.length_cons]
        omega
  have hfour := hle netmask.octets.toList
  rw [List.Vector.toList_length] at hfour
  exact UInt8.le_iff_toNat_le.mpr (hsum ▸ hfour)

/-- The prefix of a subnet mask is read back. -/
theorem prefixLengthFromNetmask_subnetMask {n : UInt8} (h : n ≤ 32) :
    prefixLengthFromNetmask (subnetMask n) = n := by
  have hall : ∀ n : UInt8, n ≤ 32 → prefixLengthFromNetmask (subnetMask n) = n := by
    -- there are few prefixes, and each is computed
    refine Octets.forall_octet ?_
    decide +kernel
  exact hall n h

/-- The classful defaults are whole octets of ones. -/
theorem oneRun_defaultNetmask (address : Ipv4Addr) :
    OneRun (defaultNetmask address).octets.toList := by
  unfold defaultNetmask
  split
  · rw [Ipv4Addr.octets_new]
    simp [OneRun]
  · split
    · rw [Ipv4Addr.octets_new]
      simp [OneRun]
    · rw [Ipv4Addr.octets_new]
      simp [OneRun]

/-! ### Leases -/

/-- **The prefix of a lease.**  It is at most 32, a contiguous netmask is rendered back from it,
and it counts the leading ones of the netmask exactly if no octet starts a further run. -/
theorem lease_prefix_iff {p : DhcpPacket} {interfaceIndex : Int32} {interfaceName : String}
    {mac : MacAddress} {lease : DhcpLease}
    (h : p.toLease interfaceIndex interfaceName mac = .ok lease) :
    lease.prefixLength ≤ 32 ∧
    (Contiguous lease.netmask → subnetMask lease.prefixLength = lease.netmask) ∧
    (lease.prefixLength.toNat = leadingOnes32 lease.netmask ↔
      OneRun lease.netmask.octets.toList) ∧
    (p.subnetMask = none → OneRun lease.netmask.octets.toList) := by
  obtain ⟨hbits, address, hnetmask⟩ :
      lease.prefixLength = prefixLengthFromNetmask lease.netmask ∧
        ∃ address, lease.netmask = p.subnetMask.getD (defaultNetmask address) := by
    rw [toLease] at h
    split at h
    · cases h
    · split at h
      · cases h
      · cases h
        exact ⟨rfl, _, rfl⟩
  rw [hbits]
  refine ⟨prefixLengthFromNetmask_le _, ?_, prefixLengthFromNetmask_eq_iff _, fun hnone => ?_⟩
  · rintro ⟨n, hn, hmask⟩
    rw [hmask, prefixLengthFromNetmask_subnetMask hn]
  · rw [hnetmask, hnone]
    exact oneRun_defaultNetmask address

/-- An acknowledgement of `10.0.0.5` with this netmask. -/
def ackWithNetmask (netmask : Ipv4Addr) : DhcpPacket :=
  reply .ack 7 (zeros 6) (.new 10 0 0 5) [(optionSubnetMask, netmask.octets.toList)]

/-- A netmask of twenty bits. -/
theorem lease_prefix_iff_twenty :
    ∃ lease, (ackWithNetmask (.new 255 255 240 0)).toLease 3 "eth0" (zeros 6) = .ok lease ∧
      (lease.prefixLength.toNat = leadingOnes32 lease.netmask ↔
        OneRun lease.netmask.octets.toList) := by
  have haddress : (ackWithNetmask (.new 255 255 240 0)).yourAddress ≠ none := by decide +kernel
  have hmac : (ackWithNetmask (.new 255 255 240 0)).hardwareAddress = zeros 6 := by
    decide +kernel
  obtain ⟨lease, hlease⟩ := exists_toLease haddress hmac 3 "eth0"
  exact ⟨lease, hlease, (lease_prefix_iff hlease).2.2.1⟩

/-- A mask of two runs of eight ones gives the prefix length 16. -/
theorem two_runs_counted :
    ((ackWithNetmask (.new 255 0 255 0)).toLease 3 "eth0" (zeros 6)).map (fun lease =>
      (lease.prefixLength.toNat, leadingOnes32 lease.netmask)) = .ok (16, 8) := by
  decide +kernel

end NetworkManager
