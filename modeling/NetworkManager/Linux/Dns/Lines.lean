import NetworkManager.Linux.Dns.Ownership
import NetworkManager.Linux.Dhcp.Packet

/-!
# Linux — Dns — Lines

The lines of the file that `apply` writes for a DHCP lease.

* `FromLease`: the sentinel, at most one search line with the domain, and the servers.
* `lease_lines_iff`: so it is exactly if option 15 has no line feed in its middle.
-/

namespace NetworkManager

open Effects ResolvHost

/-! ### Addresses as texts -/

/-- `Display` of an IPv4 address. -/
def Ipv4Addr.display (a : Ipv4Addr) : List Char :=
  ['.'].intercalate (a.octets.toList.map fun b => Nat.toDigits 10 b.toNat)

/-- `Display` of an address; that of an IPv6 address is `displayV6`. -/
def IpAddr.display (displayV6 : Ipv6Addr → String) : IpAddr → String
  | .v4 a => String.ofList a.display
  | .v6 a => displayV6 a

/-- The text of an IPv4 address is one line. -/
theorem Ipv4Addr.newline_not_mem_display (a : Ipv4Addr) : '\n' ∉ a.display := by
  refine Text.not_mem_intercalate ?_ (by decide)
  intro part hpart hnl
  obtain ⟨b, -, rfl⟩ := List.mem_map.mp hpart
  exact absurd (Nat.isDigit_of_mem_toDigits (by decide) (by decide) hnl) (by decide)

/-! ### The file of a lease -/

/-- The DNS configuration that `activate_ipv4` builds from a lease. -/
def DhcpLease.dnsConfig (lease : DhcpLease) : DnsConfig where
  searchDomains := lease.searchDomains
  servers := lease.dnsServers.map .v4

/-- An automatic section hands on the DNS configuration of its lease. -/
theorem activateIpv4_automatic {W : Type} (engine : LinuxIpEngine W) (interfaceIndex : Int32)
    (interfaceName : String) {ipv4 : IpConfig} (hmethod : ipv4.method = .automatic)
    (dnsOwner : String) :
    engine.activateIpv4 interfaceIndex interfaceName ipv4 dnsOwner = (do
      let lease ← Call.run (EStateM.adaptExcept .dhcp (engine.dhcp.acquire
        ⟨interfaceIndex, interfaceName, none, none, 0⟩))
      engine.installIpv4 interfaceIndex dnsOwner
        ⟨lease.address, lease.prefixLength, lease.gateway⟩ (ipv4StaticRoutes ipv4) lease.dnsConfig
        .automaticDhcp (some lease)) := by
  rw [LinuxIpEngine.activateIpv4, hmethod]
  rfl

/-- The line of a search domain. -/
def searchLine (text : String) : List Char := "search ".toList ++ text.toList

/-- The line of a server. -/
def serverLine (server : Ipv4Addr) : List Char := "nameserver ".toList ++ server.display

/-- The text is the sentinel, at most one search line with the domain name of the packet, and the
servers of the packet; nothing comes after the last line feed. -/
def FromLease (owner : String) (p : DhcpPacket) (content : String) : Prop :=
  ∃ search : List (List Char), search.length ≤ 1 ∧
    (∀ line ∈ search, ∃ text, p.domainName = some text ∧ line = searchLine text) ∧
    content.toList.splitOn '\n' =
      (LinuxDnsManager.sentinelPrefix ++ owner.toList).splitOn '\n' ++
        (search ++ (p.dnsServers.map serverLine ++ [[]]))

/-- A line feed of the option with text before and behind it. -/
def InnerLineFeed (bytes : List UInt8) : Prop :=
  ∃ pre post, Text.fromUtf8Lossy (bytes.takeWhile (· ≠ 0)) = pre ++ '\n' :: post ∧
    (∃ c ∈ pre, Text.isWhitespace c = false) ∧ ∃ c ∈ post, Text.isWhitespace c = false

section

variable {p : DhcpPacket} {displayV6 : Ipv6Addr → String} {owner : String}

theorem isWhitespace_newline : Text.isWhitespace '\n' := by decide

/-- The domain name spans lines where the option has an inner line feed. -/
theorem newline_mem_domainName : (∃ text, p.domainName = some text ∧ '\n' ∈ text.toList) ↔
    ∃ bytes, p.getOption DhcpPacket.optionDomainName = some bytes ∧ InnerLineFeed bytes := by
  rw [DhcpPacket.domainName, DhcpPacket.stringOption]
  cases p.getOption DhcpPacket.optionDomainName with
  | none => simp
  | some bytes =>
      simp only [Option.map_some, Option.some.injEq, exists_eq_left', String.toList_ofList,
        Text.mem_trim isWhitespace_newline, InnerLineFeed]

/-- A server is one line. -/
theorem newline_not_mem_serverLine (server : Ipv4Addr) : '\n' ∉ serverLine server := by
  have hdirective : ("nameserver ".toList.all (· != '\n')) = true := rfl
  unfold serverLine
  rw [List.mem_append, not_or]
  refine ⟨fun h => ?_, server.newline_not_mem_display⟩
  simpa using List.all_eq_true.mp hdirective _ h

/-- What `serialize` writes for the servers. -/
theorem servers_flatMap (displayV6 : Ipv6Addr → String) (servers : List Ipv4Addr) :
    ((servers.map IpAddr.v4).flatMap fun server : IpAddr =>
      "nameserver ".toList ++ (IpAddr.display displayV6 server).toList ++ ['\n']) =
    (servers.map serverLine).flatMap (· ++ ['\n']) := by
  unfold serverLine
  rw [List.flatMap_map, List.flatMap_map]
  simp only [IpAddr.display, String.toList_ofList]

/-- The lines of the search directive, as they are written. -/
def searchLines (p : DhcpPacket) : List (List Char) :=
  p.domainName.elim [] fun text => (searchLine text).splitOn '\n'

/-- The lines of the configuration. -/
theorem serialize_splitOn {lease : DhcpLease} (hdomains : lease.searchDomains = p.domainName.toList)
    (hservers : lease.dnsServers = p.dnsServers) :
    (LinuxDnsManager.serialize (IpAddr.display displayV6) lease.dnsConfig).splitOn '\n' =
      searchLines p ++ (p.dnsServers.map serverLine ++ [[]]) := by
  have hlines : ∀ line ∈ p.dnsServers.map serverLine, '\n' ∉ line := by
    intro line hline
    obtain ⟨server, -, rfl⟩ := List.mem_map.mp hline
    exact newline_not_mem_serverLine server
  unfold LinuxDnsManager.serialize searchLines searchLine
  rw [DhcpLease.dnsConfig, hdomains, hservers, servers_flatMap, ← Text.splitOn_flatMap hlines]
  cases p.domainName with
  | none =>
      simp only [Option.toList_none, List.isEmpty_nil, if_true, Option.elim_none, List.nil_append]
  | some text =>
      have hsingle : " ".intercalate [text] = text := by simp
      simp only [Option.toList_some, List.isEmpty_cons, Option.elim_some, Bool.false_eq_true,
        if_false, hsingle]
      rw [← List.splitOn_append_cons_self]
      simp only [List.append_assoc, List.singleton_append]

/-- The lines of the file: the owner, and then the configuration. -/
theorem marked_splitOn {lease : DhcpLease} (hdomains : lease.searchDomains = p.domainName.toList)
    (hservers : lease.dnsServers = p.dnsServers) :
    (LinuxDnsManager.marked (IpAddr.display displayV6) owner lease.dnsConfig).toList.splitOn '\n' =
      (LinuxDnsManager.sentinelPrefix ++ owner.toList).splitOn '\n' ++
        (searchLines p ++ (p.dnsServers.map serverLine ++ [[]])) := by
  rw [LinuxDnsManager.marked, String.toList_ofList, List.splitOn_append_cons_self,
    serialize_splitOn hdomains hservers]

/-- At most one search line, exactly if the domain name is on one line. -/
theorem searchLines_short : (searchLines p).length ≤ 1 ↔
    ¬ ∃ text, p.domainName = some text ∧ '\n' ∈ text.toList := by
  unfold searchLines searchLine
  cases p.domainName with
  | none => simp
  | some text =>
      rw [Option.elim_some, Text.length_splitOn_le_one, List.mem_append, not_or]
      simp

/-- **The file is from the lease** exactly if the domain has no line break. -/
theorem fromLease_iff {lease : DhcpLease} (hdomains : lease.searchDomains = p.domainName.toList)
    (hservers : lease.dnsServers = p.dnsServers) :
    FromLease owner p (LinuxDnsManager.marked (IpAddr.display displayV6) owner lease.dnsConfig) ↔
      ¬ ∃ text, p.domainName = some text ∧ '\n' ∈ text.toList := by
  rw [FromLease, marked_splitOn hdomains hservers, ← searchLines_short]
  constructor
  · rintro ⟨search, hlength, -, hlines⟩
    rw [List.append_right_inj, List.append_left_inj] at hlines
    rwa [hlines]
  · intro hshort
    refine ⟨searchLines p, hshort, fun line hline => ?_, rfl⟩
    unfold searchLines at hshort hline
    cases hname : p.domainName with
    | none =>
        rw [hname] at hline
        cases hline
    | some text =>
        rw [hname, Option.elim_some] at hshort hline
        rw [List.splitOn_eq_singleton (Text.length_splitOn_le_one.mp hshort)] at hline
        exact ⟨text, rfl, List.mem_singleton.mp hline⟩

end

/-- **The lines of a lease.**  The file that is written for a lease is as it should be exactly if
the domain name option has no line feed between other text. -/
theorem lease_lines_iff (p : DhcpPacket) (interfaceIndex : Int32) (interfaceName : String)
    (mac : MacAddress) (lease : DhcpLease) (path owner : String) (displayV6 : Ipv6Addr → String)
    (h h' : ResolvHost) (handle : DnsOwnership)
    (hlease : p.toLease interfaceIndex interfaceName mac = .ok lease)
    (happly : LinuxDnsManager.apply (managedFile path) (IpAddr.display displayV6) owner
      lease.dnsConfig h = .ok handle h') :
    (∃ content, h'.resolvConf = .text content ∧ FromLease owner p content) ↔
      ∀ bytes, p.getOption DhcpPacket.optionDomainName = some bytes → ¬ InnerLineFeed bytes := by
  obtain ⟨-, -, hdomains, hservers⟩ := DhcpPacket.toLease_eq_ok hlease
  obtain ⟨-, -, hconf, -⟩ := apply_eq_ok happly
  have hexists : (∃ content, h'.resolvConf = .text content ∧ FromLease owner p content) ↔
      FromLease owner p
        (LinuxDnsManager.marked (IpAddr.display displayV6) owner lease.dnsConfig) := by
    rw [hconf]
    simp
  rw [hexists, fromLease_iff hdomains hservers, newline_mem_domainName]
  simp only [not_exists, not_and]

/-! ### A domain name with a server in it -/

/-- The bytes of a text in ASCII. -/
def asciiBytes (text : String) : List UInt8 := text.toList.map fun c => UInt8.ofNat c.toNat

/-- The hardware address of the host. -/
def hostMac : MacAddress := ⟨[2, 0, 0, 0, 0, 2], rfl⟩

/-- An acknowledgement of `10.0.0.50` with this domain name and the server `10.0.0.1`. -/
def namedAck (domain : String) : DhcpPacket :=
  .reply .ack 7 hostMac (.new 10 0 0 50)
    [(DhcpPacket.optionDomainName, asciiBytes domain), (DhcpPacket.optionDns, [10, 0, 0, 1])]

/-- A host without resolv.conf. -/
def freshHost : ResolvHost := ⟨.absent, fun _ => none⟩

/-- A plain domain is read as it is. -/
theorem fromUtf8Lossy_lan :
    Text.fromUtf8Lossy ((asciiBytes "lan").takeWhile (· ≠ 0)) = "lan".toList := by
  rw [Text.fromUtf8Lossy_ascii (by decide +kernel)]
  rfl

/-- A domain with a line break is read as it is. -/
theorem fromUtf8Lossy_injected :
    Text.fromUtf8Lossy ((asciiBytes "lan\nnameserver 6.6.6.6").takeWhile (· ≠ 0)) =
      "lan\nnameserver 6.6.6.6".toList := by
  rw [Text.fromUtf8Lossy_ascii (by decide +kernel)]
  rfl

/-- A plain domain. -/
theorem lease_lines_iff_lan : ∃ lease h', (namedAck "lan").toLease 2 "eth0" hostMac = .ok lease ∧
    LinuxDnsManager.apply (managedFile "/etc/resolv.conf") (IpAddr.display fun _ => "") "nmd"
      lease.dnsConfig freshHost = .ok ⟨"nmd", "/etc/resolv.conf"⟩ h' ∧
    ∃ content, h'.resolvConf = .text content ∧ FromLease "nmd" (namedAck "lan") content := by
  refine ⟨_, _, rfl, rfl, (lease_lines_iff (namedAck "lan") 2 "eth0" hostMac _ "/etc/resolv.conf"
    "nmd" (fun _ => "") freshHost _ ⟨"nmd", "/etc/resolv.conf"⟩ rfl rfl).mpr ?_⟩
  rintro bytes ⟨⟩ ⟨pre, post, hsplit, -⟩
  have hnl : '\n' ∈ "lan".toList := by
    rw [← fromUtf8Lossy_lan]
    exact hsplit ▸ List.mem_append_right _ List.mem_cons_self
  exact absurd hnl (by decide)

/-- The text of option 15 becomes a server of its own. -/
theorem domain_name_injects_server : ∃ lease h',
    (namedAck "lan\nnameserver 6.6.6.6").toLease 2 "eth0" hostMac = .ok lease ∧
    LinuxDnsManager.apply (managedFile "/etc/resolv.conf") (IpAddr.display fun _ => "") "nmd"
      lease.dnsConfig freshHost = .ok ⟨"nmd", "/etc/resolv.conf"⟩ h' ∧
    ∃ content, h'.resolvConf = .text content ∧
      "nameserver 6.6.6.6".toList ∈ content.toList.splitOn '\n' ∧
      ¬ FromLease "nmd" (namedAck "lan\nnameserver 6.6.6.6") content := by
  have hname : (namedAck "lan\nnameserver 6.6.6.6").domainName =
      some (String.ofList (Text.trim "lan\nnameserver 6.6.6.6".toList)) :=
    congrArg (fun text => some (String.ofList (Text.trim text))) fromUtf8Lossy_injected
  refine ⟨_, _, rfl, rfl, _, rfl, ?_, ?_⟩
  · rw [marked_splitOn (p := namedAck "lan\nnameserver 6.6.6.6") rfl rfl, searchLines, hname]
    exact List.mem_append_right _ (List.mem_append_left _ (by decide))
  · rw [fromLease_iff rfl rfl, not_not]
    exact ⟨_, hname, by decide⟩

end NetworkManager
