import NetworkManager.Linux.IpEngine
import NetworkManager.Linux.IpConfig
import NetworkManager.Linux.Dns
import NetworkManager.Support.Tables
import NetworkManager.Support.Transactions

/-!
# Linux — Host

The host the production backends of the IP engine act on, and the engine over it.

* Addresses are a set; an addition is exclusive, and a removal fails when the address is absent.
* Routes are a table keyed by family, destination, prefix and metric.  An addition creates or
  replaces the entry with its key; a deletion removes the entry with its key when gateway and
  interface agree too, and fails otherwise.
* The managed `resolv.conf` is absent, a text, or bytes that are not UTF-8.
* The DHCP server holds a lease for a client and an address.

An `Env` says what is not determined by the host: which forward step the backends fail, what the
DHCP server grants, what the kernel reports as addresses, how an address is displayed.  Removals
fail only when what they remove is absent.
-/

namespace NetworkManager

/-! ### Routes as the kernel keeps them -/

/-- What distinguishes two routes of the main table. -/
structure RouteKey where
  family : IpFamily
  destination : IpAddr
  prefixLength : UInt8
  metric : UInt32
  deriving DecidableEq

/-- The metric of a route sent without one, or with metric zero: the kernel takes 0 for IPv4 and
1024 for IPv6. -/
def effectiveMetric (family : IpFamily) (metric : Option UInt32) : UInt32 :=
  match family, metric.getD 0 with
  | .v6, 0 => 1024
  | _, m => m

namespace Route

/-- What the kernel tells routes apart by. -/
def key (r : Route) : RouteKey :=
  ⟨r.family, r.destination, r.prefixLength, effectiveMetric r.family r.metric⟩

/-- The interface the message carries: `RTA_OIF` is always sent, with 0 for no interface. -/
def oif (r : Route) : Int32 := r.outputInterface.getD 0

/-- A request to delete `r` removes an entry under its key with the same gateway and interface. -/
def deletes (r entry : Route) : Bool := r.gateway == entry.gateway && r.oif == entry.oif

/-- A route's deletion deletes it. -/
theorem deletes_self (r : Route) : r.deletes r = true := by simp [deletes]

end Route

/-- The routes of the kernel, by their keys. -/
abbrev RoutingTable := RouteKey → Option Route

namespace RoutingTable

/-- Adds the route, or replaces the one with its key. -/
def add (t : RoutingTable) (r : Route) : RoutingTable := Tables.put Route.key id t r

/-- Deletes the route with this key, if the request matches it. -/
def delete (t : RoutingTable) (r : Route) : RoutingTable := Tables.drop Route.key Route.deletes t r

/-- The table holds an entry that a request to delete `r` removes. -/
abbrev Deletable (t : RoutingTable) (r : Route) : Prop := Tables.Hit Route.key Route.deletes t r

end RoutingTable

/-! ### The host -/

/-- What is in the place of resolv.conf. -/
inductive ResolvConf where
  | absent
  | text (content : String)
  | undecodable (bytes : List UInt8)
  deriving DecidableEq

/-- A lease in the DHCP server's table: the client is known by its interface. -/
structure LeaseRecord where
  client : String
  address : Ipv4Addr
  deriving DecidableEq

/-- What the server knows of the lease. -/
def DhcpLease.record (l : DhcpLease) : LeaseRecord := ⟨l.interfaceName, l.address⟩

/-- The part of a host that the engine works on. -/
@[ext] structure Host where
  addresses : Finset IfAddr
  routes : RoutingTable
  resolvConf : ResolvConf
  leases : Finset LeaseRecord

/-- What a forward step puts in place. -/
inductive Item where
  | lease (lease : DhcpLease)
  | address (address : IfAddr)
  | route (route : Route)
  | resolvConf (content : String)
  deriving DecidableEq

namespace Item

/-- Whether `owner` may not write the file: it is unreadable, someone else's, or foreign. -/
def refusesOwner (owner : String) : ResolvConf → Bool
  | .absent => false
  | .text content =>
    match LinuxDnsManager.parseOwner content with
    | some existing => existing ≠ owner
    | none => LinuxDnsManager.hasContent content
  | .undecodable _ => true

/-- What the host itself refuses: an address it has, and a file the manager does not own. -/
def clashes : Item → Host → Bool
  | .lease _, _ | .route _, _ => false
  | .address a, h => a ∈ h.addresses
  | .resolvConf content, h =>
    (LinuxDnsManager.parseOwner content).any fun owner => refusesOwner owner h.resolvConf

/-- Puts the item in place. -/
def put : Item → Host → Host
  | .lease l, h => { h with leases := insert l.record h.leases }
  | .address a, h => { h with addresses := insert a h.addresses }
  | .route r, h => { h with routes := h.routes.add r }
  | .resolvConf content, h => { h with resolvConf := .text content }

/-- The item is in place: for a route, anything under its key; for the file, anything under the
owner it names. -/
def Present : Item → Host → Prop
  | .lease l, h => l.record ∈ h.leases
  | .address a, h => a ∈ h.addresses
  | .route r, h => h.routes r.key ≠ none
  | .resolvConf content, h => ∃ text owner, h.resolvConf = .text text ∧
      LinuxDnsManager.parseOwner content = some owner ∧
      LinuxDnsManager.parseOwner text = some owner

end Item

/-- The host with the steps that were taken on it. -/
abbrev World := Transactions.World Host Item

/-- What the host does not determine.  `fails n` fails the forward step that comes after `n`
successful ones, and `errno n` is the error it gives.  Only forward steps fail so: what is there can
always be deleted, released and removed. -/
structure Env where
  fails : ℕ → Bool
  errno : ℕ → Int32
  grant : DhcpRequest → DhcpLease
  /-- The prefix is counted from the four octets of the netmask. -/
  grant_prefix : ∀ request, (grant request).prefixLength ≤ 32
  observed : Except NetlinkError (List Address)
  display : IpAddr → String
  resolvPath : String

namespace Env

variable (env : Env)

/-- Which forward steps fail, and what the others do. -/
def backend : Transactions.Backend Host Item where
  fails := env.fails
  clashes := Item.clashes
  put := Item.put

/-- A forward step that fails with `error` when it is refused. -/
def forward {ε α : Type} (item : Item) (value : α) (error : ε) : EStateM ε World α := fun w =>
  match Transactions.tryOne env.backend item w with
  | (w', true) => .ok value w'
  | (w', false) => .error error w'

/-- Changes the host, outside the forward steps. -/
def change {ε : Type} (f : Host → Host) : EStateM ε World Unit := fun w =>
  .ok () { w with host := f w.host }

/-- Answers one rtnetlink request.  The error codes are `EEXIST`, `EADDRNOTAVAIL` and `ESRCH`. -/
def transact (request : RtnetlinkRequest) : EStateM NetlinkError World Unit := fun w =>
  match request with
  | .newAddr a =>
    env.forward (.address a) ()
      (.kernel (if a ∈ w.host.addresses then -17 else env.errno w.clock)) w
  | .newRoute r => env.forward (.route r) () (.kernel (env.errno w.clock)) w
  | .delAddr a =>
    if a ∈ w.host.addresses then
      change (fun h => { h with addresses := h.addresses.erase a }) w
    else .error (.kernel (-99)) w
  | .delRoute r =>
    if w.host.routes.Deletable r then change (fun h => { h with routes := h.routes.delete r }) w
    else .error (.kernel (-3)) w

/-- The DHCP client: the server records the lease it grants and forgets a released one. -/
def dhcpClient : DhcpClient World where
  acquire request := env.forward (.lease (env.grant request)) (env.grant request)
    (.timeout request.interfaceName)
  release lease := change fun h => { h with leases := h.leases.erase lease.record }

/-- The managed file.  A write is a forward step of its own: the manager has checked the owner by
then, so only a failing filesystem refuses it. -/
def managedFile : ManagedFile World where
  path := env.resolvPath
  readToString w :=
    match w.host.resolvConf with
    | .absent => .error ⟨.notFound, "No such file or directory (os error 2)"⟩ w
    | .text content => .ok content w
    | .undecodable _ => .error ⟨.invalidData, "stream did not contain valid UTF-8"⟩ w
  writeAtomic content w :=
    if env.fails w.clock then .error ⟨.other, "I/O error"⟩ w
    else .ok () ⟨Item.put (.resolvConf content) w.host, w.clock + 1,
      w.journal ++ [.resolvConf content]⟩
  removeFile := change fun h => { h with resolvConf := .absent }

/-- The IP engine over the host. -/
def engine : LinuxIpEngine World where
  ip := linuxIpConfigurator env.transact
  dhcp := env.dhcpClient
  dns := linuxDnsManager env.managedFile env.display
  getAddresses w :=
    match env.observed with
    | .ok addresses => .ok addresses w
    | .error e => .error e w

end Env

/-! ### A list of items on the host -/

namespace Host

/-- Puts all the items in place. -/
def putAll (h : Host) (items : List Item) : Host := items.foldl (fun h i => i.put h) h

/-- The routes among the items. -/
def routesOf (items : List Item) : List Route :=
  items.filterMap fun | .route r => some r | _ => none

/-- The addresses among the items. -/
def addressesOf (items : List Item) : List IfAddr :=
  items.filterMap fun | .address a => some a | _ => none

/-- The leases among the items. -/
def leasesOf (items : List Item) : List LeaseRecord :=
  items.filterMap fun | .lease l => some l.record | _ => none

/-- The routes among the items. -/
theorem mem_routesOf {items : List Item} {r : Route} :
    r ∈ routesOf items ↔ .route r ∈ items := by
  rw [routesOf, List.mem_filterMap]
  constructor
  · rintro ⟨i, hi, he⟩
    cases i <;> cases he
    exact hi
  · exact fun h => ⟨_, h, rfl⟩

/-- The addresses among the items. -/
theorem mem_addressesOf {items : List Item} {a : IfAddr} :
    a ∈ addressesOf items ↔ .address a ∈ items := by
  rw [addressesOf, List.mem_filterMap]
  constructor
  · rintro ⟨i, hi, he⟩
    cases i <;> cases he
    exact hi
  · exact fun h => ⟨_, h, rfl⟩

/-- The leases among the items. -/
theorem mem_leasesOf {items : List Item} {l : LeaseRecord} :
    l ∈ leasesOf items ↔ ∃ lease, .lease lease ∈ items ∧ lease.record = l := by
  rw [leasesOf, List.mem_filterMap]
  constructor
  · rintro ⟨i, hi, he⟩
    cases i <;> cases he
    exact ⟨_, hi, rfl⟩
  · rintro ⟨lease, h, rfl⟩
    exact ⟨_, h, rfl⟩

/-- The routes afterwards. -/
theorem putAll_routes : ∀ (items : List Item) (h : Host),
    (h.putAll items).routes = Tables.putAll Route.key id h.routes (routesOf items)
  | [], _ => rfl
  | .route r :: items, h => putAll_routes items ((Item.route r).put h)
  | .lease l :: items, h => putAll_routes items ((Item.lease l).put h)
  | .address a :: items, h => putAll_routes items ((Item.address a).put h)
  | .resolvConf c :: items, h => putAll_routes items ((Item.resolvConf c).put h)

/-- The addresses afterwards. -/
theorem putAll_addresses : ∀ (items : List Item) (h : Host),
    (h.putAll items).addresses = h.addresses ∪ (addressesOf items).toFinset
  | [], _ => (Finset.union_empty _).symm
  | .address a :: items, h => by
      show (Host.putAll ((Item.address a).put h) items).addresses = _
      rw [putAll_addresses items]
      simp [Item.put, addressesOf, Finset.insert_union]
  | .lease l :: items, h => putAll_addresses items ((Item.lease l).put h)
  | .route r :: items, h => putAll_addresses items ((Item.route r).put h)
  | .resolvConf c :: items, h => putAll_addresses items ((Item.resolvConf c).put h)

/-- The leases afterwards. -/
theorem putAll_leases : ∀ (items : List Item) (h : Host),
    (h.putAll items).leases = h.leases ∪ (leasesOf items).toFinset
  | [], _ => (Finset.union_empty _).symm
  | .lease l :: items, h => by
      show (Host.putAll ((Item.lease l).put h) items).leases = _
      rw [putAll_leases items]
      simp [Item.put, leasesOf, Finset.insert_union]
  | .address a :: items, h => putAll_leases items ((Item.address a).put h)
  | .route r :: items, h => putAll_leases items ((Item.route r).put h)
  | .resolvConf c :: items, h => putAll_leases items ((Item.resolvConf c).put h)

end Host

end NetworkManager
