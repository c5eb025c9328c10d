import NetworkManager.Dbus.Manual
import NetworkManager.Linux.IpEngine.Willing

/-!
# Dbus — Routes

From the tuples of a dictionary to the routes that the engine passes to `add_route`.

* `Route.Acceptable`: what the kernel asks of a route on an interface.
* `added_routes_acceptable_iff`: the engine hands the static routes on as they are, so the routes
  it adds are acceptable exactly if these are.
* `not_acceptable_of_settings`: no route of a dictionary is, since none names the interface.
-/

namespace NetworkManager

open Effects LinuxIpEngine BackendCall

/-- An address without bits beyond the prefix. -/
def IpAddr.IsNetwork (prefixLength : UInt8) : IpAddr → Prop
  | .v4 address => networkAddressV4 address prefixLength = address
  | .v6 address => networkAddressV6 address prefixLength = address

/-- A route that the kernel can accept on an interface. -/
structure Route.Acceptable (interfaceIndex : Int32) (r : Route) : Prop where
  destination : r.destination.family = r.family
  gateway : ∀ g, r.gateway = some g → g.family = r.family
  prefixLength : r.prefixLength ≤ if r.family = .v4 then 32 else 128
  network : r.destination.IsNetwork r.prefixLength
  scope : r.gateway ≠ none → r.scope = .universe
  outputInterface : r.outputInterface = some interfaceIndex

/-- The static routes of a profile that its activation installs. -/
def ConnectionProfile.installable (p : ConnectionProfile) : List Route :=
  installableV4 p.ipv4 ++ installableV6 p.ipv6

/-! ### The routes that are added -/

/-- Every route that an activation of the profile on the interface passes to `add_route`, whatever
the backends do. -/
def AddedRoute (p : ConnectionProfile) (interfaceIndex : Int32) (r : Route) : Prop :=
  ∃ (W : Type) (engine : LinuxIpEngine W) (interfaceName dnsOwner : String) (w : W),
    r ∈ addedRoutes (after (engine.traced.activate interfaceIndex interfaceName p.ipv4 p.ipv6
      dnsOwner) ⟨w, []⟩).calls

/-- The routes that are added are those of the calls. -/
theorem mem_addedRoutes {calls : List BackendCall} {r : Route} :
    r ∈ addedRoutes calls ↔ .addRoute r ∈ calls := by
  simp only [addedRoutes, List.mem_filterMap]
  constructor
  · rintro ⟨call, hcall, h⟩
    cases call <;> cases h
    exact hcall
  · intro h
    exact ⟨_, h, rfl⟩

/-- The routes that activations add are the static ones. -/
theorem addedRoute_iff {p : ConnectionProfile} (hvalid : p.validate = .ok ())
    (interfaceIndex : Int32) (r : Route) : AddedRoute p interfaceIndex r ↔ r ∈ p.installable := by
  constructor
  · rintro ⟨W, engine, interfaceName, dnsOwner, w, hr⟩
    obtain ⟨calls, hcalls, hallowed⟩ :=
      activate_adds engine interfaceIndex interfaceName p.ipv4 p.ipv6 dnsOwner ⟨w, []⟩
    rw [hcalls, List.nil_append, mem_addedRoutes] at hr
    exact hallowed _ hr r rfl
  · intro hr
    obtain ⟨outcome, state, t, h⟩ := willing_activate hvalid interfaceIndex "" ""
    obtain ⟨⟨calls, hcalls, hadded, -⟩, -⟩ := activate_emits h
    refine ⟨Unit, willingEngine, "", "", (), ?_⟩
    rw [after_of_ok h, hcalls, List.nil_append, hadded]
    exact hr

/-- **Acceptable routes.**  The routes that are added are acceptable exactly if the static routes
of the profile already are. -/
theorem added_routes_acceptable_iff (p : ConnectionProfile) (hvalid : p.validate = .ok ())
    (interfaceIndex : Int32) :
    (∀ r, AddedRoute p interfaceIndex r → r.Acceptable interfaceIndex) ↔
      ∀ r ∈ p.installable, r.Acceptable interfaceIndex :=
  forall_congr' fun r => imp_congr_left (addedRoute_iff hvalid interfaceIndex r)

/-! ### Routes of a dictionary -/

/-- No route of a dictionary names its interface. -/
theorem not_acceptable_of_settings {V : Type} {z : Zvariant V} {ip : IpText}
    {dict : SettingsDict V} {p : ConnectionProfile} (h : settingsToProfile z ip dict = .ok p)
    {interfaceIndex : Int32} {r : Route} (hr : r ∈ p.installable) :
    ¬ r.Acceptable interfaceIndex := by
  intro hacceptable
  obtain ⟨hexpressible, -, -⟩ := expressible_of_settings h
  have hnone : r.outputInterface = none := by
    rcases List.mem_append.mp hr with hr | hr
    · rw [installableV4] at hr
      split at hr
      · cases hr
      · exact (hexpressible.ipv4.routes r hr).outputInterface
    · rw [installableV6] at hr
      split at hr
      · exact (hexpressible.ipv6.routes r hr).outputInterface
      · cases hr
  have hsome := hacceptable.outputInterface
  rw [hnone] at hsome
  cases hsome

/-- `10.10.0.0/16` through `192.168.1.1`. -/
def siteRoute (outputInterface : Option Int32) (scope : RouteScope) : Route :=
  ⟨.v4, .v4 (.new 10 10 0 0), 16, some (.v4 (.new 192 168 1 1)), outputInterface, none, .unicast,
    scope⟩

/-- A wired profile with this static route. -/
def siteProfile (route : Route) : ConnectionProfile where
  id := "desk"
  name := "desk"
  connectionType := .ethernet {}
  ipv4 := { routes := [route] }

/-- A route of the interface is acceptable there. -/
theorem added_routes_acceptable_iff_siteProfile :
    (siteRoute (some 2) .universe).Acceptable 2 := by
  refine (added_routes_acceptable_iff (siteProfile (siteRoute (some 2) .universe)) rfl 2).mpr ?_ _
    ((addedRoute_iff rfl 2 _).mpr (List.mem_singleton.mpr rfl))
  intro r hr
  obtain rfl := List.mem_singleton.mp (show r ∈ [_] from hr)
  exact ⟨rfl, by rintro g ⟨⟩; rfl, by decide, rfl, fun _ => rfl, rfl⟩

/-- A wired profile with one route. -/
def siteDict : SettingsDict Value :=
  [("connection", [("id", .str "desk"), ("type", .str "802-3-ethernet")]),
    ("ipv4", [("method", .str "auto"),
      ("routes", dbus.valV4Routes [[0x0a0a, 16, 0x0101a8c0, 0]])])]

/-- The route of a tuple is added with a gateway, the scope of the link and no interface. -/
theorem gateway_route_added_with_link_scope :
    settingsToProfile dbus fullText siteDict = .ok (siteProfile (siteRoute none .link)) ∧
      AddedRoute (siteProfile (siteRoute none .link)) 2 (siteRoute none .link) ∧
      ¬ (siteRoute none .link).Acceptable 2 := by
  refine ⟨rfl, (addedRoute_iff rfl 2 _).mpr (List.mem_singleton.mpr rfl), fun h => ?_⟩
  exact absurd (h.scope (by decide)) (by decide)

end NetworkManager
