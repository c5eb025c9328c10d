import NetworkManager.Linux.Nl80211
import NetworkManager.Dbus.Objects

/-!
# Dbus — Devices

The list of devices, from what rtnetlink and nl80211 each say of the interfaces.

* `wifiInterfaces`: the wireless interfaces of a dump, with what their wiphys say.
* `foldl_addLink`: the links without a wireless interface are devices of their own.
* `enumerate_devices_merged`: each index of either list is listed once, in order, as what it is.
  The flags of a link are lost if nl80211 lists its interface too, so that `up` is right if none of
  these is up.
-/

namespace NetworkManager

/-! ### Wireless interfaces -/

namespace Nl80211

/-- The radio of an interface. -/
def lookupWiphy (wiphys : List WiphyInfo) (index : Option UInt32) : Option WiphyInfo :=
  index.bind fun index => wiphys.find? fun wiphy => wiphy.index == index

/-- The interface, with what its wiphy says. -/
def withWiphy (wiphys : List WiphyInfo) (interface : WirelessInterface) : WirelessInterface :=
  match lookupWiphy wiphys interface.wiphyIndex with
  | some wiphy =>
    { interface with wiphyName := some wiphy.name, capabilities := wiphy.capabilities }
  | none => interface

/-- `wifi_interfaces`, over the two dumps. -/
def wifiInterfaces (interfaces : List WirelessInterface) (wiphys : List WiphyInfo) :
    List WirelessInterface := interfaces.map (withWiphy wiphys)

/-- The radio adds capabilities, and changes nothing that the kernel said of the interface. -/
theorem rendered_withWiphy (wiphys : List WiphyInfo) (interface : WirelessInterface) :
    (withWiphy wiphys interface).rendered = interface.rendered := by
  rw [withWiphy]
  split <;> rfl

variable [Octets.Native]

/-- An interface is never up as it comes from its attributes. -/
theorem up_of_interfaceFromAttrs {attrs : List RawAttr} {interface : WirelessInterface}
    (h : interfaceFromAttrs attrs = .ok (some interface)) : interface.up = false := by
  rw [interfaceFromAttrs] at h
  obtain ⟨index, -, h⟩ := Results.bind_eq_ok.mp h
  cases index with
  | none => cases h
  | some index =>
      obtain ⟨wiphyIndex, -, h⟩ := Results.bind_eq_ok.mp h
      obtain ⟨interfaceType, -, h⟩ := Results.bind_eq_ok.mp h
      obtain ⟨mac, -, h⟩ := Results.bind_eq_ok.mp h
      cases h
      rfl

end Nl80211

/-! ### Merging -/

namespace DeviceView

theorem index_ofLink (link : Link) : (ofLink link).index = link.index := rfl

/-- A link is added unless its index is taken, so those that are have different indices. -/
theorem foldl_addLink (devices : List DeviceView) {links : List Link}
    (h : (links.map (·.index)).Nodup) :
    links.foldl addLink devices =
      devices ++ (links.filter fun link => link.index ∉ devices.map (·.index)).map ofLink := by
  induction links generalizing devices with
  | nil => exact (List.append_nil _).symm
  | cons link links ih =>
      rw [List.map_cons, List.nodup_cons] at h
      have hany : (devices.any fun device => device.index == link.index) =
          decide (link.index ∈ devices.map (·.index)) := by
        rw [Bool.eq_iff_iff]
        simp [List.any_eq_true]
      rw [List.foldl_cons, addLink, hany]
      by_cases hmem : link.index ∈ devices.map (·.index)
      · rw [if_pos (decide_eq_true hmem), ih _ h.2, List.filter_cons_of_neg (by simpa using hmem)]
      · have hrest : (links.filter fun l => l.index ∉ (devices ++ [ofLink link]).map (·.index)) =
            links.filter fun l => l.index ∉ devices.map (·.index) := by
          refine List.filter_congr fun l hl => ?_
          have hne : l.index ≠ link.index := fun heq =>
            h.1 (heq ▸ List.mem_map_of_mem hl)
          simp [index_ofLink, hne]
        rw [if_neg (by simpa using hmem), ih _ h.2, hrest,
          List.filter_cons_of_pos (by simpa using hmem), List.map_cons, List.append_assoc]
        rfl

end DeviceView

section Merged

open Nl80211

variable {links : List Link} {dump : List Nl80211.WirelessInterface}

/-- The devices of both lists, before they are sorted. -/
def mergedDevices (links : List Link) (dump : List Nl80211.WirelessInterface) : List DeviceView :=
  (dump.map fun interface => .ofWireless interface.rendered) ++
    (links.filter fun link => link.index ∉ dump.map (·.index)).map .ofLink

/-- A wireless interface keeps its index. -/
theorem index_wireless (dump : List Nl80211.WirelessInterface) :
    (dump.map fun interface => DeviceView.ofWireless interface.rendered).map (·.index) =
      dump.map (·.index) := by
  rw [List.map_map]
  rfl

/-- The devices are those of both dumps, sorted by their indices. -/
theorem enumerateDevices_eq {backend : NetworkBackend} {wiphys : List WiphyInfo}
    (hlinks : backend.links = .ok links)
    (hwifi : backend.wifiInterfaces = .ok ((wifiInterfaces dump wiphys).map (·.rendered)))
    (hdistinct : (links.map (·.index)).Nodup) :
    backend.enumerateDevices =
      .ok ((mergedDevices links dump).mergeSort fun a b => a.index ≤ b.index) := by
  have hrendered : ((wifiInterfaces dump wiphys).map (·.rendered)).map DeviceView.ofWireless =
      dump.map fun interface => .ofWireless interface.rendered := by
    rw [wifiInterfaces, List.map_map, List.map_map]
    exact List.map_congr_left fun i _ => congrArg DeviceView.ofWireless (rendered_withWiphy wiphys i)
  rw [NetworkBackend.enumerateDevices, hlinks, hwifi, mergedDevices]
  show Except.ok _ = _
  rw [hrendered, DeviceView.foldl_addLink _ hdistinct, index_wireless]

/-- A device is a wireless interface, or a link that is none. -/
theorem mem_mergedDevices {device : DeviceView} : device ∈ mergedDevices links dump ↔
    (∃ interface ∈ dump, .ofWireless interface.rendered = device) ∨
      ∃ link ∈ links, link.index ∉ dump.map (·.index) ∧ .ofLink link = device := by
  rw [mergedDevices, List.mem_append, List.mem_map, List.mem_map]
  simp only [List.mem_filter, decide_eq_true_eq, and_assoc]

/-- The devices have distinct indices. -/
theorem nodup_mergedDevices (hdistinct : (links.map (·.index)).Nodup)
    (hdistinct' : (dump.map (·.index)).Nodup) :
    ((mergedDevices links dump).map (·.index)).Nodup := by
  have hmap : ((links.filter fun link => link.index ∉ dump.map (·.index)).map
      DeviceView.ofLink).map (·.index) =
        (links.filter fun link => link.index ∉ dump.map (·.index)).map (·.index) := by
    rw [List.map_map]
    rfl
  rw [mergedDevices, List.map_append, index_wireless, hmap, List.nodup_append]
  refine ⟨hdistinct', hdistinct.sublist (List.filter_sublist.map _), ?_⟩
  rintro index hdump _ hlink rfl
  obtain ⟨link, hmem, rfl⟩ := List.mem_map.mp hlink
  exact of_decide_eq_true (List.mem_filter.mp hmem).2 hdump

/-- Sorted by index, devices with different indices are in strict order. -/
theorem strict_mergeSort {devices : List DeviceView} (h : (devices.map (·.index)).Nodup) :
    (devices.mergeSort fun a b => a.index ≤ b.index).Pairwise fun a b => a.index < b.index := by
  have hsorted := @List.pairwise_mergeSort DeviceView (fun a b => a.index ≤ b.index)
    (fun a b c hab hbc => by
      simp only [decide_eq_true_eq] at hab hbc ⊢
      exact Int32.le_trans hab hbc)
    (fun a b => by
      simp only [Bool.or_eq_true, decide_eq_true_eq]
      exact Int32.le_total a.index b.index) devices
  have hperm := (List.mergeSort_perm devices fun a b => a.index ≤ b.index).map (·.index)
  have hnodup := hperm.nodup_iff.mpr h
  rw [List.nodup_iff_pairwise_ne, List.pairwise_map] at hnodup
  refine (hsorted.and hnodup).imp fun hboth => ?_
  exact Int32.lt_of_le_of_ne (of_decide_eq_true hboth.1) hboth.2

/-- The devices have the indices of both dumps. -/
theorem index_mergedDevices (index : Int32) :
    index ∈ (mergedDevices links dump).map (·.index) ↔
      index ∈ links.map (·.index) ∨ index ∈ dump.map (·.index) := by
  simp only [List.mem_map, mem_mergedDevices]
  constructor
  · rintro ⟨_, ⟨interface, hinterface, rfl⟩ | ⟨link, hlink, -, rfl⟩, rfl⟩
    · exact .inr ⟨interface, hinterface, rfl⟩
    · exact .inl ⟨link, hlink, rfl⟩
  · intro h
    by_cases hdump : ∃ interface ∈ dump, interface.index = index
    · obtain ⟨interface, hinterface, rfl⟩ := hdump
      exact ⟨_, .inl ⟨interface, hinterface, rfl⟩, rfl⟩
    · obtain ⟨link, hlink, rfl⟩ := h.resolve_right hdump
      exact ⟨_, .inr ⟨link, hlink, hdump, rfl⟩, rfl⟩

/-- A device is wireless exactly if the wireless dump has it. -/
theorem kind_mergedDevices {device : DeviceView} (h : device ∈ mergedDevices links dump) :
    device.kind = .wifi ↔ device.index ∈ dump.map (·.index) := by
  rcases mem_mergedDevices.mp h with ⟨interface, hinterface, rfl⟩ | ⟨link, -, hindex, rfl⟩
  · exact iff_of_true rfl (List.mem_map_of_mem hinterface)
  · refine iff_of_false ?_ hindex
    rw [DeviceView.ofLink]
    split <;> exact nofun

/-- **Both lists in one.**  The devices are in strict order of their indices, which are those of
both lists, and wireless exactly if nl80211 lists them.  Their `up` is the flag of the link exactly
if no link that nl80211 lists too is up. -/
theorem enumerate_devices_merged [Octets.Native] (backend : NetworkBackend) (links : List Link)
    (dump : List Nl80211.WirelessInterface) (wiphys : List WiphyInfo)
    (hlinks : backend.links = .ok links)
    (hwifi : backend.wifiInterfaces = .ok ((wifiInterfaces dump wiphys).map (·.rendered)))
    (hdump : ∀ interface ∈ dump, ∃ attrs, interfaceFromAttrs attrs = .ok (some interface))
    (hdistinct : (links.map (·.index)).Nodup) (hdistinct' : (dump.map (·.index)).Nodup) :
    ∃ devices, backend.enumerateDevices = .ok devices ∧
      devices.Pairwise (fun a b => a.index < b.index) ∧
      (∀ index, index ∈ devices.map (·.index) ↔
        index ∈ links.map (·.index) ∨ index ∈ dump.map (·.index)) ∧
      (∀ device ∈ devices, device.kind = .wifi ↔ device.index ∈ dump.map (·.index)) ∧
      ((∀ device ∈ devices, ∀ link ∈ links, link.index = device.index → device.up = link.isUp) ↔
        ∀ link ∈ links, link.index ∈ dump.map (·.index) → link.isUp = false) := by
  -- nl80211 attributes carry no flags, so a wireless interface is never up
  have hdown : ∀ interface ∈ dump, interface.up = false := fun interface hinterface =>
    have ⟨_, hattrs⟩ := hdump interface hinterface
    up_of_interfaceFromAttrs hattrs
  refine ⟨_, enumerateDevices_eq hlinks hwifi hdistinct,
    strict_mergeSort (nodup_mergedDevices hdistinct hdistinct'), ?_, ?_, ?_, ?_⟩
  · intro index
    rw [← index_mergedDevices, ((List.mergeSort_perm _ _).map _).mem_iff]
  · intro device hdevice
    exact kind_mergedDevices (List.mem_mergeSort.mp hdevice)
  · intro hup link hlink hindex
    obtain ⟨interface, hinterface, heq⟩ := List.mem_map.mp hindex
    have hdevice : .ofWireless interface.rendered ∈ mergedDevices links dump :=
      mem_mergedDevices.mpr (.inl ⟨interface, hinterface, rfl⟩)
    rw [← hup _ (List.mem_mergeSort.mpr hdevice) link hlink heq.symm]
    exact hdown interface hinterface
  · intro hdark device hdevice link hlink heq
    rcases mem_mergedDevices.mp (List.mem_mergeSort.mp hdevice) with
      ⟨interface, hinterface, rfl⟩ | ⟨link', hlink', -, rfl⟩
    · rw [hdark link hlink (heq ▸ List.mem_map_of_mem hinterface)]
      exact hdown interface hinterface
    · rw [List.inj_on_of_nodup_map hdistinct hlink hlink' heq]
      rfl

/-- A wireless interface with the index 3, as nl80211 lists it. -/
def wlan : Nl80211.WirelessInterface :=
  ⟨3, "", none, none, .unspecified, none, false, {}⟩

/-- A link with the index 3 and these flags, and its wireless interface. -/
def wlanBackend (flags : UInt32) : NetworkBackend where
  links := .ok [⟨3, "wlan0", flags⟩]
  wifiInterfaces := .ok ((wifiInterfaces [wlan] []).map (·.rendered))
  accessPoints := .ok []

/-- The attributes of a wireless interface with index 3. -/
theorem interfaceFromAttrs_wlan :
    @interfaceFromAttrs Octets.littleMachine [⟨attrIfindex, false, [3, 0, 0, 0]⟩] =
      .ok (some wlan) := by
  decide +kernel

/-- A wireless interface in both dumps. -/
theorem enumerate_devices_merged_wlan : ∃ devices,
    (wlanBackend 0).enumerateDevices = .ok devices ∧
      ∀ device ∈ devices, ∀ link ∈ [(⟨3, "wlan0", 0⟩ : Link)],
        link.index = device.index → device.up = link.isUp := by
  have hdump : ∀ interface ∈ [wlan],
      ∃ attrs, @interfaceFromAttrs Octets.littleMachine attrs = .ok (some interface) := by
    rintro interface hinterface
    obtain rfl := List.mem_singleton.mp hinterface
    exact ⟨_, interfaceFromAttrs_wlan⟩
  obtain ⟨devices, hdevices, -, -, -, hup⟩ := @enumerate_devices_merged Octets.littleMachine
    (wlanBackend 0) [⟨3, "wlan0", 0⟩] [wlan] [] rfl rfl hdump (by decide) (by decide)
  exact ⟨devices, hdevices, hup.mpr (by decide)⟩

/-- The interface is up as a link, and down as a device. -/
theorem wireless_link_up_lost :
    @interfaceFromAttrs Octets.littleMachine [⟨attrIfindex, false, [3, 0, 0, 0]⟩] =
        .ok (some wlan) ∧
      (wlanBackend 1).enumerateDevices = .ok [⟨3, "", .wifi, none, false⟩] ∧
      (⟨3, "wlan0", 1⟩ : Link).isUp = true :=
  ⟨by decide +kernel, by decide +kernel, by decide⟩

end Merged

end NetworkManager
