import NetworkManager.Dbus.Facade.Access
import NetworkManager.Support.Decimals

/-!
# Dbus — Paths

The paths from which `device_info` and `active_id` take a number, against those that `device_path`
and `active_path` write.  The paths that are written are read back.  The reader takes more: it
stops at the slash after the number, it skips zeros in front of it, and `device_info` cuts it to
32 bits.
-/

namespace NetworkManager

open Text

/-- The object paths of the bus: a slash in front of each element, and elements of letters, digits
and underscores. -/
def ObjectPath (path : String) : Prop :=
  path = rootObjectPath ∨ ∃ elements : List String, elements ≠ [] ∧
    path.toList = elements.flatMap (fun element => '/' :: element.toList) ∧
    ∀ element ∈ elements, element ≠ "" ∧
      element.toList.all fun c => isAsciiAlphanumeric c || c == '_'

/-- An object path has no plus sign. -/
theorem ObjectPath.plain {path : String} (h : ObjectPath path) : '+' ∉ path.toList := by
  obtain rfl | ⟨elements, -, hpath, helements⟩ := h
  · decide
  · rw [hpath, List.mem_flatMap]
    rintro ⟨element, he, hc⟩
    obtain hc | hc := List.mem_cons.mp hc
    · exact absurd hc (by decide)
    · exact absurd (List.all_eq_true.mp (helements element he).2 '+' hc) (by decide)

/-- The element after the prefix is a number of 64 bits; `tail` is what follows it. -/
def Numbered (pathPrefix path : String) (digits tail : List Char) : Prop :=
  path.toList = pathPrefix.toList ++ (digits ++ tail) ∧ IsU64 digits ∧
    (tail = [] ∨ tail.head? = some '/')

/-- The number ends at the slash or at the end. -/
theorem takeWhile_of_numbered {digits tail : List Char} (hdigits : IsU64 digits)
    (htail : tail = [] ∨ tail.head? = some '/') :
    (digits ++ tail).takeWhile (· != '/') = digits := by
  have hslash : ∀ c ∈ digits, c != '/' := fun c hc => by
    rw [bne_iff_ne]
    rintro rfl
    exact absurd (hdigits.2.1 '/' hc) (by decide)
  have hend : tail.takeWhile (· != '/') = [] := by
    obtain rfl | h := htail
    · rfl
    · obtain ⟨tail, rfl⟩ := List.head?_eq_some_iff.mp h
      rfl
  rw [List.takeWhile_append_of_pos hslash, hend, List.append_nil]

theorem dropWhile_slash (rest : List Char) :
    rest.dropWhile (· != '/') = [] ∨ (rest.dropWhile (· != '/')).head? = some '/' := by
  cases h : rest.dropWhile (· != '/') with
  | nil => exact .inl rfl
  | cons c tail =>
      right
      have := List.head_dropWhile_not (· != '/') (l := rest) (by simp [h])
      simpa [h] using this

/-- The paths with an index are those with a number behind the prefix, whatever follows it. -/
theorem pathIndex_iff {pathPrefix path : String} {n : ℕ} (hplain : '+' ∉ path.toList) :
    pathIndex path pathPrefix = some n ↔
      ∃ digits tail, Numbered pathPrefix path digits tail ∧ value digits = n := by
  rw [pathIndex, Option.bind_eq_some_iff]
  constructor
  · rintro ⟨rest, hrest, hparse⟩
    have hpath := stripPrefix_eq_some.mp hrest
    have hsplit := List.takeWhile_append_dropWhile (p := (· != '/')) (l := rest)
    have hdigits : '+' ∉ rest.takeWhile (· != '/') := fun hc =>
      hplain (hpath ▸ List.mem_append_right _ ((List.takeWhile_prefix _).subset hc))
    obtain ⟨hu64, hvalue⟩ := (parseU64_iff hdigits).mp hparse
    exact ⟨_, _, ⟨by rw [hsplit, hpath], hu64, dropWhile_slash rest⟩, hvalue⟩
  · rintro ⟨digits, tail, ⟨hpath, hu64, htail⟩, hvalue⟩
    refine ⟨digits ++ tail, stripPrefix_eq_some.mpr hpath, ?_⟩
    have hdigits : '+' ∉ digits := fun hc =>
      hplain (hpath ▸ List.mem_append_right _ (List.mem_append_left _ hc))
    rw [takeWhile_of_numbered hu64 htail]
    exact (parseU64_iff hdigits).mpr ⟨hu64, hvalue⟩

/-- The path ends with the number, which has no zero to spare. -/
def Written (digits tail : List Char) : Prop := tail = [] ∧ NoSpareZero digits

/-- A numbered path is the one that is made from its number exactly if it is written as such. -/
theorem written_iff {pathPrefix path : String} {digits tail : List Char}
    (h : Numbered pathPrefix path digits tail) :
    path = pathPrefix ++ toString (value digits) ↔ Written digits tail := by
  obtain ⟨hpath, hu64, htail⟩ := h
  rw [← String.toList_inj, hpath, String.toList_append, List.append_right_inj]
  show digits ++ tail = (Nat.repr (value digits)).toList ↔ _
  rw [Nat.toList_repr]
  constructor
  · intro h
    have hprinted : (Nat.toDigits 10 (value digits) ++ []).takeWhile (· != '/') =
        Nat.toDigits 10 (value digits) :=
      takeWhile_of_numbered (isU64_toDigits hu64.2.2) (.inl rfl)
    rw [List.append_nil, ← h, takeWhile_of_numbered hu64 htail] at hprinted
    refine ⟨List.append_right_eq_self.mp hprinted.symm, ?_⟩
    rw [hprinted, h]
    exact noSpareZero_toDigits _
  · rintro ⟨rfl, hzero⟩
    rw [List.append_nil, toDigits_ofDigitChars hu64.1 hu64.2.1 hzero]

/-- A path that is made from a number has this number. -/
theorem pathIndex_written {pathPrefix : String} {n : ℕ} (h : n < 2 ^ 64) :
    pathIndex (pathPrefix ++ toString n) pathPrefix = some n := by
  rw [pathIndex_append]
  show parseU64 ((Nat.repr n).toList.takeWhile (· != '/')) = some n
  have hslash := takeWhile_of_numbered (isU64_toDigits h) (.inl rfl)
  rw [Nat.toList_repr, ← List.append_nil (Nat.toDigits 10 n), hslash, parseU64_toDigits h]

/-! ### Devices -/

theorem devicePath_of_toInt {index : Int32} {n : ℕ} (h : index.toInt = n) :
    devicePath index = devicesPrefix ++ toString n := by
  show devicesPrefix ++ toString index.toInt = _
  rw [h]
  rfl

/-- A path that is written for a negative index is not read, and others are read as written. -/
theorem toInt_of_pathIndex {index : Int32} {n : ℕ}
    (h : pathIndex (devicePath index) devicesPrefix = some n) : index.toInt = n := by
  cases hindex : index.toInt with
  | ofNat m =>
      have hm : m < 2 ^ 64 := by
        have := index.toInt_lt
        rw [hindex, Int.ofNat_eq_natCast] at this
        omega
      rw [devicePath_of_toInt hindex, pathIndex_written hm] at h
      rw [Option.some.inj h, Int.ofNat_eq_natCast]
  | negSucc m =>
      have hpath : devicePath index = devicesPrefix ++ ("-" ++ toString (m + 1)) := by
        show devicesPrefix ++ toString index.toInt = _
        rw [hindex]
        rfl
      have hminus : (("-" ++ toString (m + 1)).toList.takeWhile (· != '/')).head? = some '-' := by
        rw [String.toList_append]
        rfl
      rw [hpath, pathIndex_append] at h
      obtain ⟨rest, hrest⟩ := List.head?_eq_some_iff.mp hminus
      rw [hrest, parseU64] at h
      simp at h

/-- A numbered path is the one of a device exactly if it is written as such, and its number is an
index. -/
theorem written_devicePath_iff {path : String} {digits tail : List Char}
    (h : Numbered devicesPrefix path digits tail) (hplain : '+' ∉ path.toList) :
    path = devicePath (Int32.ofNat (value digits)) ↔
      Written digits tail ∧ value digits < 2 ^ 31 := by
  constructor
  · intro hpath
    have hread : pathIndex path devicesPrefix = some (value digits) :=
      (pathIndex_iff hplain).mpr ⟨digits, tail, h, rfl⟩
    rw [hpath] at hread
    have hindex := toInt_of_pathIndex hread
    have hlt := (Int32.ofNat (value digits)).toInt_lt
    refine ⟨(written_iff h).mp (hpath.trans (devicePath_of_toInt hindex)), ?_⟩
    omega
  · rintro ⟨hwritten, hlt⟩
    rw [devicePath_of_toInt (Int32.toInt_ofNat_of_lt hlt)]
    exact (written_iff h).mpr hwritten

namespace NetworkBackend

variable {backend : NetworkBackend} {index : Int32} {view : DeviceView}

/-- There is a device with this index. -/
def HasDevice (backend : NetworkBackend) (index : Int32) : Prop :=
  ∃ devices, backend.enumerateDevices = .ok devices ∧ ∃ device ∈ devices, device.index = index

/-- The device that is seen is the first one with the index. -/
theorem deviceView_eq_ok : backend.deviceView index = .ok view ↔
    ∃ devices, backend.enumerateDevices = .ok devices ∧
      devices.find? (fun device => device.index == index) = some view := by
  rw [deviceView]
  cases backend.enumerateDevices with
  | error err => exact iff_of_false nofun fun ⟨_, h, _⟩ => nomatch h
  | ok devices =>
      refine Results.okOr_eq_ok.trans ⟨fun h => ⟨devices, rfl, h⟩, ?_⟩
      rintro ⟨_, ⟨⟩, h⟩
      exact h

/-- The device that is seen has the index. -/
theorem index_of_deviceView (h : backend.deviceView index = .ok view) : view.index = index := by
  obtain ⟨devices, -, hfind⟩ := deviceView_eq_ok.mp h
  have hview := List.find?_some hfind
  exact beq_iff_eq.mp hview

/-- There is a device exactly if one is seen. -/
theorem hasDevice_iff : backend.HasDevice index ↔ ∃ view, backend.deviceView index = .ok view := by
  simp only [HasDevice, deviceView_eq_ok]
  rw [exists_comm]
  refine exists_congr fun devices => ?_
  rw [exists_and_left, ← Option.isSome_iff_exists, List.find?_isSome]
  simp

end NetworkBackend

namespace RootIface

variable (env : Environment)

/-- The device that `deviceInfo` describes. -/
def resolve (device : String) : Except FacadeError DeviceView := do
  let index ← Results.okOr (.unknownDevice device) (pathIndex device devicesPrefix)
  env.backend.deviceView (Int32.ofNat index)

/-- The device at a path is the one that the path resolves to. -/
theorem deviceInfo_eq (device : String) :
    deviceInfo env device = (resolve env device).map (·.toDeviceInfo) := by
  rw [deviceInfo, resolve]
  cases pathIndex device devicesPrefix with
  | none => rfl
  | some index =>
      show (env.backend.deviceView _ >>= fun view => pure view.toDeviceInfo) =
        (env.backend.deviceView _).map _
      cases env.backend.deviceView (Int32.ofNat index) <;> rfl

variable {env}

/-- A path resolves to the device with its number. -/
theorem resolve_eq_ok {path : String} {view : DeviceView} (hplain : '+' ∉ path.toList) :
    resolve env path = .ok view ↔ ∃ digits tail, Numbered devicesPrefix path digits tail ∧
      env.backend.deviceView (Int32.ofNat (value digits)) = .ok view := by
  have hread : resolve env path = .ok view ↔ ∃ n, pathIndex path devicesPrefix = some n ∧
      env.backend.deviceView (Int32.ofNat n) = .ok view := by
    rw [resolve]
    cases pathIndex path devicesPrefix with
    | none => exact iff_of_false nofun fun ⟨_, h, _⟩ => nomatch h
    | some n => simp [Results.okOr]; rfl
  simp only [hread, pathIndex_iff hplain]
  constructor
  · rintro ⟨_, ⟨digits, tail, hnumbered, rfl⟩, hview⟩
    exact ⟨digits, tail, hnumbered, hview⟩
  · rintro ⟨digits, tail, hnumbered, hview⟩
    exact ⟨_, ⟨digits, tail, hnumbered, rfl⟩, hview⟩

/-- The id of a path is its number. -/
theorem activeId_eq_ok {path : String} {id : ActiveConnectionId} :
    activeId path = .ok id ↔ pathIndex path activePrefix = some id.value := by
  rw [activeId, Results.okOr_eq_ok, Option.map_eq_some_iff]
  exact ⟨fun ⟨_, h, hid⟩ => hid ▸ h, fun h => ⟨_, h, rfl⟩⟩

/-! ### Both directions -/

/-- The device of a path has no other path, unless the path goes on after the number, has zeros in
front of it, or is of a number that is no index; the same holds for the connection of a path.
Every path that is written for an index or an id is read back. -/
theorem paths_name_one_iff (env : Environment) {path : String} (hpath : ObjectPath path) :
    deviceInfo env path = (resolve env path).map (·.toDeviceInfo) ∧
      ((∀ view, resolve env path = .ok view → path = devicePath view.index) ↔
        ∀ digits tail, Numbered devicesPrefix path digits tail →
          env.backend.HasDevice (Int32.ofNat (value digits)) →
            Written digits tail ∧ value digits < 2 ^ 31) ∧
      ((∀ id, activeId path = .ok id → path = activePath id) ↔
        ∀ digits tail, Numbered activePrefix path digits tail → Written digits tail) ∧
      (∀ index : Int32, 0 ≤ index → resolve env (devicePath index) = env.backend.deviceView index) ∧
      ∀ id : ActiveConnectionId, id.value < 2 ^ 64 → activeId (activePath id) = .ok id := by
  refine ⟨deviceInfo_eq env path, ?_, ?_, ?_, ?_⟩
  · constructor
    · intro h digits tail hnumbered hdevice
      obtain ⟨view, hview⟩ := NetworkBackend.hasDevice_iff.mp hdevice
      rw [← written_devicePath_iff hnumbered hpath.plain,
        ← NetworkBackend.index_of_deviceView hview]
      exact h view ((resolve_eq_ok hpath.plain).mpr ⟨digits, tail, hnumbered, hview⟩)
    · intro h view hview
      obtain ⟨digits, tail, hnumbered, hview⟩ := (resolve_eq_ok hpath.plain).mp hview
      rw [NetworkBackend.index_of_deviceView hview, written_devicePath_iff hnumbered hpath.plain]
      exact h digits tail hnumbered (NetworkBackend.hasDevice_iff.mpr ⟨view, hview⟩)
  · constructor
    · intro h digits tail hnumbered
      rw [← written_iff hnumbered]
      exact h ⟨value digits⟩
        (activeId_eq_ok.mpr ((pathIndex_iff hpath.plain).mpr ⟨digits, tail, hnumbered, rfl⟩))
    · intro h id hid
      obtain ⟨digits, tail, hnumbered, hvalue⟩ :=
        (pathIndex_iff hpath.plain).mp (activeId_eq_ok.mp hid)
      have := (written_iff hnumbered).mpr (h digits tail hnumbered)
      rwa [hvalue] at this
  -- a path that is written for an index is read back digit by digit
  · intro index hindex
    obtain ⟨n, hn⟩ := Int.eq_ofNat_of_zero_le (Int32.le_iff_toInt_le.mp hindex)
    have hlt := index.toInt_lt
    have hofNat : Int32.ofNat n = index := Int32.toInt_inj.mp <| by
      rw [Int32.toInt_ofNat_of_lt (by omega), hn]
    rw [resolve, devicePath_of_toInt hn, pathIndex_written (by omega), hofNat.symm]
    rfl
  · intro id hid
    exact activeId_eq_ok.mpr (pathIndex_written hid)

/-- The path of the device with index 3. -/
theorem paths_name_one_iff_wired :
    ¬ ∃ view, resolve (Sample.environment allowAllAuthorization)
        "/org/freedesktop/NetworkManager/Devices/3" = .ok view ∧
      "/org/freedesktop/NetworkManager/Devices/3" ≠ devicePath view.index := by
  have hobject : ObjectPath "/org/freedesktop/NetworkManager/Devices/3" :=
    .inr ⟨["org", "freedesktop", "NetworkManager", "Devices", "3"], by decide, rfl,
      by decide +kernel⟩
  rintro ⟨view, hview, hne⟩
  refine hne ((paths_name_one_iff _ hobject).2.1.mpr ?_ view hview)
  intro digits tail hnumbered _
  have hpath : devicesPrefix.toList ++ ['3'] = devicesPrefix.toList ++ (digits ++ tail) :=
    hnumbered.1
  have hrest := List.append_cancel_left hpath
  obtain ⟨rfl, rfl⟩ | ⟨rfl, rfl⟩ := List.append_eq_singleton_iff.mp hrest.symm
  · exact absurd rfl hnumbered.2.1.1
  · exact ⟨⟨rfl, by decide⟩, by decide⟩

/-- A zero in front, a further element, and an index of 33 bits. -/
theorem unwritten_paths_resolved :
    (ObjectPath "/org/freedesktop/NetworkManager/ActiveConnection/01" ∧
      activeId "/org/freedesktop/NetworkManager/ActiveConnection/01" = .ok ⟨1⟩ ∧
      "/org/freedesktop/NetworkManager/ActiveConnection/01" ≠ activePath ⟨1⟩) ∧
    (ObjectPath "/org/freedesktop/NetworkManager/ActiveConnection/1/Settings" ∧
      activeId "/org/freedesktop/NetworkManager/ActiveConnection/1/Settings" = .ok ⟨1⟩ ∧
      "/org/freedesktop/NetworkManager/ActiveConnection/1/Settings" ≠ activePath ⟨1⟩) ∧
    ∃ view, ObjectPath "/org/freedesktop/NetworkManager/Devices/4294967299" ∧
      resolve (Sample.environment allowAllAuthorization)
        "/org/freedesktop/NetworkManager/Devices/4294967299" = .ok view ∧
      "/org/freedesktop/NetworkManager/Devices/4294967299" ≠ devicePath view.index :=
  ⟨⟨.inr ⟨["org", "freedesktop", "NetworkManager", "ActiveConnection", "01"], by decide, rfl,
      by decide +kernel⟩, by decide +kernel, by decide⟩,
    ⟨.inr ⟨["org", "freedesktop", "NetworkManager", "ActiveConnection", "1", "Settings"],
      by decide, rfl, by decide +kernel⟩, by decide +kernel, by decide⟩,
    ⟨3, "eth0", .ethernet, none, true⟩,
    .inr ⟨["org", "freedesktop", "NetworkManager", "Devices", "4294967299"], by decide, rfl,
      by decide +kernel⟩, by decide +kernel, by decide⟩

end RootIface

end NetworkManager
