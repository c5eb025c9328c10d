import NetworkManager.Connection.FileStore.Refinement
import NetworkManager.Dbus.Facade.Steps

/-!
# Dbus — Facade — Updates

`Settings.Connection.Update`, called with what `GetSettings` returned.

* `ProfileStoreOps.Overwrites`: the store takes an update of a profile that it holds.  The store in
  memory always does, and the store of files does on a disk that works.
* `getProfile_of_update`: the profile that is then held is the one that the dictionary is decoded
  to.
* `unmodified_update_iff`: it is the one that was held exactly if its dictionary says everything
  about it, and it has no routes of the other family in its sections.
-/

namespace NetworkManager

open Effects Shared

/-! ### Stores that take updates -/

/-- In this state the store takes any valid profile with this id, and then answers with it. -/
def ProfileStoreOps.Overwrites {S : Type} (ops : ProfileStoreOps S) (s : S) (id : ProfileId) :
    Prop :=
  ∀ profile, profile.validate = .ok () → profile.id = id →
    ∃ t, ops.update profile s = .ok () t ∧ (ops.view t).get id = .ok profile

/-- The store in memory takes an update of any profile that it holds. -/
theorem InMemoryProfileStore.overwrites {profiles : InMemoryProfileStore} {id : ProfileId}
    (h : id ∈ profiles) : ops.Overwrites profiles id := by
  rintro profile hvalid rfl
  have hput := settle_put (fun profiles => if profiles.contains profile.id then none
    else some (.notFound profile.id)) profile profiles
  have hheld : profiles.contains profile.id = true := h
  simp only [hvalid, hheld, if_true] at hput
  refine ⟨profiles.insert profile.id profile, ok_of_settle hput, ?_⟩
  show (settle (ops.get profile.id) (profiles.insert profile.id profile)).1 = _
  rw [settle_get, Std.TreeMap.getElem?_insert_self]

/-- The store of files takes an update of any profile that it holds, on a disk that works, when the
texts of valid profiles are read back. -/
theorem Mirrors.overwrites {toml : Toml} {directory : Paths.OsStr} {d : Disk}
    {profiles : InMemoryProfileStore} (h : Mirrors toml directory d profiles) {id : ProfileId}
    (hid : id ∈ profiles) (htoml : ∀ profile, Admissible toml (.update profile)) :
    (diskStore toml directory).ops.Overwrites d id := by
  rintro profile hvalid rfl
  obtain ⟨text, htext, hfrom⟩ := htoml profile hvalid
  rw [Std.TreeMap.mem_iff_isSome_getElem?, Option.isSome_iff_exists] at hid
  obtain ⟨found, hfound⟩ := hid
  obtain ⟨bytes, hread, -⟩ := h.read_of_some hfound
  have hupdate : settle ((diskStore toml directory).update profile) d = _ := settle_update profile
  rw [settle_writeProfile profile (h.faultless 0), hvalid, htext, hread] at hupdate
  refine ⟨_, ok_of_settle hupdate, ?_⟩
  have hlookup := (h.put hvalid hfrom).lookup_eq (slash_not_mem_of_validate hvalid)
  rw [Std.TreeMap.getElem?_insert_self] at hlookup
  have hget : ∀ d', settle ((diskStore toml directory).get profile.id) d' =
      (d'.lookup toml directory profile.id, d') := reads_get profile.id
  exact (congrArg Prod.fst (hget _)).trans hlookup

/-! ### Updates -/

variable {S E V : Type} {svc : Services S E V} {env : Environment} {sender : Option String}
  {settings : SettingsDict V} {p q : ConnectionProfile} {s : Shared S E}

/-- What an update that is let through leaves in the store. -/
theorem getProfile_of_update (hq : svc.profileOf settings = .ok q)
    (hstore : svc.store.Overwrites s.daemon.profiles q.id)
    (hyes : env.authorization (.fromSender sender) actionSettingsModifySystem = .ok .yes) :
    (after (SettingsConnectionIface.update svc env q.id sender settings) s).daemon.getProfile
      svc.store q.id = .ok q := by
  obtain ⟨profiles, hupdate, hget⟩ := hstore q (expressible_of_settings hq).2.2 rfl
  have hasked : authorize env sender actionSettingsModifySystem s = .ok () _ :=
    authorize_of_yes s hyes
  have hstored : onStore (Daemon.updateProfile svc.store q)
      (s.asked [env.check sender actionSettingsModifySystem]) = .ok () _ := onStore_of_ok hupdate
  -- whether or not the bus library takes the signal, the daemon stays as it is
  have hemitted : Keeps (Same (domain (S := S) (E := E)))
      (emit env (.updated (settingsConnectionPath (stableUuid q.id)))) := emit_domain env _
  have hlast := congrArg Prod.fst
    (hemitted ((s.asked [env.check sender actionSettingsModifySystem]).withProfiles profiles))
  have hinner : SettingsConnectionIface.updateInner svc env q.id settings = (do
      onStore (Daemon.updateProfile svc.store q)
      emit env (.updated (settingsConnectionPath (stableUuid q.id)))) := by
    rw [SettingsConnectionIface.updateInner, hq]
    show (if q.id ≠ q.id then _ else _ : Handler S E Unit) = _
    exact if_neg (not_not_intro rfl)
  rw [SettingsConnectionIface.update, after_bind_of_ok hasked, hinner, after_bind_of_ok hstored]
  exact (congrArg (·.getProfile svc.store q.id) hlast).trans hget

/-- **The unmodified update.**  A valid profile comes back from its dictionary, and an update with
what `GetSettings` returned leaves it in the store, exactly if it is expressible and has no routes
of the other family in its sections. -/
theorem unmodified_update_iff (svc : Services S E V) (env : Environment) (sender : Option String)
    (p : ConnectionProfile) (s : Shared S E) (hvalid : p.validate = .ok ())
    (hheld : s.daemon.getProfile svc.store p.id = .ok p)
    (hstore : svc.store.Overwrites s.daemon.profiles p.id)
    (hyes : env.authorization (.fromSender sender) actionSettingsModifySystem = .ok .yes) :
    ((∃ q, svc.profileOf (svc.settingsOf p) = .ok q ∧ q.ownRoutes = p.ownRoutes) ∧
      ∃ settings, SettingsConnectionIface.getSettings svc p.id s = .ok settings ∧
        (after (SettingsConnectionIface.update svc env p.id sender settings) s).daemon.getProfile
          svc.store p.id = .ok p) ↔ p.Expressible ∧ p.ownRoutes = p := by
  have hsettings : SettingsConnectionIface.getSettings svc p.id s = .ok (svc.settingsOf p) := by
    rw [SettingsConnectionIface.getSettings, SettingsConnectionIface.profile, hheld]
    rfl
  -- what the update leaves is the profile with its own routes alone
  have hleft : p.Expressible →
      (after (SettingsConnectionIface.update svc env p.id sender (svc.settingsOf p))
        s).daemon.getProfile svc.store p.id = .ok p.ownRoutes := fun h =>
    getProfile_of_update (q := p.ownRoutes) (settings_of_expressible h hvalid) hstore hyes
  constructor
  · rintro ⟨hround, settings, hget, hunchanged⟩
    obtain rfl := Except.ok.inj (hget.symm.trans hsettings)
    have hexpressible := (settings_round_trip_iff svc.zvariant svc.ipText p hvalid).mp hround
    exact ⟨hexpressible, Except.ok.inj ((hleft hexpressible).symm.trans hunchanged)⟩
  · rintro ⟨hexpressible, hown⟩
    refine ⟨(settings_round_trip_iff svc.zvariant svc.ipText p hvalid).mpr hexpressible, _,
      hsettings, ?_⟩
    rw [hleft hexpressible, hown]

namespace Sample

/-- The store in memory holds this one profile. -/
def holding (p : ConnectionProfile) :
    Shared InMemoryProfileStore (List (Except ActivationError Unit)) :=
  { daemon := .withComponents ((∅ : InMemoryProfileStore).insert p.id p) [] }

/-- The profile is there. -/
theorem getProfile_holding (p : ConnectionProfile) :
    (holding p).daemon.getProfile services.store p.id = .ok p := by
  show (settle (InMemoryProfileStore.ops.get p.id) (Std.TreeMap.insert ∅ p.id p)).1 = _
  rw [InMemoryProfileStore.settle_get, Std.TreeMap.getElem?_insert_self]

theorem overwrites_holding (p : ConnectionProfile) :
    services.store.Overwrites (holding p).daemon.profiles p.id :=
  InMemoryProfileStore.overwrites Std.TreeMap.mem_insert_self

end Sample

open Sample in
/-- A wireless profile with two manual sections is written out and updated with what was written. -/
theorem unmodified_update_iff_officeProfile :
    ((∃ q, services.profileOf (services.settingsOf officeProfile) = .ok q ∧
        q.ownRoutes = officeProfile.ownRoutes) ∧
      ∃ settings, SettingsConnectionIface.getSettings services "office" (holding officeProfile) =
          .ok settings ∧
        (after (SettingsConnectionIface.update services (environment allowAllAuthorization)
          "office" (some ":1.7") settings) (holding officeProfile)).daemon.getProfile
            services.store "office" = .ok officeProfile) := by
  have hdecoded : settingsToProfile dbus fullText officeDict = .ok officeProfile := rfl
  obtain ⟨hexpressible, hown, hvalid⟩ := expressible_of_settings hdecoded
  exact (unmodified_update_iff services (environment allowAllAuthorization) (some ":1.7")
    officeProfile (holding officeProfile) hvalid (getProfile_holding _) (overwrites_holding _)
    rfl).mpr ⟨hexpressible, hown⟩

/-- A valid profile of a hidden network. -/
def hiddenProfile : ConnectionProfile where
  id := "home"
  name := "home"
  connectionType := .wifi { ssid := ⟨[104, 111, 109, 101]⟩, hidden := true }

open Sample in
/-- An unmodified update takes the hiding from a hidden network. -/
theorem hidden_network_lost :
    hiddenProfile.validate = .ok () ∧
      (holding hiddenProfile).daemon.getProfile services.store "home" = .ok hiddenProfile ∧
      ∃ settings q, SettingsConnectionIface.getSettings services "home" (holding hiddenProfile) =
          .ok settings ∧
        services.profileOf settings = .ok q ∧ q.ownRoutes ≠ hiddenProfile.ownRoutes ∧
        (after (SettingsConnectionIface.update services (environment allowAllAuthorization) "home"
          (some ":1.7") settings) (holding hiddenProfile)).daemon.getProfile services.store "home" =
            .ok q ∧ q ≠ hiddenProfile := by
  let q : ConnectionProfile :=
    { hiddenProfile with connectionType := .wifi { ssid := ⟨[104, 111, 109, 101]⟩ } }
  have hheld := getProfile_holding hiddenProfile
  have hq : services.profileOf (services.settingsOf hiddenProfile) = .ok q := rfl
  refine ⟨rfl, hheld, services.settingsOf hiddenProfile, q, ?_, hq, by decide, ?_, by decide⟩
  · rw [SettingsConnectionIface.getSettings, SettingsConnectionIface.profile]
    exact congrArg (fun r => r.mapError FacadeError.ofStoreError >>= _) hheld
  · exact getProfile_of_update (q := q) hq (overwrites_holding hiddenProfile) rfl

end NetworkManager
