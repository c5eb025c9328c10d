import NetworkManager.Linux.Dns.Access

/-!
# Linux — Dns — Ownership

Runs of `apply` and `remove` by any owners on one file, whose writes and removals may fail.

* `ownership_exclusive`: a call changes the file only where it is absent, blank, or names the owner
  of the call.
* `owner_lifecycle_iff`: an owner keeps the file it was given until it gives it back, exactly if the
  sentinel reads back.
-/

namespace NetworkManager

open Effects

/-! ### The file -/

/-- The managed file, and how the next writes and removals end. -/
structure ResolvHost where
  resolvConf : ResolvConf
  faults : ℕ → Option IoError

namespace ResolvHost

/-- Puts `conf` in the place of the file, unless the filesystem fails. -/
def replace (conf : ResolvConf) : EStateM IoError ResolvHost Unit := fun h =>
  match h.faults 0 with
  | none => .ok () ⟨conf, fun n => h.faults (n + 1)⟩
  | some e => .error e ⟨h.resolvConf, fun n => h.faults (n + 1)⟩

/-- The file on the host; writing it may fail, and then leaves it as it was. -/
def managedFile (path : String) : ManagedFile ResolvHost where
  path := path
  readToString h :=
    match h.resolvConf with
    | .absent => .error ⟨.notFound, "No such file or directory (os error 2)"⟩ h
    | .text content => .ok content h
    | .undecodable _ => .error ⟨.invalidData, "stream did not contain valid UTF-8"⟩ h
  writeAtomic content := replace (.text content)
  removeFile h :=
    match h.resolvConf with
    | .absent => .error ⟨.notFound, "No such file or directory (os error 2)"⟩ h
    | _ => replace .absent h

/-- The file is read as it is on the host. -/
theorem managedFile_answers (path : String) : (managedFile path).Answers resolvConf where
  text := fun h => by simp only [managedFile, h]
  absent := fun h => ⟨⟨.notFound, "No such file or directory (os error 2)"⟩, rfl, by
    simp only [managedFile, h]⟩
  undecodable := fun h => ⟨⟨.invalidData, "stream did not contain valid UTF-8"⟩, by decide, by
    simp only [managedFile, h]⟩

/-- Nothing fails. -/
def Sound (h : ResolvHost) : Prop := ∀ n, h.faults n = none

/-- On a sound host the file is replaced. -/
theorem replace_of_sound {h : ResolvHost} (hs : h.Sound) (conf : ResolvConf) :
    ∃ h', replace conf h = .ok () h' ∧ h'.resolvConf = conf ∧ h'.Sound :=
  ⟨⟨conf, fun n => h.faults (n + 1)⟩, by simp only [replace, hs 0], rfl, fun n => hs (n + 1)⟩

/-- A file that was replaced is the new one. -/
theorem replace_eq_ok {h h' : ResolvHost} {conf : ResolvConf} (hr : replace conf h = .ok () h') :
    h'.resolvConf = conf ∧ (h.Sound → h'.Sound) := by
  rw [replace] at hr
  split at hr
  · cases hr
    exact ⟨rfl, fun hs n => hs (n + 1)⟩
  · cases hr

theorem removeFile_of_text (path : String) {h : ResolvHost} {content : String}
    (hconf : h.resolvConf = .text content) :
    (managedFile path).removeFile h = replace .absent h := by
  simp only [managedFile, hconf]

end ResolvHost

open ResolvHost

/-! ### Calls -/

/-- A call of the manager. -/
inductive DnsCall where
  | apply (owner : String) (config : DnsConfig)
  | remove (ownership : DnsOwnership)

namespace DnsCall

/-- The owner of the call. -/
def owner : DnsCall → String
  | apply owner _ => owner
  | remove ownership => ownership.owner

/-- The file after the call, whether it returned or failed. -/
def run (path : String) (display : IpAddr → String) : DnsCall → ResolvHost → ResolvHost
  | apply owner config => after (LinuxDnsManager.apply (managedFile path) display owner config)
  | remove ownership => after (LinuxDnsManager.remove (managedFile path) ownership)

end DnsCall

/-- The file after the calls. -/
def runCalls (path : String) (display : IpAddr → String) (calls : List DnsCall) (h : ResolvHost) :
    ResolvHost := calls.foldl (fun h call => call.run path display h) h

/-! ### Whose file it is -/

/-- All lines are blank. -/
def Blank (content : String) : Prop :=
  ∀ line ∈ Text.lines content.toList, ∀ c ∈ line, Text.isWhitespace c

/-- The first sentinel line of the text names the owner, between blanks. -/
def NamesOwner (content owner : String) : Prop :=
  owner ≠ "" ∧ ∃ before line rest,
    Text.lines content.toList = before ++ (LinuxDnsManager.sentinelPrefix ++ line) :: rest ∧
    (∀ l ∈ before, ¬ LinuxDnsManager.sentinelPrefix <+: l) ∧ Text.trim line = owner.toList

/-- The file is absent, blank, or the owner's. -/
def ResolvConf.MayChange (owner : String) : ResolvConf → Prop
  | .absent => True
  | .text content => Blank content ∨ NamesOwner content owner
  | .undecodable _ => False

/-- A text without content is blank. -/
theorem hasContent_eq_false {content : String} :
    LinuxDnsManager.hasContent content = false ↔ Blank content := by
  simp [LinuxDnsManager.hasContent, Blank, Text.trim_eq_nil]

/-- A text has an owner if it names one. -/
theorem parseOwner_eq_some {content owner : String} :
    LinuxDnsManager.parseOwner content = some owner ↔ NamesOwner content owner := by
  rw [LinuxDnsManager.parseOwner_eq, Option.bind_eq_some_iff]
  constructor
  · rintro ⟨line, hline, howner⟩
    obtain ⟨before, l, rest, hlines, hl, hbefore⟩ := List.findSome?_eq_some_iff.mp hline
    obtain ⟨hne, htrim⟩ := LinuxDnsManager.ownerOf_eq_some.mp howner
    rw [Text.stripPrefix_eq_some.mp hl] at hlines
    exact ⟨hne, before, line, rest, hlines, fun l hl => Text.stripPrefix_eq_none.mp (hbefore l hl),
      htrim⟩
  · rintro ⟨hne, before, line, rest, hlines, hbefore, htrim⟩
    refine ⟨line, ?_, LinuxDnsManager.ownerOf_eq_some.mpr ⟨hne, htrim⟩⟩
    exact List.findSome?_eq_some_iff.mpr ⟨before, _, rest, hlines, Text.stripPrefix_append _ _,
      fun l hl => Text.stripPrefix_eq_none.mpr (hbefore l hl)⟩

/-- Who is not refused may change the file. -/
theorem mayChange_of_not_refused {owner : String} {conf : ResolvConf}
    (h : Item.refusesOwner owner conf = false) : conf.MayChange owner := by
  cases conf with
  | absent => trivial
  | text content =>
      cases hp : LinuxDnsManager.parseOwner content with
      | some existing =>
          simp only [Item.refusesOwner, hp, decide_eq_false_iff_not, not_not] at h
          exact .inr (parseOwner_eq_some.mp (h ▸ hp))
      | none =>
          simp only [Item.refusesOwner, hp] at h
          exact .inl (hasContent_eq_false.mp h)
  | undecodable bytes => cases h

/-! ### Exclusive ownership -/

section

variable {path : String} {display : IpAddr → String} {h : ResolvHost} {owner : String}
  {config : DnsConfig}

variable (path display) in
/-- What is refused stays as it is. -/
theorem apply_of_refused (hne : owner ≠ "") (hr : Item.refusesOwner owner h.resolvConf = true) :
    ∃ e, LinuxDnsManager.apply (managedFile path) display owner config h = .error e h := by
  obtain ⟨e, he⟩ := LinuxDnsManager.checkOwner_of_refused (managedFile_answers path) hr
  refine ⟨e, ?_⟩
  rw [LinuxDnsManager.apply, if_neg hne]
  exact bind_of_error he

variable (path display) in
/-- **One call** leaves the file, unless it may change it. -/
theorem run_mayChange (call : DnsCall) (h : ResolvHost) :
    (call.run path display h).resolvConf = h.resolvConf ∨ h.resolvConf.MayChange call.owner := by
  cases call with
  | apply owner config =>
      by_cases hne : owner = ""
      · subst hne
        exact .inl rfl
      · cases hr : Item.refusesOwner owner h.resolvConf with
        | true =>
            obtain ⟨e, he⟩ := apply_of_refused path display hne hr
            exact .inl (congrArg resolvConf (after_of_error he))
        | false => exact .inr (mayChange_of_not_refused hr)
  | remove ownership =>
      have hanswers := managedFile_answers path
      obtain ⟨conf, hconf⟩ : ∃ conf, h.resolvConf = conf := ⟨_, rfl⟩
      cases conf with
      | absent =>
          exact .inl (congrArg resolvConf
            (after_of_ok (LinuxDnsManager.remove_of_absent hanswers hconf ownership)))
      | undecodable bytes =>
          obtain ⟨e, he⟩ := LinuxDnsManager.remove_of_undecodable hanswers hconf ownership
          exact .inl (congrArg resolvConf (after_of_error he))
      | text content =>
          -- only the owner of the text gets it removed
          have hremove := LinuxDnsManager.remove_of_text hanswers hconf ownership
          split at hremove
          · next howner =>
              rw [hconf]
              exact .inr (.inr (parseOwner_eq_some.mp howner))
          · split at hremove
            · exact .inl (congrArg resolvConf (after_of_ok hremove))
            · exact .inl (congrArg resolvConf (after_of_error hremove))

/-- A file that no owner may change stays. -/
theorem runCalls_of_foreign (calls : List DnsCall) {h : ResolvHost}
    (hforeign : ∀ owner, ¬ h.resolvConf.MayChange owner) :
    (runCalls path display calls h).resolvConf = h.resolvConf := by
  induction calls generalizing h with
  | nil => rfl
  | cons call calls ih =>
      have hstep := (run_mayChange path display call h).resolve_right
        (hforeign call.owner)
      exact (ih (hstep ▸ hforeign)).trans hstep

/-- **Exclusive ownership.**  In every run, a call that changes the file finds it absent, blank, or
its owner's; a foreign file is never changed. -/
theorem ownership_exclusive (path : String) (display : IpAddr → String) (h : ResolvHost)
    (calls : List DnsCall) :
    (∀ before call rest, calls = before ++ call :: rest →
      (call.run path display (runCalls path display before h)).resolvConf ≠
        (runCalls path display before h).resolvConf →
      (runCalls path display before h).resolvConf.MayChange call.owner) ∧
    ((∀ owner, ¬ h.resolvConf.MayChange owner) →
      (runCalls path display calls h).resolvConf = h.resolvConf) :=
  ⟨fun _ call _ _ hchange => (run_mayChange path display call _).resolve_left hchange,
    runCalls_of_foreign calls⟩

end

/-! ### The lifecycle of a handle -/

section

variable (path : String) (display : IpAddr → String) (owner : String)

/-- The call gives the owner's handle back. -/
def Releases (h : ResolvHost) (call : DnsCall) : Prop :=
  ∃ ownership h', call = .remove ownership ∧ ownership.owner = owner ∧
    LinuxDnsManager.remove (managedFile path) ownership h = .ok () h'

/-- Calls that do not give the owner's handle back. -/
inductive RunsUnreleased : ResolvHost → ResolvHost → Prop where
  | refl (h : ResolvHost) : RunsUnreleased h h
  | call {h h' : ResolvHost} (call : DnsCall) (t : RunsUnreleased h h')
      (hc : ¬ Releases path owner h' call) : RunsUnreleased h (call.run path display h')

/-- The file is the owner's to write and to remove, and nobody else's. -/
structure Held (handle : DnsOwnership) (h : ResolvHost) : Prop where
  own : ∀ config, ∃ handle' h',
    LinuxDnsManager.apply (managedFile path) display owner config h = .ok handle' h'
  others : ∀ other, other ≠ "" → other ≠ owner → ∀ config,
    LinuxDnsManager.apply (managedFile path) display other config h =
      .error (.foreignManaged path) h
  remove : ∃ h', LinuxDnsManager.remove (managedFile path) handle h = .ok () h' ∧
    h'.resolvConf = .absent

/-- From a successful `apply` on, the owner holds the file as long as it is not released. -/
def Lifecycle : Prop :=
  ∀ (h h₁ h₂ : ResolvHost) (config : DnsConfig) (handle : DnsOwnership), h.Sound →
    LinuxDnsManager.apply (managedFile path) display owner config h = .ok handle h₁ →
    RunsUnreleased path display owner h₁ h₂ → Held path display owner handle h₂

end

namespace ResolvHost

/-- The first sentinel line names the owner. -/
def Owned (owner : String) (h : ResolvHost) : Prop :=
  ∃ content, h.resolvConf = .text content ∧ LinuxDnsManager.parseOwner content = some owner

end ResolvHost

section

variable {path : String} {display : IpAddr → String} {h h' : ResolvHost} {owner : String}
  {config : DnsConfig} {handle : DnsOwnership}

/-- Everybody but the owner is refused. -/
theorem ResolvHost.Owned.refusesOwner (ho : h.Owned owner) (other : String) :
    Item.refusesOwner other h.resolvConf = decide (owner ≠ other) := by
  obtain ⟨content, hconf, hp⟩ := ho
  simp only [hconf, Item.refusesOwner, hp]

variable (path display) in
/-- Who is not refused writes the file, if nothing fails. -/
theorem apply_of_allowed (hne : owner ≠ "") (hr : Item.refusesOwner owner h.resolvConf = false)
    (hs : h.Sound) (config : DnsConfig) : ∃ h',
      LinuxDnsManager.apply (managedFile path) display owner config h = .ok ⟨owner, path⟩ h' ∧
      h'.resolvConf = .text (LinuxDnsManager.marked display owner config) ∧ h'.Sound := by
  obtain ⟨h', hreplace, hconf, hs'⟩ := replace_of_sound hs
    (.text (LinuxDnsManager.marked display owner config))
  refine ⟨h', ?_, hconf, hs'⟩
  rw [LinuxDnsManager.apply, if_neg hne]
  exact (bind_of_ok (LinuxDnsManager.checkOwner_of_allowed (managedFile_answers path) hr)).trans
    (bind_of_ok (adaptExcept_of_ok hreplace))

/-- An `apply` that returns has written the file. -/
theorem apply_eq_ok
    (happly : LinuxDnsManager.apply (managedFile path) display owner config h = .ok handle h') :
    owner ≠ "" ∧ handle = ⟨owner, path⟩ ∧
      h'.resolvConf = .text (LinuxDnsManager.marked display owner config) ∧
      (h.Sound → h'.Sound) := by
  by_cases hne : owner = ""
  · subst hne
    cases happly
  · cases hr : Item.refusesOwner owner h.resolvConf with
    | true =>
        obtain ⟨e, he⟩ := apply_of_refused path display hne hr
        rw [he] at happly
        cases happly
    | false =>
        rw [LinuxDnsManager.apply, if_neg hne] at happly
        have hallowed := LinuxDnsManager.checkOwner_of_allowed (managedFile_answers path) hr
        replace happly := (bind_of_ok hallowed).symm.trans happly
        obtain ⟨⟨⟩, h₁, hwrite, hreturn⟩ := bind_eq_ok.mp happly
        cases hreturn
        obtain ⟨hconf, hs⟩ := replace_eq_ok (adaptExcept_eq_ok.mp hwrite)
        exact ⟨hne, rfl, hconf, hs⟩

/-- The owner of the file holds it, if nothing fails. -/
theorem held_of_owned (hne : owner ≠ "") (hs : h.Sound) (ho : h.Owned owner) :
    Held path display owner ⟨owner, path⟩ h := by
  refine ⟨fun config => ?_, fun other hother hdiff config => ?_, ?_⟩
  · have hr : Item.refusesOwner owner h.resolvConf = false := by simp [ho.refusesOwner]
    obtain ⟨h', happly, -⟩ := apply_of_allowed path display hne hr hs config
    exact ⟨_, h', happly⟩
  · have hr : Item.refusesOwner other h.resolvConf = true := by simp [ho.refusesOwner, hdiff.symm]
    obtain ⟨content, hconf, -⟩ := ho
    rw [hconf] at hr
    rw [LinuxDnsManager.apply, if_neg hother]
    exact bind_of_error ((LinuxDnsManager.checkOwner_of_text (managedFile_answers path) hconf
      other).trans (if_pos hr))
  · obtain ⟨content, hconf, hp⟩ := ho
    obtain ⟨h', hreplace, habsent, -⟩ := replace_of_sound hs .absent
    refine ⟨h', ?_, habsent⟩
    rw [← removeFile_of_text path hconf] at hreplace
    rw [LinuxDnsManager.remove_of_text (managedFile_answers path) hconf, if_pos hp,
      after_of_ok hreplace]

/-- **One call** that does not release the file leaves it to its owner. -/
theorem owned_run (hread : ∀ config,
      LinuxDnsManager.parseOwner (LinuxDnsManager.marked display owner config) = some owner)
    (hs : h.Sound) (ho : h.Owned owner) (call : DnsCall) (hc : ¬ Releases path owner h call) :
    (call.run path display h).Sound ∧ (call.run path display h).Owned owner := by
  cases call with
  | apply other config =>
      rw [DnsCall.run]
      -- an owner without a name is refused before the file is looked at
      by_cases hother : other = ""
      · subst hother
        exact ⟨hs, ho⟩
      · by_cases hdiff : owner = other
        · subst hdiff
          have hr : Item.refusesOwner owner h.resolvConf = false := by simp [ho.refusesOwner]
          obtain ⟨h', happly, hconf, hs'⟩ :=
            apply_of_allowed path display hother hr hs config
          rw [after_of_ok happly]
          exact ⟨hs', _, hconf, hread config⟩
        · have hr : Item.refusesOwner other h.resolvConf = true := by
            simp [ho.refusesOwner, hdiff]
          obtain ⟨e, he⟩ := apply_of_refused path display hother hr
          rw [after_of_error he]
          exact ⟨hs, ho⟩
  | remove ownership =>
      obtain ⟨content, hconf, hp⟩ := ho
      have hremove := LinuxDnsManager.remove_of_text (managedFile_answers path) hconf ownership
      -- a removal by the owner would have released the file
      have hdiff : owner ≠ ownership.owner := by
        intro hsame
        rw [if_pos (hp.trans (congrArg some hsame))] at hremove
        exact hc ⟨ownership, _, rfl, hsame.symm, hremove⟩
      rw [hp, if_neg (by simpa using hdiff), if_neg (by simp)] at hremove
      rw [DnsCall.run, after_of_error hremove]
      exact ⟨hs, content, hconf, hp⟩

/-- What the others do leaves the file its owner's. -/
theorem owned_runsUnreleased (hread : ∀ config,
      LinuxDnsManager.parseOwner (LinuxDnsManager.marked display owner config) = some owner)
    (hs : h.Sound) (ho : h.Owned owner) (hruns : RunsUnreleased path display owner h h') :
    h'.Sound ∧ h'.Owned owner := by
  induction hruns with
  | refl => exact ⟨hs, ho⟩
  | call call _ hc ih =>
      obtain ⟨hs', ho'⟩ := ih
      exact owned_run hread hs' ho' call hc

/-- If the handle can be given back right away, then the sentinel read back. -/
theorem parseOwner_marked_of_lifecycle (hne : owner ≠ "") (hl : Lifecycle path display owner)
    (config : DnsConfig) :
    LinuxDnsManager.parseOwner (LinuxDnsManager.marked display owner config) = some owner := by
  obtain ⟨h₁, happly, hconf, -⟩ := apply_of_allowed path display
    (h := ⟨.absent, fun _ => none⟩) hne rfl (fun _ => rfl) config
  obtain ⟨h', hremove, habsent⟩ := (hl _ _ _ config _ (fun _ => rfl) happly (.refl h₁)).remove
  rw [LinuxDnsManager.remove_of_text (managedFile_answers path) hconf] at hremove
  split at hremove
  · next hp => exact hp
  · split at hremove
    · cases hremove
      rw [hconf] at habsent
      cases habsent
    · cases hremove

end

/-- **The lifecycle.**  An owner holds the file until it is released exactly if the owner is one
line without blanks around it. -/
theorem owner_lifecycle_iff (path : String) (display : IpAddr → String) (owner : String)
    (hne : owner ≠ "") : Lifecycle path display owner ↔
      '\n' ∉ owner.toList ∧ Text.trim owner.toList = owner.toList := by
  constructor
  · intro hl
    exact ((LinuxDnsManager.parseOwner_marked_iff display owner {}).mp
      (parseOwner_marked_of_lifecycle hne hl {})).2
  · rintro hplain h h₁ h₂ config handle hs happly hruns
    have hread : ∀ config,
        LinuxDnsManager.parseOwner (LinuxDnsManager.marked display owner config) = some owner :=
      fun config => (LinuxDnsManager.parseOwner_marked_iff display owner config).mpr ⟨hne, hplain⟩
    obtain ⟨-, rfl, hconf, hs₁⟩ := apply_eq_ok happly
    obtain ⟨hs₂, ho⟩ := owned_runsUnreleased hread (hs₁ hs) ⟨_, hconf, hread config⟩ hruns
    exact held_of_owned hne hs₂ ho

/-- The daemon as the owner. -/
theorem owner_lifecycle_iff_nmd : Lifecycle "/etc/resolv.conf" (fun _ => "") "nmd" :=
  (owner_lifecycle_iff "/etc/resolv.conf" (fun _ => "") "nmd" (by decide)).mpr (by decide)

/-- The owner `" a"` is given the file, and then refused. -/
theorem spaced_owner_refused :
    ¬ Lifecycle "/etc/resolv.conf" (fun _ => "") " a" ∧
      ∃ h₁, LinuxDnsManager.apply (managedFile "/etc/resolv.conf") (fun _ => "") " a" {}
          ⟨.absent, fun _ => none⟩ = .ok ⟨" a", "/etc/resolv.conf"⟩ h₁ ∧
        LinuxDnsManager.apply (managedFile "/etc/resolv.conf") (fun _ => "") " a" {} h₁ =
          .error (.foreignManaged "/etc/resolv.conf") h₁ ∧
        LinuxDnsManager.remove (managedFile "/etc/resolv.conf") ⟨" a", "/etc/resolv.conf"⟩ h₁ =
          .error (.foreignManaged "/etc/resolv.conf") h₁ := by
  refine ⟨fun hl => ?_, _, rfl, rfl, rfl⟩
  have hread := parseOwner_marked_of_lifecycle (by decide) hl {}
  exact absurd hread (by decide)

end NetworkManager
