import NetworkManager.Connection.Ip
import NetworkManager.Support.Effects

/-!
# Linux — Dns

`linux/dns.rs`: the `DnsManager` that owns a `resolv.conf`-style file by a sentinel comment on
its first line.  The file is reached through the three operations the code uses (`ManagedFile`);
`writeAtomic` either replaces the whole content or fails and leaves the file as it was.
-/

namespace NetworkManager

/-- Access to the managed file. -/
structure ManagedFile (W : Type) where
  path : String
  readToString : EStateM IoError W String
  writeAtomic : String → EStateM IoError W Unit
  removeFile : EStateM IoError W Unit

namespace LinuxDnsManager

/-- How the line starts that names the owner. -/
def sentinelPrefix : List Char := "# nmd-owned owner=".toList

/-- The owner the first sentinel line names, if it names one. -/
def parseOwner (content : String) : Option String :=
  (((Text.lines content.toList).findSome? (Text.stripPrefix sentinelPrefix)).map Text.trim
    |>.filter (· ≠ [])).map String.ofList

/-- A line that is not blank. -/
def hasContent (content : String) : Bool :=
  (Text.lines content.toList).any fun line => Text.trim line ≠ []

/-- The body of the file: the search line, if any, and a line for each server. -/
def serialize (display : IpAddr → String) (config : DnsConfig) : List Char :=
  (if config.searchDomains.isEmpty then []
    else "search ".toList ++ (" ".intercalate config.searchDomains).toList ++ ['\n']) ++
  config.servers.flatMap fun server => "nameserver ".toList ++ (display server).toList ++ ['\n']

/-- The content `apply` writes. -/
def marked (display : IpAddr → String) (owner : String) (config : DnsConfig) : String :=
  String.ofList (sentinelPrefix ++ owner.toList ++ '\n' :: serialize display config)

variable {W : Type} (file : ManagedFile W)

/-- The owner of the file, if it is there and has one. -/
def readOwner : EStateM DnsError W (Option String) := do
  match ← Effects.attempt file.readToString with
  | .ok content => return parseOwner content
  | .error err => if err.kind = .notFound then return none else throw (.io err)

/-- The file may be written: it is the owner's, or nobody's and absent or effectively empty. -/
def checkOwner (owner : String) : EStateM DnsError W Unit := do
  match ← readOwner file with
  | some existing => if existing ≠ owner then throw (.foreignManaged file.path)
  | none =>
    match ← Effects.attempt file.readToString with
    | .ok content => if hasContent content then throw (.foreignManaged file.path)
    | .error _ => return

/-- Writes the file for an owner, unless it is somebody else's. -/
def apply (display : IpAddr → String) (owner : String) (config : DnsConfig) :
    EStateM DnsError W DnsOwnership := do
  if owner = "" then throw (.invalidConfig "owner must not be empty")
  checkOwner file owner
  EStateM.adaptExcept .io (file.writeAtomic (marked display owner config))
  return { owner, path := file.path }

/-- Removes the file of the owner; what nobody owns is left. -/
def remove (ownership : DnsOwnership) : EStateM DnsError W Unit := do
  match ← readOwner file with
  | some existing =>
    if existing = ownership.owner then do let _ ← Effects.attempt file.removeFile
    else throw (.foreignManaged file.path)
  | none => return

end LinuxDnsManager

/-- The manager over access to its file; `display` is `IpAddr`'s `Display`. -/
def linuxDnsManager {W : Type} (file : ManagedFile W) (display : IpAddr → String) :
    DnsManager W where
  apply := LinuxDnsManager.apply file display
  remove := LinuxDnsManager.remove file

/-! ### The sentinel -/

namespace LinuxDnsManager

/-- An owner string as the activation engine builds it: not empty, and without whitespace. -/
def PlainOwner (owner : String) : Prop :=
  owner ≠ "" ∧ ∀ c ∈ owner.toList, Text.isWhitespace c = false

/-- The start of the line has no line break. -/
theorem sentinelPrefix_plain : ∀ c ∈ sentinelPrefix, c ≠ '\n' ∧ c ≠ '\r' := by
  have h : (sentinelPrefix.all fun c => c != '\n' && c != '\r') = true := rfl
  intro c hc
  simpa using List.all_eq_true.mp h c hc

theorem cr_not_mem_sentinelPrefix : '\r' ∉ sentinelPrefix := fun h => (sentinelPrefix_plain _ h).2 rfl

/-- The owner that the rest of a sentinel line names. -/
def ownerOf (line : List Char) : Option String :=
  if Text.trim line = [] then none else some (String.ofList (Text.trim line))

/-- A line names an owner if it is one when trimmed, and not empty. -/
theorem ownerOf_eq_some {line : List Char} {owner : String} :
    ownerOf line = some owner ↔ owner ≠ "" ∧ Text.trim line = owner.toList := by
  rw [ownerOf]
  split
  · next h =>
      rw [h]
      exact ⟨by rintro ⟨⟩, fun ⟨hne, he⟩ => (hne (String.toList_inj.mp he.symm)).elim⟩
  · next h =>
      rw [Option.some.injEq, String.ofList_eq]
      refine ⟨fun he => ⟨?_, he⟩, fun ⟨_, he⟩ => he⟩
      rintro rfl
      exact h he

/-- What the first sentinel line says is what the parser returns. -/
theorem parseOwner_eq (content : String) : parseOwner content =
    ((Text.lines content.toList).findSome? (Text.stripPrefix sentinelPrefix)).bind ownerOf := by
  rw [parseOwner]
  cases (Text.lines content.toList).findSome? (Text.stripPrefix sentinelPrefix) with
  | none => rfl
  | some line =>
      rw [Option.map_some, Option.bind_some, ownerOf]
      split
      · next h => simp [h]
      · next h => simp [Option.filter, h]

/-- The owner of a text that starts with a sentinel line. -/
theorem parseOwner_sentinel {line : List Char} (hline : '\n' ∉ line) (rest : List Char) :
    parseOwner (String.ofList (sentinelPrefix ++ line ++ '\n' :: rest)) = ownerOf line := by
  have hnl : '\n' ∉ sentinelPrefix ++ line := by
    rw [List.mem_append, not_or]
    exact ⟨fun h => (sentinelPrefix_plain _ h).1 rfl, hline⟩
  rw [parseOwner_eq, String.toList_ofList, Text.lines_cons hnl]
  cases hempty : line with
  | nil =>
      rw [List.append_nil, Text.chomp_eq_self cr_not_mem_sentinelPrefix, List.findSome?_cons]
      rfl
  | cons c cs =>
      rw [Text.chomp_append _ (List.cons_ne_nil c cs), List.findSome?_cons, Text.stripPrefix_append,
        Option.bind_some, ownerOf, ownerOf, Text.trim_chomp]

/-- **The sentinel reads back** exactly if the owner is one line without blanks around it. -/
theorem parseOwner_marked_iff (display : IpAddr → String) (owner : String) (config : DnsConfig) :
    parseOwner (marked display owner config) = some owner ↔
      owner ≠ "" ∧ '\n' ∉ owner.toList ∧ Text.trim owner.toList = owner.toList := by
  by_cases hnl : '\n' ∈ owner.toList
  · obtain ⟨line, rest, howner, hline⟩ := List.eq_append_cons_of_mem hnl
    have hmarked : marked display owner config = String.ofList
        (sentinelPrefix ++ line ++ '\n' :: (rest ++ '\n' :: serialize display config)) := by
      rw [marked, howner]
      simp
    rw [hmarked, parseOwner_sentinel hline, ownerOf_eq_some]
    refine ⟨fun ⟨_, h⟩ => ?_, fun ⟨_, h, _⟩ => (h hnl).elim⟩
    exact (hline (Text.mem_of_mem_trim (h ▸ hnl))).elim
  · rw [marked, parseOwner_sentinel hnl, ownerOf_eq_some]
    simp [hnl]

/-- The owner is read back from the file that was written for it. -/
theorem parseOwner_marked (display : IpAddr → String) {owner : String} (ho : PlainOwner owner)
    (config : DnsConfig) : parseOwner (marked display owner config) = some owner := by
  refine (parseOwner_marked_iff display owner config).mpr ⟨ho.1, fun h => ?_, ?_⟩
  · exact absurd (ho.2 _ h) (by decide)
  · exact Text.trim_eq_self ho.2

end LinuxDnsManager

end NetworkManager
