import Mathlib

/-!
# Support — Paths

Unix paths as the Rust standard library has them, on the bytes of an `OsStr`: `Path::join`,
`Path::components`, `Path::file_stem` and `Path::extension`.
-/

namespace Paths

/-- `OsStr`, on Unix: any bytes. -/
abbrev OsStr := List UInt8

/-- The bytes of a string. -/
def osStr (s : String) : OsStr := s.toUTF8.data.toList

/-- `OsStr::to_str`. -/
def toStr (name : OsStr) : Option String := String.fromUTF8? ⟨name.toArray⟩

theorem osStr_injective {s t : String} (h : osStr s = osStr t) : s = t :=
  String.toByteArray_inj.mp (ByteArray.ext (Array.toList_inj.mp h))

theorem osStr_append (s t : String) : osStr (s ++ t) = osStr s ++ osStr t := by
  simp [osStr, String.toByteArray_append]

/-- A string reads back from its bytes. -/
theorem toStr_osStr (s : String) : toStr (osStr s) = some s := by
  rw [toStr, osStr, Array.toArray_toList]
  exact dif_pos s.isValidUTF8

/-- The bytes that are a string are those of the string. -/
theorem toStr_eq_some {name : OsStr} {s : String} : toStr name = some s ↔ name = osStr s := by
  constructor
  · intro h
    rw [toStr, String.fromUTF8?] at h
    split at h
    · cases h
      rfl
    · cases h
  · rintro rfl
    exact toStr_osStr s

theorem osStr_eq_flatMap (s : String) : osStr s = s.toList.flatMap String.utf8EncodeChar := by
  rw [osStr, ← String.ofList_toList (s := s), String.toUTF8, String.toByteArray_ofList,
    List.utf8Encode]
  simp

/-- Only an ASCII character has ASCII bytes. -/
theorem ascii_mem_utf8EncodeChar {c : Char} {b : UInt8} (hb : b < 0x80)
    (h : b ∈ String.utf8EncodeChar c) : c.toNat = b.toNat := by
  have hlt : b.toNat < 128 := hb
  have hof (n : ℕ) : (UInt8.ofNat n).toNat = n % 256 := UInt8.toNat_ofNat'
  unfold String.utf8EncodeChar at h
  dsimp only at h
  split at h
  · rw [List.mem_singleton] at h
    rw [h, hof]
    show c.val.toNat = _
    omega
  · split at h
    · simp only [List.mem_cons, List.not_mem_nil, or_false] at h
      rcases h with rfl | rfl <;> rw [hof] at hlt <;> omega
    · split at h
      · simp only [List.mem_cons, List.not_mem_nil, or_false] at h
        rcases h with rfl | rfl | rfl <;> rw [hof] at hlt <;> omega
      · simp only [List.mem_cons, List.not_mem_nil, or_false] at h
        rcases h with rfl | rfl | rfl | rfl <;> rw [hof] at hlt <;> omega

/-! ### Joining -/

/-- The separator of a path. -/
def slash : UInt8 := 0x2f

/-- A separator in the bytes of a string is one of its characters. -/
theorem slash_mem_osStr {s : String} (h : slash ∈ osStr s) : '/' ∈ s.toList := by
  rw [osStr_eq_flatMap, List.mem_flatMap] at h
  obtain ⟨c, hc, hslash⟩ := h
  have hval := ascii_mem_utf8EncodeChar (by decide) hslash
  have hchar : c = '/' := Char.ext (UInt32.toNat_inj.mp hval)
  rwa [hchar] at hc

/-- What comes before an extension. -/
def dot : UInt8 := 0x2e

/-- `Path::join`. -/
def join (dir path : OsStr) : OsStr :=
  if path.head? = some slash then path
  else if dir = [] ∨ dir.getLast? = some slash then dir ++ path
  else dir ++ slash :: path

/-- What `Path::components` distinguishes: whether the path is absolute, and its names without
empty ones and without `.`; `..` is kept. -/
structure Components where
  absolute : Bool
  names : List OsStr
  deriving DecidableEq

/-- A name that `Path::components` keeps. -/
def isName (name : OsStr) : Bool := name ≠ [] && name ≠ [dot]

/-- The names of a path, without the empty ones and the single dots. -/
def names (path : OsStr) : List OsStr := (path.splitOn slash).filter isName

/-- `Path::components`. -/
def components (path : OsStr) : Components := ⟨path.head? = some slash, names path⟩

/-- Names without slashes, none empty or `.`. -/
def Components.Proper (c : Components) : Prop := ∀ name ∈ c.names, slash ∉ name ∧ isName name

/-- A name between separators has none. -/
theorem slash_not_mem_of_mem_splitOn {path : OsStr} :
    ∀ {name : OsStr}, name ∈ path.splitOn slash → slash ∉ name := by
  induction path with
  | nil => simp
  | cons b path ih =>
      intro name h
      rw [List.splitOn_cons_eq_if_modifyHead] at h
      split at h
      · rcases List.mem_cons.mp h with rfl | h
        · exact List.not_mem_nil
        · exact ih h
      · next hb =>
          cases hsplit : path.splitOn slash with
          | nil => exact absurd hsplit (List.splitOn_ne_nil slash path)
          | cons first rest =>
              rw [hsplit] at ih h
              rcases List.mem_cons.mp h with rfl | h
              · rw [List.mem_cons, not_or]
                exact ⟨fun heq => hb (by simp [heq]), ih List.mem_cons_self⟩
              · exact ih (List.mem_cons_of_mem first h)

/-- The components of a path are proper: no name is empty, a single dot, or has a separator. -/
theorem proper_components (path : OsStr) : (components path).Proper := by
  intro name hname
  obtain ⟨hsplit, hkept⟩ := List.mem_filter.mp hname
  exact ⟨slash_not_mem_of_mem_splitOn hsplit, hkept⟩

/-- The names of a joined path are those of both. -/
theorem names_append_slash (d path : OsStr) : names (d ++ slash :: path) = names d ++ names path := by
  rw [names, List.splitOn_append_cons_self, List.filter_append, names, names]

theorem names_concat_slash (d : OsStr) : names (d ++ [slash]) = names d := by
  rw [names_append_slash]
  exact List.append_nil _

/-- The path of an entry of a directory. -/
def Components.child (dir : Components) (name : OsStr) : Components :=
  { dir with names := dir.names ++ [name] }

/-- Children of a directory are told apart by their names. -/
theorem Components.child_inj {dir : Components} {name name' : OsStr} :
    dir.child name = dir.child name' ↔ name = name' := by
  simp [child]

/-- A relative path goes on from its directory. -/
theorem components_join (dir : OsStr) {path : OsStr} (h : path.head? ≠ some slash) :
    components (join dir path) = ⟨(components dir).absolute, names dir ++ names path⟩ := by
  rw [join, if_neg h]
  split
  · next hdir =>
      rcases hdir with rfl | hdir
      · simp [components, h, names, isName]
      · obtain ⟨d, rfl⟩ := List.getLast?_eq_some_iff.mp hdir
        rw [components, components, names_concat_slash, List.append_assoc, List.singleton_append,
          names_append_slash]
        cases d <;> rfl
  · next hdir =>
      rw [not_or] at hdir
      obtain ⟨c, d, rfl⟩ := List.exists_cons_of_ne_nil hdir.1
      rw [components, names_append_slash]
      rfl

/-- A name without slashes is an entry of the directory. -/
theorem components_join_name (dir : OsStr) {name : OsStr} (hslash : slash ∉ name)
    (hname : isName name) : components (join dir name) = (components dir).child name := by
  have hhead : name.head? ≠ some slash := fun h => hslash (List.mem_of_mem_head? h)
  rw [components_join dir hhead]
  simp [names, List.splitOn_eq_singleton hslash, hname, Components.child, components]

/-! ### Stem and extension -/

/-- `Path::file_stem` and `Path::extension` of a name. -/
def splitName (name : OsStr) : OsStr × Option OsStr :=
  let before := (name.rdropWhile (· ≠ dot)).dropLast
  if before = [] ∨ name = [dot, dot] then (name, none)
  else (before, some (name.rtakeWhile (· ≠ dot)))

/-- `Path::file_stem`. -/
def fileStem (name : OsStr) : OsStr := (splitName name).1

/-- `Path::extension`. -/
def extension (name : OsStr) : Option OsStr := (splitName name).2

/-- A name with a stem and an extension falls apart into them. -/
theorem splitName_append {stem ext : OsStr} (hstem : stem ≠ []) (hext : dot ∉ ext)
    (hne : ext ≠ []) : splitName (stem ++ dot :: ext) = (stem, some ext) := by
  have hplain : ∀ b ∈ ext.reverse, (decide (b ≠ dot)) = true := fun b hb =>
    decide_eq_true fun h => hext (h ▸ List.mem_reverse.mp hb)
  have hrev : (stem ++ dot :: ext).reverse = ext.reverse ++ dot :: stem.reverse := by simp
  have hdrop : (stem ++ dot :: ext).rdropWhile (· ≠ dot) = stem ++ [dot] := by
    rw [List.rdropWhile, hrev, List.dropWhile_append_of_pos hplain]
    simp
  have htake : (stem ++ dot :: ext).rtakeWhile (· ≠ dot) = ext := by
    rw [List.rtakeWhile, hrev, List.takeWhile_append_of_pos hplain]
    simp
  have hdots : stem ++ dot :: ext ≠ [dot, dot] := by
    intro h
    have hlength := congrArg List.length h
    have := List.length_pos_iff.mpr hstem
    have := List.length_pos_iff.mpr hne
    simp at hlength
    omega
  rw [splitName]
  simp only [hdrop, htake, List.dropLast_concat, hstem, hdots, or_self, if_false]

/-- A name with an extension is its stem, a dot and the extension. -/
theorem eq_of_extension {name ext : OsStr} (h : extension name = some ext) :
    name = fileStem name ++ dot :: ext := by
  rw [extension, splitName] at h
  rw [fileStem, splitName]
  split at h
  · cases h
  · next hname =>
      cases h
      rw [not_or] at hname
      have hne : name.rdropWhile (· ≠ dot) ≠ [] := fun hnil => hname.1 (by rw [hnil]; rfl)
      have hlast := List.rdropWhile_last_not (· ≠ dot) name hne
      rw [decide_eq_true_eq, not_not] at hlast
      have hbefore := List.dropLast_append_getLast hne
      rw [hlast] at hbefore
      rw [if_neg (not_or.mpr hname), List.append_cons, hbefore,
        List.rdropWhile_append_rtakeWhile]

end Paths
