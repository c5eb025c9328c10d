import NetworkManager.Connection.Store
import NetworkManager.Support.Paths

/-!
# Connection — FileStore

`FileProfileStore` of `connection/store.rs`: one TOML file for each profile.  The store is generic
over the operations of `std::fs` that it calls (`FileSystem`) and over the `toml` crate (`Toml`).
-/

namespace NetworkManager

open Paths Effects

/-- Access to files by their paths. -/
structure FileSystem (W : Type) where
  isFile : OsStr → W → Bool
  readToString : OsStr → EStateM IoError W String
  write : OsStr → String → EStateM IoError W Unit
  removeFile : OsStr → EStateM IoError W Unit
  /-- The names of the entries of a directory. -/
  readDir : OsStr → EStateM IoError W (List OsStr)

/-- `toml::to_string` and `toml::from_str` on profiles, with the texts of their errors. -/
structure Toml where
  toString : ConnectionProfile → Except String String
  fromStr : String → Except String ConnectionProfile

/-- A store that keeps each profile in a file of its own, in one directory. -/
structure FileProfileStore (W : Type) where
  fs : FileSystem W
  toml : Toml
  directory : OsStr

/-- The file name of a profile. -/
def fileName (id : ProfileId) : OsStr := osStr (id ++ ".toml")

/-- Reads the profile of this id from the contents of its file. -/
def parseProfile (toml : Toml) (id : ProfileId) (contents : String) :
    Except StoreError ConnectionProfile :=
  match toml.fromStr contents with
  | .error reason => .error (.malformed id reason)
  | .ok profile =>
    if profile.id ≠ id then
      .error (.malformed id ("file name does not match profile id " ++ Text.debug profile.id))
    else match profile.validate with
      | .error err => .error (.malformed id (toString err))
      | .ok () => .ok profile

/-- The entries of a directory with the extension `toml`, in order. -/
def tomlNames (names : List OsStr) : List OsStr :=
  (names.filter fun name => extension name = some (osStr "toml")).mergeSort
    fun a b => (compare a b).isLE

namespace FileProfileStore

variable {W : Type} (store : FileProfileStore W)

/-- Where the profile with this id is kept. -/
def pathFor (id : ProfileId) : OsStr := join store.directory (fileName id)

/-- Validates the profile and writes it out; the file is written in place. -/
def writeProfile (profile : ConnectionProfile) : EStateM StoreError W Unit := do
  EStateM.adaptExcept .invalid (MonadExcept.ofExcept profile.validate)
  match store.toml.toString profile with
  | .error reason => throw (.malformed profile.id reason)
  | .ok serialized => EStateM.adaptExcept .io (store.fs.write (store.pathFor profile.id) serialized)

/-- A profile that is valid and has a text is written; nothing happens otherwise. -/
theorem writeProfile_eq (profile : ConnectionProfile) : store.writeProfile profile =
    match profile.validate, store.toml.toString profile with
    | .error reason, _ => throw (.invalid reason)
    | .ok _, .error reason => throw (.malformed profile.id reason)
    | .ok _, .ok serialized =>
      EStateM.adaptExcept .io (store.fs.write (store.pathFor profile.id) serialized) := by
  unfold writeProfile
  cases profile.validate with
  | error reason => rfl
  | ok u => cases store.toml.toString profile <;> rfl

/-- Reads the profile of this id from this file. -/
def readFile (path : OsStr) (id : ProfileId) : EStateM StoreError W ConnectionProfile := do
  let contents ← EStateM.adaptExcept .io (store.fs.readToString path)
  MonadExcept.ofExcept (parseProfile store.toml id contents)

/-- Reads the profile with this id, which has to be the id in the file. -/
def readProfile (id : ProfileId) : EStateM StoreError W ConnectionProfile :=
  store.readFile (store.pathFor id) id

/-- The names of the profile files; their paths are in the directory of the store. -/
def profilePaths : EStateM StoreError W (List OsStr) :=
  tomlNames <$> EStateM.adaptExcept .io (store.fs.readDir store.directory)

/-- One round of the loop in `list`. -/
def loadEntry (name : OsStr) : EStateM StoreError W ConnectionProfile :=
  let path := join store.directory name
  match toStr (fileStem name) with
  | none => throw (.malformed (String.ofList (Text.fromUtf8Lossy path)) "invalid file name")
  | some id => store.readFile path id

/-- All profiles in the directory, sorted by their ids.  One that cannot be read fails the list. -/
def list : EStateM StoreError W (List ConnectionProfile) := do
  let names ← store.profilePaths
  let profiles ← names.mapM store.loadEntry
  return profiles.mergeSort fun a b => (compare a.id b.id).isLE

/-- The profile with this id, if its file is there. -/
def get (id : ProfileId) : EStateM StoreError W ConnectionProfile := do
  if store.fs.isFile (store.pathFor id) (← MonadState.get) then store.readProfile id
  else throw (.notFound id)

/-- Writes a profile whose file is not there yet. -/
def create (profile : ConnectionProfile) : EStateM StoreError W Unit := do
  if store.fs.isFile (store.pathFor profile.id) (← MonadState.get) then
    throw (.alreadyExists profile.id)
  else store.writeProfile profile

/-- Writes a profile whose file is there already. -/
def update (profile : ConnectionProfile) : EStateM StoreError W Unit := do
  if store.fs.isFile (store.pathFor profile.id) (← MonadState.get) then store.writeProfile profile
  else throw (.notFound profile.id)

/-- Removes the file of the profile with this id. -/
def delete (id : ProfileId) : EStateM StoreError W Unit := do
  if store.fs.isFile (store.pathFor id) (← MonadState.get) then
    EStateM.adaptExcept .io (store.fs.removeFile (store.pathFor id))
  else throw (.notFound id)

/-- The calls of the store. -/
def ops : ProfileStoreOps W := ⟨store.list, store.get, store.create, store.update, store.delete⟩

end FileProfileStore

end NetworkManager
