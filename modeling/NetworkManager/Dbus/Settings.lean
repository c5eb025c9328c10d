import NetworkManager.Connection.Profile
import NetworkManager.Support.Results

/-!
# Dbus — Settings

The settings dictionaries of `dbus/convert.rs` and the errors of `dbus/error.rs`.

* `Zvariant V`: a type `V` of values on the bus, with the conversions of the zvariant crate that
  the facade uses.  What was built from a string, a number, … converts back to it.
* `IpText`: the text of an IP address, as the standard library writes and parses it.
* A dictionary is an association list, in which the first entry of a key counts.
-/

namespace NetworkManager

/-! ### Errors -/

/-- The errors of the facade, each with its text. -/
inductive FacadeError where
  | unknownConnection (description : String)
  | invalidSetting (description : String)
  | invalidProperty (description : String)
  | missingSetting (description : String)
  | unknownDevice (description : String)
  | unknownActiveConnection (description : String)
  | notActive (description : String)
  | alreadyActive (description : String)
  | permissionDenied (description : String)
  | notSupported (description : String)
  | internal (description : String)
  deriving DecidableEq

namespace FacadeError

/-- What clients hear of an invalid profile. -/
def ofProfileValidationError (value : ProfileValidationError) : FacadeError :=
  .invalidSetting (toString value)

end FacadeError

/-! ### Values -/

/-- A route of `ipv6.routes`: destination, prefix, next hop, metric. -/
abbrev RouteV6Entry := List UInt8 × UInt32 × List UInt8 × UInt32

/-- One section of a dictionary. -/
abbrev SettingsSection (V : Type) := List (String × V)

/-- A NetworkManager connection settings dictionary (`a{sa{sv}}`). -/
abbrev SettingsDict (V : Type) := List (String × SettingsSection V)

/-- The values of the bus, as the conversions make and read them. -/
structure Zvariant (V : Type) where
  valStr : String → V
  valU32 : UInt32 → V
  valI32 : Int32 → V
  valBool : Bool → V
  valBytes : List UInt8 → V
  valDictArray : List (SettingsSection V) → V
  valStrArray : List String → V
  valV4Routes : List (List UInt32) → V
  valV6Routes : List RouteV6Entry → V
  toStr : V → Option String
  toU32 : V → Option UInt32
  toI32 : V → Option Int32
  toBool : V → Option Bool
  toBytes : V → Option (List UInt8)
  toDictArray : V → Option (List (SettingsSection V))
  toV4Routes : V → Option (List (List UInt32))
  toV6Routes : V → Option (List RouteV6Entry)
  /-- The elements of a `Value::Array`. -/
  elements : V → Option (List V)
  /-- The text of a `Value::Str`. -/
  text : V → Option String
  toStr_valStr (s : String) : toStr (valStr s) = some s
  toU32_valU32 (n : UInt32) : toU32 (valU32 n) = some n
  toI32_valI32 (n : Int32) : toI32 (valI32 n) = some n
  toBool_valBool (b : Bool) : toBool (valBool b) = some b
  toBytes_valBytes (bytes : List UInt8) : toBytes (valBytes bytes) = some bytes
  toDictArray_valDictArray (dicts : List (SettingsSection V)) :
    toDictArray (valDictArray dicts) = some dicts
  toV4Routes_valV4Routes (routes : List (List UInt32)) :
    toV4Routes (valV4Routes routes) = some routes
  toV6Routes_valV6Routes (routes : List RouteV6Entry) :
    toV6Routes (valV6Routes routes) = some routes
  elements_valStrArray (texts : List String) :
    elements (valStrArray texts) = some (texts.map valStr)
  text_valStr (s : String) : text (valStr s) = some s

/-- The texts of addresses; what is displayed is parsed again. -/
structure IpText where
  display : IpAddr → String
  parse : String → Option IpAddr
  parse_display (address : IpAddr) : parse (display address) = some address

/-! ### Sections -/

namespace SettingsSection

variable {V : Type}

/-- The entry of a key that is there only if its value is. -/
def optional (key : String) (value : Option V) : SettingsSection V :=
  (value.map fun v => (key, v)).toList

@[simp] theorem lookup_cons (k key : String) (v : V) (sec : SettingsSection V) :
    List.lookup k ((key, v) :: sec) = if k = key then some v else List.lookup k sec := by
  rw [List.lookup_cons]
  by_cases h : k = key
  · simp [h]
  · simp [h, beq_eq_false_iff_ne.mpr h]

@[simp] theorem lookup_optional (k key : String) (value : Option V) :
    (optional key value).lookup k = if k = key then value else none := by
  cases value with
  | none => simp [optional]
  | some v =>
      rw [optional, Option.map_some, Option.toList_some, lookup_cons, List.lookup_nil]

end SettingsSection

/-! ### Accessors -/

namespace Zvariant

variable {V : Type} (z : Zvariant V) (sec : SettingsSection V) (key : String)

/-- A string of the section. -/
def getStr : Option String := (sec.lookup key).bind z.toStr

/-- An array of strings, if all its elements are. -/
def getStrArray : Option (List String) :=
  (sec.lookup key).bind fun value => (z.elements value).bind fun array => array.mapM z.text

/-- A number of the section. -/
def getU32 : Option UInt32 := (sec.lookup key).bind z.toU32

/-- A signed number of the section. -/
def getI32 : Option Int32 := (sec.lookup key).bind z.toI32

/-- A flag of the section. -/
def getBool : Option Bool := (sec.lookup key).bind z.toBool

/-- The bytes of the section. -/
def getBytes : Option (List UInt8) := (sec.lookup key).bind z.toBytes

/-- An array of dictionaries of the section. -/
def getDictArray : Option (List (SettingsSection V)) := (sec.lookup key).bind z.toDictArray

attribute [simp] toStr_valStr toU32_valU32 toI32_valI32 toBool_valBool toBytes_valBytes
  toDictArray_valDictArray toV4Routes_valV4Routes toV6Routes_valV6Routes elements_valStrArray
  text_valStr

@[simp] theorem mapM_text_map_valStr (texts : List String) :
    (texts.map z.valStr).mapM z.text = some texts := by
  induction texts with
  | nil => rfl
  | cons s texts ih => simp [ih]

end Zvariant

attribute [simp] IpText.parse_display

end NetworkManager
