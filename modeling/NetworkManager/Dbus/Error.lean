import NetworkManager.Connection.Activation
import NetworkManager.Dbus.Settings

/-!
# Dbus — Error

`dbus/error.rs`: the names the facade's errors have on the bus, and which of them the errors of
the store, of the kernel and of the activation manager become.
-/

namespace NetworkManager

namespace FacadeError

/-- The D-Bus name of the error. -/
def name : FacadeError → String
  | .unknownConnection _ =>
    "org.freedesktop.NetworkManager.Settings.Connection.UnknownConnection"
  | .invalidSetting _ => "org.freedesktop.NetworkManager.Settings.Connection.InvalidSetting"
  | .invalidProperty _ => "org.freedesktop.NetworkManager.Settings.Connection.InvalidProperty"
  | .missingSetting _ => "org.freedesktop.NetworkManager.Settings.Connection.MissingSetting"
  | .unknownDevice _ => "org.freedesktop.NetworkManager.UnknownDevice"
  | .unknownActiveConnection _ => "org.freedesktop.NetworkManager.UnknownActiveConnection"
  | .notActive _ => "org.freedesktop.NetworkManager.NotActive"
  | .alreadyActive _ => "org.freedesktop.NetworkManager.AlreadyActive"
  | .permissionDenied _ => "org.freedesktop.NetworkManager.PermissionDenied"
  | .notSupported _ => "org.freedesktop.NetworkManager.NotSupported"
  | .internal _ => "org.freedesktop.DBus.Error.Failed"

/-- The text of the error. -/
def description : FacadeError → String
  | .unknownConnection desc | .invalidSetting desc | .invalidProperty desc
  | .missingSetting desc | .unknownDevice desc | .unknownActiveConnection desc
  | .notActive desc | .alreadyActive desc | .permissionDenied desc | .notSupported desc
  | .internal desc => desc

instance : ToString FacadeError := ⟨fun error => error.name ++ ": " ++ error.description⟩

/-- The error of an operation that the facade does not implement. -/
def ofUnimplemented (operation : String) : FacadeError :=
  .notSupported (operation ++ " is not supported by this daemon")

/-- What clients hear of an error of the store. -/
def ofStoreError : StoreError → FacadeError
  | .notFound id => .unknownConnection id
  | .alreadyExists id => .invalidSetting ("connection " ++ Text.debug id ++ " already exists")
  | .invalid reason => .invalidSetting (toString reason)
  | .malformed id reason =>
    .invalidSetting ("profile " ++ Text.debug id ++ " is malformed: " ++ reason)
  | .io err => .invalidSetting ("store I/O failed: " ++ toString err)

/-- What clients hear of an error of rtnetlink. -/
def ofNetlinkError (value : NetlinkError) : FacadeError := .internal (toString value)

/-- What clients hear of an error of the manager. -/
def ofActivationError : ActivationError → FacadeError
  | .profileNotFound id => .unknownConnection id
  | .deviceIncompatible profileId device =>
    .invalidProperty ("profile " ++ Text.debug profileId ++ " does not match device " ++
      device.interfaceName ++ " (" ++ toString device.kind ++ ")")
  | .noSuitableProfile device =>
    .invalidSetting ("no suitable connection profile for device " ++ device.interfaceName ++
      " (" ++ toString device.kind ++ ")")
  | .alreadyActive id => .alreadyActive id
  | .unknownActiveConnection id => .unknownActiveConnection (toString id)
  | .invalidState activeId _ =>
    .notActive ("active connection " ++ toString activeId ++ " is not active")
  | .state err => .notActive (toString err)
  | .store err => ofStoreError err
  | .engine reason => .notSupported reason

end FacadeError

end NetworkManager
