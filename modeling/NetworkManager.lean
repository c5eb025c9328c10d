import NetworkManager.Support.Effects
import NetworkManager.Support.Tables
import NetworkManager.Support.Transactions
import NetworkManager.Support.Text
import NetworkManager.Linux.Model
import NetworkManager.Connection.Profile
import NetworkManager.Connection.Ip
import NetworkManager.Connection.State
import NetworkManager.Connection.Store
import NetworkManager.Connection.Activation
import NetworkManager.Linux.IpEngine
import NetworkManager.Linux.IpConfig
import NetworkManager.Linux.Dns
import NetworkManager.Linux.Host
import NetworkManager.Linux.IpEngine.Teardown
import NetworkManager.Linux.IpEngine.Install
import NetworkManager.Linux.IpEngine.Rollback
import NetworkManager.Authorization
import NetworkManager.Connection.Activation.EventLog
import NetworkManager.Connection.Activation.Heads
import NetworkManager.Connection.Activation.Selection
import NetworkManager.Connection.FileStore
import NetworkManager.Connection.FileStore.Atomicity
import NetworkManager.Connection.FileStore.Confinement
import NetworkManager.Connection.FileStore.Refinement
import NetworkManager.Connection.SupplicantEngine
import NetworkManager.Connection.SupplicantEngine.Ledger
import NetworkManager.Daemon
import NetworkManager.Dbus.AccessPoint
import NetworkManager.Dbus.Convert
import NetworkManager.Dbus.Devices
import NetworkManager.Dbus.Facade
import NetworkManager.Dbus.Facade.Access
import NetworkManager.Dbus.Facade.Atomicity
import NetworkManager.Dbus.Facade.DeviceStates
import NetworkManager.Dbus.Facade.Engines
import NetworkManager.Dbus.Facade.References
import NetworkManager.Dbus.Facade.Secrets
import NetworkManager.Dbus.Facade.StateChanges
import NetworkManager.Dbus.Facade.Updates
import NetworkManager.Dbus.IpConfig
import NetworkManager.Dbus.Locks
import NetworkManager.Dbus.Locks.Nesting
import NetworkManager.Dbus.Locks.Audit
import NetworkManager.Dbus.Locks.Authority
import NetworkManager.Dbus.Locks.Interleavings
import NetworkManager.Dbus.Paths
import NetworkManager.Dbus.RouteData
import NetworkManager.Linux.Activation.Agreement
import NetworkManager.Linux.Dhcp.Builders
import NetworkManager.Linux.Dhcp.Client
import NetworkManager.Linux.Dhcp.Exchange
import NetworkManager.Linux.Dhcp.Selection
import NetworkManager.Linux.Dhcp.Sockets
import NetworkManager.Linux.Dns.Lines
import NetworkManager.Linux.EventSources
import NetworkManager.Linux.Identifiers
import NetworkManager.Linux.IpEngine.Removals
import NetworkManager.Linux.IpEngine.Report
import NetworkManager.Linux.Netlink.Dumps
import NetworkManager.Linux.Netlink.Kernel
import NetworkManager.Linux.Netlink.Safety
import NetworkManager.Linux.Netlink.Sockets
import NetworkManager.Linux.Nl80211.Safety
import NetworkManager.Linux.Nl80211.Subscription
import NetworkManager.Linux.Supplicant.Association
import NetworkManager.Linux.Supplicant.Fidelity
import NetworkManager.Linux.Activation.Machine
import NetworkManager.Linux.Activation.Lifecycle
import NetworkManager.Dbus.Facade.Lifecycle
