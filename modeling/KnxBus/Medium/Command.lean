import KnxBus.Address

/-!
# What a medium can be told
-/

namespace KnxBus

/-- A command to a medium: entering and leaving its modes, and the address filters of interfaces
that have them. -/
inductive Command where
  /-- Enter normal operation. -/
  | start
  /-- Leave normal operation. -/
  | finish
  /-- Report captures instead of frames. -/
  | enterBusmonitor
  /-- Report frames again. -/
  | leaveBusmonitor
  /-- Report captures before frames. -/
  | openVirtualMonitor
  /-- Report frames only. -/
  | closeVirtualMonitor
  /-- Take frames to an individual address. -/
  | addAddress (address : IndividualAddress)
  /-- Leave them. -/
  | removeAddress (address : IndividualAddress)
  /-- Take frames to a group. -/
  | addGroup (group : GroupAddress)
  /-- Leave them. -/
  | removeGroup (group : GroupAddress)
  deriving DecidableEq, Repr

namespace Command

/-- The name of a command, without its address. -/
def name : Command → String
  | start => "open"
  | finish => "close"
  | enterBusmonitor => "enter_busmonitor"
  | leaveBusmonitor => "leave_busmonitor"
  | openVirtualMonitor => "open_vbusmonitor"
  | closeVirtualMonitor => "close_vbusmonitor"
  | addAddress _ => "add_address"
  | removeAddress _ => "remove_address"
  | addGroup _ => "add_group_address"
  | removeGroup _ => "remove_group_address"

/-- A command in words: its name and, where it has one, its address as a number. -/
def text : Command → String
  | addAddress a => (addAddress a).name ++ " " ++ Number.text a.raw.toNat
  | removeAddress a => (removeAddress a).name ++ " " ++ Number.text a.raw.toNat
  | addGroup g => (addGroup g).name ++ " " ++ Number.text g.raw.toNat
  | removeGroup g => (removeGroup g).name ++ " " ++ Number.text g.raw.toNat
  | other => other.name

end Command
end KnxBus
