import UsbBridge.Device.Raw
import UsbBridge.Text.Quoted

/-!
# What the operating system answers

A host lists the attached devices, says which of them may be opened, opens them and reports
changes. Each call may fail, and each may break off with a message of its own.
-/

namespace UsbBridge

inductive HostError where
  | enumeration (text : String)
  | busy
  | opening (text : String)
  | hotplug (text : String)
  deriving DecidableEq, Repr, Inhabited

namespace HostError

def name : HostError → String
  | .enumeration _ => "Enumeration"
  | .busy => "Busy"
  | .opening _ => "Open"
  | .hotplug _ => "Hotplug"

def message : HostError → String
  | .enumeration text => s!"USB enumeration failed: {text}"
  | .busy => "device or resource busy"
  | .opening text => s!"open failed: {text}"
  | .hotplug text => s!"hotplug registration failed: {text}"

end HostError

inductive HostAnswer (α : Type) where
  | ok (value : α)
  | failed (error : HostError)
  | broken (text : String)
  deriving DecidableEq, Repr, Inhabited

def breakText (text : String) : String := s!"task N panicked with message {Text.quoted text}"

structure RawNotification where
  action : String
  device : Device
  deriving DecidableEq, Repr, Inhabited

end UsbBridge
