import UsbBridge.Device.Filter
import UsbBridge.Host.Basic

/-!
# Commands about attached devices

Listing, permission and opening all see the devices that one enumeration reports and the filter
lets through; an identity stands for the first of them that bears it.
-/

namespace UsbBridge

namespace Directory

def visible (f : DeviceFilter) (devices : List Device) : List Device := devices.filter f.allows

def resolve (f : DeviceFilter) (devices : List Device) (id : Identity) :
    Except SessionError Device :=
  match (visible f devices).find? (·.identity = id) with
  | some d => .ok d
  | none => .error (.deviceNotFound id)

def listing (f : DeviceFilter) : HostAnswer (List Device) → Except SessionError (List Descriptor)
  | .ok devices => .ok ((visible f devices).map Device.describe)
  | .failed e => .error (.enumeration e.message)
  | .broken text => .error (.enumeration s!"enumeration task failed: {breakText text}")

/-- The device that an identity stands for, with whether it may be opened. -/
def located (f : DeviceFilter) (answer : HostAnswer (List Device)) (id : Identity) :
    Except SessionError Device :=
  match answer with
  | .ok devices => resolve f devices id
  | .failed e => .error (.enumeration e.message)
  | .broken text => .error (.enumeration s!"permission task failed: {breakText text}")

/-- Whether the device of an identity may be opened; `permits` is the host's answer about a
device. -/
def permission (f : DeviceFilter) (answer : HostAnswer (List Device))
    (permits : Device → HostAnswer Bool) (id : Identity) : Except SessionError Bool := do
  let device ← located f answer id
  match permits device with
  | .ok granted => .ok granted
  | .failed e => .error (.enumeration e.message)
  | .broken text => .error (.enumeration s!"permission task failed: {breakText text}")

end Directory

end UsbBridge
