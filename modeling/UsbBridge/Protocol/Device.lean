import UsbBridge.Text.Digits

/-!
# Devices as consumers see them

An identity names a device for as long as it stays where it is plugged in; a descriptor is what a
listing shows of a device.
-/

namespace UsbBridge

/-- The text under which a device is named in every request and event. -/
structure Identity where
  text : String
  deriving DecidableEq, Repr, Inhabited, Hashable

instance : ToString Identity := ⟨Identity.text⟩

structure Descriptor where
  identity : Identity
  vendor : UInt16
  product : UInt16
  deriving DecidableEq, Repr, Inhabited

/-- The pair of vendor and product number, four digits each. -/
def modelText (vendor product : UInt16) : String :=
  s!"{hexText 4 vendor.toNat}:{hexText 4 product.toNat}"

def Descriptor.text (d : Descriptor) : String :=
  s!"{d.identity} ({modelText d.vendor d.product})"

inductive HotplugKind where
  | attached
  | detached
  deriving DecidableEq, Repr, Inhabited

def HotplugKind.name : HotplugKind → String
  | .attached => "Attached"
  | .detached => "Detached"

def lowerAscii (c : Char) : Char :=
  if 'A' ≤ c ∧ c ≤ 'Z' then Char.ofNat (c.toNat + 32) else c

/-- The words under which systems report a change; letter case does not matter. -/
def HotplugKind.ofAction? (action : String) : Option HotplugKind :=
  match String.ofList (action.toList.map lowerAscii) with
  | "add" | "attached" | "arrived" => some .attached
  | "remove" | "detached" | "left" => some .detached
  | _ => none

structure HotplugEvent where
  kind : HotplugKind
  device : Descriptor
  deriving DecidableEq, Repr, Inhabited

inductive EndReason where
  | replaced
  | cancelled
  | registrationLost
  | shutdown
  deriving DecidableEq, Repr, Inhabited

def EndReason.name : EndReason → String
  | .replaced => "Replaced"
  | .cancelled => "Cancelled"
  | .registrationLost => "RegistrationLost"
  | .shutdown => "Shutdown"

def EndReason.text : EndReason → String
  | .replaced => "replaced by a newer subscriber"
  | .cancelled => "cancelled"
  | .registrationLost => "OS hotplug registration lost"
  | .shutdown => "session manager shut down"

inductive PermissionState where
  | granted
  | denied
  deriving DecidableEq, Repr, Inhabited

def PermissionState.ofGrant (granted : Bool) : PermissionState :=
  if granted then .granted else .denied

def PermissionState.isGranted : PermissionState → Bool
  | .granted => true
  | .denied => false

def PermissionState.name : PermissionState → String
  | .granted => "Granted"
  | .denied => "Denied"

inductive SessionError where
  | enumeration (message : String)
  | deviceNotFound (identity : Identity)
  | permissionDenied (identity : Identity)
  | openFailed (identity : Identity) (reason : String) (busy : Bool)
  | alreadyOpening (identity : Identity)
  deriving DecidableEq, Repr, Inhabited

def SessionError.name : SessionError → String
  | .enumeration _ => "EnumerationError"
  | .deviceNotFound _ => "DeviceNotFound"
  | .permissionDenied _ => "PermissionDenied"
  | .openFailed .. => "OpenFailed"
  | .alreadyOpening _ => "AlreadyOpening"

def SessionError.message : SessionError → String
  | .enumeration message => s!"device enumeration failed: {message}"
  | .deviceNotFound identity => s!"device {identity} not found"
  | .permissionDenied identity => s!"permission denied for device {identity}"
  | .openFailed identity reason _ => s!"failed to open device {identity}: {reason}"
  | .alreadyOpening identity => s!"device {identity} is already being opened"

def SessionError.isRetryable : SessionError → Bool
  | .enumeration _ => true
  | .openFailed _ _ busy => busy
  | _ => false

/-- Identities in the order of their bytes, each once. -/
def Identity.sorted (ids : List Identity) : List Identity :=
  (ids.map (·.text)).eraseDups.mergeSort (fun a b => decide (a ≤ b)) |>.map Identity.mk

end UsbBridge
