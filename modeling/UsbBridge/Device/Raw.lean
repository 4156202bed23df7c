import UsbBridge.Protocol.Device

/-!
# Devices as the operating system reports them

A device is named by where it is plugged in, and only when that is unknown by the number that the
operating system gave it, which changes with every attachment.
-/

namespace UsbBridge

structure Device where
  bus : UInt8
  address : UInt8
  /-- Where the device is plugged in, such as `1-1.4`. -/
  portPath : Option String
  vendor : UInt16
  product : UInt16
  deviceClass : UInt8
  /-- Whether some interface is an abstract control model for serial lines. -/
  serialLine : Bool
  deriving DecidableEq, Repr, Inhabited

namespace Device

def number (d : Device) : Nat := d.bus.toNat * 1000 + d.address.toNat

def nodePath (d : Device) : String :=
  s!"/dev/bus/usb/{paddedText 3 d.bus.toNat}/{paddedText 3 d.address.toNat}"

def text (d : Device) : String :=
  s!"bus={d.bus.toNat} addr={d.address.toNat} vid={hexText 4 d.vendor.toNat} pid={hexText 4 d.product.toNat}"

def identity (d : Device) : Identity :=
  match d.portPath with
  | some path => if path.isEmpty then ⟨s!"usb-dev-{d.number}"⟩ else ⟨path⟩
  | none => ⟨s!"usb-dev-{d.number}"⟩

def describe (d : Device) : Descriptor := ⟨d.identity, d.vendor, d.product⟩

/-- The path of a device that hangs off a bus through a chain of ports; a device without ports
has none. -/
def portPathOf (bus : UInt8) (ports : List UInt8) : Option String :=
  if ports.isEmpty then none
  else some (toString bus.toNat ++ "-" ++ ".".intercalate (ports.map fun p => toString p.toNat))

end Device

end UsbBridge
