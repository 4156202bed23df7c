import UsbBridge.Text.Digits

/-!
# Reports of the kernel

The kernel reports changes of the bus as fields with values. A report counts only if it says that a
device was added or removed and names the device.
-/

namespace UsbBridge.Bus

abbrev Uevent := List (String × String)

structure Change where
  removed : Bool
  bus : UInt8
  address : UInt8
  /-- The last part of the device's path, if that has parts. -/
  name : Option String
  deriving DecidableEq, Repr, Inhabited

/-- The number that a text begins with, zero if there is none; too large a number is refused. -/
def leadingNumber? (text : String) : Option Nat :=
  let digits := (text.toList.dropWhile Char.isWhitespace).takeWhile Text.isDigit
  let n := Text.decimal digits
  if n < Text.wordSize then some n else none

def lastPart? (path : String) : Option String :=
  match (path.splitOn "/").reverse with
  | last :: _ :: _ => some last
  | _ => none

def Change.ofUevent? (fields : Uevent) : Option Change := do
  let action ← fields.lookup "ACTION"
  let removed ← if action = "remove" then some true else if action = "add" then some false else none
  let subsystem ← fields.lookup "SUBSYSTEM"
  guard (subsystem = "usb")
  let kind ← fields.lookup "DEVTYPE"
  guard (kind = "usb_device")
  let bus ← fields.lookup "BUSNUM" >>= leadingNumber?
  let address ← fields.lookup "DEVNUM" >>= leadingNumber?
  let path ← fields.lookup "DEVPATH"
  return ⟨removed, bus.toUInt8, address.toUInt8, lastPart? path⟩

def ueventOf (removed : Bool) (name : String) (bus address : UInt8) : Uevent :=
  [("ACTION", if removed then "remove" else "add"), ("SUBSYSTEM", "usb"),
    ("DEVTYPE", "usb_device"), ("BUSNUM", paddedText 3 bus.toNat),
    ("DEVNUM", paddedText 3 address.toNat), ("DEVPATH", s!"/devices/usb/{name}")]

def Uevent.override (e : Uevent) (fields : List (String × Option String)) : Uevent :=
  fields.foldl (fun e (key, value) =>
    e.filter (·.1 ≠ key) ++ (value.map (key, ·)).toList) e

end UsbBridge.Bus
