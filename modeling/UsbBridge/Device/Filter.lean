import UsbBridge.Device.Raw

/-!
# Which devices are exposed

A pattern names a vendor and a product, either of which may be left open. A filter without
patterns lets every model through. The rule about serial lines is not applied to a device that has
left, since its interfaces can no longer be read.
-/

namespace UsbBridge

/-- A vendor and a product number; what is missing matches any. -/
structure Pattern where
  vendor : Option UInt16
  product : Option UInt16
  deriving DecidableEq, Repr, Inhabited

namespace Pattern

inductive Half where
  | vendor
  | product
  deriving DecidableEq, Repr, Inhabited

def Half.name : Half → String
  | .vendor => "VID"
  | .product => "PID"

inductive Fault where
  | format (text : String)
  | unmarked (half : Half) (text : String)
  | digitCount (half : Half) (text : String)
  | notHex (half : Half) (text : String)
  deriving DecidableEq, Repr, Inhabited

def Fault.message : Fault → String
  | .format text =>
    s!"Invalid filter format '{text}', expected VID:PID (e.g., '0x1209:0x0001' or '0x1209:*')"
  | .unmarked half text =>
    s!"Invalid {half.name} '{text}', must start with '0x' (e.g., '0x1209')"
  | .digitCount half text => s!"Invalid {half.name} '{text}', hex part must be 1-4 digits"
  | .notHex half text => s!"Invalid {half.name} '{text}', not a valid hex number"

def hexPart? : List Char → Option (List Char)
  | '0' :: 'x' :: cs => some cs
  | '0' :: 'X' :: cs => some cs
  | _ => none

/-- The number behind the mark; a plus sign may stand in front of the digits. -/
def hexNumber? (cs : List Char) : Option Nat :=
  let digits := Text.unsigned cs
  if digits.isEmpty then none else Text.hexadecimal? digits

def parseHalf (half : Half) (cs : List Char) : Except Fault (Option UInt16) :=
  let text := String.ofList cs
  if cs = ['*'] then .ok none
  else
    match hexPart? cs with
    | none => .error (.unmarked half text)
    | some digits =>
      let size := (String.ofList digits).utf8ByteSize
      if size = 0 ∨ 4 < size then .error (.digitCount half text)
      else
        match hexNumber? digits with
        | some n => .ok (some n.toUInt16)
        | none => .error (.notHex half text)

def parse (text : String) : Except Fault Pattern :=
  match text.toList.span (· != ':') with
  | (vendor, _ :: product) =>
    if product.contains ':' then .error (.format text)
    else do return ⟨← parseHalf .vendor vendor, ← parseHalf .product product⟩
  | (_, []) => .error (.format text)

def isMatch (p : Pattern) (vendor product : UInt16) : Bool :=
  p.vendor.all (· == vendor) && p.product.all (· == product)

end Pattern

structure DeviceFilter where
  patterns : List Pattern
  serialLineOnly : Bool
  skipRootHubs : Bool
  deriving DecidableEq, Repr, Inhabited

namespace DeviceFilter

def allowAll : DeviceFilter := ⟨[], false, false⟩

def ofTexts (patterns : List String) (serialLineOnly skipRootHubs : Bool) :
    Except Pattern.Fault DeviceFilter :=
  do return ⟨← patterns.mapM Pattern.parse, serialLineOnly, skipRootHubs⟩

def isRootHub (d : Device) : Bool := d.vendor == 0x1d6b && d.deviceClass == 0x09

def allowsModel (f : DeviceFilter) (d : Device) : Bool :=
  f.patterns.isEmpty || f.patterns.any (·.isMatch d.vendor d.product)

/-- Whether a device that has left the bus was exposed, as far as that can still be told. -/
def allowsDeparted (f : DeviceFilter) (d : Device) : Bool :=
  !(f.skipRootHubs && isRootHub d) && f.allowsModel d

def allows (f : DeviceFilter) (d : Device) : Bool :=
  f.allowsDeparted d && !(f.serialLineOnly && !d.serialLine)

def allowsEvent (f : DeviceFilter) : HotplugKind → Device → Bool
  | .attached => f.allows
  | .detached => f.allowsDeparted

end DeviceFilter

end UsbBridge
