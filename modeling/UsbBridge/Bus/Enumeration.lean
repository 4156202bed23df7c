import UsbBridge.Bus.Descriptors
import UsbBridge.Bus.Files
import UsbBridge.Bus.Uevent

/-!
# The list of devices

Devices are listed once by going through the attribute directories, and from then on the list
follows the kernel's reports. A device's ports are found out when it is listed: its own is the last
number of its directory's name, those before it are its parent's, which is listed first if it can be.
-/

namespace UsbBridge.Bus

structure Listed where
  bus : UInt8
  address : UInt8
  name : String
  /-- The ports on the way to the device, its own last; none if its own is not known. -/
  ports : List UInt8
  descriptors : Descriptors
  deriving Repr, Inhabited

structure Enumeration where
  files : Files
  listed : List Listed
  deriving Repr, Inhabited

/-- A directory's name split before its last number: the name up to there, and the number. -/
def splitName? (name : String) : Option (String × Nat) :=
  let cs := name.toList.reverse
  let cut (c : Char) : Option (String × Nat) :=
    match cs.dropWhile (· ≠ c) with
    | _ :: before =>
      let number := (cs.takeWhile (· ≠ c)).reverse
      some (String.ofList before.reverse, Text.decimal (number.takeWhile Text.isDigit))
    | [] => none
  if name.startsWith "usb" then none else cut '.' <|> cut '-'

/-- The directory of a device's parent, which is a root hub if no port is left. -/
def parentName (before : String) : String :=
  if before.contains '-' then before else "usb" ++ before

namespace Enumeration

def find? (e : Enumeration) (bus address : UInt8) : Option Listed :=
  e.listed.find? fun d => d.bus = bus && d.address = address

def named? (e : Enumeration) (name : String) : Option Listed := e.listed.find? (·.name = name)

def attributes? (e : Enumeration) (name : String) : Option Attributes :=
  e.files.attributes.lookup name

def numbers? (e : Enumeration) (name : String) : Option (UInt8 × UInt8) := do
  let attributes ← e.attributes? name
  let bus ← byteAttribute? attributes.busNumber
  let address ← byteAttribute? attributes.deviceNumber
  return (bus, address)

/-- Lists the device of a directory under the given numbers, unless it is listed; none if its
descriptors cannot be read. A parent that is not listed yet is listed first if possible; going up
takes at most as many steps as the name has characters. -/
def add? : Nat → Enumeration → UInt8 → UInt8 → String → Option Enumeration
  | fuel, e, bus, address, name =>
    if (e.find? bus address).isSome then some e
    else
      match ((e.attributes? name).bind (·.descriptors)).bind readDescriptors with
      | none => none
      | some descriptors =>
        match splitName? name with
        | none => some { e with listed := ⟨bus, address, name, [], descriptors⟩ :: e.listed }
        | some (before, number) =>
          let parent := parentName before
          let above := match fuel, e.named? parent, e.numbers? parent with
            | fuel + 1, none, some (bus, address) => (add? fuel e bus address parent).getD e
            | _, _, _ => e
          let port := number.toUInt8
          let chain := ((above.named? parent).map (·.ports)).getD []
          let ports := if port = 0 then [] else chain ++ [port]
          some { above with listed := ⟨bus, address, name, ports, descriptors⟩ :: above.listed }

def addNamed? (e : Enumeration) (bus address : UInt8) (name : String) : Option Enumeration :=
  add? name.length e bus address name

def scan? (e : Enumeration) (name : String) : Option Enumeration :=
  (e.numbers? name).bind fun (bus, address) => e.addNamed? bus address name

def isDeviceName (name : String) : Bool :=
  ((name.toList.head?.map Text.isDigit).getD false || name.startsWith "usb") && !name.contains ':'

/-- Lists all devices for the first time. If there are any directories, one has to be readable. -/
def start (files : Files) : Except HostError Enumeration :=
  if !files.hasNodes then .error (.enumeration "Other error")
  else if !files.hasAttributes then .error (.enumeration "Input/Output Error")
  else
    let names := (files.attributes.map (·.1)).filter isDeviceName
    let (e, count) := names.foldl (fun (e, count) name =>
      match e.scan? name with
      | some next => (next, count + 1)
      | none => (e, count)) (Enumeration.mk files [], 0)
    if count = 0 ∧ !names.isEmpty then .error (.enumeration "Input/Output Error")
    else .ok { e with listed := e.listed.reverse }

def mostPorts : Nat := 7

/-- A listed device as the bridge sees it now. Without attributes nothing is known of its active
configuration. -/
def describe (e : Enumeration) (d : Listed) : Device :=
  let active? : Option Configuration := do
    let attributes ← e.attributes? d.name
    let value ← (attributes.activeConfiguration.bind (readAttribute 255)).join
    guard (value ≠ 0)
    d.descriptors.configurations.find? (·.value.toNat = value)
  { bus := d.bus
    address := d.address
    portPath := if d.ports.length ≤ mostPorts then Device.portPathOf d.bus d.ports else none
    vendor := d.descriptors.vendor
    product := d.descriptors.product
    deviceClass := d.descriptors.deviceClass
    serialLine := (active?.map (·.hasSerialLine)).getD false }

def devices (e : Enumeration) : List Device := e.listed.map e.describe

def change (e : Enumeration) (c : Change) : Enumeration × List RawNotification :=
  if c.removed then
    match e.find? c.bus c.address with
    | none => (e, [])
    | some d =>
      ({ e with listed := e.listed.filter fun other =>
          !(other.bus = c.bus && other.address = c.address) }, [⟨"remove", e.describe d⟩])
  else
    match c.name.bind (e.addNamed? c.bus c.address) with
    | none => (e, [])
    | some next =>
      let added := (next.listed.take (next.listed.length - e.listed.length)).reverse
      (next, added.map fun d => ⟨"add", next.describe d⟩)

end Enumeration

inductive BusStep where
  | plug (d : DeviceFiles) (fields : List (String × Option String))
  | unplug (d : DeviceFiles) (keepFiles : Bool) (fields : List (String × Option String))
  | put (d : DeviceFiles)
  | take (d : DeviceFiles)

def Enumeration.receive (e : Enumeration) (u : Uevent) : Enumeration × List RawNotification :=
  match Change.ofUevent? u with
  | some c => e.change c
  | none => (e, [])

def Enumeration.act (e : Enumeration) : BusStep → Enumeration × List RawNotification
  | .put d => ({ e with files := e.files.put d }, [])
  | .take d => ({ e with files := e.files.take d }, [])
  | .plug d fields =>
    { e with files := e.files.put d }.receive
      ((ueventOf false d.name d.bus d.address).override fields)
  | .unplug d keepFiles fields =>
    { e with files := if keepFiles then e.files else e.files.take d }.receive
      ((ueventOf true d.name d.bus d.address).override fields)

end UsbBridge.Bus
