/-!
# Device descriptors

A device describes itself in records that begin with their length and kind. The device record says
how many configurations follow it; each configuration has interfaces with alternate settings, among
them the records of endpoints and others that are passed over.
-/

namespace UsbBridge.Bus

def wordBytes (n : Nat) : List UInt8 := [n.toUInt8, (n / 256).toUInt8]

def wordOf (low high : UInt8) : Nat := low.toNat + 256 * high.toNat

/-- The class and subclass of an alternate setting. -/
abbrev Setting := UInt8 × UInt8

/-- A configuration as it is written: its value, and the alternate settings of each interface. -/
structure ConfigurationPlan where
  value : UInt8
  interfaces : List (List Setting)
  deriving DecidableEq, Repr, Inhabited

namespace ConfigurationPlan

def interfaceBytes (number : Nat) (settings : List Setting) : List UInt8 :=
  (settings.mapIdx fun alternate (cls, sub) =>
    [9, 4, number.toUInt8, alternate.toUInt8, 0, cls, sub, 0, 0]).flatten

def bytes (c : ConfigurationPlan) : List UInt8 :=
  let body := (c.interfaces.mapIdx interfaceBytes).flatten
  [9, 2] ++ wordBytes (9 + body.length) ++
    [c.interfaces.length.toUInt8, c.value, 0, 0x80, 50] ++ body

end ConfigurationPlan

def writeDescriptors (vendor product : UInt16) (deviceClass : UInt8)
    (configurations : List ConfigurationPlan) : List UInt8 :=
  [18, 1, 0, 2, deviceClass, 0, 0, 64] ++ wordBytes vendor.toNat ++ wordBytes product.toNat ++
    [0, 1, 0, 0, 0, configurations.length.toUInt8] ++
    (configurations.map ConfigurationPlan.bytes).flatten

/-- A configuration as it is read, with all its bytes. -/
structure Configuration where
  value : UInt8
  bytes : List UInt8
  deriving DecidableEq, Repr, Inhabited

structure Descriptors where
  deviceClass : UInt8
  vendor : UInt16
  product : UInt16
  configurations : List Configuration
  deriving DecidableEq, Repr, Inhabited

def nextConfiguration? : Nat → Nat → List UInt8 → Option Nat
  | fuel + 1, offset, length :: kind :: more =>
    let n := length.toNat
    if kind = 2 then some offset
    else if n < 2 ∨ more.length + 2 < n then none
    else nextConfiguration? fuel (offset + n) ((length :: kind :: more).drop n)
  | _, _, _ => none

/-- Reads `n` configurations. Only the last one's length is not looked for. -/
def splitConfigurations : Nat → List UInt8 → Option (List Configuration)
  | 0, _ => some []
  | n + 1, bytes =>
    match bytes with
    | length :: kind :: low :: high :: _ :: value :: _ :: _ :: _ :: more =>
      if kind ≠ 2 ∨ length.toNat < 9 ∨ wordOf low high < 9 then none
      else
        let size? := if n = 0 then some bytes.length else nextConfiguration? more.length 9 more
        match size? with
        | none => none
        | some size =>
          (splitConfigurations n (bytes.drop size)).map (⟨value, bytes.take size⟩ :: ·)
    | _ => none

def mostConfigurations : Nat := 8

/-- Reads a device's records; none if the device record is not one or configurations are missing. -/
def readDescriptors (bytes : List UInt8) : Option Descriptors :=
  match bytes with
  | 18 :: 1 :: _ :: _ :: cls :: _ :: _ :: _ :: v0 :: v1 :: p0 :: p1 :: _ :: _ :: _ :: _ :: _ :: n
      :: more =>
    if mostConfigurations < n.toNat then none
    else
      (splitConfigurations n.toNat more).map fun configurations =>
        ⟨cls, (wordOf v0 v1).toUInt16, (wordOf p0 p1).toUInt16, configurations⟩
  | _ => none

inductive Passing where
  /-- At a record that matters, or where no record begins any more. -/
  | stopped (rest : List UInt8)
  /-- At a record that claims more bytes than there are. -/
  | short (rest : List UInt8)
  | invalid
  deriving Repr

/-- Passes over all records but those of endpoints, interfaces, configurations and devices. -/
def passOver : Nat → List UInt8 → Passing
  | fuel + 1, length :: kind :: more =>
    let n := length.toNat
    let here := length :: kind :: more
    if n < 2 then .invalid
    else if here.length < n then .short here
    else if kind = 5 ∨ kind = 4 ∨ kind = 2 ∨ kind = 1 then .stopped here
    else passOver fuel (here.drop n)
  | _, rest => .stopped rest

def passEndpoints : Nat → List UInt8 → Option (List UInt8)
  | 0, bytes => some bytes
  | n + 1, length :: kind :: more =>
    let here := length :: kind :: more
    if kind ≠ 5 then some here
    else if length.toNat < 7 then none
    else if here.length < length.toNat then some here
    else
      match passOver here.length (here.drop length.toNat) with
      | .stopped rest | .short rest => passEndpoints n rest
      | .invalid => none
  | _, _ => none

def mostParts : Nat := 32

def readInterface : Nat → Option UInt8 → List UInt8 → Option (List Setting × List UInt8)
  | 0, _, bytes => some ([], bytes)
  | fuel + 1, wanted, bytes =>
    match bytes with
    | length :: 4 :: number :: _ :: endpoints :: cls :: sub :: _ :: _ :: _ =>
      if wanted.any (· ≠ number) then some ([], bytes)
      else if length.toNat < 9 then none
      else if bytes.length < length.toNat then some ([], bytes)
      else if mostParts < endpoints.toNat then none
      else
        match passOver bytes.length (bytes.drop length.toNat) with
        | .invalid => none
        | .short rest => some ([(cls, sub)], rest)
        | .stopped rest =>
          match passEndpoints endpoints.toNat rest with
          | none => none
          | some rest =>
            (readInterface fuel (some number) rest).map fun (settings, rest) =>
              ((cls, sub) :: settings, rest)
    | _ => some ([], bytes)

def readInterfaces : Nat → List UInt8 → Option (List (List Setting))
  | 0, _ => some []
  | n + 1, bytes =>
    match passOver bytes.length bytes with
    | .invalid => none
    | .short _ => some []
    | .stopped here =>
      match readInterface here.length none here with
      | none => none
      | some (settings, rest) =>
        if rest.length = here.length then some []
        else (readInterfaces n rest).map (settings :: ·)

/-- The interfaces of a configuration, within the length it claims. -/
def Configuration.interfaces? (c : Configuration) : Option (List (List Setting)) :=
  match c.bytes with
  | length :: _ :: low :: high :: count :: _ =>
    let bytes := c.bytes.take (wordOf low high)
    if bytes.length < length.toNat ∨ mostParts < count.toNat then none
    else readInterfaces count.toNat (bytes.drop length.toNat)
  | _ => none

def Configuration.hasSerialLine (c : Configuration) : Bool :=
  match c.interfaces? with
  | some interfaces => interfaces.any fun settings => settings.contains (2, 2)
  | none => false

end UsbBridge.Bus
