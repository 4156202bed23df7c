import UsbBridge.Files.OsError
import UsbBridge.Host.Basic
import UsbBridge.Text.Digits

/-!
# The files of the bus

The operating system shows every device as a node, through which it is opened, and as a directory
of attributes.
-/

namespace UsbBridge.Bus

inductive Node where
  | file (text : String)
  | directory
  | loop
  | busy
  | denied
  deriving DecidableEq, Repr, Inhabited

structure Attributes where
  busNumber : Option String
  deviceNumber : Option String
  activeConfiguration : Option String
  descriptors : Option (List UInt8)
  deriving DecidableEq, Repr, Inhabited

structure Files where
  /-- Whether there is a place for nodes, and one for attributes. -/
  hasNodes : Bool
  hasAttributes : Bool
  nodes : List ((UInt8 × UInt8) × Node)
  attributes : List (String × Attributes)
  deriving Repr, Inhabited

structure DeviceFiles where
  name : String
  bus : UInt8
  address : UInt8
  node : Option Node
  attributes : Option Attributes
  deriving Repr, Inhabited

namespace Files

def take (f : Files) (d : DeviceFiles) : Files :=
  { f with
    nodes := f.nodes.filter (·.1 ≠ (d.bus, d.address))
    attributes := f.attributes.filter (·.1 ≠ d.name) }

def put (f : Files) (d : DeviceFiles) : Files :=
  let cleared := f.take d
  { cleared with
    nodes := cleared.nodes ++ (d.node.map ((d.bus, d.address), ·)).toList
    attributes := cleared.attributes ++ (d.attributes.map (d.name, ·)).toList }

def node? (f : Files) (bus address : UInt8) : Option Node := f.nodes.lookup (bus, address)

def isAccessible (f : Files) (bus address : UInt8) : Bool :=
  match f.node? bus address with
  | some (.file _) | some .directory | some .busy => true
  | some .loop | some .denied | none => false

def openNode (f : Files) (d : Device) : Except HostError String :=
  let failed (e : OsError) : Except HostError String :=
    .error (.opening s!"{d.nodePath}: {e.message}")
  match f.node? d.bus d.address with
  | some (.file text) => .ok text
  | some .busy => .error .busy
  | some .directory => failed .isADirectory
  | some .loop => failed .tooManyLinks
  | some .denied => failed .denied
  | none => failed .notFound

end Files

/-- The value of a numeric attribute: nothing for an empty file. -/
abbrev AttributeValue := Option Nat

/-- The most characters of an attribute that are looked at. -/
def attributeWindow : Nat := 19

/-- Reads a number up to `most`; it may have a fraction, which does not count, and a newline. -/
def readAttribute (most : Nat) (text : String) : Option AttributeValue :=
  match text.toList.take attributeWindow with
  | [] => some none
  | cs =>
    let line := if cs.getLast? = some '\n' then cs.dropLast else cs
    let digits := line.takeWhile Text.isDigit
    let wellFormed := match line.dropWhile Text.isDigit with
      | [] => true
      | '.' :: fraction => !fraction.isEmpty && fraction.all Text.isDigit
      | _ => false
    if digits.isEmpty || most < Text.decimal digits || !wellFormed then none
    else some (some (Text.decimal digits))

/-- The value of an attribute that has to fit a byte; an empty file stands for all ones. -/
def byteAttribute? (text : Option String) : Option UInt8 :=
  (text.bind (readAttribute 255)).map fun value => (value.getD 255).toUInt8

end UsbBridge.Bus
