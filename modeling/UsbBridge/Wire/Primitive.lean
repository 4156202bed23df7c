import UsbBridge.Wire.Varint

/-!
# Primitive values on the wire

Each primitive is a writer, which gives bytes, and a reader, which takes a value from the front of
the bytes left. A reader never looks behind the value it takes.
-/

namespace UsbBridge.Wire

abbrev Reader := StateT (List UInt8) (Except Fault)

def writeByte (b : UInt8) : List UInt8 := [b]

def readByte : Reader UInt8 := fun bytes =>
  match bytes with
  | [] => .error .endOfBuffer
  | b :: rest => .ok (b, rest)

def readNat (w : Varint.Width) : Reader Nat := Varint.decode w

def writeShort (n : UInt16) : List UInt8 := Varint.encode n.toNat

def readShort : Reader UInt16 := return (← readNat .short).toUInt16

def writeBool : Bool → List UInt8
  | false => [0]
  | true => [1]

def readBool : Reader Bool := do
  match ← readByte with
  | 0 => pure false
  | 1 => pure true
  | _ => throw .notABool

def readBytes (n : Nat) : Reader (List UInt8) := fun bytes =>
  let taken := bytes.take n
  if taken.length = n then .ok (taken, bytes.drop n) else .error .endOfBuffer

def utf8 (s : String) : List UInt8 := s.toUTF8.data.toList

def ofUtf8? (bytes : List UInt8) : Option String := String.fromUTF8? ⟨bytes.toArray⟩

def writeString (s : String) : List UInt8 :=
  let bytes := utf8 s
  Varint.encode bytes.length ++ bytes

def readString : Reader String := do
  let n ← readNat .length
  match ofUtf8? (← readBytes n) with
  | some s => pure s
  | none => throw .notUtf8

def writeList (write : α → List UInt8) (xs : List α) : List UInt8 :=
  Varint.encode xs.length ++ xs.flatMap write

/-- Reads `n` more values behind those in `taken`, the last of which comes first. -/
def readMany (read : Reader α) : Nat → List α → Reader (List α)
  | 0, taken => pure taken.reverse
  | n + 1, taken => do readMany read n ((← read) :: taken)

def readList (read : Reader α) : Reader (List α) := do
  readMany read (← readNat .length) []

/-- A success is written as alternative 0, a failure as alternative 1. -/
def writeResult (writeError : ε → List UInt8) (writeValue : α → List UInt8) :
    Except ε α → List UInt8
  | .ok a => Varint.encode 0 ++ writeValue a
  | .error e => Varint.encode 1 ++ writeError e

def readResult (readError : Reader ε) (readValue : Reader α) : Reader (Except ε α) := do
  match ← readNat .tag with
  | 0 => return .ok (← readValue)
  | 1 => return .error (← readError)
  | _ => throw .unknownTag

end UsbBridge.Wire
