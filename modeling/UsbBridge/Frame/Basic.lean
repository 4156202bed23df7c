import UsbBridge.Protocol.Encoding

/-!
# Frames

On a stream every body is preceded by its length in four bytes, highest first. No body is longer
than `Frame.limit`, in either direction.
-/

namespace UsbBridge.Frame

def limit : Nat := 1024 * 1024

def headerLength : Nat := 4

def header (n : Nat) : List UInt8 :=
  [(n / 16777216).toUInt8, (n / 65536).toUInt8, (n / 256).toUInt8, n.toUInt8]

/-- The number that bytes, highest first, stand for. -/
def announced (bytes : List UInt8) : Nat := bytes.foldl (fun n b => 256 * n + b.toNat) 0

/-- The body length that a header announces, unless it is over the limit. -/
def bodyLength (header : List UInt8) : Except ProtocolError Nat :=
  let n := announced header
  if limit < n then .error (.frameTooLarge n limit) else .ok n

def encode (m : Message) : Except ProtocolError (List UInt8) :=
  let body := m.encode
  let n := body.length
  if limit < n then .error (.frameTooLarge n limit) else .ok (header n ++ body)

/-- The message of a frame that lies in memory as a whole. -/
def decode (frame : List UInt8) : Except ProtocolError Message := do
  let actual := frame.length
  if actual < headerLength then throw (.incompleteFrame headerLength actual)
  let n ← bodyLength (frame.take headerLength)
  if actual < headerLength + n then throw (.incompleteFrame (headerLength + n) actual)
  Message.decode ((frame.drop headerLength).take n)

end UsbBridge.Frame
