import UsbBridge.Files.OsError

/-!
# One direction of a socket

A channel keeps what was sent in chunks. Descriptors sent with a chunk are attached to its first
byte; a receive call goes on through plain chunks but never past one that carried descriptors.
-/

namespace UsbBridge.Socket

structure Chunk (α : Type) where
  bytes : List UInt8
  rights : List α
  deriving Repr

/-- What was sent and not yet received, and which ends are still open. -/
structure Channel (α : Type) where
  chunks : List (Chunk α)
  sending : Bool
  receiving : Bool
  deriving Repr

def rightsLimit : Nat := 4

inductive Delivery (α : Type) where
  | data (bytes : List UInt8) (rights : List α)
  | endOfFile
  /-- More descriptors came than there was room for. The first few are installed all the same, out
  of the caller's reach, and the bytes are gone. -/
  | overflow (installed : List α)
  deriving Repr

def Delivery.installed : Delivery α → List α
  | .data _ rights => rights
  | .endOfFile => []
  | .overflow installed => installed

inductive Readiness (α : Type) where
  | ready (delivery : Delivery α)
  | blocked
  deriving Repr

namespace Channel

def fresh : Channel α := ⟨[], true, true⟩

def size (c : Channel α) : Nat := c.chunks.foldr (fun chunk n => chunk.bytes.length + n) 0

def bytes (c : Channel α) : List UInt8 := (c.chunks.map (·.bytes)).flatten

def rights (c : Channel α) : List α := (c.chunks.map (·.rights)).flatten

/-- Sends bytes with descriptors attached to the first. Sending no bytes leaves no trace. -/
def send (c : Channel α) (bytes : List UInt8) (rights : List α) :
    Except OsError Unit × Channel α :=
  if !c.receiving then (.error .brokenPipe, c)
  else if bytes.isEmpty then (.ok (), c)
  else (.ok (), { c with chunks := c.chunks ++ [⟨bytes, rights⟩] })

/-- Up to `room` bytes of successive chunks, and what is left of them. -/
def gather : Nat → List (Chunk α) → List UInt8 × List α × List (Chunk α)
  | _, [] => ([], [], [])
  | room, chunk :: rest =>
    let n := chunk.bytes.length
    if room = 0 then ([], [], chunk :: rest)
    else if room < n then
      (chunk.bytes.take room, chunk.rights, ⟨chunk.bytes.drop room, []⟩ :: rest)
    else if chunk.rights.isEmpty then
      let (bytes, rights, left) := gather (room - n) rest
      (chunk.bytes ++ bytes, rights, left)
    else (chunk.bytes, chunk.rights, rest)

def receive (c : Channel α) (room : Nat) : Readiness α × Channel α :=
  match c.chunks with
  | [] => (if c.sending then .blocked else .ready .endOfFile, c)
  | _ :: _ =>
    let (bytes, rights, left) := gather room c.chunks
    let next := { c with chunks := left }
    if rightsLimit < rights.length then (.ready (.overflow (rights.take rightsLimit)), next)
    else (.ready (.data bytes rights), next)

def closeSending (c : Channel α) : Channel α := { c with sending := false }

/-- What is under way is lost, and sending fails from now on. -/
def closeReceiving (c : Channel α) : Channel α := { c with chunks := [], receiving := false }

end Channel

end UsbBridge.Socket
