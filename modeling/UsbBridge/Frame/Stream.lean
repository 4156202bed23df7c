import UsbBridge.Frame.Basic

/-!
# Frames on blocking streams

A source yields its bytes in pieces of any size; reading a frame takes exactly the bytes of that
frame, or all there are when they end early. A sink has room for a fixed number of bytes and takes
of a frame as much as fits.
-/

namespace UsbBridge.Frame

/-- The pieces in which a stream's remaining bytes will be read. -/
abbrev Source := List (List UInt8)

/-- Takes up to `room` bytes, piece by piece; `taken` holds the pieces so far, latest first. -/
def Source.fill : Nat → List (List UInt8) → Source → List UInt8 × Source
  | _, taken, [] => (taken.reverse.flatten, [])
  | room, taken, piece :: rest =>
    if piece.length ≤ room then fill (room - piece.length) (piece :: taken) rest
    else ((piece.take room :: taken).reverse.flatten, piece.drop room :: rest)

def Source.readExact (n : Nat) (source : Source) : Except ProtocolError (List UInt8) × Source :=
  let (bytes, rest) := source.fill n []
  if bytes.length = n then (.ok bytes, rest)
  else (.error (.io "failed to fill whole buffer"), rest)

def Source.next (source : Source) : Except ProtocolError Message × Source :=
  match source.readExact headerLength with
  | (.error e, rest) => (.error e, rest)
  | (.ok head, rest) =>
    match bodyLength head with
    | .error e => (.error e, rest)
    | .ok n =>
      match rest.readExact n with
      | (.error e, rest) => (.error e, rest)
      | (.ok body, rest) => (Message.decode body, rest)

def Source.remaining (source : Source) : Nat := source.foldr (fun piece n => piece.length + n) 0

/-- The pieces of a byte string read at most `step` bytes at a time. -/
def Source.ofBytes (step : Nat) (bytes : List UInt8) : Source :=
  pieces bytes.length bytes
where
  pieces : Nat → List UInt8 → Source
    | 0, _ => []
    | _, [] => []
    | n + 1, b :: bs =>
      let size := max step 1
      (b :: bs).take size :: pieces n ((b :: bs).drop size)

structure ReadStep where
  result : Except ProtocolError Message
  consumed : Nat

/-- Reads on until `most` steps are done, the bytes run out, or an error leaves no frame boundary
to go on from. -/
def Source.readAll (total : Nat) : Nat → Source → List ReadStep
  | 0, _ => []
  | most + 1, source =>
    let (result, rest) := source.next
    let left := rest.remaining
    let step : ReadStep := ⟨result, total - left⟩
    match result with
    | .ok _ => step :: readAll total most rest
    | .error (.malformed _) => if left = 0 then [step] else step :: readAll total most rest
    | .error _ => [step]

structure Sink where
  written : List UInt8
  room : Nat
  deriving Repr

def Sink.write (sink : Sink) (m : Message) : Except ProtocolError Unit × Sink :=
  match encode m with
  | .error e => (.error e, sink)
  | .ok frame =>
    let n := frame.length
    if n ≤ sink.room then (.ok (), ⟨sink.written ++ frame, sink.room - n⟩)
    else
      (.error (.io "failed to write whole buffer"),
        ⟨sink.written ++ frame.take sink.room, 0⟩)

/-- Writes one message after the other, whether or not the ones before went well. -/
def Sink.writeAll (sink : Sink) : List Message → List (Except ProtocolError Unit × Nat) × Sink
  | [] => ([], sink)
  | m :: ms =>
    let (result, next) := sink.write m
    let (results, last) := next.writeAll ms
    ((result, next.written.length) :: results, last)

end UsbBridge.Frame
