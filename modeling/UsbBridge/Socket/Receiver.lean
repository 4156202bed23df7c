import UsbBridge.Error
import UsbBridge.Frame.Basic
import UsbBridge.Socket.Channel

/-!
# Receiving a message

A receiver asks for the four bytes of a frame's header and then for exactly its body, whatever the
pieces they come in, and collects the descriptors that arrive with them. A message comes with all
of these; in every other outcome they are closed.
-/

namespace UsbBridge.Socket

structure Receiver (α : Type) where
  /-- The announced length of the body, once the header is there. -/
  bodyLength? : Option Nat
  /-- What has been read of the header or the body, whichever is being read. -/
  bytes : List UInt8
  rights : List α
  deriving Repr

inductive Outcome (α : Type) where
  | message (m : Message) (rights : List α)
  /-- The peer closed between two frames. -/
  | closed
  | failed (error : BridgeError)

namespace Receiver

def start : Receiver α := ⟨none, [], []⟩

def wanted (r : Receiver α) : Nat := r.bodyLength?.getD Frame.headerLength - r.bytes.length

/-- Either the outcome, with the descriptors closed for it, or the receiver that goes on. -/
inductive Progress (α : Type) where
  | reading (r : Receiver α)
  | done (outcome : Outcome α) (closed : List α)

def failed (r : Receiver α) (e : BridgeError) : Progress α := .done (.failed e) r.rights

def finish (r : Receiver α) : Progress α :=
  match Message.decode r.bytes with
  | .ok m => .done (.message m r.rights) []
  | .error e => r.failed (.protocol e)

def advance (r : Receiver α) : Progress α :=
  if r.wanted ≠ 0 then .reading r
  else
    match r.bodyLength? with
    | some _ => r.finish
    | none =>
      match Frame.bodyLength r.bytes with
      | .error e => r.failed (.protocol e)
      | .ok n =>
        let body : Receiver α := ⟨some n, [], r.rights⟩
        if n = 0 then body.finish else .reading body

def accept (r : Receiver α) : Delivery α → Progress α
  | .data bytes rights => advance { r with bytes := r.bytes ++ bytes, rights := r.rights ++ rights }
  | .endOfFile =>
    if r.bodyLength?.isNone ∧ r.bytes.isEmpty then .done .closed r.rights
    else r.failed .connectionClosed
  | .overflow _ => r.failed (.io OsError.noBufferSpace.message)

/-- One receive call for at most `most` bytes; none while the channel is blocked. -/
def step? (r : Receiver α) (most : Nat) (c : Channel α) : Option (Progress α × Channel α) :=
  match c.receive (min most r.wanted) with
  | (.blocked, _) => none
  | (.ready delivery, c) => some (r.accept delivery, c)

/-- Reads on until there is an outcome or the channel is blocked. Every call takes a byte or ends
the receiving. -/
def run (r : Receiver α) (c : Channel α) : Progress α × Channel α := go (c.size + 1) r c
where
  go : Nat → Receiver α → Channel α → Progress α × Channel α
    | 0, r, c => (.reading r, c)
    | n + 1, r, c =>
      match r.step? r.wanted c with
      | none => (.reading r, c)
      | some (.reading r, c) => go n r c
      | some (.done outcome closed, c) => (.done outcome closed, c)

end Receiver

/-- Receives a message; none if it has not come as a whole, and then what came of it is lost. -/
def Channel.receiveMessage (c : Channel α) : Option (Outcome α) × Channel α :=
  match Receiver.run .start c with
  | (.done outcome _, c) => (some outcome, c)
  | (.reading _, c) => (none, c)

end UsbBridge.Socket
