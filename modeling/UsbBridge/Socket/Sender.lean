import UsbBridge.Error
import UsbBridge.Frame.Basic
import UsbBridge.Socket.Channel

/-!
# Sending a message

A frame may take several send calls. Descriptors go with the first byte that is accepted and with
no other.
-/

namespace UsbBridge.Socket

/-- What is left to send of a frame, and the descriptors that wait for its first byte. -/
structure Sender (α : Type) where
  bytes : List UInt8
  rights : List α
  deriving Repr

inductive Acceptance where
  | bytes (n : Nat)
  | wouldBlock
  | failed (error : OsError)
  deriving DecidableEq, Repr, Inhabited

namespace Sender

def ofMessage (m : Message) (rights : List α) : Except BridgeError (Sender α) :=
  match Frame.encode m with
  | .ok frame => .ok ⟨frame, rights⟩
  | .error e => .error (.protocol e)

def isDone (s : Sender α) : Bool := s.bytes.isEmpty

def step (s : Sender α) (c : Channel α) : Acceptance → Except BridgeError (Sender α) × Channel α
  | .wouldBlock => (.ok s, c)
  | .failed e => (.error (.io e.message), c)
  | .bytes n =>
    match c.send (s.bytes.take n) s.rights with
    | (.error e, c) => (.error (.io e.message), c)
    | (.ok (), c) =>
      if n = 0 then (.error (.io "socket accepted no bytes mid-frame"), c)
      else (.ok ⟨s.bytes.drop n, []⟩, c)

def run (s : Sender α) (c : Channel α) :
    List Acceptance → Except BridgeError (Sender α) × Channel α
  | [] => (.ok s, c)
  | call :: calls =>
    if s.isDone then (.ok s, c)
    else
      match s.step c call with
      | (.error e, c) => (.error e, c)
      | (.ok s, c) => s.run c calls

end Sender

def Channel.sendBytes (c : Channel α) (bytes : List UInt8) (rights : List α) :
    Except BridgeError Unit × Channel α :=
  match c.send bytes rights with
  | (.ok (), c) => (.ok (), c)
  | (.error e, c) => (.error (.io e.message), c)

def Channel.sendMessage (c : Channel α) (m : Message) (rights : List α) :
    Except BridgeError Unit × Channel α :=
  match Frame.encode m with
  | .error e => (.error (.protocol e), c)
  | .ok frame => c.sendBytes frame rights

end UsbBridge.Socket
