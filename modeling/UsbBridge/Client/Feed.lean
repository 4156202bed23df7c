import UsbBridge.Socket.Link

/-!
# The hotplug feed of a consumer

After its subscription a client reads events until the bridge ends the stream; after the end it
reads nothing more.
-/

namespace UsbBridge.Client

open Socket

structure Feed (α : Type) where
  reading : Receiver α
  ended : Option EndReason

inductive NextEvent where
  | event (event : HotplugEvent)
  | ended (reason : EndReason)
  | failed (error : BridgeError)
  deriving DecidableEq, Repr

namespace Feed

def start : Feed α := ⟨.start, none⟩

def take (f : Feed α) : Outcome α → NextEvent × Feed α
  | .message m _ =>
    match m.payload with
    | .notification event => (.event event, f)
    | .streamEnded reason => (.ended reason, { f with ended := some reason })
    | .error text => (.failed (.remote text), f)
    | other => (.failed (.unexpectedMessage other.kind), f)
  | .closed => (.failed .connectionClosed, f)
  | .failed e => (.failed e, f)

/-- Reads on towards the next event; none if it is not there as a whole. -/
def poll (f : Feed α) (l : Link α) : Option NextEvent × Feed α × Link α :=
  match f.ended with
  | some reason => (some (.ended reason), f, l)
  | none =>
    let (progress, incoming) := f.reading.run l.incoming
    let l := { l with incoming }
    match progress with
    | .reading r => (none, { f with reading := r }, l)
    | .done outcome _ =>
      let (next, f) := { f with reading := .start }.take outcome
      (some next, f, l)

/-- The next event is not waited for any longer; what was read of it is lost. -/
def abandon (f : Feed α) : Feed α := { f with reading := .start }

def cancel (l : Link α) : Except BridgeError Unit × Link α :=
  l.sendMessage (.ofPayload .cancelRequest) []

end Feed

end UsbBridge.Client
