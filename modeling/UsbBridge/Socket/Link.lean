import UsbBridge.Socket.Receiver
import UsbBridge.Socket.Sender

/-!
# Connected sockets

Two channels in opposite directions make a connection. A link is the connection as one end sees it;
the other end sees it turned round.
-/

namespace UsbBridge.Socket

structure Link (α : Type) where
  outgoing : Channel α
  incoming : Channel α
  deriving Repr

namespace Link

def fresh : Link α := ⟨.fresh, .fresh⟩

def flip (l : Link α) : Link α := ⟨l.incoming, l.outgoing⟩

def sendBytes (l : Link α) (bytes : List UInt8) (rights : List α) :
    Except BridgeError Unit × Link α :=
  let (result, outgoing) := l.outgoing.sendBytes bytes rights
  (result, { l with outgoing })

def sendMessage (l : Link α) (m : Message) (rights : List α) :
    Except BridgeError Unit × Link α :=
  let (result, outgoing) := l.outgoing.sendMessage m rights
  (result, { l with outgoing })

def receiveMessage (l : Link α) : Option (Outcome α) × Link α :=
  let (outcome, incoming) := l.incoming.receiveMessage
  (outcome, { l with incoming })

/-- All messages that have arrived as a whole, up to an end or a fault. -/
def drain (l : Link α) : List (Outcome α) × Link α := go (l.incoming.size + 1) l
where
  go : Nat → Link α → List (Outcome α) × Link α
    | 0, l => ([], l)
    | n + 1, l =>
      match l.receiveMessage with
      | (none, l) => ([], l)
      | (some (.message m rights), l) =>
        let (later, l) := go n l
        (.message m rights :: later, l)
      | (some last, l) => ([last], l)

def close (l : Link α) : Link α := ⟨l.outgoing.closeSending, l.incoming.closeReceiving⟩

def isClosed (l : Link α) : Bool := !l.outgoing.sending

def isLeft (l : Link α) : Bool := !l.incoming.sending

end Link

inductive LinkStep (α : Type) where
  | sendBytes (bytes : List UInt8) (rights : List α)
  | sendMessage (m : Message) (rights : List α)
  | receive
  /-- Sends while the other end receives. -/
  | exchange (m : Message) (rights : List α)
  | close

inductive LinkCall (α : Type) where
  | send (bytes : List UInt8) (rights : List α)
  | receive (room : Nat)
  /-- No more will be sent; what comes is still received. -/
  | finish
  | close

inductive LinkAnswer (α : Type) where
  | none
  | sent (result : Except BridgeError Unit)
  | received (outcome : Option (Outcome α))
  | exchanged (sent : Except BridgeError Unit) (received : Option (Outcome α))

namespace Link

def act (l : Link α) : LinkStep α → LinkAnswer α × Link α
  | .sendBytes bytes rights =>
    let (result, l) := l.sendBytes bytes rights
    (.sent result, l)
  | .sendMessage m rights =>
    let (result, l) := l.sendMessage m rights
    (.sent result, l)
  | .receive =>
    let (outcome, l) := l.receiveMessage
    (.received outcome, l)
  | .exchange m rights =>
    let (result, l) := l.sendMessage m rights
    let (outcome, turned) := l.flip.receiveMessage
    (.exchanged result outcome, turned.flip)
  | .close => (.none, l.close)

/-- One call. Nothing is sent once the end has said that no more will be. -/
def call (l : Link α) : LinkCall α → Link α
  | .send bytes rights =>
    if l.outgoing.sending then { l with outgoing := (l.outgoing.send bytes rights).2 } else l
  | .receive room => { l with incoming := (l.incoming.receive room).2 }
  | .finish => { l with outgoing := l.outgoing.closeSending }
  | .close => l.close

/-- Steps at either end; those marked are at the far one. -/
def runSteps (l : Link α) : List (Bool × LinkStep α) → List (LinkAnswer α)
  | [] => []
  | (far, step) :: steps =>
    let (answer, next) := (if far then l.flip else l).act step
    answer :: runSteps (if far then next.flip else next) steps

end Link

end UsbBridge.Socket
