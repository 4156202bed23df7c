import UsbBridge.Client.Endpoint

/-!
# A client on the bench

A script of calls and of what a peer does at the other end of the connection.
-/

namespace UsbBridge.Client

open Socket

/-- What a scripted peer sends; nothing is a close. -/
inductive PeerAct (α : Type) where
  | sendBytes (bytes : List UInt8) (rights : List α)
  | sendMessage (m : Message) (rights : List α)
  | close

def PeerAct.perform (l : Link α) : PeerAct α → Link α
  | .sendBytes bytes rights => (l.flip.sendBytes bytes rights).2.flip
  | .sendMessage m rights => (l.flip.sendMessage m rights).2.flip
  | .close => l.flip.close.flip

inductive ClientStep (α : Type) where
  /-- A call; the peer reads one request and then acts, unless it does not read at all. -/
  | call (call : Call) (reply : Option (List (PeerAct α))) (abandoned : Bool)
  | peer (step : LinkStep α)

inductive ClientAnswer (α : Type) where
  /-- The answer of a call, and what the peer read of it. -/
  | call (answer : CallAnswer α) (request : Option (Outcome α))
  | peer (answer : LinkAnswer α)

structure ClientBench (α : Type) where
  endpoint : Endpoint α
  link : Link α

namespace ClientBench

def start (timeout : Duration) : ClientBench α := ⟨.start timeout, .fresh⟩

def patience : Duration := .ofMillis 25

def leavesFirst (e : Endpoint α) (abandoned : Bool) : Bool :=
  match e with
  | .client s => abandoned && patience.nanos < s.timeout.nanos
  | _ => abandoned

/-- A call that returns at once leaves the peer no time to read, but a peer whose far end is
closed sees that at once. -/
def step (b : ClientBench α) : ClientStep α → ClientAnswer α × ClientBench α
  | .peer step =>
    let (answer, turned) := b.link.flip.act step
    (.peer answer, { b with link := turned.flip })
  | .call call reply abandoned =>
    let wasClosed := b.link.isClosed && !b.link.isLeft
    match b.endpoint.begin b.link call with
    | (some answer, endpoint, link) =>
      if wasClosed && reply.isSome then
        let (request, turned) := link.flip.receiveMessage
        (.call answer request, ⟨endpoint, turned.flip⟩)
      else (.call answer none, ⟨endpoint, link⟩)
    | (none, endpoint, link) =>
      let (request, link) := match reply with
        | none => (none, link)
        | some acts =>
          let (request, turned) := link.flip.receiveMessage
          (request, acts.foldl PeerAct.perform turned.flip)
      match endpoint.resume link call with
      | (some answer, endpoint, link) => (.call answer request, ⟨endpoint, link⟩)
      | (none, endpoint, link) =>
        let (answer, endpoint, link) := endpoint.giveUp link call (leavesFirst endpoint abandoned)
        (.call answer request, ⟨endpoint, link⟩)

def run (b : ClientBench α) : List (ClientStep α) → List (ClientAnswer α)
  | [] => []
  | s :: steps =>
    let (answer, b) := b.step s
    answer :: b.run steps

end ClientBench

end UsbBridge.Client
