import UsbBridge.Client.Endpoint

/-!
# Calls against a peer

A call runs on while its peer reacts to what has been sent. A command that stays unanswered waits
until its time is up, an event is waited for by whoever asks for it.
-/

namespace UsbBridge.Client

open Socket

/-- What stands at the far end of a client's connection, as a state of type `τ`. -/
structure Peer (τ α : Type) where
  link : τ → Link α
  /-- Takes over the connection after the client has acted, and reacts. -/
  react : τ → Link α → τ
  /-- Lets so much time pass. -/
  wait : τ → Duration → τ

namespace Endpoint

def resumeWith (peer : Peer τ α) (e : Endpoint α) (t : τ) (call : Call) :
    Option (CallAnswer α) × Endpoint α × τ :=
  let (answer, e, l) := e.resume (peer.link t) call
  (answer, e, peer.react t l)

def beginWith (peer : Peer τ α) (e : Endpoint α) (t : τ) (call : Call) :
    Option (CallAnswer α) × Endpoint α × τ :=
  match e.begin (peer.link t) call with
  | (some answer, e, l) => (some answer, e, peer.react t l)
  | (none, e, l) => e.resumeWith peer (peer.react t l) call

/-- How long a call is waited for; events may stay out for ever. -/
def patience? : Endpoint α → Call → Option Duration
  | .client s, .command _ => some s.timeout
  | _, _ => none

/-- A call to its end, unless it waits for an event that does not come. -/
def callWith (peer : Peer τ α) (e : Endpoint α) (t : τ) (call : Call) :
    Option (CallAnswer α) × Endpoint α × τ :=
  match e.beginWith peer t call with
  | (some answer, e, t) => (some answer, e, t)
  | (none, e, t) =>
    match e.patience? call with
    | none => (none, e, t)
    | some timeout =>
      match e.resumeWith peer (peer.wait t timeout) call with
      | (some answer, e, t) => (some answer, e, t)
      | (none, e, t) =>
        let (answer, e, l) := e.giveUp (peer.link t) call false
        (some answer, e, peer.react t l)

def stopWaiting (peer : Peer τ α) (e : Endpoint α) (t : τ) (call : Call) :
    CallAnswer α × Endpoint α × τ :=
  let (answer, e, l) := e.giveUp (peer.link t) call true
  (answer, e, peer.react t l)

end Endpoint

end UsbBridge.Client
