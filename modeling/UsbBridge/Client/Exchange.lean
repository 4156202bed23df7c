import UsbBridge.Client.Command
import UsbBridge.Socket.Link

/-!
# Exchanges of requests and responses

A client sends one request at a time and reads one response to it. Callers wait in line for the
stream. From the start of an exchange until its response has been read as a whole the stream counts
as out of step, and an exchange that ends in any other way leaves it so: every later call fails
before it sends a byte.
-/

namespace UsbBridge.Client

open Socket

inductive Phase (α : Type) where
  | sending (s : Sender α)
  | receiving (r : Receiver α)

structure State (α : Type) where
  timeout : Duration
  outOfStep : Bool
  /-- The caller whose exchange is in progress. -/
  running : Option (Nat × Phase α)
  /-- The callers in line, each with its request. -/
  waiting : List (Nat × Payload)
  /-- The calls that have returned. -/
  returned : List (Nat × Except BridgeError (Payload × List α))

inductive Move where
  | call (caller : Nat) (request : Payload)
  /-- The first caller in line gets the stream. -/
  | begin
  | send (acceptance : Acceptance)
  | receive (most : Nat)
  /-- A receive call fails. -/
  | interrupt (error : OsError)
  /-- Time is up for the exchange in progress. -/
  | expire
  /-- The caller does not wait any longer. -/
  | abandon (caller : Nat)

def defaultTimeout : Duration := .ofMillis 30000

namespace State

def start (timeout : Duration) : State α := ⟨timeout, false, none, [], []⟩

def fail (s : State α) (caller : Nat) (e : BridgeError) : State α :=
  { s with running := none, returned := s.returned ++ [(caller, .error e)] }

/-- The exchange in progress ends with a response, which puts the stream back in step. -/
def answer (s : State α) (caller : Nat) (payload : Payload) (rights : List α) : State α :=
  let result := match payload with
    | .error text => .error (.remote text)
    | _ => .ok (payload, rights)
  { s with outOfStep := false, running := none, returned := s.returned ++ [(caller, result)] }

/-- The first caller in line begins its exchange, unless the stream is out of step. -/
def begin (s : State α) : State α :=
  match s.running, s.waiting with
  | none, (caller, request) :: later =>
    let s := { s with waiting := later }
    if s.outOfStep then s.fail caller .connectionClosed
    else
      let s := { s with outOfStep := true }
      match Sender.ofMessage (.ofPayload request) [] with
      | .error e => s.fail caller e
      | .ok sender => { s with running := some (caller, .sending sender) }
  | _, _ => s

def send (s : State α) (l : Link α) (acceptance : Acceptance) : State α × Link α :=
  match s.running with
  | some (caller, .sending sender) =>
    match sender.step l.outgoing acceptance with
    | (.error e, outgoing) => (s.fail caller e, { l with outgoing })
    | (.ok sender, outgoing) =>
      let phase := if sender.isDone then .receiving .start else .sending sender
      ({ s with running := some (caller, phase) }, { l with outgoing })
  | _ => (s, l)

def receive (s : State α) (l : Link α) (most : Nat) : State α × Link α :=
  match s.running with
  | some (caller, .receiving r) =>
    match r.step? most l.incoming with
    | none => (s, l)
    | some (.reading r, incoming) =>
      ({ s with running := some (caller, .receiving r) }, { l with incoming })
    | some (.done (.message m rights) _, incoming) =>
      (s.answer caller m.payload rights, { l with incoming })
    | some (.done .closed _, incoming) => (s.fail caller .connectionClosed, { l with incoming })
    | some (.done (.failed e) _, incoming) => (s.fail caller e, { l with incoming })
  | _ => (s, l)

def interrupt (s : State α) (e : OsError) : State α :=
  match s.running with
  | some (caller, .receiving _) => s.fail caller (.io e.message)
  | _ => s

def expire (s : State α) : State α :=
  match s.running with
  | some (caller, _) => s.fail caller (.timeout s.timeout)
  | none => s

def abandon (s : State α) (caller : Nat) : State α :=
  { s with
    running := s.running.filter fun (other, _) => other ≠ caller
    waiting := s.waiting.filter fun (other, _) => other ≠ caller }

def step (s : State α) (l : Link α) : Move → State α × Link α
  | .call caller request => ({ s with waiting := s.waiting ++ [(caller, request)] }, l)
  | .begin => (s.begin, l)
  | .send acceptance => s.send l acceptance
  | .receive most => s.receive l most
  | .interrupt e => (s.interrupt e, l)
  | .expire => (s.expire, l)
  | .abandon caller => (s.abandon caller, l)

def request (s : State α) (l : Link α) (caller : Nat) (request : Payload) : State α × Link α :=
  let s := { s with waiting := s.waiting ++ [(caller, request)] }.begin
  match s.running with
  | some (_, .sending sender) => s.send l (.bytes sender.bytes.length)
  | _ => (s, l)

def poll (s : State α) (l : Link α) : State α × Link α :=
  match s.running with
  | some (caller, .receiving r) =>
    let (progress, incoming) := r.run l.incoming
    let l := { l with incoming }
    match progress with
    | .reading r => ({ s with running := some (caller, .receiving r) }, l)
    | .done (.message m rights) _ => (s.answer caller m.payload rights, l)
    | .done .closed _ => (s.fail caller .connectionClosed, l)
    | .done (.failed e) _ => (s.fail caller e, l)
  | _ => (s, l)

def take (s : State α) (caller : Nat) :
    Option (Except BridgeError (Payload × List α)) × State α :=
  (s.returned.lookup caller,
    { s with returned := s.returned.filter fun (other, _) => other ≠ caller })

end State

end UsbBridge.Client
