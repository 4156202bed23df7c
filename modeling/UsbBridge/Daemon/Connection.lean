import UsbBridge.Socket.Link

/-!
# Consumer connections

The daemon reads a connection's requests into a queue and answers them one after the other. A
connection may hold one hotplug subscription.
-/

namespace UsbBridge.Daemon

open Socket

inductive Passed where
  /-- The open file of a device connection. -/
  | device (connection : Nat)
  /-- A descriptor of a consumer's own. -/
  | foreign
  deriving DecidableEq, Repr, Inhabited

/-- A request as it was read, with the descriptors that came along; all of them are closed when it
is handled. -/
structure Request where
  message : Message
  rights : List Passed

inductive Reading where
  | frame (r : Receiver Passed)
  /-- A request for which the queue has no room yet. -/
  | waiting (request : Request)
  | stopped

inductive Handler where
  | idle
  | opening (id : Identity) (task : Nat)
  | stopped
  deriving DecidableEq, Repr

structure Connection where
  link : Link Passed
  reading : Reading
  requests : List Request
  handler : Handler
  subscription : Option Nat

namespace Connection

def queueDepth : Nat := 16

def fresh : Connection := ⟨.fresh, .frame .start, [], .idle, none⟩

def read (c : Connection) (most : Nat) : Connection :=
  match c.reading with
  | .frame r =>
    match r.step? most c.link.incoming with
    | none => c
    | some (progress, incoming) =>
      let reading := match progress with
        | .reading r => .frame r
        | .done (.message m rights) _ => .waiting ⟨m, rights⟩
        | .done _ _ => .stopped
      { c with link := { c.link with incoming }, reading }
  | _ => c

def enqueue (c : Connection) : Connection :=
  match c.reading with
  | .waiting request =>
    if c.requests.length < queueDepth then
      { c with reading := .frame .start, requests := c.requests ++ [request] }
    else c
  | _ => c

def readFrame (c : Connection) : Connection :=
  match c.reading with
  | .frame r =>
    let (progress, incoming) := r.run c.link.incoming
    let reading := match progress with
      | .reading r => .frame r
      | .done (.message m rights) _ => .waiting ⟨m, rights⟩
      | .done _ _ => .stopped
    { c with link := { c.link with incoming }, reading }
  | _ => c

def stop (c : Connection) : Connection :=
  ⟨c.link.close, .stopped, [], .stopped, none⟩

def rightsRead (c : Connection) : List Passed :=
  (c.requests.map (·.rights)).flatten ++
    match c.reading with
    | .frame r => r.rights
    | .waiting request => request.rights
    | .stopped => []

def rights (c : Connection) : List Passed :=
  c.link.incoming.rights ++ c.link.outgoing.rights ++ c.rightsRead

def canRead (c : Connection) : Bool :=
  match c.reading with
  | .frame _ => !c.link.incoming.chunks.isEmpty || !c.link.incoming.sending
  | .waiting _ => c.requests.length < queueDepth
  | .stopped => false

/-- Whether the handler has a request to take, or learns that there will be none. -/
def canServe (c : Connection) : Bool :=
  match c.handler, c.reading with
  | .idle, .stopped => true
  | .idle, _ => !c.requests.isEmpty
  | _, _ => false

end Connection

end UsbBridge.Daemon
