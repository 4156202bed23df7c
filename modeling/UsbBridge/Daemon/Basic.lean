import UsbBridge.Daemon.Connection
import UsbBridge.Session.Manager

/-!
# The daemon

One session manager serves all connections. A handler takes requests and events one at a time and
writes whole frames; while it waits for an opening it does nothing else. A handler whose send fails
returns, and so does one that will get no more requests; its subscription is cancelled then.
-/

namespace UsbBridge.Daemon

open Socket

structure State (σ : Type) where
  manager : Manager σ
  connections : List Connection

/-- How far a send gets: to the end, or so many bytes before it fails. -/
inductive Sending where
  | whole
  | cut (bytes : Nat)
  deriving DecidableEq, Repr, Inhabited

def Sending.part : Sending → List UInt8 → List UInt8
  | .whole, frame => frame
  | .cut n, frame => frame.take n

inductive Move (σ : Type) where
  /-- A consumer connects. -/
  | accept
  /-- A consumer makes a call at its end. -/
  | consumer (c : Nat) (call : LinkCall Passed)
  /-- One receive call of a reader, for so many bytes at most. -/
  | read (c : Nat) (most : Nat)
  | enqueue (c : Nat)
  /-- A handler takes its next request. -/
  | serve (c : Nat) (sending : Sending)
  /-- A handler takes what its subscription has next. -/
  | forward (c : Nat) (sending : Sending)
  /-- A handler takes the result of the opening it waits for. -/
  | conclude (c : Nat) (sending : Sending)
  /-- Time is up for the opening that a handler waits for. -/
  | expire (c : Nat) (sending : Sending)
  /-- An opening goes one step on. -/
  | advance (task : Nat)
  /-- The relay goes one step on. -/
  | relay
  /-- The host changes. -/
  | host (h : σ)
  | notify (r : RawNotification)
  | unregister
  | close

namespace State

variable {σ : Type} (ops : Host σ)

def start (manager : Manager σ) : State σ := ⟨manager, []⟩

def put (s : State σ) (c : Nat) (conn : Connection) : State σ :=
  { s with connections := s.connections.set c conn }

def modify (s : State σ) (c : Nat) (f : Connection → Connection) : State σ :=
  { s with connections := s.connections.modify c f }

def setRelay (s : State σ) (relay : Relay.State) : State σ :=
  { s with manager := s.manager.setRelay relay }

def setOpenings (s : State σ) (openings : Opening.State) : State σ :=
  { s with manager := { s.manager with openings } }

def relay (s : State σ) : Relay.State := s.manager.relay

def accept (s : State σ) : Nat × State σ :=
  (s.connections.length, { s with connections := s.connections ++ [.fresh] })

def stop (s : State σ) (c : Nat) : State σ :=
  match s.connections[c]? with
  | none => s
  | some conn =>
    let relay := match conn.subscription with
      | some n => (s.relay.cancel n).drop n
      | none => s.relay
    (s.setRelay relay).put c conn.stop

def reply (s : State σ) (c : Nat) (sending : Sending) (payload : Payload)
    (rights : List Passed) : State σ :=
  match s.connections[c]? with
  | none => s
  | some conn =>
    match Frame.encode (.ofPayload payload) with
    | .error _ => s.stop c
    | .ok frame =>
      let (result, link) := conn.link.sendBytes (sending.part frame) rights
      let sent := s.put c { conn with link }
      match result, sending with
      | .ok (), .whole => sent
      | _, _ => sent.stop c

/-- A connection becomes the subscriber. A subscription of its own that it had before is let go
without a word. -/
def subscribe (s : State σ) (c : Nat) (conn : Connection) : State σ :=
  let (n, relay) := s.relay.subscribe
  let relay := match conn.subscription with
    | some old => relay.drop old
    | none => relay
  (s.setRelay relay).put c { conn with subscription := some n }

def handle (s : State σ) (c : Nat) (conn : Connection) (sending : Sending) (m : Message) :
    State σ :=
  match m.version.validate with
  | .error e => s.reply c sending (.error e.message) []
  | .ok () =>
    match m.payload with
    | .listDevicesRequest => s.reply c sending (.listDevicesResponse (s.manager.list ops)) []
    | .hasPermissionRequest id =>
      s.reply c sending (.hasPermissionResponse (s.manager.hasPermission ops id)) []
    | .openRequest id =>
      match s.manager.openings.call id with
      | (.error e, _) => s.reply c sending (.openResponse (.error e)) []
      | (.ok task, openings) =>
        (s.setOpenings openings).put c { conn with handler := .opening id task }
    | .subscribeRequest => (s.subscribe c conn).reply c sending .subscribed []
    | .cancelRequest =>
      match conn.subscription with
      | some n => s.setRelay (s.relay.cancel n)
      | none => s.reply c sending (.streamEnded .cancelled) []
    | other => s.reply c sending (.error s!"unexpected message: {other.kind}") []

def serve (s : State σ) (c : Nat) (sending : Sending) : State σ :=
  match s.connections[c]? with
  | none => s
  | some conn =>
    match conn.handler, conn.requests, conn.reading with
    | .idle, request :: later, _ =>
      let taken := { conn with requests := later }
      (s.put c taken).handle ops c taken sending request.message
    | .idle, [], .stopped => s.stop c
    | _, _, _ => s

def forward (s : State σ) (c : Nat) (sending : Sending) : State σ :=
  match s.connections[c]? with
  | some { handler := .idle, subscription := some n, link, reading, requests } =>
    match s.relay.recv n with
    | some (.event e, relay) => (s.setRelay relay).reply c sending (.notification e) []
    | some (.ended reason, relay) =>
      ((s.setRelay (relay.drop n)).put c ⟨link, reading, requests, .idle, none⟩).reply c sending
        (.streamEnded reason) []
    | _ => s
  | _ => s

def fileOf (s : State σ) (dup : Nat) : List Passed :=
  (s.manager.openings.duplicates[dup]?.map fun d => Passed.device d.connection).toList

/-- A handler answers with the result of its opening. Its own duplicate is closed whether or not
the send went well. -/
def conclude (s : State σ) (c : Nat) (sending : Sending) : State σ :=
  match s.connections[c]? with
  | none => s
  | some conn =>
    match conn.handler with
    | .opening id task =>
      let idle := s.put c { conn with handler := .idle }
      match s.manager.openings.collect task with
      | (none, _) => s
      | (some (.error e), openings) =>
        (idle.setOpenings openings).reply c sending (.openResponse (.error e)) []
      | (some (.ok dup), openings) =>
        let sent := (idle.setOpenings openings).reply c sending (.openResponse (.ok id))
          (s.fileOf dup)
        sent.setOpenings (sent.manager.openings.close dup)
    | _ => s

def expire (s : State σ) (c : Nat) (sending : Sending) : State σ :=
  match s.connections[c]? with
  | none => s
  | some conn =>
    match conn.handler with
    | .opening id task =>
      match s.manager.openings.collect task with
      | (some _, _) => s.conclude c sending
      | (none, _) =>
        ((s.setOpenings (s.manager.openings.leave task)).put c
          { conn with handler := .idle }).reply c sending
          (.openResponse (.error (Opening.State.timeoutError id s.manager.openTimeout))) []
    | _ => s

def consumer (s : State σ) (c : Nat) (call : LinkCall Passed) : State σ :=
  s.modify c fun conn => { conn with link := (conn.link.flip.call call).flip }

def step (s : State σ) : Move σ → State σ
  | .accept => s.accept.2
  | .consumer c call => s.consumer c call
  | .read c most => s.modify c (·.read most)
  | .enqueue c => s.modify c (·.enqueue)
  | .serve c sending => s.serve ops c sending
  | .forward c sending => s.forward c sending
  | .conclude c sending => s.conclude c sending
  | .expire c sending => s.expire c sending
  | .advance task => { s with manager := (s.manager.advance? ops task).getD s.manager }
  | .relay => s.setRelay (s.relay.step?.getD s.relay)
  | .host h => { s with manager := { s.manager with host := h } }
  | .notify r => s.setRelay (s.relay.notify r)
  | .unregister => s.setRelay s.relay.unregister
  | .close => s.setRelay s.relay.shutdown

def isReferenced (s : State σ) (connection : Nat) : Bool :=
  s.manager.openings.isReferenced connection ||
    s.connections.any fun c => c.rights.contains (.device connection)

def canForward (s : State σ) (conn : Connection) : Bool :=
  match conn.handler, conn.subscription with
  | .idle, some n =>
    match s.relay.recv n with
    | some (.pending, _) | none => false
    | some _ => true
  | _, _ => false

def canConclude (s : State σ) (conn : Connection) : Bool :=
  match conn.handler with
  | .opening _ task => (s.manager.openings.collect task).1.isSome
  | _ => false

def isBusy (s : State σ) : Bool :=
  s.connections.any fun c => c.canRead || c.canServe || s.canForward c || s.canConclude c

def background (s : State σ) : State σ :=
  let manager := s.manager.runOpenings ops
  { s with manager := manager.setRelay manager.relay.settle }

def turn (s : State σ) (c : Nat) : State σ :=
  let read := s.modify c fun conn => conn.readFrame.enqueue
  ((read.conclude c .whole).serve ops c .whole).forward c .whole

def round (s : State σ) : State σ :=
  ((List.range s.connections.length).foldl (turn ops) s).background ops

/-- A bound on the rounds until all is idle: each takes a byte, a request or an event. -/
def load (s : State σ) : Nat :=
  s.connections.foldr (fun c n => c.link.incoming.size + c.requests.length + 4 + n) 0 +
    s.relay.feeds.foldr (fun f n => f.items.length - f.read + 1 + n) 0 +
    s.manager.openings.tasks.length

def rounds : Nat → State σ → State σ
  | 0, s => s
  | n + 1, s => if s.isBusy then rounds n (s.round ops) else s

def settle (s : State σ) : State σ :=
  let s := s.background ops
  rounds ops s.load s

end State

end UsbBridge.Daemon
