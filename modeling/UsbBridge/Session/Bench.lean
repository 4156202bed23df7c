import UsbBridge.Host.Scripted
import UsbBridge.Session.Manager

/-!
# A session manager on the bench

A script of steps against a manager over a scripted host. After each step everything runs until it
is idle; the steps of a burst run without that between them.
-/

namespace UsbBridge

def ScriptedHost.ops : Host ScriptedHost where
  devices := ScriptedHost.enumerate
  permits := ScriptedHost.permits
  beginOpen := ScriptedHost.beginOpen
  isHeld := ScriptedHost.held
  finishOpen := ScriptedHost.finishOpen

structure BenchOptions where
  filter : DeviceFilter
  openTimeout : Duration
  failingDuplication : Bool
  failingWatch : Bool
  deriving Repr

namespace ScriptedManager

def start (o : BenchOptions) : Manager ScriptedHost :=
  .start .empty o.filter (!o.failingWatch) o.openTimeout
    (if o.failingDuplication then .error "mock duplication failure" else .ok ())

def act (m : Manager ScriptedHost) (step : HostStep) : Manager ScriptedHost :=
  let (host, notifications) := m.host.act step
  let relay := notifications.foldl Relay.State.notify m.relay
  match step with
  | .loseRegistration => { m with host, relay := relay.unregister }
  | .releaseOpens => Manager.runOpenings ScriptedHost.ops { m with host, relay }
  | _ => { m with host, relay }

end ScriptedManager

inductive Echo where
  | back (bytes : List UInt8)
  | noPeer
  | farEndGone
  deriving DecidableEq, Repr

/-- Sends a text over the open file of a connection, with the peer that the host has for the
identity; that peer is used up. -/
def ScriptedHost.echo (h : ScriptedHost) (id : Identity) (connection : Nat) (text : List UInt8) :
    Echo × ScriptedHost :=
  match h.takePeer id with
  | (none, left) => (.noPeer, left)
  | (some peer, left) =>
    (if peer = connection then .back text.reverse else .farEndGone, left)

inductive PeerState where
  | noPeer
  | endOfFile
  | alive
  deriving DecidableEq, Repr

namespace SessionBench

/-- A step that takes no time of its own. -/
inductive Act where
  | host (step : HostStep)
  | peerState (id : Identity)
  | list
  | hasPermission (id : Identity)
  | resolve (id : Identity)
  | openNow (id : Identity)
  | openLater (id : Identity)
  | await (start : Nat)
  | isOpening (id : Identity)
  | dropHandle (handle : Nat)
  | ping (handle : Nat) (text : List UInt8)
  | giveUp (handle : Nat) (text : List UInt8) (bare : Bool)
  | filterAllows (d : Device)
  | subscribe
  | recv (subscription : Nat)
  | endReason (subscription : Nat)
  | cancel (subscription : Nat)
  | dropSubscription (subscription : Nat)
  | close

inductive Step where
  | one (act : Act)
  | burst (acts : List Act)

inductive Answer where
  | none
  | failed (error : SessionError)
  | listing (devices : List Descriptor)
  | flag (b : Bool)
  | located (device : Device) (state : PermissionState)
  | handle (number : Nat) (id : Identity)
  | started (start : Nat) (pending : Bool)
  | pending
  | noTask
  | noHandle
  | noSubscription
  | detached (id : Option Identity)
  | peer (state : PeerState)
  | echo (result : Echo)
  | given (id : Option Identity) (result : Echo)
  | allows (attached departed : Bool)
  | subscribed (subscription : Nat) (ended : Option EndReason)
  | event (event : HotplugEvent)
  | ended (reason : Option EndReason)
  | all (answers : List Answer)

inductive Start where
  | running (task : Nat)
  | over (result : Except SessionError Nat)
  | taken
  deriving Repr

structure State where
  manager : Manager ScriptedHost
  starts : List (Identity × Start)
  /-- The handles obtained so far, with their duplicates, until they are given away. -/
  handles : List (Option (Identity × Nat))

def start (o : BenchOptions) : State := ⟨ScriptedManager.start o, [], []⟩

def ops : Host ScriptedHost := ScriptedHost.ops

namespace State

def gather (s : State) : State :=
  let (manager, starts) := s.starts.foldl (fun (m, done) (id, st) =>
    match st with
    | .running n =>
      match m.openings.collect n with
      | (some result, openings) => ({ m with openings }, done ++ [(id, .over result)])
      | (none, _) => (m, done ++ [(id, st)])
    | _ => (m, done ++ [(id, st)])) (s.manager, [])
  { s with manager, starts }

def expire (s : State) : State :=
  let (manager, starts) := s.starts.foldl (fun (m, done) (id, st) =>
    match st with
    | .running n =>
      ({ m with openings := m.openings.leave n },
        done ++ [(id, Start.over (.error (Opening.State.timeoutError id m.openTimeout)))])
    | _ => (m, done ++ [(id, st)])) (s.manager, [])
  { s with manager, starts }

def setManager (s : State) (manager : Manager ScriptedHost) : State := { s with manager }

def setRelay (s : State) (relay : Relay.State) : State := s.setManager (s.manager.setRelay relay)

/-- The answer for the result of an opening; a duplicate becomes the next handle. -/
def result (s : State) (id : Identity) : Except SessionError Nat → Answer × State
  | .error e => (.failed e, s)
  | .ok dup => (.handle s.handles.length id, { s with handles := s.handles ++ [some (id, dup)] })

def openNow (s : State) (id : Identity) : Answer × State :=
  match s.manager.call ops id with
  | (.error e, m) => (.failed e, s.setManager m)
  | (.ok n, m) =>
    match m.openings.collect n with
    | (some result, openings) => (s.setManager { m with openings }).result id result
    | (none, _) =>
      let left := (s.setManager { m with openings := m.openings.leave n }).expire
      (.failed (Opening.State.timeoutError id m.openTimeout), left)

def openLater (s : State) (id : Identity) : Answer × State :=
  let k := s.starts.length
  match s.manager.call ops id with
  | (.error e, m) => 
    (.started k false, { s with manager := m, starts := s.starts ++ [(id, .over (.error e))] })
  | (.ok n, m) =>
    let next := { s with manager := m, starts := s.starts ++ [(id, Start.running n)] }.gather
    (.started k (match next.starts[k]? with | some (_, .running _) => true | _ => false), next)

def await (s : State) (k : Nat) : Answer × State :=
  match s.starts[k]? with
  | some (_, .running _) => (.pending, s)
  | some (id, .over result) =>
    { s with starts := s.starts.set k (id, .taken) }.result id result
  | _ => (.noTask, s)

def takeHandle (s : State) (k : Nat) : Option (Identity × Nat) × State :=
  (s.handles[k]?.join, { s with handles := s.handles.set k none })

def connectionOf (s : State) (dup : Nat) : Nat :=
  (s.manager.openings.duplicates[dup]?.map (·.connection)).getD 0

def close (s : State) (dup : Nat) : State :=
  s.setManager { s.manager with openings := s.manager.openings.close dup }

def echo (s : State) (id : Identity) (dup : Nat) (text : List UInt8) : Echo × State :=
  let (result, host) := s.manager.host.echo id (s.connectionOf dup) text
  (result, s.setManager { s.manager with host })

def act (s : State) : Act → Answer × State
  | .host (.detach id) =>
    let found := (s.manager.host.detach id).1
    (.detached (found.map fun _ => id), s.setManager (ScriptedManager.act s.manager (.detach id)))
  | .host step => (.none, (s.setManager (ScriptedManager.act s.manager step)).gather)
  | .peerState id =>
    match s.manager.host.takePeer id with
    | (none, _) => (.peer .noPeer, s)
    | (some connection, host) =>
      (.peer (if s.manager.openings.isReferenced connection then .alive else .endOfFile),
        s.setManager { s.manager with host })
  | .list =>
    match s.manager.list ops with
    | .ok devices => (.listing devices, s)
    | .error e => (.failed e, s)
  | .hasPermission id =>
    match s.manager.hasPermission ops id with
    | .ok granted => (.flag granted, s)
    | .error e => (.failed e, s)
  | .resolve id =>
    match s.manager.resolve ops id with
    | .error e => (.failed e, s)
    | .ok device =>
      let granted := match s.manager.host.permits device with
        | .ok granted => granted
        | _ => false
      (.located device (.ofGrant granted), s)
  | .openNow id => s.openNow id
  | .openLater id => s.openLater id
  | .await k => s.await k
  | .isOpening id => (.flag (s.manager.openings.isOpening id), s)
  | .dropHandle k =>
    match s.takeHandle k with
    | (some (_, dup), left) => (.none, left.close dup)
    | (none, _) => (.none, s)
  | .ping k text =>
    match s.handles[k]?.join with
    | none => (.noHandle, s)
    | some (id, dup) =>
      let (result, next) := s.echo id dup text
      (.echo result, next)
  | .giveUp k text bare =>
    match s.takeHandle k with
    | (none, _) => (.noHandle, s)
    | (some (id, dup), left) =>
      let (result, next) := left.echo id dup text
      (.given (if bare then none else some id) result, next.close dup)
  | .filterAllows d => (.allows (s.manager.filter.allows d) (s.manager.filter.allowsDeparted d), s)
  | .subscribe =>
    let (n, relay) := s.manager.relay.subscribe
    (.subscribed n ((relay.endReason n).join), s.setRelay relay)
  | .recv n =>
    match s.manager.relay.recv n with
    | none => (.noSubscription, s)
    | some (.event e, relay) => (.event e, s.setRelay relay)
    | some (.ended reason, relay) => (.ended (some reason), s.setRelay relay)
    | some (.pending, relay) => (.pending, s.setRelay relay)
  | .endReason n =>
    match s.manager.relay.endReason n with
    | none => (.noSubscription, s)
    | some reason => (.ended reason, s)
  | .cancel n =>
    if s.manager.relay.isHeld n then (.none, s.setRelay (s.manager.relay.cancel n))
    else (.noSubscription, s)
  | .dropSubscription n =>
    if s.manager.relay.isHeld n then (.none, s.setRelay (s.manager.relay.drop n))
    else (.noSubscription, s)
  | .close => (.none, s.setManager s.manager.close)

def settle (s : State) : State := s.setRelay s.manager.relay.settle

def counters (s : State) : Nat × Nat × Bool :=
  (s.manager.host.openCalls, s.manager.openings.liveCount, s.manager.relay.registered)

def step (s : State) : Step → Answer × State
  | .one a =>
    let (answer, next) := s.act a
    (answer, next.settle)
  | .burst acts =>
    let (answers, next) := acts.foldl (fun (answers, s) a =>
      let (answer, next) := s.act a
      (answers ++ [answer], next)) ([], s)
    (.all answers, next.settle)

end State

def run (s : State) (steps : List Step) : List (Answer × Nat × Nat × Bool) :=
  (steps.foldl (fun (done, s) step =>
    let (answer, next) := State.step s step
    ((answer, next.counters) :: done, next)) ([], s)).1.reverse

end SessionBench

end UsbBridge
