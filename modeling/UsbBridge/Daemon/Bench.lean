import UsbBridge.Client.Endpoint
import UsbBridge.Daemon.Site
import UsbBridge.Session.Bench

/-!
# The daemon on the bench

A script of what the host does and of what consumers do on their sockets. After each step everything
runs until it is idle.
-/

namespace UsbBridge.Daemon

open Socket Client

inductive Consumer where
  | bare
  | client (e : Endpoint Passed)
  | gone

/-- A step; consumers are numbered as they connect. -/
inductive Step where
  | host (step : HostStep)
  | peerState (id : Identity)
  | connect (asClient : Bool)
  | disconnect (c : Nat)
  | send (c : Nat) (bytes : List UInt8) (rights : List Passed)
  | sendMessage (c : Nat) (m : Message) (rights : List Passed)
  | recv (c : Nat) (patient : Bool)
  | drain (c : Nat)
  /-- Drains, sends and receives one answer, over whose descriptor a text may be echoed. -/
  | request (c : Nat) (m : Message) (rights : List Passed) (ping : Option (Identity × List UInt8))
  | call (c : Nat) (call : Call)
  | counters
  | socketMode
  | bindAgain
  | unlink (replacedByDirectory : Bool)
  | waitOpening
  | closeManager
  | shutdown

inductive Answer where
  | none
  | detached (id : Option Identity)
  | peer (state : PeerState)
  | connected (c : Nat)
  | failed (error : BridgeError)
  | sent (result : Except BridgeError Unit)
  | received (outcome : Option (Outcome Passed))
  | drained (outcomes : List (Outcome Passed))
  | requested (before : List (Outcome Passed)) (sent : Except BridgeError Unit)
      (reply : Option (Outcome Passed)) (ping : Option Echo)
  | called (answer : CallAnswer Passed)
  | counters (openCalls live : Nat) (registered : Bool)
  | mode (mode : Option String)
  | bound (result : Except BindError Unit)
  | flag (b : Bool)
  | stopped (running socketLeft : Bool)
  | gone

structure Bench where
  site : Site ScriptedHost
  consumers : List Consumer

namespace Bench

def ops : Host ScriptedHost := ScriptedHost.ops

def start (o : BenchOptions) (files : FileTree) (path : String) : Except BindError Bench :=
  (Site.start (ScriptedManager.start o) files path).map (⟨·, []⟩)

def settle (b : Bench) : Bench := { b with site := b.site.settle ops }

def setManager (b : Bench) (manager : Manager ScriptedHost) : Bench :=
  { b with site := b.site.setManager manager }

def manager (b : Bench) : Manager ScriptedHost := b.site.manager

def consumer? (b : Bench) (c : Nat) : Option Consumer := b.consumers[c]?

def link (b : Bench) (c : Nat) : Link Passed := b.site.link c

def setLink (b : Bench) (c : Nat) (l : Link Passed) : Bench :=
  { b with site := b.site.setLink ops c l }

def setConsumer (b : Bench) (c : Nat) (consumer : Consumer) : Bench :=
  { b with consumers := b.consumers.set c consumer }

def connect (b : Bench) (asClient : Bool) : Answer × Bench :=
  match b.site.connect b.site.path with
  | .error e => (.failed (.io e.message), b)
  | .ok (c, site) =>
    let consumer := if asClient then .client (.start defaultTimeout) else .bare
    (.connected c, ⟨site, b.consumers ++ [consumer]⟩)

def receive (b : Bench) (c : Nat) (patient : Bool) : Option (Outcome Passed) × Bench :=
  let (outcome, site) := b.site.receive ops c patient
  (outcome, { b with site })

def echo (b : Bench) (ping : Option (Identity × List UInt8)) :
    Option (Outcome Passed) → Option Echo × Bench
  | some (.message _ (.device connection :: _)) =>
    match ping with
    | none => (none, b)
    | some (id, text) =>
      let (result, host) := b.manager.host.echo id connection text
      (some result, b.setManager { b.manager with host })
  | _ => (none, b)

def request (b : Bench) (c : Nat) (m : Message) (rights : List Passed)
    (ping : Option (Identity × List UInt8)) : Answer × Bench :=
  let (before, l) := (b.link c).drain
  let (sent, l) := l.sendMessage m rights
  let b := b.setLink c l
  match sent with
  | .error _ => (.requested before sent none none, b)
  | .ok () =>
    let (reply, b) := b.receive c true
    let (result, b) := b.echo ping reply
    (.requested before sent reply result, b)

def call (b : Bench) (c : Nat) (e : Endpoint Passed) (call : Call) : Answer × Bench :=
  let peer := Site.peer ops c
  match e.callWith peer b.site call with
  | (some answer, e, site) => (.called answer, { b with site }.setConsumer c (.client e))
  | (none, e, site) =>
    let (answer, e, site) := e.stopWaiting peer site call
    (.called answer, { b with site }.setConsumer c (.client e))

def peerState (b : Bench) (id : Identity) : PeerState × Bench :=
  match b.manager.host.takePeer id with
  | (none, _) => (.noPeer, b)
  | (some connection, host) =>
    (if b.site.daemon.isReferenced connection then .alive else .endOfFile,
      b.setManager { b.manager with host })

def mode? (b : Bench) : Option String :=
  match b.site.files.entry? (Path.parts b.site.path) with
  | some (.socket _) | some .inbox => some "660"
  | some .directory => some "755"
  | some (.file _) => some "644"
  | none => none

def atConsumer (b : Bench) (c : Nat) : Step → Answer × Bench
  | .disconnect c => (.none, (b.setConsumer c .gone).setLink c (b.link c).close)
  | .send c bytes rights =>
    let (result, l) := (b.link c).sendBytes bytes rights
    (.sent result, b.setLink c l)
  | .sendMessage c m rights =>
    let (result, l) := (b.link c).sendMessage m rights
    (.sent result, b.setLink c l)
  | .recv c patient =>
    let (outcome, b) := b.receive c patient
    (.received outcome, b)
  | .drain c =>
    let (outcomes, l) := (b.link c).drain
    (.drained outcomes, b.setLink c l)
  | .request c m rights ping => b.request c m rights ping
  | .call _ call =>
    match b.consumer? c with
    | some (.client e) => b.call c e call
    | _ => (.gone, b)
  | _ => (.none, b)

def setFiles (b : Bench) (files : FileTree) : Bench := { b with site := { b.site with files } }

def bindAgain (b : Bench) : Answer × Bench :=
  match bind b.site.files b.site.path with
  | .error e => (.bound (.error e), b)
  | .ok files => (.bound (.ok ()), b.setFiles (files.put (Path.parts b.site.path) (.socket false)))

def unlink (b : Bench) (replacedByDirectory : Bool) : Answer × Bench :=
  let (removed, files) := match b.site.files.remove b.site.path with
    | .ok files => (true, files)
    | .error _ => (false, b.site.files)
  let replaced := (files.makeDirectory (Path.parts b.site.path)).toOption.getD files
  (.flag removed, b.setFiles (if replacedByDirectory then replaced else files))

def shutdown (b : Bench) : Answer × Bench :=
  let site := b.site.shutdown
  (.stopped b.site.accepting (site.files.exists? site.path), { b with site })

def act (b : Bench) (s : Step) : Answer × Bench :=
  match s with
  | .host (.detach id) =>
    let found := (b.manager.host.detach id).1
    (.detached (found.map fun _ => id), b.setManager (ScriptedManager.act b.manager (.detach id)))
  | .host step => (.none, b.setManager (ScriptedManager.act b.manager step))
  | .peerState id =>
    let (state, b) := b.peerState id
    (.peer state, b)
  | .connect asClient => b.connect asClient
  | .counters =>
    (.counters b.manager.host.openCalls b.manager.openings.liveCount b.manager.relay.registered, b)
  | .socketMode => (.mode b.mode?, b)
  | .bindAgain => b.bindAgain
  | .unlink replaced => b.unlink replaced
  | .waitOpening => (.none, b)
  | .closeManager => (.none, b.setManager b.manager.close)
  | .shutdown => b.shutdown
  | .disconnect c | .send c .. | .sendMessage c .. | .recv c _ | .drain c | .request c .. | .call c _ =>
    match b.consumer? c with
    | some .gone | none => (.gone, b)
    | some _ => b.atConsumer c s

def run (b : Bench) : List Step → List Answer
  | [] => []
  | s :: steps =>
    let (answer, next) := b.act s
    answer :: next.settle.run steps

end Bench

end UsbBridge.Daemon
