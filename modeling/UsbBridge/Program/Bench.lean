import UsbBridge.Client.Bench
import UsbBridge.Daemon.Bench
import UsbBridge.Program.Bridge
import UsbBridge.Program.Consumer

/-!
# The programs on the bench

A consumer program runs against a daemon over a scripted host or against a scripted peer, a bridge
program over a bus. What happens besides is a script.
-/

namespace UsbBridge.ProgramBench

open Socket Client

structure Ending where
  code : Option Nat
  written : Written
  deriving Repr, Inhabited

def Ending.ofResult (result : Except Nat α × Written) : Ending :=
  match result with
  | (.error code, written) => ⟨some code, written⟩
  | (.ok _, written) => ⟨none, written⟩

structure ScriptedPeer where
  link : Link Unit
  replies : List (List (PeerAct Unit))

namespace ScriptedPeer

def accept (replies : List (List (PeerAct Unit))) : ScriptedPeer :=
  ⟨if replies.isEmpty then Link.fresh.flip.close.flip else .fresh, replies⟩

def react (p : ScriptedPeer) (l : Link Unit) : ScriptedPeer :=
  match p.replies, l.flip.receiveMessage with
  | acts :: later, (some _, turned) =>
    let answered := acts.foldl PeerAct.perform turned.flip
    ⟨if later.isEmpty then answered.flip.close.flip else answered, later⟩
  | _, _ => { p with link := l }

def peer : Peer ScriptedPeer Unit := ⟨link, react, fun p _ => p⟩

end ScriptedPeer

inductive During where
  | host (step : HostStep)
  | interrupt
  | closeManager
  /-- Another consumer subscribes. -/
  | resubscribe

/-- How an open descriptor is shown, with `N` for its numbers. -/
def place (_ : α) : String := "fd N -> socket:[N]"

/-- Runs a consumer program against whatever happens at its far end, which `change` says. Nothing
happens before the program has written a line. -/
def consume (peer : Peer τ α) (change : τ → During → τ) (far : τ) (plan : Consumer.Plan)
    (during : List During) : Program Unit := do
  let run ← (Consumer.Run.start plan far).proceed peer place
  let happen (run : Consumer.Run τ α) (d : During) : Program (Consumer.Run τ α) := do
    match d with
    | .interrupt => do
      run.interrupt peer
      return run
    | d => Consumer.Run.proceed peer place { run with far := change run.far d }
  if (← get).output.isEmpty then return
  let _ ← during.foldlM happen run

def change (s : Daemon.Site ScriptedHost) : During → Daemon.Site ScriptedHost
  | .host step => (s.setManager (ScriptedManager.act s.manager step)).settle ScriptedHost.ops
  | .closeManager => (s.setManager s.manager.close).settle ScriptedHost.ops
  | .interrupt => s
  | .resubscribe =>
    match s.connect s.path with
    | .error _ => s
    | .ok (c, s) => (s.act ScriptedHost.ops c (.sendMessage (.ofPayload .subscribeRequest) [])).2

inductive FarEnd where
  | nobody
  | daemon (o : BenchOptions) (before : List HostStep)
  | scripted (replies : List (List (PeerAct Unit)))

def runConsumer (env : Environment) (files : FileTree) (args : List String) (farEnd : FarEnd)
    (path : String) (during : List During) : Ending :=
  let prepared (far : Consumer.Plan → Program Unit) : Program Unit := do
    let plan ← Consumer.prepare env args
    Consumer.findSocket plan.socketPath
    far plan
  .ofResult <|
    match farEnd with
    | .nobody => (prepared fun _ => pure ()).start files
    | .scripted replies =>
      (prepared fun plan =>
        consume ScriptedPeer.peer (fun p _ => p) (.accept replies) plan during).start
        (files.put (Path.parts path) (.socket true))
    | .daemon o before =>
      match Daemon.Site.start (ScriptedManager.start o) files path with
      | .error _ => (prepared fun _ => pure ()).start files
      | .ok site =>
        let site := (before.map During.host).foldl change site
        (prepared fun plan =>
          match site.connect plan.socketPath with
          | .error _ => pure ()
          | .ok (c, site) =>
            consume (Daemon.Site.peer ScriptedHost.ops c) change site plan during).start site.files

def runBridge (env : Environment) (files : FileTree) (bus : Bus.Files) (args : List String) :
    Ending :=
  .ofResult ((Bridge.start env bus args).start files)

/-- A step while the bridge program serves; consumers are numbered as they connect. -/
inductive DaemonStep where
  | bus (step : Bus.BusStep)
  | connect (path : String)
  | disconnect (c : Nat)
  | link (c : Nat) (step : LinkStep Daemon.Passed)
  /-- Sends a message and receives one. -/
  | request (c : Nat) (m : Message) (rights : List Daemon.Passed)
  /-- Waits for a notice. -/
  | notice (text : String)

inductive DaemonAnswer where
  | none
  | flag (b : Bool)
  | link (answer : LinkAnswer Daemon.Passed)
  | gone

structure DaemonBench where
  site : Daemon.Site Bus.HostState
  /-- The consumers, and whether each is still connected. -/
  connected : List Bool

namespace DaemonBench

def ops : Host Bus.HostState := Bus.HostState.ops

def linkStep (b : DaemonBench) (c : Nat) (step : LinkStep Daemon.Passed) :
    DaemonAnswer × DaemonBench :=
  if b.connected[c]?.getD false then
    let (answer, site) := b.site.act ops c step
    (.link answer, { b with site })
  else (.gone, b)

def act (notices : List String) (b : DaemonBench) : DaemonStep → DaemonAnswer × DaemonBench
  | .bus step =>
    let manager := (Bus.onBus b.site.manager step).1
    (.none, { b with site := (b.site.setManager manager).settle ops })
  | .connect path =>
    match b.site.connect path with
    | .error _ => (.flag false, b)
    | .ok (_, site) => (.flag true, ⟨site, b.connected ++ [true]⟩)
  | .disconnect c =>
    let (answer, b) := b.linkStep c .close
    (answer, { b with connected := b.connected.set c false })
  | .link c step => b.linkStep c step
  | .request c m rights =>
    match b.linkStep c (.sendMessage m rights) with
    | (.link (.sent (.ok ())), b) => b.linkStep c .receive
    | other => other
  | .notice text => (.flag (notices.contains text), b)

def run (notices : List String) (b : DaemonBench) :
    List DaemonStep → List DaemonAnswer × DaemonBench
  | [] => ([], b)
  | step :: steps =>
    let (answer, b) := act notices b step
    let (answers, b) := b.run notices steps
    (answer :: answers, b)

end DaemonBench

def runDaemon (env : Environment) (files : FileTree) (bus : Bus.Files) (args : List String)
    (steps : List DaemonStep) : List DaemonAnswer × Ending :=
  match (Bridge.start env bus args).start files with
  | (.error code, written) => ([], ⟨some code, written⟩)
  | (.ok serving, written) =>
    let (answers, b) := DaemonBench.run written.notices ⟨serving.site, []⟩ steps
    (answers, .ofResult (({ serving with site := b.site }.stop).run.run written))

end UsbBridge.ProgramBench
