import UsbBridge.Client.Peer
import UsbBridge.Daemon.Basic
import UsbBridge.Daemon.Binding

/-!
# A daemon at its socket

The file at the socket's path leads to the daemon for as long as it listens there. Everything runs
until it is idle whenever a consumer has done something at its end.
-/

namespace UsbBridge.Daemon

open Socket

structure Site (σ : Type) where
  daemon : State σ
  files : FileTree
  path : String
  /-- Whether the daemon takes new connections. -/
  accepting : Bool

namespace Site

variable {σ : Type} (ops : Host σ)

def start (manager : Manager σ) (files : FileTree) (path : String) : Except BindError (Site σ) :=
  (bind files path).map fun files => ⟨.start manager, files, path, true⟩

def settle (s : Site σ) : Site σ := { s with daemon := s.daemon.settle ops }

def manager (s : Site σ) : Manager σ := s.daemon.manager

def setManager (s : Site σ) (manager : Manager σ) : Site σ :=
  { s with daemon := { s.daemon with manager } }

def link (s : Site σ) (c : Nat) : Link Passed :=
  (s.daemon.connections[c]?.map (·.link.flip)).getD .fresh

/-- Puts back a connection as its consumer sees it, and lets everything run. -/
def setLink (s : Site σ) (c : Nat) (l : Link Passed) : Site σ :=
  { s with daemon := s.daemon.modify c fun conn => { conn with link := l.flip } }.settle ops

def connect (s : Site σ) (path : String) : Except OsError (Nat × Site σ) :=
  (s.files.connect path).map fun () =>
    let (c, daemon) := s.daemon.accept
    (c, { s with daemon })

def expire (s : Site σ) : Site σ :=
  let everyone := List.range s.daemon.connections.length
  settle ops { s with daemon := everyone.foldl (fun d c => d.expire c .whole) s.daemon }

def act (s : Site σ) (c : Nat) (step : LinkStep Passed) : LinkAnswer Passed × Site σ :=
  let (answer, l) := (s.link c).act step
  (answer, s.setLink ops c l)

/-- Receives a message. A patient consumer waits until openings run out of time. -/
def receive (s : Site σ) (c : Nat) (patient : Bool) : Option (Outcome Passed) × Site σ :=
  match (s.link c).receiveMessage with
  | (some outcome, l) => (some outcome, s.setLink ops c l)
  | (none, l) =>
    let s := s.setLink ops c l
    if patient then
      let s := s.expire ops
      let (outcome, l) := (s.link c).receiveMessage
      (outcome, s.setLink ops c l)
    else (none, s)

/-- The daemon as one consumer's peer. Openings run out of time if that is shorter than the time
that passes. -/
def peer (c : Nat) : Client.Peer (Site σ) Passed where
  link s := s.link c
  react s l := s.setLink ops c l
  wait s d := if s.manager.openTimeout.nanos ≤ d.nanos then s.expire ops else s

def shutdown (s : Site σ) : Site σ :=
  let files := if s.accepting then (s.files.remove s.path).toOption.getD s.files else s.files
  { s with files, accepting := false }

end Site

end UsbBridge.Daemon
