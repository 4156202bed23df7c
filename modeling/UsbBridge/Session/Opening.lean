import UsbBridge.Duration.Basic
import UsbBridge.Session.Directory

/-!
# Openings

An opening looks its device up, asks for permission, has the operating system open the device,
duplicates the handle and lets go of the connection it came from. It runs on when its caller has
gone; what it yields then is closed. While it runs, no other opening of its identity begins.
-/

namespace UsbBridge.Opening

abbrev Result := Except SessionError Nat

inductive Stage where
  /-- The host is asked for its devices. -/
  | admitted
  /-- The host is asked whether the device may be opened. -/
  | located (device : Device)
  /-- The host is opening the device, for as long as it likes. -/
  | opening (device : Device)
  /-- The host has opened the device: a connection, and the handle it reports. -/
  | connected (connection : Nat) (handle : Int)
  /-- The handle has been dealt with, and the connection is still there. -/
  | settled (connection : Nat) (result : Result)
  | returned (result : Result)
  /-- The caller, or whoever cleans up, has the result. -/
  | collected
  deriving Repr

def Stage.isRunning : Stage → Bool
  | .returned _ | .collected => false
  | _ => true

structure Task where
  identity : Identity
  stage : Stage
  awaited : Bool
  deriving Repr

inductive Owner where
  /-- The opening that made it. -/
  | opening
  /-- The caller that got it from that opening. -/
  | caller
  | nobody
  deriving DecidableEq, Repr

/-- A duplicate of a connection's handle, made by an opening; without an owner it is closed. -/
structure Duplicate where
  connection : Nat
  opening : Nat
  owner : Owner
  deriving DecidableEq, Repr

/-- The state of all openings so far. Tasks, connections and duplicates are numbered as they come
up; a connection is live until it is released. Of each connection's open file the system counts
the descriptors that refer to it. -/
structure State where
  filter : DeviceFilter
  inFlight : List Identity
  tasks : List Task
  live : List Bool
  references : List Nat
  duplicates : List Duplicate
  deriving Repr

namespace State

def start (filter : DeviceFilter) : State := ⟨filter, [], [], [], [], []⟩

def isOpening (s : State) (id : Identity) : Bool := s.inFlight.contains id

def liveCount (s : State) : Nat := s.live.count true

def stage? (s : State) (n : Nat) : Option Stage := s.tasks[n]?.map (·.stage)

def update (s : State) (n : Nat) (f : Task → Task) : State :=
  { s with tasks := s.tasks.modify n f }

def setStage (s : State) (n : Nat) (stage : Stage) : State := s.update n ({ · with stage })

def setOwner (s : State) (dup : Nat) (owner : Owner) : State :=
  { s with duplicates := s.duplicates.modify dup fun d => { d with owner } }

def recount (s : State) (connection : Nat) (f : Nat → Nat) : State :=
  { s with references := s.references.modify connection f }

def isReferenced (s : State) (connection : Nat) : Bool :=
  s.references[connection]?.any (0 < ·)

def closeDuplicate (s : State) (dup : Nat) : State :=
  match s.duplicates[dup]? with
  | none => s
  | some d => (s.setOwner dup .nobody).recount d.connection (· - 1)

def connect (s : State) (n : Nat) (handle : Int) : State :=
  { s with live := s.live ++ [true], references := s.references ++ [1] }.setStage n
    (.connected s.live.length handle)

def copy (s : State) (n connection : Nat) : State :=
  ({ s with duplicates := s.duplicates ++ [Duplicate.mk connection n .opening] }.recount connection
    (· + 1)).setStage n (.settled connection (.ok s.duplicates.length))

/-- Lets go of a connection, which closes the handle it came with. -/
def letGo (s : State) (connection : Nat) : State :=
  { s with live := s.live.set connection false }.recount connection (· - 1)

def enroll (s : State) (id : Identity) : State :=
  { s with inFlight := id :: s.inFlight, tasks := s.tasks ++ [⟨id, .admitted, true⟩] }

/-- Begins an opening, unless one of the same identity runs. -/
def call (s : State) (id : Identity) : Except SessionError Nat × State :=
  if s.isOpening id then (.error (.alreadyOpening id), s)
  else (.ok s.tasks.length, s.enroll id)

def discard (s : State) : Result → State
  | .ok dup => s.closeDuplicate dup
  | .error _ => s

def cleanUp (s : State) (n : Nat) : State :=
  match s.tasks[n]? with
  | some ⟨_, .returned result, false⟩ => (s.setStage n .collected).discard result
  | _ => s

/-- An opening returns, and its identity is free again. -/
def yield (s : State) (n : Nat) (result : Result) : State :=
  match s.tasks[n]? with
  | none => s
  | some t => { s with inFlight := s.inFlight.erase t.identity }.setStage n (.returned result)

def finish (s : State) (n : Nat) (result : Result) : State := (s.yield n result).cleanUp n

def brokenOff (id : Identity) (text : String) : Result :=
  .error (.openFailed id s!"open task failed: {breakText text}" false)

def enumerated (s : State) (n : Nat) (answer : HostAnswer (List Device)) : State :=
  match s.tasks[n]? with
  | some ⟨id, .admitted, _⟩ =>
    match answer with
    | .ok devices =>
      match Directory.resolve s.filter devices id with
      | .ok device => s.setStage n (.located device)
      | .error e => s.finish n (.error e)
    | .failed e => s.finish n (.error (.enumeration e.message))
    | .broken text => s.finish n (brokenOff id text)
  | _ => s

def permitted (s : State) (n : Nat) (answer : HostAnswer Bool) : State :=
  match s.tasks[n]? with
  | some ⟨id, .located device, _⟩ =>
    match answer with
    | .ok true => s.setStage n (.opening device)
    | .ok false => s.finish n (.error (.permissionDenied id))
    | .failed e => s.finish n (.error (.enumeration e.message))
    | .broken text => s.finish n (brokenOff id text)
  | _ => s

def opened (s : State) (n : Nat) (answer : HostAnswer Int) : State :=
  match s.tasks[n]? with
  | some ⟨id, .opening _, _⟩ =>
    match answer with
    | .ok handle => s.connect n handle
    | .failed e => s.finish n (.error (.openFailed id e.message (e == .busy)))
    | .broken text => s.finish n (brokenOff id text)
  | _ => s

/-- The handle is refused when it is negative; otherwise it has been duplicated, or that has
failed. -/
def duplicated (s : State) (n : Nat) (answer : Except String Unit) : State :=
  match s.tasks[n]? with
  | some ⟨id, .connected connection handle, _⟩ =>
    if handle < 0 then
      s.setStage n (.settled connection
        (.error (.openFailed id s!"invalid raw handle {handle}" false)))
    else
      match answer with
      | .ok () => s.copy n connection
      | .error text =>
        s.setStage n (.settled connection
          (.error (.openFailed id s!"failed to duplicate handle: {text}" false)))
  | _ => s

/-- The host breaks off when it is asked for the handle; the connection is let go of all the
same. -/
def interrupted (s : State) (n : Nat) (text : String) : State :=
  match s.tasks[n]? with
  | some ⟨id, .connected connection _, _⟩ =>
    s.setStage n (.settled connection (brokenOff id text))
  | _ => s

def released (s : State) (n : Nat) : State :=
  match s.tasks[n]? with
  | some ⟨_, .settled connection result, _⟩ => (s.letGo connection).finish n result
  | _ => s

/-- The caller goes away, for whatever reason; once it has its result that means nothing. -/
def leave (s : State) (n : Nat) : State :=
  match s.stage? n with
  | none | some .collected => s
  | some _ => (s.update n ({ · with awaited := false })).cleanUp n

def timeoutError (id : Identity) (limit : Duration) : SessionError :=
  .openFailed id s!"timed out after {limit.display}" false

def handOver (s : State) (n : Nat) : Result → State
  | .ok dup => (s.setStage n .collected).setOwner dup .caller
  | .error _ => s.setStage n .collected

def collect (s : State) (n : Nat) : Option Result × State :=
  match s.tasks[n]? with
  | some ⟨_, .returned result, true⟩ => (some result, s.handOver n result)
  | _ => (none, s)

def close (s : State) (dup : Nat) : State :=
  match s.duplicates[dup]? with
  | some ⟨_, _, .caller⟩ => s.closeDuplicate dup
  | _ => s

end State

inductive Move where
  | call (id : Identity)
  | enumerated (n : Nat) (answer : HostAnswer (List Device))
  | permitted (n : Nat) (answer : HostAnswer Bool)
  | opened (n : Nat) (answer : HostAnswer Int)
  | duplicated (n : Nat) (answer : Except String Unit)
  | interrupted (n : Nat) (text : String)
  | released (n : Nat)
  | leave (n : Nat)
  | collect (n : Nat)
  | close (dup : Nat)

def step (s : State) : Move → State
  | .call id => (s.call id).2
  | .enumerated n answer => s.enumerated n answer
  | .permitted n answer => s.permitted n answer
  | .opened n answer => s.opened n answer
  | .duplicated n answer => s.duplicated n answer
  | .interrupted n text => s.interrupted n text
  | .released n => s.released n
  | .leave n => s.leave n
  | .collect n => (s.collect n).2
  | .close dup => s.close dup

end UsbBridge.Opening
