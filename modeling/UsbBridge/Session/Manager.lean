import UsbBridge.Relay.Basic
import UsbBridge.Session.Opening

/-!
# The session manager

The manager answers the session commands over one host. Openings and the hotplug relay are its
only state.
-/

namespace UsbBridge

/-- What a host does when it is called, over its own state. -/
structure Host (σ : Type) where
  devices : σ → HostAnswer (List Device)
  permits : σ → Device → HostAnswer Bool
  /-- The beginning of an opening; unless it fails the call goes on. -/
  beginOpen : σ → Device → HostAnswer Unit × σ
  /-- Whether openings that have begun are kept waiting. -/
  isHeld : σ → Bool
  /-- The end of an opening, which yields the handle of a connection of the given number. -/
  finishOpen : σ → Device → Nat → HostAnswer Int × σ

structure Manager (σ : Type) where
  host : σ
  openings : Opening.State
  relay : Relay.State
  openTimeout : Duration
  /-- What duplicating a handle comes to. -/
  duplication : Except String Unit

namespace Manager

variable {σ : Type} (ops : Host σ)

def start (host : σ) (filter : DeviceFilter) (registered : Bool) (openTimeout : Duration)
    (duplication : Except String Unit) : Manager σ :=
  ⟨host, .start filter, .start filter registered, openTimeout, duplication⟩

def filter (m : Manager σ) : DeviceFilter := m.openings.filter

def list (m : Manager σ) : Except SessionError (List Descriptor) :=
  Directory.listing m.filter (ops.devices m.host)

def hasPermission (m : Manager σ) (id : Identity) : Except SessionError Bool :=
  Directory.permission m.filter (ops.devices m.host) (ops.permits m.host) id

def resolve (m : Manager σ) (id : Identity) : Except SessionError Device :=
  Directory.located m.filter (ops.devices m.host) id

/-- One step of an opening; none while it is kept waiting and once it is over. -/
def advance? (m : Manager σ) (n : Nat) : Option (Manager σ) :=
  let s := m.openings
  match s.stage? n with
  | some .admitted => some { m with openings := s.enumerated n (ops.devices m.host) }
  | some (.located device) =>
    let asked := s.permitted n (ops.permits m.host device)
    match asked.stage? n with
    | some (.opening _) =>
      match ops.beginOpen m.host device with
      | (.ok (), host) => some { m with host, openings := asked }
      | (.failed e, host) => some { m with host, openings := asked.opened n (.failed e) }
      | (.broken text, host) => some { m with host, openings := asked.opened n (.broken text) }
    | _ => some { m with openings := asked }
  | some (.opening device) =>
    if ops.isHeld m.host then none
    else
      let (answer, host) := ops.finishOpen m.host device s.live.length
      some { m with host, openings := s.opened n answer }
  | some (.connected ..) => some { m with openings := s.duplicated n m.duplication }
  | some (.settled ..) => some { m with openings := s.released n }
  | _ => none

/-- An opening takes five steps at most. -/
def runOpening (m : Manager σ) (n : Nat) : Manager σ := go 5 m
where
  go : Nat → Manager σ → Manager σ
    | 0, m => m
    | k + 1, m =>
      match advance? ops m n with
      | some next => go k next
      | none => m

def runOpenings (m : Manager σ) : Manager σ :=
  (List.range m.openings.tasks.length).foldl (runOpening ops) m

def call (m : Manager σ) (id : Identity) : Except SessionError Nat × Manager σ :=
  match m.openings.call id with
  | (.error e, _) => (.error e, m)
  | (.ok n, openings) => (.ok n, runOpening ops { m with openings } n)

def setRelay (m : Manager σ) (relay : Relay.State) : Manager σ := { m with relay }

/-- Ends the subscription and drops the registration; handles already given out stay. -/
def close (m : Manager σ) : Manager σ := m.setRelay m.relay.shutdown.settle.unregister

/-- What can happen to a manager: steps of its openings, with whatever the host answers, moves of
everyone who has to do with its relay, changes of the host, and its closing. -/
inductive Move (σ : Type) where
  | opening (m : Opening.Move)
  | relay (m : Relay.Move)
  | host (h : σ)
  | close

def step (m : Manager σ) : Move σ → Manager σ
  | .opening move => { m with openings := Opening.step m.openings move }
  | .relay move => m.setRelay (m.relay.move move)
  | .host host => { m with host }
  | .close => m.close

end Manager

end UsbBridge
