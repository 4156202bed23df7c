import UsbBridge.Bus.Host

/-!
# The bus on the bench

A script of steps on the bus, on the host over it, and on a session manager over that host.
-/

namespace UsbBridge.Bus

structure Watch where
  queue : List RawNotification
  closed : Bool
  sinkDropped : Bool
  deriving Repr, Inhabited

inductive BenchStep where
  | bus (step : BusStep)
  | devices
  | permission (bus address : UInt8)
  | openNode (bus address : UInt8)
  | watch (n : Nat)
  | unwatch (n : Nat)
  | dropSink (n : Nat)
  | next (n : Nat)
  | start
  | list
  | hasPermission (id : Identity)
  | openDevice (id : Identity)
  | subscribe
  | recv (n : Nat)
  | close

inductive BenchAnswer where
  | none
  | devices (devices : List Device)
  | flag (b : Bool)
  | content (text : String)
  | hostFailed (error : HostError)
  | watching
  | unwatched (closed : Bool)
  | notification (r : RawNotification)
  | closed
  | pending
  | listing (devices : List Descriptor)
  | failed (error : SessionError)
  | opened (content : String)
  | event (event : HotplugEvent)
  | ended (reason : EndReason)

structure BenchState where
  manager : Manager HostState
  watches : List (Nat × Watch)

namespace BenchState

def start (files : Files) (filter : DeviceFilter) : Except HostError BenchState :=
  (HostState.start files).map fun host =>
    ⟨.start host filter false (.ofMillis 10000) (.ok ()), []⟩

def ops : Host HostState := HostState.ops

def setWatch (s : BenchState) (n : Nat) (w : Watch) : BenchState :=
  { s with watches := (n, w) :: s.watches.filter (·.1 ≠ n) }

def setRelay (s : BenchState) (relay : Relay.State) : BenchState :=
  { s with manager := s.manager.setRelay relay }

def tell (s : BenchState) (r : RawNotification) : BenchState :=
  { s with watches := s.watches.map fun (n, w) =>
      (n, if w.closed || w.sinkDropped then w else { w with queue := w.queue ++ [r] }) }

def inOrder (devices : List Device) : List Device :=
  devices.mergeSort fun a b => a.number ≤ b.number

def byIdentity (devices : List Descriptor) : List Descriptor :=
  devices.mergeSort fun a b => a.identity.text ≤ b.identity.text

def device (bus address : UInt8) : Device :=
  { (default : Device) with bus, address }

def openDevice (s : BenchState) (id : Identity) : BenchAnswer × BenchState :=
  match s.manager.call ops id with
  | (.error e, manager) => (.failed e, { s with manager })
  | (.ok n, manager) =>
    match manager.openings.collect n with
    | (some (.ok dup), openings) =>
      let text := openings.duplicates[dup]?.bind fun d => manager.host.contents.lookup d.connection
      (.opened (text.getD ""), { s with manager := { manager with openings := openings.close dup } })
    | (some (.error e), openings) => (.failed e, { s with manager := { manager with openings } })
    | (none, _) => (.pending, { s with manager })

def act (s : BenchState) : BenchStep → BenchAnswer × BenchState
  | .bus step =>
    let (manager, notifications) := onBus s.manager step
    (.none, notifications.foldl tell { s with manager })
  | .devices => (.devices (inOrder s.manager.host.enumeration.devices), s)
  | .permission bus address => (.flag (s.manager.host.files.isAccessible bus address), s)
  | .openNode bus address =>
    match s.manager.host.files.openNode (device bus address) with
    | .ok text => (.content text, s)
    | .error e => (.hostFailed e, s)
  | .watch n => (.watching, s.setWatch n ⟨[], false, false⟩)
  | .unwatch n =>
    match s.watches.lookup n with
    | some w =>
      if w.sinkDropped then (.none, s)
      else (.unwatched true, s.setWatch n { w with closed := true })
    | none => (.none, s)
  | .dropSink n =>
    match s.watches.lookup n with
    | some w => (.none, s.setWatch n { w with queue := [], sinkDropped := true })
    | none => (.none, s)
  | .next n =>
    match s.watches.lookup n with
    | none => (.closed, s)
    | some w =>
      match w.queue with
      | r :: later => (.notification r, s.setWatch n { w with queue := later })
      | [] => (if w.closed || w.sinkDropped then .closed else .pending, s)
  | .start =>
    (.none, s.setRelay (.start s.manager.filter true))
  | .list =>
    match s.manager.list ops with
    | .ok devices => (.listing (byIdentity devices), s)
    | .error e => (.failed e, s)
  | .hasPermission id =>
    match s.manager.hasPermission ops id with
    | .ok granted => (.flag granted, s)
    | .error e => (.failed e, s)
  | .openDevice id => s.openDevice id
  | .subscribe => (.none, s.setRelay s.manager.relay.subscribe.2)
  | .recv n =>
    match s.manager.relay.settle.recv n with
    | some (.event e, relay) => (.event e, s.setRelay relay)
    | some (.ended reason, relay) => (.ended reason, s.setRelay relay)
    | some (.pending, relay) => (.pending, s.setRelay relay)
    | none => (.none, s)
  | .close => (.none, { s with manager := s.manager.close })

/-- Runs a script; the relay goes on after every step once the manager has begun. -/
def run (s : BenchState) : List BenchStep → List BenchAnswer
  | [] => []
  | step :: steps =>
    let (answer, next) := s.act step
    let next := if next.manager.relay.registered then next.setRelay next.manager.relay.settle else next
    answer :: next.run steps

end BenchState

end UsbBridge.Bus
