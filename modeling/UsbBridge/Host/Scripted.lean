import UsbBridge.Host.Basic

/-!
# A scripted host

A host whose devices, permissions, faults and delays are set step by step. Every device that it
opens is one end of a connection, of which it keeps the far end as the identity's peer.
-/

namespace UsbBridge

inductive HostCall where
  | devices
  | permission
  | opening
  deriving DecidableEq, Repr, Inhabited

structure ScriptedHost where
  devices : List Device
  granted : List Identity
  busy : List Identity
  invalidHandles : List Identity
  enumerationFails : Bool
  enumerationError : Option HostError
  openingErrors : List (Identity × HostError)
  /-- The one call that breaks off, and its message. -/
  fault : Option (HostCall × String)
  held : Bool
  openCalls : Nat
  /-- The connection whose far end is kept for each identity. -/
  peers : List (Identity × Nat)
  deriving Repr, Inhabited

namespace ScriptedHost

def empty : ScriptedHost := ⟨[], [], [], [], false, none, [], none, false, 0, []⟩

def attach (h : ScriptedHost) (d : Device) : ScriptedHost :=
  { h with devices := h.devices ++ [d] }

def detach (h : ScriptedHost) (id : Identity) : Option Device × ScriptedHost :=
  (h.devices.find? (·.identity = id), { h with devices := h.devices.eraseP (·.identity = id) })

def unlessBroken (h : ScriptedHost) (call : HostCall) (answer : HostAnswer α) : HostAnswer α :=
  match h.fault with
  | some (faulty, text) => if faulty = call then .broken text else answer
  | none => answer

def enumerate (h : ScriptedHost) : HostAnswer (List Device) :=
  h.unlessBroken .devices <|
    match h.enumerationError with
    | some e => .failed e
    | none =>
      if h.enumerationFails then .failed (.enumeration "mock enumeration failure")
      else .ok h.devices

def permits (h : ScriptedHost) (d : Device) : HostAnswer Bool :=
  h.unlessBroken .permission (.ok (h.granted.contains d.identity))

/-- The beginning of an opening, which is counted unless it fails at once. -/
def beginOpen (h : ScriptedHost) (d : Device) : HostAnswer Unit × ScriptedHost :=
  let answer : HostAnswer Unit := h.unlessBroken .opening <|
    match h.openingErrors.lookup d.identity with
    | some e => .failed e
    | none => .ok ()
  match answer with
  | .ok () => (answer, { h with openCalls := h.openCalls + 1 })
  | _ => (answer, h)

/-- The end of an opening: the handle of a new connection, whose far end becomes the peer. -/
def finishOpen (h : ScriptedHost) (d : Device) (connection : Nat) :
    HostAnswer Int × ScriptedHost :=
  let id := d.identity
  if h.busy.contains id then (.failed .busy, h)
  else
    (.ok (if h.invalidHandles.contains id then -1 else 3),
      { h with peers := (id, connection) :: h.peers.filter (·.1 ≠ id) })

def takePeer (h : ScriptedHost) (id : Identity) : Option Nat × ScriptedHost :=
  (h.peers.lookup id, { h with peers := h.peers.filter (·.1 ≠ id) })

end ScriptedHost

inductive HostStep where
  | attach (d : Device)
  | plug (d : Device)
  | detach (id : Identity)
  | unplug (id : Identity)
  | inject (action : String) (d : Device)
  | loseRegistration
  | grant (id : Identity)
  | revoke (id : Identity)
  | invalidHandle (id : Identity)
  | busy (id : Identity) (on : Bool)
  | failEnumeration (on : Bool)
  | enumerationError (error : Option HostError)
  | openingError (id : Identity) (error : HostError)
  | breakOff (fault : Option (HostCall × String))
  | holdOpens
  | releaseOpens
  deriving Repr, Inhabited

namespace ScriptedHost

def act (h : ScriptedHost) : HostStep → ScriptedHost × List RawNotification
  | .attach d => (h.attach d, [])
  | .plug d => (h.attach d, [⟨"add", d⟩])
  | .detach id => ((h.detach id).2, [])
  | .unplug id =>
    let (d, left) := h.detach id
    (left, d.toList.map (⟨"remove", ·⟩))
  | .inject action d => (h, [⟨action, d⟩])
  | .loseRegistration => (h, [])
  | .grant id => ({ h with granted := id :: h.granted }, [])
  | .revoke id => ({ h with granted := h.granted.filter (· ≠ id) }, [])
  | .invalidHandle id => ({ h with invalidHandles := id :: h.invalidHandles }, [])
  | .busy id on =>
    let others := h.busy.filter (· ≠ id)
    ({ h with busy := if on then id :: others else others }, [])
  | .failEnumeration on => ({ h with enumerationFails := on }, [])
  | .enumerationError e => ({ h with enumerationError := e }, [])
  | .openingError id e => ({ h with openingErrors := (id, e) :: h.openingErrors }, [])
  | .breakOff fault => ({ h with fault }, [])
  | .holdOpens => ({ h with held := true }, [])
  | .releaseOpens => ({ h with held := false }, [])

end ScriptedHost

end UsbBridge
