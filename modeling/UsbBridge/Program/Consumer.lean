import UsbBridge.Client.Peer
import UsbBridge.Program.Basic

/-!
# The consumer program

After its preparation the program connects and makes one call after the other; what it does next
depends on the answers alone, and on being interrupted.
-/

namespace UsbBridge.Consumer

open Client Socket

def name : String := "usb-fd-client"

def usage : String :=
  "Usage: usb-fd-client [OPTIONS] [list | permission IDENTITY | open IDENTITY [--hold] | watch]"

structure Plan where
  errand : Errand
  socketPath : String
  requestTimeout : Duration
  deriving Repr, Inhabited

def loadConfig (env : Environment) (named : Option String) : Program ClientConfig := do
  let files ← Program.files
  match named with
  | some path =>
    Program.orFail ["Failed to load configuration"] Config.Error.chain
      (ClientConfig.load env files (some path))
  | none =>
    match ClientConfig.load env files none with
    | .ok config => return config
    | .error e => do
      let text := e.chain.headD ""
      Program.warn s!"Config: {text}"
      return .default env

def prepare (env : Environment) (args : List String) : Program Plan := do
  let ⟨common, errand⟩ ← Program.invoked name usage (ConsumerInvocation.parse args)
  if common.saveConfig then
    Program.saveConfig (ClientConfig.default env).save (env.configPath "client.toml")
  let config ← loadConfig env common.config
  Program.setupLogging env (common.logLevel.getD config.logLevel)
  match errand with
  | none => Program.fail ["No command given, see --help"]
  | some errand =>
    return ⟨errand, common.socket.getD (env.expand config.socketPath), config.requestTimeout⟩

def failToConnect (path cause : String) : Program α :=
  Program.fail (s!"Failed to connect to {path}" :: (BridgeError.io cause).chain)

def findSocket (path : String) : Program Unit := do
  if FileTree.longestSocketPath < path.utf8ByteSize then
    failToConnect path FileTree.socketPathTooLong
  match (← Program.files).connect path with
  | .ok () => return
  | .error e => failToConnect path e.message

inductive Stage where
  | listing
  /-- Asks about the devices of a listing, one by one. -/
  | asking (device : Descriptor) (later : List Descriptor)
  | permission (id : Identity)
  | opening (id : Identity) (hold : Bool)
  /-- Keeps a device open. -/
  | holding
  | subscribing
  | watching
  deriving DecidableEq, Repr, Inhabited

def Stage.ofErrand : Errand → Stage
  | .list => .listing
  | .permission id => .permission id
  | .openDevice id hold => .opening id hold
  | .watch => .subscribing

def Stage.call? : Stage → Option Call
  | .listing => some (.command .listDevices)
  | .asking device _ => some (.command (.hasPermission device.identity))
  | .permission id => some (.command (.hasPermission id))
  | .opening id _ => some (.command (.openDevice id))
  | .holding => none
  | .subscribing => some (.command .subscribe)
  | .watching => some .nextEvent

def deviceLine (device : Descriptor) (answer : CallAnswer α) : String :=
  let access := match answer with
    | .reply (.granted true) => "granted"
    | .reply (.granted false) => "denied"
    | _ => "unknown"
  s!"{device.text}  [{access}]"

def eventLine (e : HotplugEvent) : String :=
  match e.kind with
  | .attached => s!"+ {e.device.text}"
  | .detached => s!"- {e.device.text}"

def askAbout : List Descriptor → Program Stage
  | [] => Program.finish
  | device :: later => return .asking device later

/-- What follows an answer; `place` says where an open descriptor leads. -/
def Stage.next (place : α → String) (stage : Stage) (answer : CallAnswer α) : Program Stage :=
  match stage, answer with
  | .asking device later, answer => do
    Program.print (deviceLine device answer)
    askAbout later
  | _, .failed e => Program.fail e.chain
  | .listing, .reply (.devices []) => do
    Program.print "No devices"
    Program.finish
  | .listing, .reply (.devices devices) => askAbout devices
  | .permission id, .reply (.granted granted) => do
    let access := if granted then "granted" else "denied"
    Program.print s!"{id}: {access}"
    Program.finish
  | .opening _ hold, .reply (.opened id right) => do
    Program.print s!"{id}: {place right}"
    if hold then return .holding else Program.finish
  | .subscribing, .reply .subscribed => do
    Program.print "Watching for hotplug events, press Ctrl+C to stop"
    return .watching
  | .watching, .event e => do
    Program.print (eventLine e)
    return .watching
  | .watching, .ended reason => do
    match reason with
    | some reason => Program.print s!"Stream ended: {reason.text}"
    | none => pure ()
    Program.finish
  | stage, _ => return stage

structure Run (τ α : Type) where
  stage : Stage
  endpoint : Endpoint α
  far : τ

namespace Run

variable {τ α : Type} (peer : Peer τ α) (place : α → String)

def start (plan : Plan) (far : τ) : Run τ α :=
  ⟨.ofErrand plan.errand, .start plan.requestTimeout, far⟩

/-- Makes the next call; whether it returned. -/
def step (r : Run τ α) : Program (Bool × Run τ α) :=
  match r.stage.call? with
  | none => return (false, r)
  | some call => do
    let (answer, endpoint, far) := r.endpoint.callWith peer r.far call
    match answer with
    | none => return (false, ⟨r.stage, endpoint, far⟩)
    | some answer => return (true, ⟨← r.stage.next place answer, endpoint, far⟩)

/-- A bound on the calls of one run: those about the devices of a listing, each of which takes a
byte of a frame, and those for events that have arrived. -/
def callBound (r : Run τ α) : Nat := Frame.limit + (peer.link r.far).incoming.size + 2

def proceed (r : Run τ α) : Program (Run τ α) := go (r.callBound peer) r
where
  go : Nat → Run τ α → Program (Run τ α)
    | 0, r => return r
    | n + 1, r => do
      let (returned, r) ← r.step peer place
      if returned then go n r else return r

def interruptedCode : Nat := 130

def interrupt (r : Run τ α) : Program Unit :=
  match r.stage with
  | .holding => Program.finish
  | .watching => do
    match r.endpoint.callWith peer r.far .cancel with
    | (some (.failed e), _) => Program.fail e.chain
    | _ => do
      Program.print "Cancelled"
      Program.finish
  | _ => throw interruptedCode

end Run

end UsbBridge.Consumer
