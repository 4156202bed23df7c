import UsbBridge.Bus.Host
import UsbBridge.Daemon.Site
import UsbBridge.Program.Basic

/-!
# The bridge program

The program lists devices, or serves consumers at its socket until it is told to stop. In service
mode it also tells the supervisor's watchdog that all is well.
-/

namespace UsbBridge.Bridge

open Bus

def name : String := "usb-fd-bridge"

def usage : String := "Usage: usb-fd-bridge [OPTIONS]"

def loadConfig (env : Environment) (named : Option String) : Program ServerConfig := do
  let files ← Program.files
  match named with
  | some path =>
    Program.orFail ["Failed to load configuration"] Config.Error.chain
      (ServerConfig.load env files (some path))
  | none => return .loadOrDefault env files

def deviceLine (d : Descriptor) : String := s!"  [{d.identity}] {modelText d.vendor d.product}"

def listDevices (host : HostState) (filter : DeviceFilter) : Program Unit := do
  let devices ← Program.orFail ["Failed to enumerate USB devices"] (fun e => [e.message])
    (Directory.listing filter (HostState.ops.devices host))
  if devices.isEmpty then Program.print "No USB devices found."
  else
    Program.print s!"Found {devices.length} USB device(s):\n"
    devices.forM fun d => Program.print (deviceLine d)
  Program.finish

structure Plan where
  host : HostState
  filter : DeviceFilter
  openTimeout : Duration
  socketPath : String
  inService : Bool
  deriving Repr, Inhabited

def prepare (env : Environment) (bus : Bus.Files) (args : List String) : Program Plan := do
  let invocation ← Program.invoked name usage (BridgeInvocation.parse args)
  let common := invocation.common
  if common.saveConfig then
    Program.saveConfig (ServerConfig.default env).save (env.configPath "server.toml")
  let config ← loadConfig env common.config
  Program.setupLogging env (common.logLevel.getD config.server.logLevel)
  let filter ← Program.orFail ["Invalid USB filter configuration"] (fun f => [f.message])
    config.filter
  let host ← Program.orFail ["Failed to initialize USB subsystem"] (fun e => [e.message])
    (HostState.start bus)
  if invocation.listDevices then listDevices host filter
  let path := common.socket.getD (env.expand config.server.socketPath)
  return ⟨host, filter, config.handoff.openTimeout, path,
    invocation.service || config.server.serviceMode⟩

def failToListen (e : Daemon.BindError) : Program α :=
  Program.fail ("Failed to start consumer socket" :: e.chain)

structure Serving where
  site : Daemon.Site HostState
  supervisor : NoticeSocket

def serve (env : Environment) (plan : Plan) : Program Serving := do
  let manager : Manager HostState := .start plan.host plan.filter true plan.openTimeout (.ok ())
  match Daemon.Site.start manager (← Program.files) plan.socketPath with
  | .error e => failToListen e
  | .ok site => do
    let s : Serving := ⟨site, .find env site.files⟩
    modify fun w => { w with files := site.files }
    if plan.inService && env.watchdogInterval.isSome then
      let arrived := (Notice.watchdog.send s.supervisor).toOption.getD []
      modify fun w => { w with notices := w.notices ++ arrived }
    Program.notify .ready s.supervisor "Failed to notify systemd ready"
    Program.notify (.status s!"Serving on {plan.socketPath}") s.supervisor
      "Failed to send status to systemd"
    return s

def start (env : Environment) (bus : Bus.Files) (args : List String) : Program Serving := do
  serve env (← prepare env bus args)

/-- The program is told to stop. The supervisor is told so if it can be. -/
def Serving.stop (s : Serving) : Program Unit := do
  let site := s.site.shutdown
  let arrived := (Notice.stopping.send s.supervisor).toOption.getD []
  modify fun w => { w with files := site.files, notices := w.notices ++ arrived }
  Program.finish

end UsbBridge.Bridge
