import UsbBridge.Config.Section
import UsbBridge.Files.Path
import UsbBridge.Handle.Strategy
import UsbBridge.Toml.Writer

/-!
# The bridge's configuration
-/

namespace UsbBridge

open Toml Config

structure ServerSection where
  socketPath : String
  serviceMode : Bool
  logLevel : String
  deriving DecidableEq, Repr, Inhabited

structure UsbSection where
  filters : List String
  serialLineOnly : Bool
  skipRootHubs : Bool
  deriving DecidableEq, Repr, Inhabited

structure HandoffSection where
  strategy : StrategyChoice
  openTimeout : Duration
  deriving DecidableEq, Repr, Inhabited

structure ServerConfig where
  server : ServerSection
  usb : UsbSection
  handoff : HandoffSection
  deriving DecidableEq, Repr, Inhabited

def defaultOpenTimeout : Duration := .ofSeconds 10

namespace ServerConfig

def default (env : Environment) : ServerConfig where
  server := ⟨env.defaultSocketPath, false, "info"⟩
  usb := ⟨[], false, true⟩
  handoff := ⟨.auto, defaultOpenTimeout⟩

def serverFields : List (SectionField ServerSection) :=
  [⟨"socket_path", fun v s => do return { s with socketPath := ← readText v }⟩,
    ⟨"service_mode", fun v s => do return { s with serviceMode := ← readFlag v }⟩,
    ⟨"log_level", fun v s => do return { s with logLevel := ← readText v }⟩]

def usbFields : List (SectionField UsbSection) :=
  [⟨"filters", fun v s => do return { s with filters := ← readTexts v }⟩,
    ⟨"cdc_acm_only", fun v s => do return { s with serialLineOnly := ← readFlag v }⟩,
    ⟨"skip_root_hubs", fun v s => do return { s with skipRootHubs := ← readFlag v }⟩]

def strategyNamed (name : String) : Except Fault StrategyChoice :=
  match StrategyChoice.ofName? name with
  | some choice => .ok choice
  | none => .error (.unknownStrategy name)

/-- A strategy is a name, alone or as the only key of a table over something empty. -/
def readStrategy : Value → Except Fault StrategyChoice
  | .string name => strategyNamed name
  | .table _ [] => .error .noStrategy
  | .table _ [(name, v)] => do
    let choice ← strategyNamed name
    match v with
    | .table _ entries => if entries.isEmpty then .ok choice else .error .strategyWithTable
    | .array items => if items.isEmpty then .ok choice else .error .strategyWithArray
    | .tables items => if items.isEmpty then .ok choice else .error .strategyWithArray
    | other => .error (.strategyWithValue other.typeName)
  | .table .. => .error .severalStrategies
  | _ => .error .notAStrategy

def handoffFields : List (SectionField HandoffSection) :=
  [⟨"dup_strategy", fun v s => do return { s with strategy := ← readStrategy v }⟩,
    ⟨"open_timeout", fun v s => do return { s with openTimeout := ← readDuration v }⟩]

/-- The configuration as far as its sections have been met, and whether the one that must be there
has. -/
def fields (env : Environment) : List (SectionField (ServerConfig × Bool)) :=
  let base := default env
  [⟨"server", fun v s => do
      return ({ s.1 with server := ← readSection "ServerSettings" serverFields base.server v },
        true)⟩,
    ⟨"usb", fun v s => do
      return ({ s.1 with usb := ← readSection "UsbSettings" usbFields base.usb v }, s.2)⟩,
    ⟨"handoff", fun v s => do
      return ({ s.1 with handoff := ← readSection "HandoffSettings" handoffFields base.handoff v },
        s.2)⟩]

def ofEntries (env : Environment) (entries : Entries) : Except Fault ServerConfig := do
  let (config, met) ←
    readSection "ServerConfig" (fields env) (default env, false) (.table .header entries)
  if met then .ok config else .error (.missingField "server")

def validate (c : ServerConfig) : Except Violation Unit := do
  if c.server.logLevel ∉ logLevels then throw (.logLevel c.server.logLevel)
  if (Text.trim c.server.socketPath).isEmpty then throw (.emptySocketPath .server)
  for filter in c.usb.filters do
    match Pattern.parse filter with
    | .ok _ => pure ()
    | .error fault => throw (.filter fault)
  if c.handoff.openTimeout.nanos = 0 then throw .zeroOpenTimeout

def ofText (env : Environment) (text : String) : Except Refusal ServerConfig :=
  match Toml.parse? text with
  | none => .error (.malformed .notWellFormed)
  | some entries =>
    match ofEntries env entries with
    | .error fault => .error (.malformed fault)
    | .ok config =>
      match config.validate with
      | .error violation => .error (.violation violation)
      | .ok () => .ok config

def toText (c : ServerConfig) : String :=
  Toml.Writer.document
    [("server", [("socket_path", .string c.server.socketPath),
        ("service_mode", .boolean c.server.serviceMode),
        ("log_level", .string c.server.logLevel)]),
      ("usb", [("filters", .array (c.usb.filters.map .string)),
        ("cdc_acm_only", .boolean c.usb.serialLineOnly),
        ("skip_root_hubs", .boolean c.usb.skipRootHubs)]),
      ("handoff", [("dup_strategy", .string c.handoff.strategy.name),
        ("open_timeout", .string c.handoff.openTimeout.format)])]

def filter (c : ServerConfig) : Except Pattern.Fault DeviceFilter :=
  DeviceFilter.ofTexts c.usb.filters c.usb.serialLineOnly c.usb.skipRootHubs

end ServerConfig

end UsbBridge
