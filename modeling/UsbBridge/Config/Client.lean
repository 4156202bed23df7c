import UsbBridge.Config.Section
import UsbBridge.Files.Path
import UsbBridge.Toml.Writer

/-!
# The consumer program's configuration
-/

namespace UsbBridge

open Toml Config

structure ClientConfig where
  socketPath : String
  logLevel : String
  requestTimeoutSeconds : Nat
  deriving DecidableEq, Repr, Inhabited

namespace ClientConfig

def default (env : Environment) : ClientConfig where
  socketPath := env.defaultSocketPath
  logLevel := "warn"
  requestTimeoutSeconds := 30

def requestTimeout (c : ClientConfig) : Duration := .ofSeconds c.requestTimeoutSeconds

def sectionFields : List (SectionField ClientConfig) :=
  [⟨"socket_path", fun v s => do return { s with socketPath := ← readText v }⟩,
    ⟨"log_level", fun v s => do return { s with logLevel := ← readText v }⟩,
    ⟨"request_timeout_secs", fun v s => do
      return { s with requestTimeoutSeconds := ← readCount v }⟩]

def fields (env : Environment) : List (SectionField (Option ClientConfig)) :=
  [⟨"client", fun v _ => do
      return some (← readSection "ClientSettings" sectionFields (default env) v)⟩]

def ofEntries (env : Environment) (entries : Entries) : Except Fault ClientConfig := do
  match ← readSection "ClientConfig" (fields env) none (.table .header entries) with
  | some config => .ok config
  | none => .error (.missingField "client")

def validate (c : ClientConfig) : Except Violation Unit := do
  if c.logLevel ∉ logLevels then throw (.logLevel c.logLevel)
  if (Text.trim c.socketPath).isEmpty then throw (.emptySocketPath .client)
  if c.requestTimeoutSeconds = 0 then throw .zeroRequestTimeout

def ofText (env : Environment) (text : String) : Except Refusal ClientConfig :=
  match Toml.parse? text with
  | none => .error (.malformed .notWellFormed)
  | some entries =>
    match ofEntries env entries with
    | .error fault => .error (.malformed fault)
    | .ok config =>
      match config.validate with
      | .error violation => .error (.violation violation)
      | .ok () => .ok config

/-- The configuration as a document, whose integers stay below `2 ^ 63`. -/
def toText? (c : ClientConfig) : Option String :=
  if Toml.signedBound ≤ c.requestTimeoutSeconds then none
  else some (Toml.Writer.document
    [("client", [("socket_path", .string c.socketPath), ("log_level", .string c.logLevel),
      ("request_timeout_secs", .integer c.requestTimeoutSeconds)])])

end ClientConfig

end UsbBridge
