import UsbBridge.Device.Filter
import UsbBridge.Duration.Notation
import UsbBridge.Files.OsError

/-!
# What can be wrong with a configuration
-/

namespace UsbBridge.Config

inductive Fault where
  | notWellFormed
  | missingField (name : String)
  | invalidType (found expected : String)
  | invalidValue (found expected : String)
  | unknownStrategy (name : String)
  | notAStrategy
  | noStrategy
  | severalStrategies
  | strategyWithTable
  | strategyWithArray
  | strategyWithValue (typeName : String)
  | duration (fault : Duration.Fault)
  deriving DecidableEq, Repr, Inhabited

def Fault.message : Fault → String
  | .notWellFormed => "TOML syntax"
  | .missingField name => "missing field `" ++ name ++ "`"
  | .invalidType found expected => s!"invalid type: {found}, expected {expected}"
  | .invalidValue found expected => s!"invalid value: {found}, expected {expected}"
  | .unknownStrategy name =>
    "unknown variant `" ++ name ++ "`, expected one of `auto`, `cloexec`, `legacy`"
  | .notAStrategy => "wanted string or table"
  | .noStrategy => "wanted exactly 1 element, found 0 elements"
  | .severalStrategies => "wanted exactly 1 element, more than 1 element"
  | .strategyWithTable => "expected empty table"
  | .strategyWithArray => "expected empty array"
  | .strategyWithValue typeName => s!"expected table, found {typeName}"
  | .duration fault => fault.message

inductive Role where
  | server
  | client
  deriving DecidableEq, Repr, Inhabited

def Role.name : Role → String
  | .server => "server"
  | .client => "client"

inductive Violation where
  | logLevel (level : String)
  | emptySocketPath (role : Role)
  | filter (fault : Pattern.Fault)
  | zeroOpenTimeout
  | zeroRequestTimeout
  deriving DecidableEq, Repr, Inhabited

def logLevels : List String := ["trace", "debug", "info", "warn", "error"]

def Violation.message : Violation → String
  | .logLevel level =>
    let levels := ", ".intercalate logLevels
    s!"Invalid log level '{level}', must be one of: {levels}"
  | .emptySocketPath role => s!"{role.name}.socket_path must not be empty"
  | .filter fault => fault.message
  | .zeroOpenTimeout => "handoff.open_timeout must be greater than 0"
  | .zeroRequestTimeout => "client.request_timeout_secs must be greater than 0"

inductive Refusal where
  | malformed (fault : Fault)
  | violation (violation : Violation)
  deriving DecidableEq, Repr, Inhabited

inductive Unreadable where
  | os (error : OsError)
  | notText
  deriving DecidableEq, Repr, Inhabited

def Unreadable.message : Unreadable → String
  | .os error => error.message
  | .notText => "stream did not contain valid UTF-8"

inductive Error where
  | noFile
  | unreadable (path : String) (reason : Unreadable)
  | refused (path : String) (role : Role) (refusal : Refusal)
  | notSerializable
  | noDirectory (path : String) (error : OsError)
  | notWritable (path : String) (error : OsError)
  deriving DecidableEq, Repr, Inhabited

def Refusal.chain : Refusal → List String
  | .malformed fault => ["Failed to parse config", fault.message]
  | .violation v => [v.message]

def Error.chain : Error → List String
  | .noFile => ["No configuration file found, using defaults"]
  | .unreadable path reason => [s!"Failed to read config file: {path}", reason.message]
  | .refused path .server refusal => s!"Invalid config file: {path}" :: refusal.chain
  | .refused path .client (.malformed fault) =>
    [s!"Failed to parse config file: {path}", fault.message]
  | .refused _ .client (.violation v) => [v.message]
  | .notSerializable =>
    ["Failed to serialize configuration", "out-of-range value for u64 type"]
  | .noDirectory path error => [s!"Failed to create config directory: {path}", error.message]
  | .notWritable path error => [s!"Failed to write config file: {path}", error.message]

end UsbBridge.Config
