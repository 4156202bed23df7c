import UsbBridge.Text.Digits

/-!
# Paths and the process environment

Directories of the user come from the environment. A tilde stands for the home directory, alone or
in front of a slash.
-/

namespace UsbBridge

structure Environment where
  home : Option String
  runtimeDir : Option String
  configHome : Option String
  notifySocket : Option String
  watchdogMicros : Option String
  logFilter : Option String
  deriving DecidableEq, Repr, Inhabited

namespace Path

def isAbsolute (path : String) : Bool := path.startsWith "/"

/-- A path below another; an absolute one stands for itself. -/
def join (base path : String) : String :=
  if isAbsolute path then path
  else if base.isEmpty || base.endsWith "/" then base ++ path
  else base ++ "/" ++ path

def parts (path : String) : List String :=
  (path.splitOn "/").filter fun part => part ≠ "" ∧ part ≠ "."

def ofParts (absolute : Bool) (parts : List String) : String :=
  (if absolute then "/" else "") ++ "/".intercalate parts

/-- The directory that holds a path's last part; none for the root and the empty path. -/
def parent? (path : String) : Option String :=
  match (parts path).reverse with
  | [] => none
  | _ :: before => some (ofParts (isAbsolute path) before.reverse)

end Path

namespace Environment

def absolute? (path : Option String) : Option String := path.filter Path.isAbsolute

def configDir? (env : Environment) : Option String :=
  absolute? env.configHome <|> env.home.map (Path.join · ".config")

def configPath (env : Environment) (file : String) : String :=
  Path.join (Path.join (env.configDir?.getD ".config") "usb-fd-bridge") file

def defaultSocketPath (env : Environment) : String :=
  match absolute? env.runtimeDir with
  | some dir => Path.join dir "usb-fd-bridge.sock"
  | none => "/tmp/usb-fd-bridge.sock"

def expand (env : Environment) (path : String) : String :=
  match path.toList, env.home with
  | ['~'], some home => home
  | '~' :: '/' :: rest, some home => home ++ String.ofList ('/' :: rest)
  | _, _ => path

end Environment

end UsbBridge
