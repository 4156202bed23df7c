import UsbBridge.Config.Client
import UsbBridge.Config.Server
import UsbBridge.Files.Tree

/-!
# Configuration files

A configuration is loaded from a given file, or from the first of the standard places that has
one. Saving makes the directories on the way.
-/

namespace UsbBridge.Config

def readTextFile (tree : FileTree) (path : String) : Except Error String :=
  match tree.read path with
  | .error e => .error (.unreadable path (.os e))
  | .ok bytes =>
    match Wire.ofUtf8? bytes with
    | some text => .ok text
    | none => .error (.unreadable path .notText)

def candidates (env : Environment) (role : Role) : List String :=
  let file := role.name ++ ".toml"
  [env.configPath file, "/etc/usb-fd-bridge/" ++ file]

def chosen (env : Environment) (tree : FileTree) (role : Role) :
    Option String → Except Error String
  | some path => .ok path
  | none =>
    match (candidates env role).find? tree.exists? with
    | some path => .ok path
    | none => .error .noFile

def load (role : Role) (ofText : String → Except Refusal γ) (env : Environment)
    (tree : FileTree) (path : Option String) : Except Error γ := do
  let path ← chosen env tree role path
  match ofText (← readTextFile tree path) with
  | .ok config => .ok config
  | .error refusal => .error (.refused path role refusal)

def save (text : Option String) (tree : FileTree) (path : String) : Except Error FileTree := do
  let some text := text | throw .notSerializable
  let tree ← match Path.parent? path with
    | none => .ok tree
    | some parent =>
      match tree.makeDirectories (Path.parts parent).reverse with
      | .ok tree => .ok tree
      | .error e => throw (.noDirectory parent e)
  match tree.write path (Wire.utf8 text) with
  | .ok tree => .ok tree
  | .error e => throw (.notWritable path e)

end UsbBridge.Config

namespace UsbBridge

namespace ServerConfig

open Config

def load (env : Environment) (tree : FileTree) (path : Option String) :
    Except Error ServerConfig :=
  Config.load .server (ofText env) env tree path

def loadOrDefault (env : Environment) (tree : FileTree) : ServerConfig :=
  match load env tree none with
  | .ok config => config
  | .error _ => default env

/-- Loads the file that a user names, with a tilde for the home directory. -/
def loadNamed (env : Environment) (tree : FileTree) (path : String) : Except Error ServerConfig :=
  load env tree (some (env.expand path))

def save (c : ServerConfig) (tree : FileTree) (path : String) : Except Error FileTree :=
  Config.save (some c.toText) tree path

end ServerConfig

namespace ClientConfig

open Config

def load (env : Environment) (tree : FileTree) (path : Option String) :
    Except Error ClientConfig :=
  Config.load .client (ofText env) env tree path

def loadOrDefault (env : Environment) (tree : FileTree) : ClientConfig :=
  match load env tree none with
  | .ok config => config
  | .error _ => default env

def save (c : ClientConfig) (tree : FileTree) (path : String) : Except Error FileTree :=
  Config.save c.toText? tree path

end ClientConfig

end UsbBridge
