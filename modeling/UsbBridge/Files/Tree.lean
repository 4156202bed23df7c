import UsbBridge.Files.OsError
import UsbBridge.Files.Path
import UsbBridge.Wire.Primitive

/-!
# Files

A tree of files as far as the bridge needs it: regular files, directories and the files of sockets,
all named by the parts of their paths.
-/

namespace UsbBridge

inductive FileEntry where
  | file (bytes : List UInt8)
  | directory
  /-- The file of a socket, and whether anyone listens at it. -/
  | socket (listening : Bool)
  /-- The file of a socket at which someone takes datagrams. -/
  | inbox
  deriving DecidableEq, Repr, Inhabited

/-- What lies under each path. The root directory is always there. -/
structure FileTree where
  entries : List (List String × FileEntry)
  deriving Repr, Inhabited

namespace FileTree

def entry? (tree : FileTree) (at_ : List String) : Option FileEntry :=
  if at_.isEmpty then some .directory else tree.entries.lookup at_

def put (tree : FileTree) (at_ : List String) (entry : FileEntry) : FileTree :=
  ⟨(at_, entry) :: tree.entries.filter fun other => other.1 ≠ at_⟩

/-- Follows the parts of a path from a directory on. A double dot leads back up. -/
def resolve (tree : FileTree) : List String → List String → Except OsError (List String)
  | here, [] => .ok here
  | here, part :: rest =>
    match tree.entry? here with
    | none => .error .notFound
    | some .directory =>
      if part = ".." then tree.resolve here.dropLast rest else tree.resolve (here ++ [part]) rest
    | some _ => .error .notADirectory

def namesDirectory (path : String) : Bool :=
  path.endsWith "/" || path.endsWith "/." || path.endsWith "/.." || path == "." || path == ".."

def read (tree : FileTree) (path : String) : Except OsError (List UInt8) := do
  let at_ ← tree.resolve [] (Path.parts path)
  match tree.entry? at_ with
  | none => .error .notFound
  | some .directory => .error .isADirectory
  | some (.file bytes) => if namesDirectory path then .error .notADirectory else .ok bytes
  | some (.socket _) | some .inbox => .error .noDevice

def exists? (tree : FileTree) (path : String) : Bool :=
  match tree.resolve [] (Path.parts path) with
  | .ok at_ => (tree.entry? at_).isSome
  | .error _ => false

def makeDirectory (tree : FileTree) (parts : List String) : Except OsError FileTree := do
  let at_ ← tree.resolve [] parts
  match tree.entry? at_ with
  | some _ => throw .alreadyExists
  | none =>
    if (tree.entry? at_.dropLast).isNone then throw .notFound
    return tree.put at_ .directory

/-- Makes a directory and those above it, as far as they are missing. The parts are given last
first. -/
def makeDirectories (tree : FileTree) : List String → Except OsError FileTree
  | [] => .ok tree
  | part :: above =>
    let parts := (part :: above).reverse
    match tree.makeDirectory parts with
    | .ok made => .ok made
    | .error .notFound => do (← tree.makeDirectories above).makeDirectory parts
    | .error e =>
      match tree.resolve [] parts with
      | .ok at_ => if tree.entry? at_ = some .directory then .ok tree else .error e
      | .error _ => .error e

/-- Writes a file anew; its directory has to be there. -/
def write (tree : FileTree) (path : String) (bytes : List UInt8) : Except OsError FileTree := do
  let at_ ← tree.resolve [] (Path.parts path)
  match tree.entry? at_ with
  | some .directory => .error .isADirectory
  | some (.socket _) | some .inbox => .error .noDevice
  | some (.file _) =>
    if namesDirectory path then .error .notADirectory else .ok (tree.put at_ (.file bytes))
  | none =>
    if namesDirectory path then .error .isADirectory
    else if tree.entry? at_.dropLast = some .directory then .ok (tree.put at_ (.file bytes))
    else .error .notFound

def remove (tree : FileTree) (path : String) : Except OsError FileTree := do
  let at_ ← tree.resolve [] (Path.parts path)
  match tree.entry? at_ with
  | none => .error .notFound
  | some .directory => .error .isADirectory
  | some _ => .ok ⟨tree.entries.filter fun other => other.1 ≠ at_⟩

def connect (tree : FileTree) (path : String) : Except OsError Unit := do
  let at_ ← tree.resolve [] (Path.parts path)
  match tree.entry? at_ with
  | none => .error .notFound
  | some (.socket true) => .ok ()
  | some .inbox => .error .wrongSocketType
  | some _ => .error .connectionRefused

def deliver (tree : FileTree) (path : String) : Except OsError Unit := do
  let at_ ← tree.resolve [] (Path.parts path)
  match tree.entry? at_ with
  | none => .error .notFound
  | some .inbox => .ok ()
  | some (.socket true) => .error .wrongSocketType
  | some _ => .error .connectionRefused

def longestSocketPath : Nat := 107

def socketPathTooLong : String := "path must be shorter than SUN_LEN"

def listen (tree : FileTree) (path : String) : Except OsError FileTree := do
  let at_ ← tree.resolve [] (Path.parts path)
  match tree.entry? at_ with
  | some _ => .error .addressInUse
  | none =>
    if tree.entry? at_.dropLast = some .directory then .ok (tree.put at_ (.socket true))
    else .error .notFound

end FileTree

end UsbBridge
