import UsbBridge.Files.Tree

/-!
# Binding the consumers' socket

A socket file that nobody listens at is replaced, one with a listener behind it is not. Missing
directories on the way are made.
-/

namespace UsbBridge.Daemon

inductive BindError where
  | alreadyListening (path : String)
  | staleSocket (path : String) (cause : OsError)
  | directory (path : String) (cause : OsError)
  | binding (path : String) (cause : String)
  deriving DecidableEq, Repr

def BindError.chain : BindError → List String
  | .alreadyListening path => [s!"Another bridge is already listening on {path}"]
  | .staleSocket path cause => [s!"Failed to remove stale socket: {path}", cause.message]
  | .directory path cause => [s!"Failed to create socket directory: {path}", cause.message]
  | .binding path cause => [s!"Failed to bind {path}", cause]

/-- Takes away what lies at the path, unless somebody listens there. -/
def clearPath (tree : FileTree) (path : String) : Except BindError FileTree :=
  if !tree.exists? path then .ok tree
  else
    match tree.connect path with
    | .ok () => .error (.alreadyListening path)
    | .error _ => (tree.remove path).mapError (.staleSocket path)

def bind (tree : FileTree) (path : String) : Except BindError FileTree := do
  let cleared ← clearPath tree path
  let made ← match Path.parent? path with
    | none => pure cleared
    | some dir => (cleared.makeDirectories (Path.parts dir).reverse).mapError (.directory dir)
  if FileTree.longestSocketPath < path.utf8ByteSize then
    throw (.binding path FileTree.socketPathTooLong)
  (made.listen path).mapError fun e => .binding path e.message

end UsbBridge.Daemon
