import UsbBridge.Duration.Basic
import UsbBridge.Files.Tree

/-!
# Notices to the service supervisor

The supervisor names a datagram socket in the environment; without one, notices are not sent and
nothing is wrong.
-/

namespace UsbBridge

inductive Notice where
  | ready
  | stopping
  | status (text : String)
  | watchdog
  deriving DecidableEq, Repr, Inhabited

def Notice.text : Notice → String
  | .ready => "READY=1"
  | .stopping => "STOPPING=1"
  | .status text => s!"STATUS={text}"
  | .watchdog => "WATCHDOG=1"

inductive NoticeSocket where
  | unnamed
  | listening
  /-- Sending fails, for the reason given. -/
  | failing (cause : String)
  deriving DecidableEq, Repr, Inhabited

def NoticeSocket.find (env : Environment) (tree : FileTree) : NoticeSocket :=
  match env.notifySocket with
  | none => .unnamed
  | some path =>
    if FileTree.longestSocketPath < path.utf8ByteSize then .failing FileTree.socketPathTooLong
    else if path.isEmpty then .failing OsError.invalidArgument.message
    else
      match tree.deliver path with
      | .ok () => .listening
      | .error e => .failing e.message

structure NoticeError where
  notice : Notice
  cause : String
  deriving DecidableEq, Repr, Inhabited

def NoticeError.chain (e : NoticeError) : List String :=
  [s!"Failed to send '{e.notice.text}' to systemd", e.cause]

def Notice.send (n : Notice) : NoticeSocket → Except NoticeError (List String)
  | .unnamed => .ok []
  | .listening => .ok [n.text]
  | .failing cause => .error ⟨n, cause⟩

/-- How often the watchdog is to be told that all is well: twice per period, though not more than
once a second. -/
def Environment.watchdogInterval (env : Environment) : Option Duration := do
  let micros ← Text.count? (← env.watchdogMicros)
  return .ofMicros (max (micros / 2) 1000000)

end UsbBridge
