import UsbBridge.Duration.Basic
import UsbBridge.Protocol.Error

/-!
# What a bridge connection can fail with
-/

namespace UsbBridge

inductive BridgeError where
  | io (text : String)
  | protocol (error : ProtocolError)
  | session (error : SessionError)
  | config (text : String)
  | unexpectedMessage (what : String)
  | remote (text : String)
  | connectionClosed
  | timeout (after : Duration)
  deriving DecidableEq, Repr, Inhabited

namespace BridgeError

def name : BridgeError → String
  | .io _ => "Io"
  | .protocol _ => "Protocol"
  | .session _ => "Session"
  | .config _ => "Config"
  | .unexpectedMessage _ => "UnexpectedMessage"
  | .remote _ => "Remote"
  | .connectionClosed => "ConnectionClosed"
  | .timeout _ => "Timeout"

def message : BridgeError → String
  | .io text => s!"IO error: {text}"
  | .protocol error => s!"Protocol error: {error.message}"
  | .session error => error.message
  | .config text => s!"Configuration error: {text}"
  | .unexpectedMessage what => s!"Unexpected message: {what}"
  | .remote text => s!"Bridge reported an error: {text}"
  | .connectionClosed => "Connection closed by peer"
  | .timeout after => s!"Request timed out after {after.display}"

/-- The texts of the error and of everything it was caused by, outermost first. -/
def chain (e : BridgeError) : List String :=
  match e with
  | .io text => [e.message, text]
  | .protocol error => e.message :: error.message :: error.cause.toList
  | _ => [e.message]

def brokenPipe : BridgeError := .io "Broken pipe (os error 32)"

end BridgeError

end UsbBridge
