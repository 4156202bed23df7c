import UsbBridge.Protocol.Message
import UsbBridge.Wire.Varint

/-!
# What can go wrong with a message
-/

namespace UsbBridge

inductive ProtocolError where
  | malformed (fault : Wire.Fault)
  | incompatibleVersion (major minor expectedMajor expectedMinor : UInt8)
  | frameTooLarge (size limit : Nat)
  | incompleteFrame (expected actual : Nat)
  | io (text : String)
  deriving DecidableEq, Repr, Inhabited

def ProtocolError.name : ProtocolError → String
  | .malformed _ => "Serialization"
  | .incompatibleVersion .. => "IncompatibleVersion"
  | .frameTooLarge .. => "FrameTooLarge"
  | .incompleteFrame .. => "IncompleteFrame"
  | .io _ => "Io"

def ProtocolError.message : ProtocolError → String
  | .malformed fault => s!"Malformed message body: {fault.message}"
  | .incompatibleVersion major minor expectedMajor expectedMinor =>
    s!"Peer uses protocol {major.toNat}.{minor.toNat}, this bridge speaks {expectedMajor.toNat}.{expectedMinor.toNat}"
  | .frameTooLarge size limit => s!"Frame of {size} bytes exceeds the {limit} byte limit"
  | .incompleteFrame expected actual =>
    s!"Truncated frame: {actual} of {expected} bytes present"
  | .io text => s!"Socket I/O failed: {text}"

def ProtocolError.cause : ProtocolError → Option String
  | .malformed fault => some fault.message
  | .io text => some text
  | _ => none

/-- A peer of another major version is refused; minor and patch do not matter. -/
def Version.validate (v : Version) : Except ProtocolError Unit :=
  if v.major = Version.current.major then .ok ()
  else .error (.incompatibleVersion v.major v.minor Version.current.major Version.current.minor)

end UsbBridge
