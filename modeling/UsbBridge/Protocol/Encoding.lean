import UsbBridge.Protocol.Error
import UsbBridge.Wire.Primitive

/-!
# Message bodies

A structure is its fields in order; an alternative is its position, then its fields. Version
numbers are single bytes. Bytes behind a message are ignored.
-/

namespace UsbBridge

open Wire

def Identity.write (id : Identity) : List UInt8 := writeString id.text

def Identity.read : Reader Identity := return ⟨← readString⟩

def Descriptor.write (d : Descriptor) : List UInt8 :=
  d.identity.write ++ writeShort d.vendor ++ writeShort d.product

def Descriptor.read : Reader Descriptor :=
  return ⟨← Identity.read, ← readShort, ← readShort⟩

def HotplugKind.write : HotplugKind → List UInt8
  | .attached => Varint.encode 0
  | .detached => Varint.encode 1

def HotplugKind.read : Reader HotplugKind := do
  match ← readNat .tag with
  | 0 => pure .attached
  | 1 => pure .detached
  | _ => throw .unknownTag

def HotplugEvent.write (e : HotplugEvent) : List UInt8 := e.kind.write ++ e.device.write

def HotplugEvent.read : Reader HotplugEvent :=
  return ⟨← HotplugKind.read, ← Descriptor.read⟩

def EndReason.write : EndReason → List UInt8
  | .replaced => Varint.encode 0
  | .cancelled => Varint.encode 1
  | .registrationLost => Varint.encode 2
  | .shutdown => Varint.encode 3

def EndReason.read : Reader EndReason := do
  match ← readNat .tag with
  | 0 => pure .replaced
  | 1 => pure .cancelled
  | 2 => pure .registrationLost
  | 3 => pure .shutdown
  | _ => throw .unknownTag

def SessionError.write : SessionError → List UInt8
  | .enumeration message => Varint.encode 0 ++ writeString message
  | .deviceNotFound id => Varint.encode 1 ++ id.write
  | .permissionDenied id => Varint.encode 2 ++ id.write
  | .openFailed id reason busy =>
    Varint.encode 3 ++ id.write ++ writeString reason ++ writeBool busy
  | .alreadyOpening id => Varint.encode 4 ++ id.write

def SessionError.read : Reader SessionError := do
  match ← readNat .tag with
  | 0 => return .enumeration (← readString)
  | 1 => return .deviceNotFound (← Identity.read)
  | 2 => return .permissionDenied (← Identity.read)
  | 3 => return .openFailed (← Identity.read) (← readString) (← readBool)
  | 4 => return .alreadyOpening (← Identity.read)
  | _ => throw .unknownTag

def Payload.write : Payload → List UInt8
  | .listDevicesRequest => Varint.encode 0
  | .listDevicesResponse result =>
    Varint.encode 1 ++ writeResult SessionError.write (writeList Descriptor.write) result
  | .hasPermissionRequest id => Varint.encode 2 ++ id.write
  | .hasPermissionResponse result =>
    Varint.encode 3 ++ writeResult SessionError.write writeBool result
  | .openRequest id => Varint.encode 4 ++ id.write
  | .openResponse result =>
    Varint.encode 5 ++ writeResult SessionError.write Identity.write result
  | .subscribeRequest => Varint.encode 6
  | .subscribed => Varint.encode 7
  | .cancelRequest => Varint.encode 8
  | .notification event => Varint.encode 9 ++ event.write
  | .streamEnded reason => Varint.encode 10 ++ reason.write
  | .error message => Varint.encode 11 ++ writeString message

def Payload.read : Reader Payload := do
  match ← readNat .tag with
  | 0 => return .listDevicesRequest
  | 1 => return .listDevicesResponse (← readResult SessionError.read (readList Descriptor.read))
  | 2 => return .hasPermissionRequest (← Identity.read)
  | 3 => return .hasPermissionResponse (← readResult SessionError.read readBool)
  | 4 => return .openRequest (← Identity.read)
  | 5 => return .openResponse (← readResult SessionError.read Identity.read)
  | 6 => return .subscribeRequest
  | 7 => return .subscribed
  | 8 => return .cancelRequest
  | 9 => return .notification (← HotplugEvent.read)
  | 10 => return .streamEnded (← EndReason.read)
  | 11 => return .error (← readString)
  | _ => throw .unknownTag

def Version.write (v : Version) : List UInt8 := [v.major, v.minor, v.patch]

def Version.read : Reader Version := return ⟨← readByte, ← readByte, ← readByte⟩

def Message.read : Reader Message := return ⟨← Version.read, ← Payload.read⟩

def Message.encode (m : Message) : List UInt8 := m.version.write ++ m.payload.write

def Message.decode (body : List UInt8) : Except ProtocolError Message :=
  match Message.read body with
  | .ok (m, _) => .ok m
  | .error fault => .error (.malformed fault)

end UsbBridge
