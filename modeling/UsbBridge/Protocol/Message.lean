import UsbBridge.Protocol.Device

/-!
# Messages between consumers and the bridge

Every message carries the version of the protocol its sender speaks. Peers of the same major
version understand one another.
-/

namespace UsbBridge

structure Version where
  major : UInt8
  minor : UInt8
  patch : UInt8
  deriving DecidableEq, Repr, Inhabited

def Version.current : Version := ⟨1, 0, 0⟩

def Version.text (v : Version) : String :=
  s!"{v.major.toNat}.{v.minor.toNat}.{v.patch.toNat}"

inductive Payload where
  | listDevicesRequest
  | listDevicesResponse (result : Except SessionError (List Descriptor))
  | hasPermissionRequest (identity : Identity)
  | hasPermissionResponse (result : Except SessionError Bool)
  | openRequest (identity : Identity)
  | openResponse (result : Except SessionError Identity)
  | subscribeRequest
  | subscribed
  | cancelRequest
  | notification (event : HotplugEvent)
  | streamEnded (reason : EndReason)
  | error (message : String)
  deriving Inhabited

def Payload.kind : Payload → String
  | .listDevicesRequest => "ListDevicesRequest"
  | .listDevicesResponse _ => "ListDevicesResponse"
  | .hasPermissionRequest _ => "HasPermissionRequest"
  | .hasPermissionResponse _ => "HasPermissionResponse"
  | .openRequest _ => "OpenAndDuplicateRequest"
  | .openResponse _ => "OpenAndDuplicateResponse"
  | .subscribeRequest => "SubscribeHotplugRequest"
  | .subscribed => "HotplugSubscribed"
  | .cancelRequest => "CancelHotplugRequest"
  | .notification _ => "HotplugNotification"
  | .streamEnded _ => "HotplugStreamEnded"
  | .error _ => "Error"

structure Message where
  version : Version
  payload : Payload
  deriving Inhabited

def Message.ofPayload (payload : Payload) : Message := ⟨.current, payload⟩

end UsbBridge
