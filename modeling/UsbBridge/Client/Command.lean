import UsbBridge.Error

/-!
# Commands of a consumer

Each command is one request with one kind of response. Of the descriptors that come with a response
an opening takes the first; all others are closed.
-/

namespace UsbBridge.Client

inductive Command where
  | listDevices
  | hasPermission (id : Identity)
  | openDevice (id : Identity)
  | subscribe
  deriving DecidableEq, Repr, Inhabited

def Command.payload : Command → Payload
  | .listDevices => .listDevicesRequest
  | .hasPermission id => .hasPermissionRequest id
  | .openDevice id => .openRequest id
  | .subscribe => .subscribeRequest

inductive Reply (α : Type) where
  | devices (devices : List Descriptor)
  | granted (granted : Bool)
  | opened (id : Identity) (right : α)
  | subscribed
  deriving Repr

/-- A response without its result type. -/
def ofResult (f : β → Except BridgeError γ) : Except SessionError β → Except BridgeError γ
  | .ok b => f b
  | .error e => .error (.session e)

def Command.interpret (command : Command) (payload : Payload) (rights : List α) :
    Except BridgeError (Reply α) :=
  match command, payload with
  | .listDevices, .listDevicesResponse result => ofResult (fun devices => .ok (.devices devices)) result
  | .hasPermission _, .hasPermissionResponse result =>
    ofResult (fun granted => .ok (.granted granted)) result
  | .openDevice _, .openResponse result =>
    ofResult (fun id =>
      match rights with
      | right :: _ => .ok (.opened id right)
      | [] => .error (.unexpectedMessage "open succeeded but no descriptor arrived")) result
  | .subscribe, .subscribed => .ok .subscribed
  | _, other => .error (.unexpectedMessage other.kind)

end UsbBridge.Client
