import UsbBridge.Bus.Enumeration
import UsbBridge.Session.Manager

/-!
# The bus as a host

Devices are those listed, permissions and openings go through their nodes.
-/

namespace UsbBridge.Bus

structure HostState where
  enumeration : Enumeration
  /-- What was read from the node behind each connection. -/
  contents : List (Nat × String)
  deriving Repr, Inhabited

namespace HostState

def start (files : Files) : Except HostError HostState :=
  (Enumeration.start files).map (⟨·, []⟩)

def files (h : HostState) : Files := h.enumeration.files

def act (h : HostState) (step : BusStep) : HostState × List RawNotification :=
  let (enumeration, notifications) := h.enumeration.act step
  ({ h with enumeration }, notifications)

def openNode (h : HostState) (d : Device) (connection : Nat) : HostAnswer Int × HostState :=
  match h.files.openNode d with
  | .ok text => (.ok 3, { h with contents := (connection, text) :: h.contents })
  | .error e => (.failed e, h)

def ops : Host HostState where
  devices h := .ok h.enumeration.devices
  permits h d := .ok (h.files.isAccessible d.bus d.address)
  beginOpen h _ := (.ok (), h)
  isHeld _ := false
  finishOpen := openNode

end HostState

def onBus (m : Manager HostState) (step : BusStep) : Manager HostState × List RawNotification :=
  let (host, notifications) := m.host.act step
  ({ m with host, relay := notifications.foldl Relay.State.notify m.relay }, notifications)

end UsbBridge.Bus
