import UsbBridge.Device.Filter
import UsbBridge.Host.Basic

/-!
# The hotplug relay

One registration with the operating system serves one subscriber at a time. Subscribing and
cancelling are commands in a queue of their own; the relay takes a command whenever one is queued,
and a notification only otherwise. A feed ends at most once, with the reason.
-/

namespace UsbBridge.Relay

inductive Command where
  | attach (subscription : Nat)
  | cancel (subscription : Nat)
  | shutdown
  deriving DecidableEq, Repr

inductive FeedItem where
  | event (event : HotplugEvent)
  | ended (reason : EndReason)
  deriving DecidableEq, Repr

/-- A subscription: all that was pushed to it, how much of that its holder has read, whether the
relay may still push, and whether the holder still reads. -/
structure Feed where
  items : List FeedItem
  read : Nat
  fed : Bool
  held : Bool
  /-- The end, once the holder has met it. -/
  ended : Option EndReason
  deriving DecidableEq, Repr, Inhabited

inductive Received where
  | event (event : HotplugEvent)
  | ended (reason : EndReason)
  | pending
  deriving DecidableEq, Repr

namespace Feed

def push (f : Feed) (item : FeedItem) : Feed :=
  if f.fed && f.held then { f with items := f.items ++ [item] } else f

def hangUp (f : Feed) : Feed := { f with fed := false }

def finish (f : Feed) (reason : EndReason) : Feed := (f.push (.ended reason)).hangUp

def drop (f : Feed) : Feed := { f with held := false }

/-- The next item of a feed. A feed that was let go without an end counts as shut down. -/
def next (f : Feed) : Received × Feed :=
  match f.ended with
  | some reason => (.ended reason, f)
  | none =>
    match f.items[f.read]? with
    | some (.event e) => (.event e, { f with read := f.read + 1 })
    | some (.ended reason) => (.ended reason, { f with read := f.read + 1, ended := some reason })
    | none =>
      if f.fed then (.pending, f) else (.ended .shutdown, { f with ended := some .shutdown })

end Feed

structure State where
  filter : DeviceFilter
  commands : List Command
  notifications : List RawNotification
  /-- Whether the operating system still holds the registration. -/
  registered : Bool
  current : Option Nat
  lost : Bool
  running : Bool
  feeds : List Feed
  deriving Repr

/-- The number by which a subscription is told from others: they are counted from one on, in 64
bits. -/
def mark (subscription : Nat) : UInt64 := (subscription + 1).toUInt64

namespace State

def start (filter : DeviceFilter) (registered : Bool) : State :=
  ⟨filter, [], [], registered, none, false, true, []⟩

def send (s : State) (c : Command) : State :=
  if s.running then { s with commands := s.commands ++ [c] } else s

def isHeld (s : State) (n : Nat) : Bool := (s.feeds[n]?.map (·.held)).getD false

/-- Becomes the subscriber; on a relay that has stopped the subscription is over at once. -/
def subscribe (s : State) : Nat × State :=
  let n := s.feeds.length
  let feed : Feed := ⟨[], 0, s.running, true, if s.running then none else some .shutdown⟩
  (n, { s with feeds := s.feeds ++ [feed] }.send (.attach n))

def cancel (s : State) (n : Nat) : State := if s.isHeld n then s.send (.cancel n) else s

def shutdown (s : State) : State := s.send .shutdown

def touch (s : State) (n : Nat) (f : Feed → Feed) : State := { s with feeds := s.feeds.modify n f }

def drop (s : State) (n : Nat) : State := s.touch n (·.drop)

/-- The operating system reports a change; without a registration nobody hears of it. -/
def notify (s : State) (r : RawNotification) : State :=
  if s.registered then { s with notifications := s.notifications ++ [r] } else s

def unregister (s : State) : State := { s with registered := false }

def push (s : State) (n : Nat) (item : FeedItem) : State := s.touch n (·.push item)

def hangUp (s : State) (n : Nat) : State := s.touch n (·.hangUp)

def finish (s : State) (n : Nat) (reason : EndReason) : State := s.touch n (·.finish reason)

def finishCurrent (s : State) (reason : EndReason) : State :=
  match s.current with
  | some n => { s.finish n reason with current := none }
  | none => s

def eventOf (f : DeviceFilter) (r : RawNotification) : Option HotplugEvent :=
  match HotplugKind.ofAction? r.action with
  | none => none
  | some kind => if f.allowsEvent kind r.device then some ⟨kind, r.device.describe⟩ else none

theorem eventOf_eq_some_iff {f : DeviceFilter} {r : RawNotification} {e : HotplugEvent} :
    eventOf f r = some e ↔ HotplugKind.ofAction? r.action = some e.kind ∧
      f.allowsEvent e.kind r.device = true ∧ e.device = r.device.describe := by
  obtain ⟨kind, device⟩ := e
  unfold eventOf
  cases HotplugKind.ofAction? r.action with
  | none => simp
  | some k =>
    simp only [Option.some.injEq, Option.ite_none_right_eq_some, HotplugEvent.mk.injEq]
    constructor
    · rintro ⟨shown, rfl, rfl⟩
      exact ⟨rfl, shown, rfl⟩
    · rintro ⟨rfl, shown, rfl⟩
      exact ⟨shown, rfl, rfl⟩

/-- Passes a notification on; a subscriber that no longer reads loses its place. -/
def deliver (s : State) (r : RawNotification) : State :=
  match eventOf s.filter r, s.current with
  | some event, some n =>
    if s.isHeld n then s.push n (.event event) else { s.hangUp n with current := none }
  | _, _ => s

def forget (s : State) : Command → State
  | .attach n => s.hangUp n
  | _ => s

/-- A stopped relay forgets its queues. -/
def stop (s : State) : State :=
  { s.commands.foldl forget s with commands := [], notifications := [], running := false }

def obey (s : State) : Command → State
  | .attach n =>
    if s.lost then s.finish n .registrationLost
    else { s.finishCurrent .replaced with current := some n }
  | .cancel n =>
    if s.current.any (mark · == mark n) then s.finishCurrent .cancelled else s
  | .shutdown => (s.finishCurrent .shutdown).stop

def step? (s : State) : Option State :=
  if !s.running then none
  else
    match s.commands with
    | c :: cs => some ({ s with commands := cs }.obey c)
    | [] =>
      if s.lost then none
      else
        match s.notifications with
        | r :: rs => some ({ s with notifications := rs }.deliver r)
        | [] =>
          if s.registered then none
          else some { s.finishCurrent .registrationLost with lost := true }

def steps : Nat → State → State
  | 0, s => s
  | n + 1, s =>
    match s.step? with
    | some next => steps n next
    | none => s

def load (s : State) : Nat := s.commands.length + s.notifications.length + 2

def settle (s : State) : State := steps s.load s

def recv (s : State) (n : Nat) : Option (Received × State) :=
  match s.feeds[n]? with
  | none => none
  | some f =>
    if f.held then
      let (item, next) := f.next
      some (item, { s with feeds := s.feeds.set n next })
    else none

/-- Why a subscription ended, once its holder knows; the outer none when nobody holds it. -/
def endReason (s : State) (n : Nat) : Option (Option EndReason) :=
  match s.feeds[n]? with
  | none => none
  | some f => if f.held then some f.ended else none

end State

inductive Move where
  | subscribe
  | cancel (n : Nat)
  | drop (n : Nat)
  | notify (r : RawNotification)
  | unregister
  | shutdown
  | work
  | recv (n : Nat)

def State.move (s : State) : Move → State
  | .subscribe => s.subscribe.2
  | .cancel n => s.cancel n
  | .drop n => s.drop n
  | .notify r => s.notify r
  | .unregister => s.unregister
  | .shutdown => s.shutdown
  | .work => s.step?.getD s
  | .recv n => ((s.recv n).map (·.2)).getD s

end UsbBridge.Relay
