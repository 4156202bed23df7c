import UsbBridge.Client.Exchange
import UsbBridge.Client.Feed

/-!
# A consumer's end of a connection

A client turns into a feed when it subscribes; if that fails the connection is closed.
-/

namespace UsbBridge.Client

open Socket

inductive Endpoint (α : Type) where
  | client (s : State α)
  | feed (f : Feed α)
  | gone

inductive Call where
  | command (command : Command)
  | nextEvent
  | endReason
  | cancel
  deriving Repr, Inhabited

inductive CallAnswer (α : Type) where
  | reply (reply : Reply α)
  | event (event : HotplugEvent)
  | ended (reason : Option EndReason)
  | sent
  | pending
  | abandoned
  | gone
  | failed (error : BridgeError)

def NextEvent.answer : NextEvent → CallAnswer α
  | .event e => .event e
  | .ended reason => .ended (some reason)
  | .failed e => .failed e

namespace Endpoint

def caller : Nat := 0

def start (timeout : Duration) : Endpoint α := .client (.start timeout)

/-- The end of a command, which for a subscription is the end of the client. -/
def conclude (command : Command) (answer : CallAnswer α) (s : State α) (l : Link α) :
    CallAnswer α × Endpoint α × Link α :=
  match command, answer with
  | .subscribe, .reply .subscribed => (answer, .feed .start, l)
  | .subscribe, _ => (answer, .gone, l.close)
  | _, _ => (answer, .client s, l)

def resume (e : Endpoint α) (l : Link α) (call : Call) :
    Option (CallAnswer α) × Endpoint α × Link α :=
  match e, call with
  | .client s, .command command =>
    let (s, l) := s.poll l
    match s.take caller with
    | (none, _) => (none, .client s, l)
    | (some (.error e), s) =>
      let (answer, rest) := conclude command (.failed e) s l
      (some answer, rest)
    | (some (.ok (payload, rights)), s) =>
      let answer := match command.interpret payload rights with
        | .ok reply => .reply reply
        | .error e => .failed e
      let (answer, rest) := conclude command answer s l
      (some answer, rest)
  | .feed f, .nextEvent =>
    let (next, f, l) := f.poll l
    (next.map NextEvent.answer, .feed f, l)
  | .feed f, .endReason => (some (.ended f.ended), .feed f, l)
  | .feed f, .cancel =>
    match Feed.cancel l with
    | (.ok (), l) => (some .sent, .feed f, l)
    | (.error e, l) => (some (.failed e), .feed f, l)
  | e, _ => (some .gone, e, l)

def begin (e : Endpoint α) (l : Link α) (call : Call) :
    Option (CallAnswer α) × Endpoint α × Link α :=
  match e, call with
  | .client s, .command command =>
    let (s, l) := s.request l caller command.payload
    resume (.client s) l call
  | e, call => resume e l call

def giveUp (e : Endpoint α) (l : Link α) (call : Call) (byCaller : Bool) :
    CallAnswer α × Endpoint α × Link α :=
  match e, call with
  | .client s, .command command =>
    if byCaller then conclude command .abandoned (s.abandon caller) l
    else
      let failure := .failed (.timeout s.timeout)
      conclude command failure (s.expire.take caller).2 l
  | .feed f, _ => (.pending, .feed f.abandon, l)
  | e, _ => (.gone, e, l)

end Endpoint

end UsbBridge.Client
