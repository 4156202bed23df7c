import UsbBridge.Client.Endpoint
import UsbBridge.Proofs.Client.Hearing
import UsbBridge.Proofs.Client.Moves

/-!
# A subscriber

A consumer gives commands, then asks for a subscription and so turns from a client into a feed, and
then reads events and asks for the end of the stream (`Subscriber`). It makes one system call after
the other, as the calls for commands and events do (`poll_receives`, `resume_command`,
`cancel_sends`).
-/

namespace UsbBridge

/-- Whether a payload is a request of a command other than to subscribe. -/
def Payload.isCommand : Payload → Bool
  | .listDevicesRequest | .hasPermissionRequest _ | .openRequest _ => true
  | _ => false

namespace Client

open Socket
open Receiver (Reading)
open UsbBridge.Frame (limit)

-- ---------------------------------------------------------------------------
-- Calls of a feed
-- ---------------------------------------------------------------------------

namespace Feed

def settle (f : Feed α) (l : Link α) :
    Receiver.Progress α × Channel α → Option NextEvent × Feed α × Link α
  | (.reading r, incoming) => (none, { f with reading := r }, { l with incoming })
  | (.done outcome _, incoming) =>
    let (next, f) := { f with reading := .start }.take outcome
    (some next, f, { l with incoming })

def receive (f : Feed α) (l : Link α) (most : Nat) : Option NextEvent × Feed α × Link α :=
  match f.ended with
  | some reason => (some (.ended reason), f, l)
  | none => ((f.reading.step? most l.incoming).map (f.settle l)).getD (none, f, l)

/-- Goes on with one receive call for each number until there is a result. -/
def receives (f : Feed α) (l : Link α) : List Nat → Option NextEvent × Feed α × Link α
  | [] => (none, f, l)
  | most :: calls =>
    match f.receive l most with
    | (none, f, l) => f.receives l calls
    | done => done

section
variable {f : Feed α} {l : Link α}

theorem receive_going (going : f.ended = none) (most : Nat) : f.receive l most =
    ((f.reading.step? most l.incoming).map (f.settle l)).getD (none, f, l) := by
  rw [receive, going]

theorem settle_receives (going : f.ended = none) (n : Nat) :
    ∃ calls, f.settle l (Receiver.run.go n f.reading l.incoming) = f.receives l calls := by
  induction n generalizing f l with
  | zero => exact ⟨[], rfl⟩
  | succ n ih =>
    have hreceive := receive_going (l := l) going f.reading.wanted
    simp only [Receiver.run.go]
    cases hs : f.reading.step? f.reading.wanted l.incoming with
    | none => exact ⟨[], rfl⟩
    | some p =>
      obtain ⟨progress, incoming⟩ := p
      rw [hs, Option.map_some, Option.getD_some] at hreceive
      cases progress with
      | reading r =>
        obtain ⟨calls, hcalls⟩ := ih (f := { f with reading := r }) (l := { l with incoming }) going
        refine ⟨f.reading.wanted :: calls, ?_⟩
        rw [receives, hreceive]
        exact hcalls
      | done outcome closed =>
        refine ⟨[f.reading.wanted], ?_⟩
        rw [receives, hreceive]
        rfl

theorem poll_receives (f : Feed α) (l : Link α) : ∃ calls, f.poll l = f.receives l calls := by
  unfold poll
  split
  · rename_i reason ended
    exact ⟨[0], by simp [receives, receive, ended]⟩
  · rename_i going
    obtain ⟨calls, hcalls⟩ := settle_receives (l := l) going (l.incoming.size + 1)
    refine ⟨calls, hcalls ▸ ?_⟩
    simp only [Receiver.run]
    cases Receiver.run.go _ _ _ with
    | mk progress incoming => cases progress <;> rfl

end

end Feed

-- ---------------------------------------------------------------------------
-- From commands to events
-- ---------------------------------------------------------------------------

def Endpoint.settled (command : Command) (s : State α) (l : Link α) :
    Option (CallAnswer α) × Endpoint α × Link α :=
  match s.take caller with
  | (none, _) => (none, .client s, l)
  | (some (.error e), s) =>
    let (answer, rest) := conclude command (.failed e) s l
    (some answer, rest)
  | (some (.ok (payload, rights)), s) =>
    let answer := match command.interpret payload rights with
      | .ok reply => .reply reply
      | .error e => .failed e
    let (answer, rest) := conclude command answer s l
    (some answer, rest)

theorem resume_command (command : Command) (s : State α) (l : Link α) :
    Endpoint.resume (.client s) l (.command command) =
      Endpoint.settled command (s.poll l).1 (s.poll l).2 := rfl

inductive Subscriber (α : Type) where
  /-- A client that is given other commands, by any number of callers. -/
  | client (s : State α)
  /-- A client that is to become a feed. Nobody else can call it any more. -/
  | asking (s : State α)
  /-- A feed, with the requests to cancel that have not been sent as a whole and what the calls for
  the next event have returned. -/
  | feed (f : Feed α) (cancels : List (Sender α)) (results : List NextEvent)
  | gone

inductive Subscriber.Move where
  /-- A caller does something about a command, or the exchange in progress goes on. -/
  | client (m : Client.Move)
  | subscribe
  /-- One receive call of a call for the next event. -/
  | next (most : Nat)
  | cancel
  /-- One send call for the first request to cancel, which takes so many bytes, or would block. -/
  | send (n : Nat)

namespace Move

/-- Whether callers can do this as long as nobody subscribes. -/
def isCommand : Move → Bool
  | .call _ request => request.isCommand
  | _ => true

def isExchange : Move → Bool
  | .call .. | .abandon _ => false
  | _ => true

end Move

namespace Subscriber

def start (timeout : Duration) : Subscriber α := .client (.start timeout)

def feed? : Subscriber α → Option (Feed α × List NextEvent)
  | .feed f _ results => some (f, results)
  | _ => none

def ofEndpoint : Endpoint α → Subscriber α
  | .client s => .client s
  | .feed f => .feed f [] []
  | .gone => .gone

/-- All other calls of the client have returned. -/
def ask (s : State α) : State α :=
  { s with waiting := [(Endpoint.caller, .subscribeRequest)], returned := [] }

def settle (s : State α) (l : Link α) : Subscriber α × Link α :=
  match Endpoint.settled .subscribe s l with
  | (none, _, l) => (.asking s, l)
  | (some _, endpoint, l) => (ofEndpoint endpoint, l)

def send (f : Feed α) (results : List NextEvent) (sender : Sender α) (later : List (Sender α))
    (l : Link α) (n : Nat) : Subscriber α × Link α :=
  match sender.step l.outgoing (if n = 0 then .wouldBlock else .bytes n) with
  | (.error _, outgoing) => (.feed f later results, { l with outgoing })
  | (.ok sender, outgoing) =>
    (.feed f (if sender.isDone then later else sender :: later) results, { l with outgoing })

/-- What does not apply changes nothing. -/
def step : Subscriber α → Link α → Move → Subscriber α × Link α
  | .client s, l, .client m =>
    if m.isCommand then (.client (s.step l m).1, (s.step l m).2) else (.client s, l)
  | .client s, l, .subscribe =>
    if s.running.isNone && s.waiting.isEmpty then (.asking (ask s), l) else (.client s, l)
  | .asking s, l, .client m =>
    if m.isExchange then settle (s.step l m).1 (s.step l m).2 else (.asking s, l)
  | .feed f cancels results, l, .next most =>
    let (next, f, l) := f.receive l most
    (.feed f cancels (results ++ next.toList), l)
  | .feed f cancels results, l, .cancel =>
    match Sender.ofMessage (.ofPayload .cancelRequest) [] with
    | .ok sender => (.feed f (cancels ++ [sender]) results, l)
    | .error _ => (.feed f cancels results, l)
  | .feed f (sender :: later) results, l, .send n => send f results sender later l n
  | x, l, _ => (x, l)

def canceller : Sender α := ⟨Payload.frame .cancelRequest, []⟩

theorem encode_cancel : UsbBridge.Frame.encode (.ofPayload .cancelRequest) =
    .ok (Payload.frame .cancelRequest) := by
  have small : ¬limit < (Message.ofPayload .cancelRequest).encode.length := by decide +kernel
  rw [Frame.encode_eq, if_neg small, Payload.frame]

/-- A call that cancels is these moves, where one send call takes all. -/
theorem cancel_sends (f : Feed α) (results : List NextEvent) {l : Link α}
    (hears : l.outgoing.receiving = true) :
    (feed f [] results).step l .cancel = (.feed f [canceller] results, l) ∧
      send f results canceller [] l (Payload.frame .cancelRequest).length =
        (.feed f [] results, (Feed.cancel l).2) := by
  have more : Payload.frame .cancelRequest ≠ [] := List.cons_ne_nil _ _
  constructor
  · simp [step, Sender.ofMessage, encode_cancel, canceller]
  · simp [send, canceller, Sender.step, Channel.send, hears, more, Sender.isDone, Feed.cancel,
      Link.sendMessage, Channel.sendMessage, encode_cancel, Channel.sendBytes]

end Subscriber

-- ---------------------------------------------------------------------------
-- Where an exchange stands
-- ---------------------------------------------------------------------------

namespace State

def roster (s : State α) : List Nat :=
  s.returned.map (·.1) ++ (s.running.map (·.1)).toList ++ s.waiting.map (·.1)

section
variable {s : State α} {l : Link α} {m : Move}

theorem roster_fail {caller : Nat} {e : BridgeError} {phase : Phase α}
    (run : s.running = some (caller, phase)) : (s.fail caller e).roster = s.roster := by
  simp [roster, fail, run]

theorem roster_step (own : m.isExchange) : (s.step l m).1.roster = s.roster := by
  cases m with
  | call | abandon => cases own
  | begin =>
    have begins := begin_begins s
    rw [step]
    generalize s.begin = t at begins
    cases begins with
    | idle => rfl
    | refused free out line => simp [roster, fail, free, line]
    | tooLarge free inStep starts line => simp [roster, fail, free, line]
    | begun free inStep starts line => simp [roster, free, line]
  | send acceptance =>
    rw [step, send]
    split
    · rename_i caller sender run
      split
      · exact roster_fail run
      · simp [roster, run]
    · rfl
  | receive most =>
    cases run : s.running with
    | none => simp [step, receive, run]
    | some exchange =>
      obtain ⟨caller, phase⟩ := exchange
      cases phase with
      | sending sender => simp [step, receive, run]
      | receiving r =>
        rw [step, receive_eq run]
        cases r.step? most l.incoming with
        | none => rfl
        | some p =>
          obtain ⟨progress, incoming⟩ := p
          cases progress with
          | reading r => simp [settle, roster, run]
          | done outcome closed => cases outcome <;> simp [settle, roster, fail, answer_eq, run]
  | interrupt e =>
    rw [step, interrupt]
    split
    · rename_i run
      exact roster_fail run
    · rfl
  | expire =>
    rw [step, expire]
    split
    · rename_i run
      exact roster_fail run
    · rfl

end

/-- Where an exchange is: the bytes of the request that are left to send, and those of the response
that were received. -/
inductive Standing (s : State α) : List UInt8 → List UInt8 → Prop
  | idle (free : s.running = none) (inStep : s.outOfStep = false) : Standing s [] []
  | sending {caller left} (run : s.running = some (caller, .sending ⟨left, []⟩))
      (out : s.outOfStep = true) (more : left ≠ []) : Standing s left []
  | receiving {caller r part} (run : s.running = some (caller, .receiving r))
      (out : s.outOfStep = true) (reading : Reading r part) : Standing s [] part

/-- An exchange has ended without a response, so that there will be no other. -/
structure Spoilt (s : State α) : Prop where
  free : s.running = none
  out : s.outOfStep = true

/-- What a move brings an exchange to, on a connection on which these payloads were received of what
was written. -/
inductive Goes (s : State α) (l : Link α) (unsent : List UInt8) (written : List UInt8)
    (got : List Payload) (part : List UInt8) : State α × Link α → Prop
  | rests : Goes s l unsent written got part (s, l)
  | begins {t caller request} (quiet : unsent = [] ∧ part = [])
      (standing : Standing t request.frame []) (line : s.waiting = (caller, request) :: t.waiting)
      (returned : t.returned = s.returned)
      (small : (Message.ofPayload request).encode.length ≤ limit) :
      Goes s l unsent written got part (t, l)
  | sends {t sent rest} (parts : unsent = sent ++ rest) (nonempty : sent ≠ [])
      (standing : Standing t rest part) (line : t.waiting = s.waiting)
      (returned : t.returned = s.returned) : Goes s l unsent written got part
        (t, { l with outgoing.chunks := l.outgoing.chunks ++ [⟨sent, []⟩] })
  | reads {t bytes left} (standing : Standing t unsent (part ++ bytes))
      (heard : Heard written { l.incoming with chunks := left } got (part ++ bytes))
      (line : t.waiting = s.waiting) (returned : t.returned = s.returned) :
      Goes s l unsent written got part (t, { l with incoming.chunks := left })
  | answers {t caller p rights left} (quiet : unsent = []) (standing : Standing t [] [])
      (next : got ++ [p] <+: Daemon.said written)
      (heard : Heard written { l.incoming with chunks := left } (got ++ [p]) [])
      (line : t.waiting = s.waiting)
      (returned : t.returned = s.returned ++ [(caller, reply p rights)]) :
      Goes s l unsent written got part (t, { l with incoming.chunks := left })
  | fails {t link caller e} (spoilt : Spoilt t)
      (returned : t.returned = s.returned ++ [(caller, .error e)]) :
      Goes s l unsent written got part (t, link)

section
variable {s : State α} {l : Link α} {m : Move} {unsent part written : List UInt8}
variable {got : List Payload} {caller : Nat}

theorem Standing.congr {t : State α} (h : s.Standing unsent part) (running : t.running = s.running)
    (out : t.outOfStep = s.outOfStep) : t.Standing unsent part := by
  cases h with
  | idle free inStep => exact .idle (running.trans free) (out.trans inStep)
  | sending run outOf more => exact .sending (running.trans run) (out.trans outOf) more
  | receiving run outOf reading => exact .receiving (running.trans run) (out.trans outOf) reading

theorem Spoilt.fail (out : s.outOfStep = true) (caller : Nat) (e : BridgeError) :
    Spoilt (s.fail caller e) := ⟨rfl, out⟩

theorem Goes.fail (out : s.outOfStep = true) (link : Link α) (caller : Nat) (e : BridgeError) :
    Goes s l unsent written got part (s.fail caller e, link) :=
  .fails (.fail out caller e) rfl

theorem receive_goes {r : Receiver α} (run : s.running = some (caller, .receiving r))
    (out : s.outOfStep = true) (reading : Reading r part)
    (heard : Heard written l.incoming got part) (framed : Framed written) (most : Nat) :
    Goes s l [] written got part (s.receive l most) := by
  have hears := heard.receive framed reading most
  rw [receive_eq run]
  generalize r.step? most l.incoming = result at hears
  cases hears with
  | blocked => exact .rests
  | reading further now => exact .reads (.receiving rfl out further) now rfl rfl
  | message next now => exact .answers rfl (.idle rfl rfl) next now rfl rfl

theorem Standing.send (standing : Standing s unsent part) (acceptance : Acceptance) :
    Goes s l unsent written got part (s.send l acceptance) := by
  cases standing with
  | idle free | receiving run =>
    simp only [State.send, *]
    exact .rests
  | sending run out more =>
    have sends := send_sends (l := l) run more acceptance
    generalize s.send l acceptance = t at sends
    cases sends with
    | waits => exact .rests
    | fails => exact .fail out _ _ _
    | @sent bytes rest parts nonempty =>
      refine .sends parts nonempty ?_ rfl rfl
      cases rest with
      | nil => exact .receiving rfl out Receiver.reading_start
      | cons b rest => exact .sending rfl out (List.cons_ne_nil b rest)

theorem Standing.begin (standing : Standing s unsent part) :
    Goes s l unsent written got part (s.begin, l) := by
  have begins := begin_begins s
  generalize s.begin = t at begins
  have quiet (free : s.running = none) : unsent = [] ∧ part = [] := by
    cases standing with
    | idle => exact ⟨rfl, rfl⟩
    | sending run | receiving run => simp [free] at run
  cases begins with
  | idle => exact .rests
  | refused free out line =>
    cases standing with
    | idle free inStep => simp [out] at inStep
    | sending run | receiving run => simp [free] at run
  | tooLarge free inStep starts line => exact .fails (.fail rfl _ _) rfl
  | begun free inStep starts line small =>
    exact .begins (quiet free) (.sending rfl rfl (List.cons_ne_nil _ _)) line rfl small

theorem Standing.step (standing : Standing s unsent part)
    (heard : Heard written l.incoming got part) (framed : Framed written) (own : m.isExchange) :
    Goes s l unsent written got part (s.step l m) := by
  cases m with
  | call | abandon => cases own
  | begin => exact standing.begin
  | send acceptance => exact standing.send acceptance
  | receive most =>
    cases standing with
    | idle free =>
      simp only [State.step, State.receive, free]
      exact .rests
    | sending run =>
      simp only [State.step, State.receive, run]
      exact .rests
    | receiving run out reading => exact receive_goes run out reading heard framed most
  | interrupt e =>
    cases standing with
    | idle free =>
      simp only [State.step, interrupt, free]
      exact .rests
    | sending run =>
      simp only [State.step, interrupt, run]
      exact .rests
    | receiving run out =>
      simp only [State.step, interrupt, run]
      exact .fail out _ _ _
  | expire =>
    cases standing with
    | idle free =>
      simp only [State.step, expire, free]
      exact .rests
    | sending run out | receiving run out =>
      simp only [State.step, expire, run]
      exact .fail out _ _ _

theorem Spoilt.step (spoilt : Spoilt s) (l : Link α) (m : Move) :
    Spoilt (s.step l m).1 ∧
      ∀ x ∈ (s.step l m).1.returned, x ∈ s.returned ∨ ∃ e, x.2 = .error e := by
  obtain ⟨free, out⟩ := spoilt
  cases m with
  | call => exact ⟨⟨free, out⟩, fun x hx => .inl hx⟩
  | send | receive | interrupt | expire =>
    simp only [State.step, State.send, receive, interrupt, expire, free]
    exact ⟨⟨free, out⟩, fun x hx => .inl hx⟩
  | abandon => exact ⟨⟨by simp [State.step, abandon, free], out⟩, fun x hx => .inl hx⟩
  | begin =>
    have begins := begin_begins s
    rw [State.step]
    generalize s.begin = t at begins
    cases begins with
    | idle => exact ⟨⟨free, out⟩, fun x hx => .inl hx⟩
    | refused =>
      refine ⟨⟨rfl, out⟩, fun x hx => (List.mem_append.mp hx).imp_right fun hx => ?_⟩
      exact ⟨.connectionClosed, by rw [List.mem_singleton.mp hx]⟩
    | tooLarge _ inStep | begun _ inStep => simp [out] at inStep

end

end State

end Client

end UsbBridge
