import UsbBridge.Proofs.Daemon.Answers

/-!
# All requests are answered

Every move that reader and handler have left to make takes something away from a measure of what
they have to do (`Connection.load`), so their moves lead to a connection on which nothing is left to
do (`drains`). On such a connection every message before the first bad frame has its reply
(`requests_answered`).
-/

namespace UsbBridge.Daemon

open Socket
open UsbBridge.Frame (limit)

-- ---------------------------------------------------------------------------
-- What is left to do
-- ---------------------------------------------------------------------------

def Reading.load : Reading → Nat
  | .frame _ => 1
  | .waiting _ => 4
  | .stopped => 0

def Handler.load : Handler → Nat
  | .idle => 1
  | .opening .. => 2
  | .stopped => 0

/-- A byte may complete a request, which goes into the queue and may become an opening. -/
def Connection.load (conn : Connection) : Nat :=
  4 * conn.link.incoming.bytes.length + conn.reading.load + 2 * conn.requests.length +
    conn.handler.load

/-- The moves of a connection's reader and handler that go as they should: receive calls ask for
something, and sends are not broken off. -/
def Move.isOwn {σ : Type} (c : Nat) : Move σ → Bool
  | .read d most => d = c && 0 < most
  | .enqueue d | .serve d .whole | .conclude d .whole | .expire d .whole => d = c
  | _ => false

theorem Reading.load_after (progress : Receiver.Progress Passed) :
    (Reading.after progress).load ≤ 4 := by
  cases progress with
  | reading => simp [Reading.after, Reading.load]
  | done outcome closed => cases outcome <;> simp [Reading.after, Reading.load]

@[simp] theorem load_stop (conn : Connection) : conn.stop.load = 0 := rfl

@[simp] theorem quiet_stop (conn : Connection) : conn.stop.isQuiet = true := rfl

section
variable {conn : Connection} {r : Receiver Passed} {taken : List UInt8} {new : List Message}
variable {p : Option Payload} {requests : List Request} {handler : Handler}

/-- Taking a request or replying about an opening makes the handler's work less. -/
theorem Works.load_lt (w : Works conn new p requests handler)
    (busy : new ≠ [] ∨ conn.handler.isOpening) :
    2 * requests.length + handler.load < 2 * conn.requests.length + conn.handler.load := by
  cases w with
  | serves idle next reacts =>
    have small : handler.load ≤ 2 := by cases handler <;> simp [Handler.load]
    have one : Handler.idle.load = 1 := rfl
    rw [next, idle, List.length_cons]
    omega
  | concludes opening named =>
    rw [opening]
    exact Nat.add_lt_add_left (Nat.lt_succ_self 1) _
  | forwards idle stream => simp [idle, Handler.isOpening] at busy

theorem taken_load_lt {bytes left : List UInt8} {delivery : Delivery Passed}
    {incoming : Channel Passed}
    (frame : conn.reading = .frame r) (all : conn.link.incoming.bytes = bytes ++ left)
    (progress : bytes ≠ []) (rest : incoming.bytes = left)
    (got : conn.link.incoming.receive (min r.wanted r.wanted) = (.ready delivery, incoming)) :
    (conn.read r.wanted).load < conn.load := by
  have := Reading.load_after (r.accept delivery)
  have := List.length_pos_iff.mpr progress
  have one : (Reading.frame r).load = 1 := rfl
  simp only [read_ready frame got, Connection.load, Connection.setIncoming, rest, all, frame,
    List.length_append]
  omega

theorem read_load_lt (frame : conn.reading = .frame r) (at_ : r.Reading taken)
    (solid : Solid conn.link.incoming.chunks) (can : conn.canRead) :
    (conn.read r.wanted).load < conn.load := by
  have received := receive_receives conn.link.incoming (min r.wanted r.wanted) solid
  have room : 0 < min r.wanted r.wanted := by
    have := at_.wanted_pos
    omega
  generalize got : conn.link.incoming.receive (min r.wanted r.wanted) = result at received
  cases received with
  | blocked empty going => simp [Connection.canRead, frame, empty, going] at can
  | data g => exact taken_load_lt frame g.allBytes (g.progress room) rfl got
  | overflow g many => exact taken_load_lt frame g.allBytes (g.progress room) rfl got
  | ended empty shut =>
    have ended : Reading.after (r.accept .endOfFile) = .stopped := by
      rw [Receiver.accept_end at_]
      split <;> rfl
    simp only [read_ready frame got, ended, Connection.load, Connection.setIncoming, frame,
      Reading.load]
    omega

theorem enqueue_load_lt {request : Request} (waiting : conn.reading = .waiting request)
    (can : conn.canRead) : conn.enqueue.load < conn.load := by
  have room : conn.requests.length < Connection.queueDepth := by
    simpa [Connection.canRead, waiting] using can
  simp only [Connection.enqueue, waiting, room, if_true, Connection.load, Reading.load,
    List.length_append, List.length_singleton]
  omega

end

section
variable {σ : Type} (ops : Host σ) {s : State σ} {c : Nat} {conn : Connection} {h : History}

theorem handled_load_lt {new : List Message} {sending : Sending} {t : State σ}
    (work : Handled s c conn sending new t) (busy : new ≠ [] ∨ conn.handler.isOpening) :
    ∃ next, t.connections[c]? = some next ∧ next.load < conn.load := by
  cases work with
  | done rights w attends small light only self =>
    have := w.load_lt busy
    refine ⟨_, self, ?_⟩
    simp only [Connection.load, told_incoming]
    omega
  | failed q w attends cause only self =>
    refine ⟨_, self, ?_⟩
    have : 0 < conn.handler.load := by cases w <;> simp_all [Handler.load]
    rw [load_stop, Connection.load]
    omega

/-- On a connection that is not quiet, reader or handler has something to do. -/
theorem busy_step (v : Serving conn h) (hc : s.connections[c]? = some conn)
    (busy : conn.isQuiet = false) : ∃ m : Move σ, m.isOwn c ∧
      ∃ next, (s.step ops m).connections[c]? = some next ∧ next.load < conn.load := by
  by_cases opening : conn.handler.isOpening
  · refine ⟨.expire c .whole, by simp [Move.isOwn], ?_⟩
    cases hhandler : conn.handler with
    | opening id task =>
      exact handled_load_lt (expire_handled hc hhandler .whole) (.inr opening)
    | idle | stopped => simp [hhandler, Handler.isOpening] at opening
  by_cases serves : conn.canServe
  · refine ⟨.serve c .whole, by simp [Move.isOwn], ?_⟩
    obtain ⟨request, later, idle, next, work⟩ | ⟨-, ⟨cannot, -⟩ | ⟨idle, -, -, returns⟩⟩ :=
      serve_cases ops hc .whole
    · exact handled_load_lt work (.inl (List.cons_ne_nil _ _))
    · exact absurd serves (by simp [cannot])
    · have one : Handler.idle.load = 1 := rfl
      refine ⟨conn.stop, by rw [State.step, returns, stop_self hc], ?_⟩
      rw [load_stop, Connection.load, idle]
      omega
  have reads : conn.canRead := by
    simpa [Connection.isQuiet, opening, serves] using busy
  cases hreading : conn.reading with
  | stopped => simp [Connection.canRead, hreading] at reads
  | waiting request =>
    refine ⟨.enqueue c, by simp [Move.isOwn], conn.enqueue, ?_, enqueue_load_lt hreading reads⟩
    simp [State.step, State.modify, hc]
  | frame r =>
    have intake := v.intake
    rw [hreading] at intake
    cases intake with
    | frame at_ all so =>
      refine ⟨.read c r.wanted, by simp [Move.isOwn, at_.wanted_pos], conn.read r.wanted, ?_,
        read_load_lt hreading at_ v.solid reads⟩
      simp [State.step, State.modify, hc]

/-- The moves of reader and handler lead to a quiet connection. -/
theorem drains (v : Serving conn h) (hc : s.connections[c]? = some conn) :
    ∃ later : List (Move σ), (∀ m ∈ later, m.isOwn c) ∧
      ∃ next, (Run.last (State.step ops) s later).connections[c]? = some next ∧ next.isQuiet := by
  -- On the load: there is a move that makes it less, unless that move ends the handler.
  generalize hload : conn.load = load
  induction load using Nat.strongRecOn generalizing s conn h with
  | ind load ih =>
    cases quiet : conn.isQuiet with
    | true => exact ⟨[], nofun, conn, hc, quiet⟩
    | false =>
      obtain ⟨m, own, next, hnext, less⟩ := busy_step ops v hc quiet
      obtain ⟨next', hnext', step⟩ := steps ops hc m
      obtain rfl : next' = next := Option.some.inj (hnext'.symm.trans hnext)
      obtain ⟨rs, goes⟩ | fails := step
      · obtain ⟨later, hlater, last⟩ := ih _ (hload ▸ less) (v.turn goes.turn) hnext rfl
        exact ⟨m :: later, List.forall_mem_cons.mpr ⟨own, hlater⟩, by rwa [Run.last_cons]⟩
      · obtain ⟨q, rfl⟩ := fails.ended
        exact ⟨[m], List.forall_mem_singleton.mpr own, _, hnext, quiet_stop q⟩

-- ---------------------------------------------------------------------------
-- Answers to everything
-- ---------------------------------------------------------------------------

def said (written : List UInt8) : List Payload := (understood written).map (·.payload)

theorem decode_payload {p : Payload} (small : (Message.ofPayload p).encode.length ≤ limit) :
    Message.decode (Message.ofPayload p).encode = .ok (Message.ofPayload p) :=
  Message.decode_of_small small

theorem understood_append {payloads : List Payload}
    (small : ∀ p ∈ payloads, (Message.ofPayload p).encode.length ≤ limit) (rest : List UInt8) :
    understood (payloads.flatMap Payload.frame ++ rest) =
      payloads.map Message.ofPayload ++ understood rest := by
  induction payloads with
  | nil => rfl
  | cons p later ih =>
    obtain ⟨hp, hlater⟩ := List.forall_mem_cons.mp small
    rw [List.flatMap_cons, Payload.frame, List.append_assoc, understood_wrap hp, decode_payload hp,
      ih hlater, List.map_cons, List.cons_append]

theorem understood_frames {payloads : List Payload}
    (small : ∀ p ∈ payloads, (Message.ofPayload p).encode.length ≤ limit) :
    understood (payloads.flatMap Payload.frame) = payloads.map Message.ofPayload := by
  simpa using understood_append small []

theorem said_append {payloads : List Payload}
    (small : ∀ p ∈ payloads, (Message.ofPayload p).encode.length ≤ limit) (rest : List UInt8) :
    said (payloads.flatMap Payload.frame ++ rest) = payloads ++ said rest := by
  rw [said, understood_append small]
  simp [said, Message.ofPayload, Function.comp_def]

theorem said_frames {payloads : List Payload}
    (small : ∀ p ∈ payloads, (Message.ofPayload p).encode.length ≤ limit) :
    said (payloads.flatMap Payload.frame) = payloads := by
  simpa [said] using said_append small []

/-- What is known of a connection whose sends have succeeded so far. -/
structure Answering (s : State σ) (c : Nat) (conn : Connection) (h : History) : Prop where
  /-- What is written is whole frames. -/
  whole : h.written = (said h.written).flatMap Payload.frame
  heard : h.heard <+: h.sent
  /-- The handler takes the messages before the first bad frame, in the order they came in. -/
  inOrder : h.taken <+: understood h.heard
  /-- The replies are one to each of them, in that order; to an opening under way it is to come. -/
  replied : Accounted conn.handler h.taken (said h.written)
  /-- When nothing is left to do, all messages before the first bad frame have their reply. -/
  complete : conn.isQuiet →
    List.Forall₂ Answers (due (understood h.heard)) (answering (said h.written)) ∧
      (¬h.Overflowed → understood h.heard = understood h.sent)
  /-- Reader and handler only have to go on for that. -/
  drains : ∃ later : List (Move σ), (∀ m ∈ later, m.isOwn c) ∧
    ∃ next, (Run.last (State.step ops) s later).connections[c]? = some next ∧ next.isQuiet

theorem Serving.answering (v : Serving conn h) (hc : s.connections[c]? = some conn) :
    Answering ops s c conn h := by
  obtain ⟨payloads, hwritten, small, accounted⟩ := v.written
  have hsaid : said h.written = payloads := by rw [hwritten, said_frames small]
  refine
    { whole := by rw [hsaid, hwritten]
      heard := v.intake.part
      inOrder := (List.prefix_append _ _).trans v.intake.read_prefix
      replied := hsaid ▸ accounted
      complete := fun quiet => ?_
      drains := drains ops v hc }
  obtain ⟨all, same⟩ := v.quiet quiet
  obtain ⟨answered, owed, hdue, owes, paired⟩ := accounted
  have free : conn.handler.isOpening = false := by
    simp only [Connection.isQuiet, Bool.and_eq_true, Bool.not_eq_true'] at quiet
    exact quiet.2
  rw [owes.eq_nil free, List.append_nil, all] at hdue
  refine ⟨?_, fun fits => all.symm.trans (same fits)⟩
  rw [hsaid, hdue]
  exact paired

/-- Every message before the first bad frame is answered, once and in the order the messages came
in, whatever is sent in between. -/
theorem requests_answered (manager : Manager σ) (c : Nat) (moves : List (Move σ))
    (sends : ∀ p ∈ Run.record (State.step ops) (State.start manager) moves,
      ¬GivesUp ops c p.1 p.2)
    (hc : (Run.last (State.step ops) (State.start manager) moves).connections[c]? = some conn) :
    Answering ops (Run.last (State.step ops) (State.start manager) moves) c conn
      (history ops c (Run.record (State.step ops) (State.start manager) moves)) :=
  ((tracked_run ops manager c moves sends).serving conn hc).answering ops hc

end

def bareHost : Host Unit where
  devices _ := .ok []
  permits _ _ := .ok true
  beginOpen h _ := (.ok (), h)
  isHeld _ := false
  finishOpen h _ _ := (.ok 3, h)

def bareStart : State Unit := .start (.start () .allowAll true ⟨0⟩ (.ok ()))

/-- A consumer sends three frames at once, the last of them bad, and no more. -/
def pipelined : List (Move Unit) :=
  let frames := Frame.wrap [1, 0, 0, 0] ++ Frame.wrap [1, 0, 0, 6] ++ Frame.wrap [1, 0, 0, 255]
  [.accept, .consumer 0 (.send frames []), .consumer 0 .finish, .read 0 64, .read 0 64, .enqueue 0,
    .read 0 3, .serve 0 .whole, .read 0 64, .read 0 64, .enqueue 0, .read 0 64, .serve 0 .whole,
    .relay, .read 0 64, .serve 0 .whole]

theorem pipelined_answered :
    (∀ p ∈ Run.record (State.step bareHost) bareStart pipelined, ¬GivesUp bareHost 0 p.1 p.2) ∧
    ∃ conn, (Run.last (State.step bareHost) bareStart pipelined).connections[0]? = some conn ∧
      conn.isQuiet ∧
      Answering bareHost (Run.last (State.step bareHost) bareStart pipelined) 0 conn
        (history bareHost 0 (Run.record (State.step bareHost) bareStart pipelined)) ∧
      (history bareHost 0 (Run.record (State.step bareHost) bareStart pipelined)).written =
        Payload.frame (.listDevicesResponse (.ok [])) ++ Payload.frame .subscribed := by
  have sends : ∀ p ∈ Run.record (State.step bareHost) bareStart pipelined,
      ¬GivesUp bareHost 0 p.1 p.2 := by decide +kernel
  have there : (Run.last (State.step bareHost) bareStart pipelined).connections[0]?.any
      (·.isQuiet) = true := by decide +kernel
  obtain ⟨conn, hc, quiet⟩ := (Option.any_eq_true _ _).mp there
  exact ⟨sends, conn, hc, quiet, requests_answered bareHost _ 0 pipelined sends hc,
    by decide +kernel⟩

end UsbBridge.Daemon
