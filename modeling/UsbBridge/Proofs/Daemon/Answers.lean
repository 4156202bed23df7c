import Mathlib.Data.List.Forall2
import UsbBridge.Proofs.Daemon.Intake
import UsbBridge.Proofs.Run
import UsbBridge.Proofs.Wire.Sizes

/-!
# Requests are answered in order

Whatever the reader, the handler, the relay and the openings do in between, the replies on a
connection are one for each message that its handler took, in that order (`Accounted`), and the
handler takes what the reader understood of the input, in that order (`Serving`). Each turn of a
connection keeps both (`Serving.turn`).
-/

namespace UsbBridge.Daemon

open Socket
open UsbBridge.Frame (limit)

-- ---------------------------------------------------------------------------
-- Accounts
-- ---------------------------------------------------------------------------

/-- The messages that a handler has taken and not yet replied to: the request for the opening that
it waits for. -/
inductive Owes : Handler → List Message → Prop
  | idle : Owes .idle []
  | opening {m : Message} {id task} (same : m.version.validate = .ok ())
      (asks : m.payload = .openRequest id) : Owes (.opening id task) [m]
  | stopped : Owes .stopped []

def due (taken : List Message) : List Message := taken.filter (!·.isCancel)

def answering (payloads : List Payload) : List Payload := payloads.filter (!·.isStream)

/-- What was written is whole frames, and the replies among them belong to the messages that were
taken, one after the other. -/
def Accounted (handler : Handler) (taken : List Message) (payloads : List Payload) : Prop :=
  ∃ answered owed, due taken = answered ++ owed ∧ Owes handler owed ∧
    List.Forall₂ Answers answered (answering payloads)

section
variable {m : Message} {p : Payload} {q : Option Payload} {conn : Connection} {handler : Handler}
variable {taken new : List Message} {payloads : List Payload} {requests : List Request}

theorem Answers.isStream (h : Answers m p) : p.isStream = false := by cases h <;> rfl

theorem Answers.isCancel (h : Answers m p) : m.isCancel = false := by
  cases h with
  | refused other => simp [Message.isCancel, other]
  | listed same asks | permission same asks | opened same asks | subscribed same asks =>
    simp [Message.isCancel, same, asks]
  | unexpected same other =>
    unfold Message.isCancel
    split
    · rename_i asks
      rw [asks] at other
      cases other
    · rfl

theorem isCancel_of_open {id : Identity} (asks : m.payload = .openRequest id) :
    m.isCancel = false := by
  simp [Message.isCancel, asks]

@[simp] theorem due_append (xs ys : List Message) : due (xs ++ ys) = due xs ++ due ys :=
  List.filter_append _ _

@[simp] theorem answering_append (xs ys : List Payload) :
    answering (xs ++ ys) = answering xs ++ answering ys :=
  List.filter_append _ _

theorem due_one (h : m.isCancel = false) : due [m] = [m] := by simp [due, h]

theorem due_cancel (h : m.isCancel) : due [m] = [] := by simp [due, h]

theorem answering_one (h : p.isStream = false) : answering [p] = [p] := by simp [answering, h]

theorem answering_stream (h : p.isStream) : answering [p] = [] := by simp [answering, h]

theorem Accounted.stopped (a : Accounted .idle taken payloads) :
    Accounted .stopped taken payloads := by
  obtain ⟨answered, owed, hdue, owes, paired⟩ := a
  cases owes
  exact ⟨answered, [], hdue, .stopped, paired⟩

theorem accounted_start : Accounted .idle [] [] := ⟨[], [], rfl, .idle, .nil⟩

theorem Works.running (w : Works conn new q requests handler) : handler ≠ .stopped := by
  cases w with
  | serves idle next reacts => cases reacts <;> nofun
  | concludes | forwards => nofun

theorem Works.queue (w : Works conn new q requests handler) :
    new ++ requests.map (·.message) = conn.requests.map (·.message) := by
  cases w with
  | serves idle next reacts => rw [next, List.map_cons, List.singleton_append]
  | concludes | forwards => rfl

theorem told_incoming (l : Link Passed) (q : Option Payload) (rights : List Passed) :
    (told l q rights).incoming = l.incoming := by
  cases q <;> rfl

/-- Whatever a handler does, the account stays in order. -/
theorem Accounted.works (a : Accounted conn.handler taken payloads)
    (w : Works conn new q requests handler) :
    Accounted handler (taken ++ new) (payloads ++ q.toList) := by
  obtain ⟨answered, owed, hdue, owes, paired⟩ := a
  cases w with
  | @serves request later q handler idle next reacts =>
    -- An idle handler owes nothing: what it replies now belongs to what it takes now.
    rw [idle] at owes
    cases owes
    rw [List.append_nil] at hdue
    cases reacts with
    | answers h =>
      refine ⟨answered ++ [request.message], [], ?_, .idle, ?_⟩
      · rw [due_append, hdue, due_one h.isCancel, List.append_nil]
      · rw [Option.toList_some, answering_append, answering_one h.isStream]
        exact List.rel_append paired (.cons h .nil)
    | opens same asks =>
      refine ⟨answered, [request.message], ?_, .opening same asks, by simpa using paired⟩
      rw [due_append, hdue, due_one (isCancel_of_open asks)]
    | cancels cancel =>
      refine ⟨answered, [], ?_, .idle, by simpa using paired⟩
      rw [due_append, hdue, due_cancel cancel]
    | ended cancel =>
      refine ⟨answered, [], ?_, .idle, ?_⟩
      · rw [due_append, hdue, due_cancel cancel]
      · rw [Option.toList_some, answering_append, answering_stream rfl, List.append_nil]
        exact paired
  | @concludes id task result opening named =>
    -- All that it owes is the reply about this opening.
    rw [opening] at owes
    cases owes with
    | @opening m id task same asks =>
      refine ⟨answered ++ [m], [], ?_, .idle, ?_⟩
      · rw [List.append_nil, hdue, List.append_nil]
      · rw [Option.toList_some, answering_append, answering_one rfl]
        exact List.rel_append paired (.cons (.opened same asks named) .nil)
  | @forwards p idle stream =>
    rw [idle] at owes
    cases owes
    refine ⟨answered, [], ?_, .idle, ?_⟩
    · rw [List.append_nil, hdue]
    · rw [Option.toList_some, answering_append, answering_stream stream, List.append_nil]
      exact paired

end

-- ---------------------------------------------------------------------------
-- Turns
-- ---------------------------------------------------------------------------

structure Serving (conn : Connection) (h : History) : Prop where
  solid : Solid conn.link.incoming.chunks
  /-- What was read is what the handler has taken and what waits for it in the queue. -/
  intake : Intake conn.link.incoming h (h.taken ++ conn.requests.map (·.message)) conn.reading
  ended : conn.handler = .stopped → conn.reading = .stopped ∧ conn.requests = []
  written : ∃ payloads, h.written = payloads.flatMap Payload.frame ∧
    (∀ p ∈ payloads, (Message.ofPayload p).encode.length ≤ limit) ∧
    Accounted conn.handler h.taken payloads

section
variable {conn next : Connection} {h x : History}

theorem serving_fresh : Serving .fresh ⟨[], [], [], []⟩ where
  solid := solid_nil
  intake := .frame Receiver.reading_start rfl fun _ => rfl
  ended := nofun
  written := ⟨[], rfl, nofun, accounted_start⟩

theorem Serving.turn (v : Serving conn h) {relay : Relay.State} {rs : List Relay.Move}
    (t : Turn relay conn x rs next) : Serving next (h ++ x) := by
  cases t with
  | rests =>
    rw [History.append_nil]
    exact v
  | @hears bytes rights going nonempty =>
    refine ⟨?_, ?_, v.ended, ?_⟩
    · exact solid_append.mpr ⟨v.solid, solid_cons.mpr ⟨nonempty, solid_nil⟩⟩
    · simpa [Connection.setIncoming] using v.intake.hears going bytes rights
    · simpa [Connection.setIncoming] using v.written
  | far same shut =>
    refine ⟨same ▸ v.solid, ?_, v.ended, ?_⟩
    · rw [History.append_nil]
      simpa using v.intake.far same shut (x := ⟨[], [], [], []⟩) rfl rfl
    · rw [History.append_nil]
      exact v.written
  | @reads r most delivery incoming frame got =>
    have intake := v.intake
    rw [frame] at intake
    have hreceives := receive_receives conn.link.incoming (min most r.wanted) v.solid
    rw [got] at hreceives
    refine ⟨?_, ?_, fun ended => ?_, ?_⟩
    · cases hreceives with
      | ended empty shut => exact v.solid
      | data g => exact g.solid
      | overflow g many => exact g.solid
    · simpa [Connection.setIncoming] using intake.reads v.solid got
    · have := (v.ended ended).1
      rw [frame] at this
      cases this
    · simpa [Connection.setIncoming] using v.written
  | @enqueues request waiting =>
    have intake := v.intake
    rw [waiting] at intake
    rw [History.append_nil]
    refine ⟨v.solid, ?_, fun ended => ?_, v.written⟩
    · simpa using intake.enqueues
    · have := (v.ended ended).1
      rw [waiting] at this
      cases this
  | @works new p requests handler subscription rs rights w attends small =>
    obtain ⟨payloads, hwritten, hsmall, accounted⟩ := v.written
    refine ⟨?_, ?_, fun ended => absurd ended w.running, payloads ++ p.toList, ?_, ?_, ?_⟩
    · rw [told_incoming]
      exact v.solid
    · rw [told_incoming, History.taken_append, List.append_assoc, w.queue]
      exact v.intake.far rfl id rfl rfl
    · rw [History.written_append, hwritten, List.flatMap_append]
    · refine List.forall_mem_append.mpr ⟨hsmall, fun q hq => small q ?_⟩
      simpa using hq
    · exact accounted.works w
  | returns idle none ended =>
    obtain ⟨payloads, hwritten, hsmall, accounted⟩ := v.written
    have intake := v.intake
    rw [ended, none] at intake
    rw [idle] at accounted
    rw [History.append_nil]
    refine ⟨solid_nil, ?_, fun _ => ⟨rfl, rfl⟩, payloads, hwritten, hsmall, accounted.stopped⟩
    simpa [Connection.stop, Link.close] using intake.stops ⟨[], [], [], []⟩ rfl rfl

end

-- ---------------------------------------------------------------------------
-- Runs
-- ---------------------------------------------------------------------------

def Handler.isOpening : Handler → Bool
  | .opening .. => true
  | _ => false

/-- Whether reader and handler have nothing to do until the consumer does something. -/
def Connection.isQuiet (conn : Connection) : Bool :=
  !conn.canRead && !conn.canServe && !conn.handler.isOpening

theorem Owes.eq_nil {handler : Handler} {owed : List Message} (o : Owes handler owed)
    (free : handler.isOpening = false) : owed = [] := by
  cases o with
  | idle | stopped => rfl
  | opening same asks => simp [Handler.isOpening] at free

/-- When nothing is left to do, all that was understood has been taken. -/
theorem Serving.quiet {conn : Connection} {h : History} (v : Serving conn h)
    (quiet : conn.isQuiet) :
    h.taken = understood h.heard ∧ (¬h.Overflowed → h.taken = understood h.sent) := by
  simp only [Connection.isQuiet, Bool.and_eq_true, Bool.not_eq_true'] at quiet
  obtain ⟨⟨still, idle⟩, free⟩ := quiet
  have intake := v.intake
  cases hhandler : conn.handler with
  | opening id task => simp [hhandler, Handler.isOpening] at free
  | stopped =>
    obtain ⟨ended, none⟩ := v.ended hhandler
    rw [ended, none, List.map_nil, List.append_nil] at intake
    cases intake with
    | stopped part so final =>
      refine ⟨so.symm, fun fits => ?_⟩
      obtain bad | ⟨all, -⟩ | lost := final
      · obtain ⟨more, hmore⟩ := part
        rw [← hmore, bad]
      · rw [all, so]
      · exact absurd lost fits
  | idle =>
    -- The queue is empty, and the reader waits for bytes.
    cases hreading : conn.reading with
    | stopped => simp [Connection.canServe, hhandler, hreading] at idle
    | waiting request =>
      have none : conn.requests = [] := by
        simpa [Connection.canServe, hhandler, hreading] using idle
      simp [Connection.canRead, hreading, none, Connection.queueDepth] at still
    | frame r =>
      have none : conn.requests = [] := by
        simpa [Connection.canServe, hhandler, hreading] using idle
      have empty : conn.link.incoming.chunks = [] := by
        simp only [Connection.canRead, hreading, Bool.or_eq_false_iff, Bool.not_eq_false'] at still
        exact List.isEmpty_iff.mp still.1
      rw [hreading, none, List.map_nil, List.append_nil] at intake
      cases intake with
      | frame at_ all so =>
        obtain ⟨n, short⟩ := at_.front
        have taken : h.taken = understood h.heard := by
          simpa [understood_short short] using (so []).symm
        refine ⟨taken, fun _ => ?_⟩
        rw [all, bytes_eq, empty, bytesOf_nil, List.append_nil, taken]

section
variable {σ : Type} (ops : Host σ) {s : State σ} {c : Nat} {h : History}

/-- A connection and its history, also before its consumer connects. -/
structure Tracked (s : State σ) (c : Nat) (h : History) : Prop where
  absent : s.connections[c]? = none → h = ⟨[], [], [], []⟩
  serving : ∀ conn, s.connections[c]? = some conn → Serving conn h

theorem Tracked.step (v : Tracked s c h) {m : Move σ} (sends : ¬GivesUp ops c s m) :
    Tracked (s.step ops m) c (h ++ history ops c [(s, m)]) := by
  cases hc : s.connections[c]? with
  | none =>
    obtain ⟨after, nothing⟩ := step_none ops hc m
    rw [v.absent hc, nothing, History.append_nil]
    refine ⟨fun _ => rfl, fun conn hconn => ?_⟩
    rw [hconn] at after
    obtain after | after := after <;> cases after
    exact serving_fresh
  | some conn =>
    obtain ⟨next, rs, self, goes⟩ := step_turn ops hc sends
    refine ⟨fun absent => ?_, fun conn' hconn' => ?_⟩
    · rw [self] at absent
      cases absent
    · rw [self] at hconn'
      cases hconn'
      exact (v.serving conn hc).turn goes.turn

theorem history_concat (past : List (State σ × Move σ)) (s : State σ) (m : Move σ) :
    history ops c (past ++ [(s, m)]) = history ops c past ++ history ops c [(s, m)] := by
  simp only [history, List.flatMap_append, List.filterMap_append]
  rfl

theorem tracked_start (manager : Manager σ) (c : Nat) :
    Tracked (State.start manager) c ⟨[], [], [], []⟩ where
  absent _ := rfl
  serving conn h := by simp [State.start] at h

theorem tracked_run (manager : Manager σ) (c : Nat) (moves : List (Move σ))
    (sends : ∀ p ∈ Run.record (State.step ops) (State.start manager) moves,
      ¬GivesUp ops c p.1 p.2) :
    Tracked (Run.last (State.step ops) (State.start manager) moves) c
      (history ops c (Run.record (State.step ops) (State.start manager) moves)) := by
  -- The invariant is about the records in which nobody gave up so far.
  have kept := Run.induction (State.step ops) (s := State.start manager)
    (P := fun t past => (∀ p ∈ past, ¬GivesUp ops c p.1 p.2) → Tracked t c (history ops c past)) []
    (fun _ => tracked_start manager c) (fun t past m ih sends => ?_) moves
  · exact kept sends
  · rw [history_concat]
    exact (ih fun p hp => sends p (List.mem_append_left _ hp)).step ops
      (sends (t, m) (List.mem_append_right _ List.mem_cons_self))

end

end UsbBridge.Daemon
