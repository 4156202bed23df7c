import UsbBridge.Proofs.Client.Takings
import UsbBridge.Proofs.Daemon.Subscriptions
import UsbBridge.Proofs.Daemon.Waiting
import UsbBridge.Proofs.Socket.Arriving

/-!
# What commands come to

The manager returns one result for every command that a handler runs (`Ran`, `State.ran?`), and the
handler answers with all of it: a client that interprets the answer has the same result again
(`Ran.answer_reply`). On a connection without a subscription there is nothing else that a move can
come to (`Moved`, `serve_runs`, `conclude_runs`).
-/

namespace UsbBridge.Daemon

open Socket
open UsbBridge.Frame (limit wrap)

/-- A command that the manager ran for a handler, with what it returned. A handle is an identity and
an open file. -/
inductive Ran where
  | listed (result : Except SessionError (List Descriptor))
  | checked (id : Identity) (result : Except SessionError Bool)
  | opened (id : Identity) (result : Except SessionError (Identity × Passed))

namespace Ran

def command : Ran → Client.Command
  | .listed _ => .listDevices
  | .checked id _ => .hasPermission id
  | .opened id _ => .openDevice id

/-- The result as a client's command has it: an error of the manager is a session error. -/
def reply : Ran → Except BridgeError (Client.Reply Passed)
  | .listed result => (result.map .devices).mapError .session
  | .checked _ result => (result.map .granted).mapError .session
  | .opened _ result => (result.map fun handle => .opened handle.1 handle.2).mapError .session

def payload : Ran → Payload
  | .listed result => .listDevicesResponse result
  | .checked _ result => .hasPermissionResponse result
  | .opened _ result => .openResponse (result.map (·.1))

def descriptor : Ran → Option Passed
  | .opened _ (.ok handle) => some handle.2
  | _ => none

def parcel (x : Ran) : Parcel Passed := ⟨.ofPayload x.payload, x.descriptor⟩

theorem answer_reply (x : Ran) :
    x.command.answer (Client.reply x.payload x.parcel.rights) = x.reply := by
  cases x with
  | listed result | checked id result | opened id result => cases result <;> rfl

end Ran

/-- A connection without a subscription, of which both directions are open. -/
def Connection.calm (outgoing incoming : List (Chunk Passed)) (reading : Reading)
    (requests : List Request) (handler : Handler) : Connection :=
  ⟨⟨⟨outgoing, true, true⟩, ⟨incoming, true, true⟩⟩, reading, requests, handler, none⟩

/-- One on which nothing is under way or read. -/
def Connection.resting (handler : Handler) : Connection := .calm [] [] (.frame .start) [] handler

def Connection.asked (p : Payload) : Connection :=
  .calm [] [] (.frame .start) [⟨.ofPayload p, []⟩] .idle

def Connection.telling (x : Ran) : Connection :=
  .calm [⟨x.payload.frame, x.parcel.rights⟩] [] (.frame .start) [] .idle

section
variable {σ : Type} (ops : Host σ) {s t : State σ} {c d : Nat} {conn : Connection} {m : Move σ}
variable {handed : List Nat} {id : Identity} {task : Nat} {sending : Sending}
variable {outgoing incoming : List (Chunk Passed)} {reading : Reading} {requests : List Request}
variable {handler : Handler}

-- ---------------------------------------------------------------------------
-- What the manager returns
-- ---------------------------------------------------------------------------

def State.handle? (s : State σ) (dup : Nat) : Option (Identity × Passed) :=
  s.manager.openings.duplicates[dup]?.bind fun x =>
    s.manager.openings.tasks[x.opening]?.map fun t => (t.identity, .device x.connection)

def State.runs (s : State σ) (m : Message) : Option Ran :=
  match m.version.validate, m.payload with
  | .ok (), .listDevicesRequest => some (.listed (s.manager.list ops))
  | .ok (), .hasPermissionRequest id => some (.checked id (s.manager.hasPermission ops id))
  | .ok (), .openRequest id =>
    match s.manager.openings.call id with
    | (.error e, _) => some (.opened id (.error e))
    | (.ok _, _) => none
  | _, _ => none

def State.opens (s : State σ) (id : Identity) (task : Nat) : Option Ran :=
  match (s.manager.openings.collect task).1 with
  | some (.ok dup) => (s.handle? dup).map fun handle => .opened id (.ok handle)
  | some (.error e) => some (.opened id (.error e))
  | none => none

/-- The command of which a handler has the result with a move. An opening that takes too long comes
to an error that says so. -/
def State.ran? (s : State σ) (c : Nat) (m : Move σ) : Option Ran :=
  match m with
  | .serve .. => (s.taken? c m).bind (s.runs ops)
  | .conclude d _ =>
    if d = c then (s.waitsFor c).bind fun waited => s.opens waited.1 waited.2 else none
  | .expire d _ =>
    if d = c then
      (s.waitsFor c).map fun waited => (s.opens waited.1 waited.2).getD
        (.opened waited.1 (.error (Opening.State.timeoutError waited.1 s.manager.openTimeout)))
    else none
  | _ => none

-- ---------------------------------------------------------------------------
-- What moves come to
-- ---------------------------------------------------------------------------

inductive Moved (s : State σ) (c : Nat) (m : Move σ) (conn : Connection) : Prop
  | rests (self : (s.step ops m).connections[c]? = some conn) (nothing : s.ran? ops c m = none)
  | reads (most : Nat) (self : (s.step ops m).connections[c]? = some (conn.read most))
      (nothing : s.ran? ops c m = none)
  | enqueues (self : (s.step ops m).connections[c]? = some conn.enqueue)
      (nothing : s.ran? ops c m = none)
  | serves {sending : Sending} {request : Request} {later : List Request}
      (same : m = .serve c sending) (idle : conn.handler = .idle)
      (next : conn.requests = request :: later)
  | concludes {id : Identity} {task : Nat} {sending : Sending}
      (same : m = .conclude c sending ∨ m = .expire c sending)
      (opening : conn.handler = .opening id task)

theorem ran_others (hm : m.connection? ≠ some c) : s.ran? ops c m = none := by
  cases m with
  | serve d sending =>
    have hd : d ≠ c := fun same => hm (congrArg some same)
    simp [State.ran?, State.taken?, hd]
  | conclude d sending | expire d sending =>
    have hd : d ≠ c := fun same => hm (congrArg some same)
    simp [State.ran?, hd]
  | accept | consumer | read | enqueue | forward | advance | relay | host | notify | unregister
  | close => rfl

theorem moved (here : s.connections[c]? = some (.calm outgoing incoming reading requests handler))
    (up : handler ≠ .stopped) (goes : reading ≠ .stopped) (near : m.isCall c = false) :
    Moved ops s c m (.calm outgoing incoming reading requests handler) := by
  by_cases own : m.connection? = some c
  · cases m with
    | accept | advance | relay | host | notify | unregister | close => cases own
    | consumer d call =>
      cases own
      simp [Move.isCall] at near
    | read d most =>
      cases own
      exact .reads most (by simp [State.step, State.modify, here]) rfl
    | enqueue d =>
      cases own
      exact .enqueues (by simp [State.step, State.modify, here]) rfl
    | forward d sending =>
      cases own
      refine .rests ?_ rfl
      have rests : s.forward c sending = s := by simp [State.forward, here, Connection.calm]
      rw [State.step, rests, here]
    | serve d sending =>
      cases own
      obtain ⟨request, later, idle, next, -⟩ | ⟨none, ⟨-, same⟩ | ⟨-, -, ended, -⟩⟩ :=
        serve_cases ops here sending
      · exact .serves rfl idle next
      · refine .rests (by rw [State.step, same, here]) ?_
        simp [State.ran?, State.taken?, here, none]
      · exact absurd ended goes
    | conclude d sending =>
      cases own
      cases waits : handler with
      | stopped => exact absurd waits up
      | opening id task => exact .concludes (.inl rfl) rfl
      | idle =>
        refine .rests ?_ ?_
        · simp [State.step, State.conclude, here, Connection.calm, waits]
        · simp [State.ran?, waitsFor_eq here, Connection.calm, waits, Handler.waitsFor]
    | expire d sending =>
      cases own
      cases waits : handler with
      | stopped => exact absurd waits up
      | opening id task => exact .concludes (.inr rfl) rfl
      | idle =>
        refine .rests ?_ ?_
        · simp [State.step, State.expire, here, Connection.calm, waits]
        · simp [State.ran?, waitsFor_eq here, Connection.calm, waits, Handler.waitsFor]
  · exact .rests (step_kept ops own here) (ran_others ops own)

-- ---------------------------------------------------------------------------
-- Answers
-- ---------------------------------------------------------------------------

def Replies (x : Ran) (c : Nat) (sending : Sending) (t : State σ) : Prop :=
  ∃ u : State σ, u.connections[c]? = some (.resting .idle) ∧
    t.connections = (u.reply c sending x.payload x.parcel.rights).connections

structure Tells (x : Ran) (c : Nat) (t : State σ) : Prop where
  self : t.connections[c]? = some (.telling x)
  small : (Message.ofPayload x.payload).encode.length ≤ limit

theorem goes_on (sends : ¬GivesUp ops c s m) (here : s.connections[c]? = some conn)
    (up : conn.handler ≠ .stopped) (more : s.runsDry c m = false) :
    (s.step ops m).serves c = true := by
  by_contra stopped
  exact sends ⟨by simpa [State.serves, here] using up, stopped, by simp [more]⟩

theorem Replies.tells {x : Ran} (h : Replies x c sending t) (sent : t.serves c = true ∨
    sending = .whole ∧ (Message.ofPayload x.payload).encode.length ≤ limit) : Tells x c t := by
  obtain ⟨u, self, same⟩ := h
  have replied := reply_replied self sending x.payload x.parcel.rights
  generalize u.reply c sending x.payload x.parcel.rights = v at replied same
  cases replied with
  | whole small => exact ⟨by rw [same]; exact put_self self _, small⟩
  | failed q cause only stopped =>
    exfalso
    obtain serves | ⟨whole, small⟩ := sent
    · simp [State.serves, same, stopped, Connection.stop] at serves
    · obtain large | cut | deaf := cause
      · omega
      · exact cut whole
      · cases deaf

theorem handle_open (s : State σ) (c : Nat) (conn : Connection) (sending : Sending)
    (id : Identity) : s.handle ops c conn sending (.ofPayload (.openRequest id)) =
      match s.manager.openings.call id with
      | (.error e, _) => s.reply c sending (.openResponse (.error e)) []
      | (.ok task, openings) =>
        (s.setOpenings openings).put c { conn with handler := .opening id task } := rfl

theorem runs_open (s : State σ) (id : Identity) : s.runs ops (.ofPayload (.openRequest id)) =
      match s.manager.openings.call id with
      | (.error e, _) => some (.opened id (.error e))
      | (.ok _, _) => none := rfl

theorem serve_runs {p : Payload} (command : p.isCommand)
    (here : s.connections[c]? = some (.asked p)) (sending : Sending) :
    (∃ x, s.ran? ops c (.serve c sending) = some x ∧ x.command.payload = p ∧
      Replies x c sending (s.step ops (.serve c sending))) ∨
    ∃ id task, p = .openRequest id ∧ s.ran? ops c (.serve c sending) = none ∧
      (s.step ops (.serve c sending)).connections[c]? = some (.resting (.opening id task)) := by
  have self := put_self here (.resting .idle)
  have ran : s.ran? ops c (.serve c sending) = s.runs ops (.ofPayload p) := by
    simp [State.ran?, State.taken?, here, Connection.asked, Connection.calm, Connection.next?]
  have step : s.step ops (.serve c sending) =
      (s.put c (.resting .idle)).handle ops c (.resting .idle) sending (.ofPayload p) := by
    simp [State.step, State.serve, here, Connection.asked, Connection.calm, Connection.resting]
  rw [ran, step]
  cases p with
  | listDevicesRequest => exact .inl ⟨.listed (s.manager.list ops), rfl, rfl, _, self, rfl⟩
  | hasPermissionRequest id =>
    exact .inl ⟨.checked id (s.manager.hasPermission ops id), rfl, rfl, _, self, rfl⟩
  | openRequest id =>
    rw [runs_open, handle_open, put_manager]
    obtain ⟨-, busy⟩ | ⟨-, begun⟩ := Opening.call_cases s.manager.openings id
    · simp only [busy]
      exact .inl ⟨.opened id (.error (.alreadyOpening id)), rfl, rfl, _, self, rfl⟩
    · simp only [begun]
      refine .inr ⟨id, s.manager.openings.tasks.length, rfl, trivial, ?_⟩
      exact put_self (s := (s.put c (.resting .idle)).setOpenings _) self _
  | _ => cases command

/-- The handle that the manager returns for an opening is of the identity that was asked for. -/
theorem collect_handle (attended : Attended s handed) (patient : s.Patient)
    (waits : s.waitsFor c = some (id, task)) {dup : Nat} {openings : Opening.State}
    (got : s.manager.openings.collect task = (some (.ok dup), openings)) :
    ∃ file, s.handle? dup = some (id, file) ∧ s.fileOf dup = [file] := by
  obtain ⟨given, -, tended⟩ := attended
  obtain ⟨x, there, -, made, -⟩ := Opening.collect_close tended.accounted got
  obtain ⟨stage, now, -⟩ := patient.awaited c id task waits
  exact ⟨.device x.connection, by simp [State.handle?, there, made, now],
    by simp [State.fileOf, there]⟩

theorem conclude_runs (attended : Attended s handed) (patient : s.Patient)
    (here : s.connections[c]? = some (.resting (.opening id task))) (sending : Sending) :
    (∃ x, s.opens id task = some x ∧ x.command = .openDevice id ∧
      Replies x c sending (s.step ops (.conclude c sending))) ∨
    (s.manager.openings.collect task).1 = none ∧ s.opens id task = none ∧
      s.step ops (.conclude c sending) = s := by
  have waits : s.waitsFor c = some (id, task) := waitsFor_eq here
  have self := put_self here (.resting .idle)
  cases got : s.manager.openings.collect task with
  | mk result openings =>
    have after : ((s.put c (.resting .idle)).setOpenings openings).connections[c]? =
        some (.resting .idle) := self
    cases result with
    | none =>
      refine .inr ⟨rfl, by simp [State.opens, got], ?_⟩
      simp [State.step, State.conclude, here, Connection.resting, Connection.calm, got]
    | some result =>
      left
      cases result with
      | error e =>
        refine ⟨.opened id (.error e), by simp [State.opens, got], rfl, _, after, ?_⟩
        simp [State.step, State.conclude, here, Connection.resting, Connection.calm, got,
          Ran.payload, Ran.parcel, Ran.descriptor, Parcel.rights, Except.map]
      | ok dup =>
        obtain ⟨file, handle, passed⟩ := collect_handle attended patient waits got
        refine ⟨.opened id (.ok (id, file)), by simp [State.opens, got, handle], rfl, _, after, ?_⟩
        simp [State.step, State.conclude, here, Connection.resting, Connection.calm, got, passed,
          State.setOpenings, Ran.payload, Ran.parcel, Ran.descriptor, Parcel.rights, Except.map]

/-- When time is up a handler replies with the result all the same if it is there. -/
theorem expire_runs (attended : Attended s handed) (patient : s.Patient)
    (here : s.connections[c]? = some (.resting (.opening id task))) (sending : Sending) :
    ∃ x, s.ran? ops c (.expire c sending) = some x ∧ x.command = .openDevice id ∧
      Replies x c sending (s.step ops (.expire c sending)) := by
  have waits : s.waitsFor c = some (id, task) := waitsFor_eq here
  have ran : s.ran? ops c (.expire c sending) = some ((s.opens id task).getD
      (.opened id (.error (Opening.State.timeoutError id s.manager.openTimeout)))) := by
    simp [State.ran?, waits]
  rw [ran]
  obtain early | ⟨_, result, -, got⟩ := Opening.collect_cases s.manager.openings task
  · have self := put_self (s := s.setOpenings (s.manager.openings.leave task)) here (.resting .idle)
    refine ⟨.opened id (.error (Opening.State.timeoutError id s.manager.openTimeout)),
      by simp [State.opens, early], rfl, _, self, ?_⟩
    simp [State.step, State.expire, here, Connection.resting, Connection.calm, early, Ran.payload,
      Ran.parcel, Ran.descriptor, Parcel.rights, Except.map]
  · have step : s.step ops (.expire c sending) = s.step ops (.conclude c sending) := by
      simp [State.step, State.expire, here, Connection.resting, Connection.calm, got]
    rw [step]
    obtain ⟨x, opens, command, replies⟩ | ⟨none, -⟩ :=
      conclude_runs ops attended patient here sending
    · exact ⟨x, by rw [opens]; rfl, command, replies⟩
    · rw [got] at none
      cases none

end

end UsbBridge.Daemon
