import UsbBridge.Proofs.Client.Served
import UsbBridge.Proofs.Client.Pairing
import UsbBridge.Proofs.Daemon.Commands

/-!
# The way of a command

Of the commands that a client is given one is under way at a time. Its request is being sent and
read, waits for the handler, or the handler waits for an opening, or the response is on its way
back (`Place`). As long as nothing goes wrong, every turn leaves it there or brings it on, and the
calls that have returned are those whose responses were received (`Kept.step`).
-/

namespace UsbBridge.Client

open Socket
open Receiver (Reading)
open Daemon (Passed Connection Ran Replies Tells)
open UsbBridge.Frame (limit)

/-- Whether a client does this without a fault: a command fits a frame, a system call goes well, the
time is not up, and no caller gives up. -/
def Move.isSmooth : Move → Bool
  | .call _ request => request.isCommand && (Message.ofPayload request).encode.length ≤ limit
  | .send (.bytes n) => n ≠ 0
  | .begin | .send .wouldBlock | .receive _ => true
  | .send (.failed _) | .interrupt _ | .expire | .abandon _ => false

namespace Subscriber

section
variable {σ : Type} (ops : Host σ) (c : Nat)

def Turn.call? : Turn σ → Option (Nat × Payload)
  | .consumer (.client (.call caller request)) => some (caller, request)
  | _ => none

def World.ran? (w : World σ) : Turn σ → Option Ran
  | .daemon m => w.daemon.ran? ops c m
  | .consumer _ => none

/-- A consumer gives commands only, and nothing goes wrong: its own system calls go well in time,
and the handler's responses fit and are sent. -/
def World.Smooth (w : World σ) : Turn σ → Prop
  | .daemon m => ¬Daemon.GivesUp ops c w.daemon m
  | .consumer (.client m) => m.isSmooth
  | .consumer _ => False

instance (w : World σ) : DecidablePred (w.Smooth ops c)
  | .daemon m => inferInstanceAs (Decidable (¬Daemon.GivesUp ops c w.daemon m))
  | .consumer (.client m) => inferInstanceAs (Decidable (m.isSmooth = true))
  | .consumer .subscribe | .consumer (.next _) | .consumer .cancel | .consumer (.send _) =>
    inferInstanceAs (Decidable False)

-- ---------------------------------------------------------------------------
-- Places
-- ---------------------------------------------------------------------------

/-- Where the command is that a client and a connection are busy with, if there is one, and what the
manager has returned for it. -/
inductive Place (s : State Passed) : Connection → Option (Nat × Payload) → Option Ran → Prop
  | idle (free : s.running = none) (inStep : s.outOfStep = false) :
      Place s (.resting .idle) none none
  | asking {caller phase left p q chunks} (run : s.running = some (caller, phase))
      (unsent : Unsent phase left) (command : p.isCommand)
      (arriving : Arriving ⟨.ofPayload p, none⟩ q chunks (marked left [])) :
      Place s (.calm [] chunks (.frame q) [] .idle) (some (caller, p)) none
  | asked {caller phase p} (run : s.running = some (caller, phase)) (sent : Unsent phase [])
      (command : p.isCommand) :
      Place s (.calm [] [] (.waiting ⟨.ofPayload p, []⟩) [] .idle) (some (caller, p)) none
  | queued {caller phase p} (run : s.running = some (caller, phase)) (sent : Unsent phase [])
      (command : p.isCommand) :
      Place s (.asked p) (some (caller, p)) none
  | opening {caller phase id task} (run : s.running = some (caller, phase))
      (sent : Unsent phase []) :
      Place s (.resting (.opening id task)) (some (caller, .openRequest id)) none
  | answered {caller r chunks} {x : Ran} (run : s.running = some (caller, .receiving r))
      (arriving : Arriving x.parcel r chunks []) :
      Place s (.calm chunks [] (.frame .start) [] .idle) (some (caller, x.command.payload)) (some x)

/-- How far a client is: the commands that have returned, each with its caller and what the manager
returned, and the one under way. -/
structure Course where
  client : State Passed
  conn : Connection
  done : List (Nat × Ran)
  current : Option (Nat × Payload)
  got : Option Ran

namespace Course

def calls (x : Course) : List (Nat × Payload) :=
  x.done.map (fun d => (d.1, d.2.command.payload)) ++ x.current.toList ++ x.client.waiting

def ran (x : Course) : List Ran := x.done.map (·.2) ++ x.got.toList

end Course

structure Kept (w : World σ) (x : Course) : Prop where
  client : w.consumer = .client x.client
  here : w.daemon.connections[c]? = some x.conn
  place : Place x.client x.conn x.current x.got
  patient : w.daemon.Patient
  attended : ∃ handed, Daemon.Attended w.daemon handed
  returned : x.client.returned = x.done.map fun d => (d.1, reply d.2.payload d.2.parcel.rights)
  line : ∀ y ∈ x.client.waiting, y.2.isCommand ∧ (Message.ofPayload y.2).encode.length ≤ limit

structure Brings (w : World σ) (x : Course) (turn : Turn σ) (y : Course) : Prop where
  kept : Kept c (w.step ops c turn) y
  calls : y.calls = x.calls ++ turn.call?.toList
  ran : y.ran = x.ran ++ (w.ran? ops c turn).toList

variable {c} {w : World σ} {x : Course} {s t : State Passed} {conn next : Connection}
variable {current currentToo : Option (Nat × Payload)} {got gotToo : Option Ran}
variable {m : Daemon.Move σ} {p : Payload} {q r : Receiver Passed} {left : List UInt8}
variable {chunks : List (Chunk Passed)} {caller : Nat} {phase : Phase Passed}
variable {sending : Daemon.Sending} {done : List (Nat × Ran)} {id : Identity} {task : Nat}

theorem Place.congr (place : Place s conn current got) (running : t.running = s.running)
    (out : t.outOfStep = s.outOfStep) : Place t conn current got := by
  cases place with
  | idle free inStep => exact .idle (running.trans free) (out.trans inStep)
  | asking run unsent command arriving =>
    exact .asking (running.trans run) unsent command arriving
  | asked run sent command => exact .asked (running.trans run) sent command
  | queued run sent command => exact .queued (running.trans run) sent command
  | opening run sent => exact .opening (running.trans run) sent
  | answered run arriving => exact .answered (running.trans run) arriving

theorem Place.up (place : Place s conn current got) : conn.handler ≠ .stopped := by
  cases place <;> exact Daemon.Handler.noConfusion

theorem Place.calm (place : Place s conn current got) :
    ∃ outgoing incoming reading requests handler, reading ≠ .stopped ∧ handler ≠ .stopped ∧
      conn = .calm outgoing incoming reading requests handler := by
  cases place <;> exact ⟨_, _, _, _, _, Daemon.Reading.noConfusion, Daemon.Handler.noConfusion, rfl⟩

-- ---------------------------------------------------------------------------
-- The daemon's side
-- ---------------------------------------------------------------------------

theorem Kept.daemon (k : Kept c w x) (near : m.isCall c = false)
    (self : (w.daemon.step ops m).connections[c]? = some next)
    (place : Place x.client next currentToo gotToo) : Kept c (w.step ops c (.daemon m))
      { x with conn := next, current := currentToo, got := gotToo } := by
  have deals := Daemon.step_deals ops w.daemon m
  have daemon : (w.step ops c (.daemon m)).daemon = w.daemon.step ops m := by
    simp [World.step, near]
  have consumer : (w.step ops c (.daemon m)).consumer = w.consumer := by simp [World.step, near]
  obtain ⟨handed, attended⟩ := k.attended
  exact
    { client := consumer.trans k.client
      here := daemon ▸ self
      place := place
      patient := daemon ▸ deals.patient k.patient
      attended := daemon ▸ ⟨_, deals.attended attended⟩
      returned := k.returned
      line := k.line }

theorem read_asking (arriving : Arriving ⟨.ofPayload p, none⟩ q chunks (marked left []))
    (most : Nat) : let conn := Connection.calm [] chunks (.frame q) [] .idle
    conn.read most = conn ∧ chunks = [] ∨
    (∃ q' chunks', conn.read most = .calm [] chunks' (.frame q') [] .idle ∧
      Arriving ⟨.ofPayload p, none⟩ q' chunks' (marked left []) ∧
      (0 < most → (bytesOf chunks').length < (bytesOf chunks).length)) ∨
    left = [] ∧ conn.read most = .calm [] [] (.waiting ⟨.ofPayload p, []⟩) [] .idle := by
  intro conn
  have arrives := arriving.step (c := ⟨chunks, true, true⟩) rfl most
  generalize hstep : q.step? most ⟨chunks, true, true⟩ = result at arrives
  have read : conn.read most = match result with
      | none => conn
      | some (progress, incoming) => { conn with
          link := { conn.link with incoming }, reading := Daemon.Reading.after progress } := by
    simp only [conn, Connection.read, Connection.calm, hstep]
    cases result <;> rfl
  rw [read]
  cases arrives with
  | blocked empty => exact .inl ⟨rfl, empty⟩
  | reading h fewer => exact .inr (.inl ⟨_, _, rfl, h, fewer⟩)
  | whole all =>
    refine .inr (.inr ⟨?_, rfl⟩)
    simpa [marked_plain] using all

theorem Place.read (place : Place s conn current got) (most : Nat) :
    Place s (conn.read most) current got := by
  cases place with
  | idle free inStep => exact .idle free inStep
  | asking run unsent command arriving =>
    obtain ⟨same, -⟩ | ⟨q', chunks', same, further, -⟩ | ⟨rfl, same⟩ := read_asking arriving most
    · rw [same]
      exact .asking run unsent command arriving
    · rw [same]
      exact .asking run unsent command further
    · rw [same]
      exact .asked run unsent command
  | asked run sent command => exact .asked run sent command
  | queued run sent command => exact .queued run sent command
  | opening run sent => exact .opening run sent
  | answered run arriving => exact .answered run arriving

theorem Place.enqueue (place : Place s conn current got) : Place s conn.enqueue current got := by
  cases place with
  | idle free inStep => exact .idle free inStep
  | asking run unsent command arriving => exact .asking run unsent command arriving
  | asked run sent command => exact .queued run sent command
  | queued run sent command => exact .queued run sent command
  | opening run sent => exact .opening run sent
  | answered run arriving => exact .answered run arriving

theorem Kept.quietly (k : Kept c w x) (near : m.isCall c = false)
    (self : (w.daemon.step ops m).connections[c]? = some next)
    (place : Place x.client next x.current x.got) (nothing : w.daemon.ran? ops c m = none) :
    Brings ops c w x (.daemon m) { x with conn := next } where
  kept := k.daemon ops near self place
  calls := by simp [Course.calls, Turn.call?]
  ran := by simp [Course.ran, World.ran?, nothing]

theorem Kept.answers (k : Kept c w ⟨s, conn, done, some (caller, p), none⟩)
    (near : m.isCall c = false) (run : s.running = some (caller, phase)) (unsent : Unsent phase [])
    {y : Ran} (ran : w.daemon.ran? ops c m = some y) (command : y.command.payload = p)
    (replies : Replies y c sending (w.daemon.step ops m))
    (sent : (w.daemon.step ops m).serves c = true ∨
      sending = .whole ∧ (Message.ofPayload y.payload).encode.length ≤ limit) :
    Brings ops c w ⟨s, conn, done, some (caller, p), none⟩ (.daemon m)
      ⟨s, .telling y, done, some (caller, p), some y⟩ := by
  obtain ⟨self, small⟩ := replies.tells sent
  subst command
  cases unsent with
  | part nonempty => exact absurd rfl nonempty
  | @none r reading bare =>
    exact
      { kept := k.daemon ops near self (.answered run (arriving_sent small reading bare))
        calls := by simp [Course.calls, Turn.call?]
        ran := by simp [Course.ran, World.ran?, ran] }

/-- The handler takes the command: it has the result at once, or waits for an opening. -/
theorem Kept.serve (k : Kept c w ⟨s, .asked p, done, some (caller, p), none⟩)
    (sending : Daemon.Sending) :
    (∃ y, w.daemon.ran? ops c (.serve c sending) = some y ∧
      ((w.daemon.step ops (.serve c sending)).serves c = true ∨
        sending = .whole ∧ (Message.ofPayload y.payload).encode.length ≤ limit →
      Brings ops c w ⟨s, .asked p, done, some (caller, p), none⟩ (.daemon (.serve c sending))
        ⟨s, .telling y, done, some (caller, p), some y⟩)) ∨
    ∃ id task, Brings ops c w ⟨s, .asked p, done, some (caller, p), none⟩
      (.daemon (.serve c sending))
      ⟨s, .resting (.opening id task), done, some (caller, p), none⟩ := by
  cases k.place with
  | queued run unsent command =>
    obtain ⟨y, ran, same, replies⟩ | ⟨id, task, rfl, ran, self⟩ :=
      Daemon.serve_runs ops command k.here sending
    · exact .inl ⟨y, ran, k.answers ops rfl run unsent ran same replies⟩
    · exact .inr ⟨id, task, k.quietly ops rfl self (.opening run unsent) ran⟩

theorem Kept.conclude (k : Kept c w ⟨s, .resting (.opening id task), done, current, none⟩)
    (sending : Daemon.Sending) :
    (∃ y, w.daemon.ran? ops c (.conclude c sending) = some y ∧
      ((w.daemon.step ops (.conclude c sending)).serves c = true ∨
        sending = .whole ∧ (Message.ofPayload y.payload).encode.length ≤ limit →
      Brings ops c w ⟨s, .resting (.opening id task), done, current, none⟩
        (.daemon (.conclude c sending)) ⟨s, .telling y, done, current, some y⟩)) ∨
    (w.daemon.manager.openings.collect task).1 = none ∧
      Brings ops c w ⟨s, .resting (.opening id task), done, current, none⟩
        (.daemon (.conclude c sending)) ⟨s, .resting (.opening id task), done, current, none⟩ := by
  obtain ⟨handed, attended⟩ := k.attended
  have ran : w.daemon.ran? ops c (.conclude c sending) = w.daemon.opens id task := by
    simp [Daemon.State.ran?, Daemon.waitsFor_eq k.here, Connection.resting, Connection.calm,
      Daemon.Handler.waitsFor]
  cases k.place with
  | opening run unsent =>
    obtain ⟨y, opens, command, replies⟩ | ⟨early, opens, rests⟩ :=
      Daemon.conclude_runs ops attended k.patient k.here sending
    · refine .inl ⟨y, ran.trans opens, k.answers ops rfl run unsent (ran.trans opens) ?_ replies⟩
      rw [command]
      rfl
    · refine .inr ⟨early, k.quietly ops rfl ?_ k.place (ran.trans opens)⟩
      rw [rests]
      exact k.here

theorem Kept.expire (k : Kept c w ⟨s, .resting (.opening id task), done, current, none⟩)
    (sending : Daemon.Sending)
    (sent : (w.daemon.step ops (.expire c sending)).serves c = true) :
    ∃ y, Brings ops c w ⟨s, .resting (.opening id task), done, current, none⟩
      (.daemon (.expire c sending)) ⟨s, .telling y, done, current, some y⟩ := by
  obtain ⟨handed, attended⟩ := k.attended
  cases k.place with
  | opening run unsent =>
    obtain ⟨y, ran, command, replies⟩ := Daemon.expire_runs ops attended k.patient k.here sending
    refine ⟨y, k.answers ops rfl run unsent ran ?_ replies (.inl sent)⟩
    rw [command]
    rfl

theorem Kept.daemon_turn (k : Kept c w x) (sends : ¬Daemon.GivesUp ops c w.daemon m) :
    ∃ y, Brings ops c w x (.daemon m) y := by
  by_cases own : m.isCall c
  · have nothing : w.daemon.ran? ops c m = none := by cases m <;> first | rfl | cases own
    have rests : w.step ops c (.daemon m) = w := by simp [World.step, own]
    exact ⟨x, by rwa [rests], by simp [Turn.call?], by simp [World.ran?, nothing]⟩
  have near : m.isCall c = false := by simpa using own
  obtain ⟨s, conn, done, current, got⟩ := x
  obtain ⟨outgoing, incoming, reading, requests, handler, goes, up, rfl⟩ := k.place.calm
  have serves (more : w.daemon.runsDry c m = false) : (w.daemon.step ops m).serves c = true :=
    Daemon.goes_on ops sends k.here up more
  have moved := Daemon.moved ops k.here up goes near
  cases moved with
  | rests self nothing => exact ⟨_, k.quietly ops near self k.place nothing⟩
  | reads most self nothing => exact ⟨_, k.quietly ops near self (k.place.read most) nothing⟩
  | enqueues self nothing => exact ⟨_, k.quietly ops near self k.place.enqueue nothing⟩
  | @serves sending request later same idle next =>
    subst same
    cases k.place with
    | idle | asking | asked | answered => cases next
    | opening => cases idle
    | queued run unsent command =>
      obtain ⟨y, -, brings⟩ | ⟨id, task, brings⟩ := k.serve ops sending
      · refine ⟨_, brings (.inl (serves ?_))⟩
        simp [Daemon.State.runsDry, k.here, Connection.calm]
      · exact ⟨_, brings⟩
  | @concludes id task sending same opening =>
    cases k.place with
    | idle | asking | asked | queued | answered => cases opening
    | opening run unsent =>
      cases opening
      obtain rfl | rfl := same
      · obtain ⟨y, -, brings⟩ | ⟨-, brings⟩ := k.conclude ops sending
        · exact ⟨_, brings (.inl (serves rfl))⟩
        · exact ⟨_, brings⟩
      · obtain ⟨y, brings⟩ := k.expire ops sending (serves rfl)
        exact ⟨_, brings⟩

-- ---------------------------------------------------------------------------
-- The client's side
-- ---------------------------------------------------------------------------

theorem Kept.moves (k : Kept c w ⟨s, conn, done, current, got⟩) (m : Client.Move)
    (own : m.isCommand) {l : Link Passed} (comes : s.step conn.link.flip m = (t, l))
    {doneToo : List (Nat × Ran)} (place : Place t { conn with link := l.flip } currentToo gotToo)
    (returned : t.returned = doneToo.map fun d => (d.1, reply d.2.payload d.2.parcel.rights))
    (line : ∀ y ∈ t.waiting, y.2.isCommand ∧ (Message.ofPayload y.2).encode.length ≤ limit) :
    Kept c (w.step ops c (.consumer (.client m)))
      ⟨t, { conn with link := l.flip }, doneToo, currentToo, gotToo⟩ := by
  have link : w.daemon.linkOf c = conn.link := by simp [Daemon.State.linkOf, k.here]
  have consumer : w.consumer = .client s := k.client
  have stepped : w.step ops c (.consumer (.client m)) = w.put c (.client t) l := by
    simp [World.step, link, consumer, Subscriber.step, own, comes]
  have waits := Daemon.modify_waits w.daemon c
    (f := fun conn => { conn with link := l.flip }) fun _ => rfl
  have deals : Daemon.Deals w.daemon (w.put c (.client t) l).daemon none := .rests rfl waits
  obtain ⟨handed, attended⟩ := k.attended
  rw [stepped]
  exact
    { client := rfl
      here := by simp [World.put, Daemon.State.modify, k.here]
      place := place
      patient := deals.patient k.patient
      attended := ⟨_, deals.attended attended⟩
      returned := returned
      line := line }

theorem Kept.rests (k : Kept c w ⟨s, conn, done, current, got⟩) {m : Client.Move}
    (own : m.isCommand)
    (quiet : (Turn.consumer (.client m) : Turn σ).call? = none)
    (rests : s.step conn.link.flip m = (s, conn.link.flip)) :
    Brings ops c w ⟨s, conn, done, current, got⟩ (.consumer (.client m))
      ⟨s, conn, done, current, got⟩ where
  kept := k.moves ops m own rests k.place k.returned k.line
  calls := by simp [quiet]
  ran := by simp [World.ran?]

theorem Kept.calls (k : Kept c w ⟨s, conn, done, current, got⟩) (command : p.isCommand)
    (small : (Message.ofPayload p).encode.length ≤ limit) (caller : Nat) :
    Brings ops c w ⟨s, conn, done, current, got⟩ (.consumer (.client (.call caller p)))
      ⟨{ s with waiting := s.waiting ++ [(caller, p)] }, conn, done, current, got⟩ where
  kept := by
    refine k.moves ops (.call caller p) command rfl (k.place.congr rfl rfl) k.returned ?_
    exact List.forall_mem_append.mpr ⟨k.line, List.forall_mem_singleton.mpr ⟨command, small⟩⟩
  calls := by simp [Course.calls, Turn.call?]
  ran := by simp [World.ran?, Course.ran]

def begun (s : State Passed) (caller : Nat) (p : Payload) (later : List (Nat × Payload)) :
    State Passed :=
  { s with waiting := later, outOfStep := true, running := some (caller, .sending ⟨p.frame, []⟩) }

theorem Kept.begins (k : Kept c w ⟨s, .resting .idle, done, none, none⟩)
    {later : List (Nat × Payload)} (line : s.waiting = (caller, p) :: later) :
    Brings ops c w ⟨s, .resting .idle, done, none, none⟩ (.consumer (.client .begin))
      ⟨begun s caller p later, .resting .idle, done, some (caller, p), none⟩ := by
  cases k.place with
  | idle free inStep =>
    dsimp only at free inStep
    obtain ⟨⟨command, small⟩, rest⟩ := List.forall_mem_cons.mp (line ▸ k.line)
    have fits : ¬limit < (Message.ofPayload p).encode.length := Nat.not_lt.mpr small
    have begin : s.begin = begun s caller p later := by
      simp [State.begin, free, inStep, line, Sender.ofMessage, Frame.encode_eq, fits, begun,
        Payload.frame]
    have unsent : Unsent (α := Passed) (.sending ⟨p.frame, []⟩) p.frame := .part (wrap_ne_nil _)
    have place : Place (begun s caller p later) (.resting .idle) (some (caller, p)) none :=
      .asking rfl unsent command (arriving_unsent small Receiver.reading_start rfl)
    exact
      { kept := k.moves ops .begin rfl (congrArg (·, _) begin) place k.returned rest
        calls := by simp [Course.calls, Turn.call?, line, begun]
        ran := by simp [World.ran?, Course.ran] }

theorem Kept.sends (k : Kept c w ⟨s, .calm [] chunks (.frame q) [] .idle, done, current, none⟩)
    (run : s.running = some (caller, .sending ⟨left, []⟩)) {n : Nat} (hn : n ≠ 0) :
    Brings ops c w ⟨s, .calm [] chunks (.frame q) [] .idle, done, current, none⟩
      (.consumer (.client (.send (.bytes n))))
      ⟨{ s with running := some (caller,
          if (left.drop n).isEmpty then .receiving .start else .sending ⟨left.drop n, []⟩) },
        .calm [] (chunks ++ [⟨left.take n, []⟩]) (.frame q) [] .idle, done, current, none⟩ := by
  cases k.place with
  | idle free =>
    rw [free] at run
    cases run
  | asking running unsent command arriving =>
    rw [run] at running
    cases running
    cases unsent with
    | part nonempty =>
      have more : left.take n ≠ [] := by simp [List.take_eq_nil_iff, hn, nonempty]
      rw [← List.take_append_drop n left] at arriving
      exact
        { kept := k.moves ops (.send (.bytes n)) rfl
            (State.send_bytes (l := ⟨⟨chunks, true, true⟩, ⟨[], true, true⟩⟩) run nonempty rfl hn)
            (.asking rfl (unsent_rest _) command (arriving.push more)) k.returned k.line
          calls := by simp [Course.calls, Turn.call?]
          ran := by simp [World.ran?, Course.ran] }

theorem receive_answered {x : Ran} (run : s.running = some (caller, .receiving r))
    (arriving : Arriving x.parcel r chunks []) (most : Nat) :
    let l : Link Passed := ⟨⟨[], true, true⟩, ⟨chunks, true, true⟩⟩
    (∃ r' chunks', s.receive l most = ({ s with running := some (caller, .receiving r') },
        { l with incoming := ⟨chunks', true, true⟩ }) ∧ Arriving x.parcel r' chunks' [] ∧
      (0 < most → (bytesOf chunks').length < (bytesOf chunks).length)) ∨
    s.receive l most =
      (s.answer caller x.payload x.parcel.rights, { l with incoming := ⟨[], true, true⟩ }) := by
  intro l
  have arrives := arriving.step (c := ⟨chunks, true, true⟩) rfl most
  have receive := State.receive_eq (l := l) run most
  rw [receive]
  generalize hstep : r.step? most l.incoming = result
  generalize hstep' : r.step? most ⟨chunks, true, true⟩ = result' at arrives
  obtain rfl : result = result' := hstep.symm.trans hstep'
  cases arrives with
  | blocked empty => exact absurd empty arriving.under_way
  | reading h fewer => exact .inl ⟨_, _, rfl, h, fewer⟩
  | whole all => exact .inr rfl

theorem Kept.receives {x : Ran}
    (k : Kept c w ⟨s, .calm chunks [] (.frame .start) [] .idle, done, some (caller, p), some x⟩)
    (most : Nat) :
    (∃ s' chunks', Brings ops c w
        ⟨s, .calm chunks [] (.frame .start) [] .idle, done, some (caller, p), some x⟩
        (.consumer (.client (.receive most)))
        ⟨s', .calm chunks' [] (.frame .start) [] .idle, done, some (caller, p), some x⟩ ∧
      s'.waiting = s.waiting ∧
      (0 < most → (bytesOf chunks').length < (bytesOf chunks).length)) ∨
    ∃ s', Brings ops c w
        ⟨s, .calm chunks [] (.frame .start) [] .idle, done, some (caller, p), some x⟩
        (.consumer (.client (.receive most)))
        ⟨s', .resting .idle, done ++ [(caller, x)], none, none⟩ ∧ s'.waiting = s.waiting := by
  cases k.place with
  | answered run arriving =>
    dsimp only at run
    obtain ⟨r', chunks', same, further, fewer⟩ | same := receive_answered run arriving most
    · refine .inl ⟨{ s with running := some (caller, .receiving r') }, chunks',
        ⟨k.moves ops (.receive most) rfl same (.answered rfl further) k.returned k.line, ?_, ?_⟩,
        rfl, fewer⟩
      · simp [Course.calls, Turn.call?]
      · simp [World.ran?, Course.ran]
    · refine .inr ⟨s.answer caller x.payload x.parcel.rights,
        ⟨k.moves ops (.receive most) rfl same (.idle rfl rfl) ?_ k.line, ?_, ?_⟩, rfl⟩
      · simpa [State.answer_eq] using k.returned
      · simp [Course.calls, Turn.call?, State.answer_eq]
      · simp [World.ran?, Course.ran]

theorem Kept.send_turn (k : Kept c w x) {acceptance : Acceptance}
    (smooth : (Client.Move.send acceptance).isSmooth) :
    ∃ y, Brings ops c w x (.consumer (.client (.send acceptance))) y := by
  obtain ⟨s, conn, done, current, got⟩ := x
  have rests (same : s.send conn.link.flip acceptance = (s, conn.link.flip)) :=
    k.rests ops (m := .send acceptance) rfl rfl same
  -- Nothing is sent unless there is some of a request left to send.
  have received {caller phase} (run : s.running = some (caller, phase)) (sent : Unsent phase []) :
      s.send conn.link.flip acceptance = (s, conn.link.flip) := by
    cases sent with
    | part nonempty => exact absurd rfl nonempty
    | none => simp [State.send, run]
  cases k.place with
  | idle free =>
    dsimp only at free
    exact ⟨_, rests (by simp [State.send, free])⟩
  | asked run sent | queued run sent | opening run sent => exact ⟨_, rests (received run sent)⟩
  | answered run =>
    dsimp only at run
    exact ⟨_, rests (by simp [State.send, run])⟩
  | asking run unsent =>
    cases unsent with
    | none =>
      dsimp only at run
      exact ⟨_, rests (by simp [State.send, run])⟩
    | part nonempty =>
      cases acceptance with
      | wouldBlock => exact ⟨_, rests (State.send_blocked run nonempty)⟩
      | failed => cases smooth
      | bytes n => exact ⟨_, k.sends ops run (by simpa [Client.Move.isSmooth] using smooth)⟩

theorem Kept.receive_turn (k : Kept c w x) (most : Nat) :
    ∃ y, Brings ops c w x (.consumer (.client (.receive most))) y := by
  obtain ⟨s, conn, done, current, got⟩ := x
  have rests (same : s.receive conn.link.flip most = (s, conn.link.flip)) :=
    k.rests ops (m := .receive most) rfl rfl same
  have blocked {caller phase left} (run : s.running = some (caller, phase))
      (unsent : Unsent phase left) (quiet : conn.link.outgoing = ⟨[], true, true⟩) :
      s.receive conn.link.flip most = (s, conn.link.flip) := by
    cases unsent with
    | part => simp [State.receive, run]
    | @none r =>
      have empty : r.step? most conn.link.flip.incoming = none := by
        simp [Receiver.step?, Channel.receive, Link.flip, quiet]
      rw [State.receive_eq run, empty]
      rfl
  cases k.place with
  | idle free =>
    dsimp only at free
    exact ⟨_, rests (by simp [State.receive, free])⟩
  | asking run unsent | asked run unsent | queued run unsent | opening run unsent =>
    exact ⟨_, rests (blocked run unsent rfl)⟩
  | answered run =>
    obtain ⟨s', chunks', brings, -⟩ | ⟨s', brings, -⟩ := k.receives ops most
    · exact ⟨_, brings⟩
    · exact ⟨_, brings⟩

theorem Kept.begin_turn (k : Kept c w x) :
    ∃ y, Brings ops c w x (.consumer (.client .begin)) y := by
  obtain ⟨s, conn, done, current, got⟩ := x
  have rests (same : s.begin = s) :=
    k.rests ops (m := .begin) rfl rfl (congrArg (·, conn.link.flip) same)
  have busy {exchange} (run : s.running = some exchange) : s.begin = s := by
    simp [State.begin, run]
  cases k.place with
  | idle free =>
    cases line : s.waiting with
    | nil => exact ⟨_, rests (by simp [State.begin, line])⟩
    | cons first later => exact ⟨_, k.begins ops line⟩
  | asking run | asked run | queued run | opening run | answered run =>
    exact ⟨_, rests (busy run)⟩

/-- As long as nothing goes wrong, a turn leaves a command where it is or brings it on. -/
theorem Kept.step (k : Kept c w x) {turn : Turn σ} (smooth : w.Smooth ops c turn) :
    ∃ y, Brings ops c w x turn y := by
  cases turn with
  | daemon m => exact k.daemon_turn ops smooth
  | consumer m =>
    cases m with
    | subscribe | next | cancel | send => cases smooth
    | client m =>
      cases m with
      | call caller request =>
        obtain ⟨command, small⟩ : request.isCommand = true ∧
            (Message.ofPayload request).encode.length ≤ limit := by
          simpa [World.Smooth, Client.Move.isSmooth] using smooth
        exact ⟨_, k.calls ops command small caller⟩
      | begin => exact k.begin_turn ops
      | send acceptance => exact k.send_turn ops smooth
      | receive most => exact k.receive_turn ops most
      | interrupt | expire | abandon => cases smooth

end

end Subscriber

end UsbBridge.Client
