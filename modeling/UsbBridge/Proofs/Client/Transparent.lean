import UsbBridge.Proofs.Client.Places

/-!
# Calls return what the manager returned

Whatever the host and other consumers do, a call of a client returns what the manager returned for
just that command when the handler ran it (`commands_transparent`). It does return: the client, the
handler and the opening that it waits for get there by themselves, unless the response does not fit
a frame or the host is still opening the device (`Kept.finishes`).
-/

namespace UsbBridge.Client.Subscriber

open Socket
open Daemon (Passed Connection Ran)
open UsbBridge.Frame (limit)

section
variable {σ : Type} (ops : Host σ) (c : Nat)

def callsIn (record : List (World σ × Turn σ)) : List (Nat × Payload) :=
  record.filterMap fun (_, turn) => turn.call?

def ranIn (record : List (World σ × Turn σ)) : List Ran :=
  record.filterMap fun (w, turn) => w.ran? ops c turn

/-- Whether a turn needs nobody but the client, the reader and the handler of its connection, and
openings that go on. -/
def Turn.isOwn : Turn σ → Bool
  | .consumer (.client .begin) | .consumer (.client (.send (.bytes _)))
  | .consumer (.client (.receive _)) => true
  | .daemon (.read d _) | .daemon (.enqueue d) | .daemon (.serve d .whole)
  | .daemon (.conclude d .whole) => d = c
  | .daemon (.advance _) => true
  | _ => false

/-- Why a command does not come further by itself: its response does not fit a frame, or the host is
still opening the device. -/
inductive HeldUp (w : World σ) : Prop
  | tooLarge {m x} (next : m = .serve c .whole ∨ m = .conclude c .whole)
      (ran : w.daemon.ran? ops c m = some x)
      (large : limit < (Message.ofPayload x.payload).encode.length)
  | opening {id task device} (waits : w.daemon.waitsFor c = some (id, task))
      (stage : w.daemon.manager.openings.stage? task = some (.opening device))
      (held : ops.isHeld w.daemon.manager.host = true)

/-- Turns of its own, with which nothing goes wrong, bring a client to where it has nothing left to
do, or is held up. -/
inductive Finishes : World σ → Prop
  | idle {w s} (client : w.consumer = .client s) (free : s.running = none)
      (nobody : s.waiting = []) : Finishes w
  | heldUp {w} (heldUp : HeldUp ops c w) : Finishes w
  | step {w} (turn : Turn σ) (own : turn.isOwn c) (smooth : w.Smooth ops c turn)
      (later : Finishes (w.step ops c turn)) : Finishes w

/-- What has become of the calls of a client, when the manager has returned so much to the handler
of its connection. -/
structure Transparent (w : World σ) (s : State Passed) (calls : List (Nat × Payload))
    (ran : List Ran) : Prop where
  /-- A call returns what the manager had returned for just its command. -/
  same : ∀ (i : Nat) caller result, s.returned[i]? = some (caller, result) →
    ∃ x : Ran, ran[i]? = some x ∧ calls[i]? = some (caller, x.command.payload) ∧
      x.command.answer result = x.reply
  /-- The commands were run in the order of the calls, each of them once. -/
  inOrder : ran.map (·.command.payload) <+: calls.map (·.2)
  /-- In this order everyone who has called has returned, is at it or is in line. -/
  line : s.roster = calls.map (·.1)
  /-- All calls come to return without any doing of others, unless one is held up. -/
  returns : ∃ turns, (∀ turn ∈ turns, turn.isOwn c) ∧
    (∀ z ∈ Run.record (World.step ops c) w turns, z.1.Smooth ops c z.2) ∧
    (HeldUp ops c (Run.last (World.step ops c) w turns) ∨
      ∃ t, (Run.last (World.step ops c) w turns).consumer = .client t ∧
        t.returned.map (·.1) = calls.map (·.1))

/-- A client that has nothing under way finishes with these calls in line. -/
def Resumes (line : List (Nat × Payload)) : Prop :=
  ∀ w s done, Kept c w ⟨s, .resting .idle, done, none, none⟩ → s.waiting = line →
    Finishes ops c w

variable {c} {w : World σ} {s : State Passed} {conn next : Connection} {done : List (Nat × Ran)}
variable {m : Daemon.Move σ} {x y : Course} {p : Payload} {caller : Nat} {got : Ran}
variable {current : Option (Nat × Payload)}
variable {chunks : List (Chunk Passed)} {q : Receiver Passed} {id : Identity} {task : Nat}

theorem Brings.smooth (brings : Brings ops c w x (.daemon m) y) (near : m.isCall c = false) :
    w.Smooth ops c (.daemon m) := by
  have here := brings.kept.here
  have up := brings.kept.place.up
  rintro ⟨-, ended, -⟩
  simp [World.step, near] at here
  simp [Daemon.State.serves, here, up] at ended

theorem Brings.finishes (brings : Brings ops c w x (.daemon m) y) (near : m.isCall c = false)
    (own : (Turn.daemon m).isOwn c) (later : Finishes ops c (w.step ops c (.daemon m))) :
    Finishes ops c w :=
  .step (.daemon m) own (brings.smooth ops near) later

theorem Kept.finishes_answered (resumes : Resumes ops c s.waiting)
    (k : Kept c w ⟨s, .calm chunks [] (.frame .start) [] .idle, done, some (caller, p), some got⟩) :
    Finishes ops c w := by
  generalize size : (bytesOf chunks).length = n
  induction n using Nat.strongRecOn generalizing w s chunks with
  | ind n ih =>
    refine .step (.consumer (.client (.receive 1))) rfl rfl ?_
    obtain ⟨s', chunks', brings, line, fewer⟩ | ⟨s', brings, line⟩ := k.receives ops 1
    · exact ih _ (size ▸ fewer Nat.one_pos) (line ▸ resumes) brings.kept rfl
    · exact resumes _ _ _ brings.kept line

theorem finishes_ran (resumes : Resumes ops c s.waiting)
    (next : m = .serve c .whole ∨ m = .conclude c .whole)
    (ran : w.daemon.ran? ops c m = some got)
    (brings : (Message.ofPayload got.payload).encode.length ≤ limit →
      Brings ops c w x (.daemon m) ⟨s, .telling got, done, some (caller, p), some got⟩) :
    Finishes ops c w := by
  by_cases small : (Message.ofPayload got.payload).encode.length ≤ limit
  · have later := (brings small).kept.finishes_answered ops resumes
    obtain rfl | rfl := next
    · exact (brings small).finishes ops rfl (by simp [Turn.isOwn]) later
    · exact (brings small).finishes ops rfl (by simp [Turn.isOwn]) later
  · exact .heldUp (.tooLarge next ran (Nat.lt_of_not_le small))

/-- An opening returns, if the host does not keep it waiting, and then the command is answered. -/
theorem Kept.finishes_opening (resumes : Resumes ops c s.waiting)
    (k : Kept c w ⟨s, .resting (.opening id task), done, some (caller, p), none⟩) :
    Finishes ops c w := by
  obtain ⟨stage, there, -⟩ := k.patient.awaited c id task (Daemon.waitsFor_eq k.here)
  generalize size : stage.left = n
  induction n using Nat.strongRecOn generalizing w stage with
  | ind n ih =>
    have waits : w.daemon.waitsFor c = some (id, task) := Daemon.waitsFor_eq k.here
    obtain ⟨got, ran, brings⟩ | ⟨early, -⟩ := k.conclude ops .whole
    · exact finishes_ran ops resumes (.inr rfl) ran fun small => brings (.inr ⟨rfl, small⟩)
    obtain ⟨stage', now, runs⟩ := (k.patient.awaited c id task waits).runs early
    obtain rfl : stage = stage' := by simpa using there.symm.trans now
    by_cases held : ∃ device, stage = .opening device ∧ ops.isHeld w.daemon.manager.host = true
    · obtain ⟨device, rfl, held⟩ := held
      have stage : w.daemon.manager.openings.stage? task = some (.opening device) := by
        simp [Opening.State.stage?, there]
      exact .heldUp (.opening waits stage held)
    · obtain ⟨manager, goes, later, task', fewer⟩ := Manager.advance_onward ops there runs
        fun device same => by simpa using fun held' => held ⟨device, same, held'⟩
      have brings := k.quietly ops (m := .advance task) rfl k.here k.place rfl
      have after : (w.step ops c (.daemon (.advance task))).daemon.manager = manager := by
        simp [World.step, Daemon.Move.isCall, Daemon.State.step, goes]
      exact brings.finishes ops rfl rfl
        (ih _ (size ▸ fewer) brings.kept later (by rw [after]; exact task') rfl)

theorem Kept.finishes_queued (resumes : Resumes ops c s.waiting)
    (k : Kept c w ⟨s, .asked p, done, some (caller, p), none⟩) : Finishes ops c w := by
  obtain ⟨got, ran, brings⟩ | ⟨id, task, brings⟩ := k.serve ops .whole
  · exact finishes_ran ops resumes (.inl rfl) ran fun small => brings (.inr ⟨rfl, small⟩)
  · exact brings.finishes ops rfl (by simp [Turn.isOwn]) (brings.kept.finishes_opening ops resumes)

theorem Kept.finishes_asked (resumes : Resumes ops c s.waiting)
    (k : Kept c w ⟨s, .calm [] [] (.waiting ⟨.ofPayload p, []⟩) [] .idle, done, some (caller, p),
      none⟩) : Finishes ops c w := by
  have self : (w.daemon.step ops (.enqueue c)).connections[c]? = some (.asked p) := by
    simp [Daemon.State.step, Daemon.State.modify, k.here]
    rfl
  have brings := k.quietly ops (m := .enqueue c) rfl self k.place.enqueue rfl
  exact brings.finishes ops rfl (by simp [Turn.isOwn]) (brings.kept.finishes_queued ops resumes)

theorem Kept.finishes_sent {r : Receiver Passed} (resumes : Resumes ops c s.waiting)
    (run : s.running = some (caller, .receiving r))
    (k : Kept c w ⟨s, .calm [] chunks (.frame q) [] .idle, done, some (caller, p), none⟩) :
    Finishes ops c w := by
  generalize size : (bytesOf chunks).length = n
  induction n using Nat.strongRecOn generalizing w q chunks with
  | ind n ih =>
    have self : (w.daemon.step ops (.read c 1)).connections[c]? =
        some ((Connection.calm [] chunks (.frame q) [] .idle).read 1) := by
      simp [Daemon.State.step, Daemon.State.modify, k.here]
    have brings := k.quietly ops (m := .read c 1) rfl self (k.place.read 1) rfl
    refine brings.finishes ops rfl (by simp [Turn.isOwn]) ?_
    have kept := brings.kept
    cases k.place with
    | asking running unsent command arriving =>
      rw [run] at running
      cases running
      cases unsent
      obtain ⟨-, empty⟩ | ⟨q', chunks', same, -, fewer⟩ | ⟨-, same⟩ := read_asking arriving 1
      · exact absurd empty arriving.under_way
      · rw [same] at kept
        exact ih _ (size ▸ fewer Nat.one_pos) kept rfl
      · rw [same] at kept
        exact kept.finishes_asked ops resumes

theorem Kept.finishes_begun {left : List UInt8} (resumes : Resumes ops c s.waiting)
    (run : s.running = some (caller, .sending ⟨left, []⟩)) (more : left ≠ [])
    (k : Kept c w ⟨s, .calm [] chunks (.frame q) [] .idle, done, some (caller, p), none⟩) :
    Finishes ops c w := by
  have brings := k.sends ops run (n := left.length) (by simpa using more)
  refine .step (.consumer (.client (.send (.bytes left.length)))) rfl ?_ ?_
  · simpa [World.Smooth, Client.Move.isSmooth] using more
  · have kept := brings.kept
    simp only [List.drop_length, List.isEmpty_nil, if_true] at kept
    exact kept.finishes_sent ops (s := { s with running := some (caller, .receiving .start) })
      resumes rfl

theorem resumes (line : List (Nat × Payload)) : Resumes ops c line := by
  induction line with
  | nil =>
    intro w s done k nobody
    cases k.place with
    | idle free => exact .idle k.client free nobody
  | cons first later ih =>
    intro w s done k line
    obtain ⟨caller, p⟩ := first
    have brings := k.begins ops line
    refine .step (.consumer (.client .begin)) rfl rfl ?_
    exact brings.kept.finishes_begun ops (s := begun s caller p later) ih rfl (wrap_ne_nil _)

/-- Wherever a command is, it comes to its end, and all those after it. -/
theorem Kept.finishes (k : Kept c w x) : Finishes ops c w := by
  obtain ⟨s, conn, done, current, got⟩ := x
  have after := resumes (c := c) ops s.waiting
  cases k.place with
  | idle => exact after _ _ _ k rfl
  | asking run unsent =>
    cases unsent with
    | part more => exact k.finishes_begun ops after run more
    | none => exact k.finishes_sent ops after run
  | asked => exact k.finishes_asked ops after
  | queued => exact k.finishes_queued ops after
  | opening => exact k.finishes_opening ops after
  | answered => exact k.finishes_answered ops after

-- ---------------------------------------------------------------------------
-- Runs
-- ---------------------------------------------------------------------------

theorem kept_run {start : World σ} (k : Kept c start x) (turns : List (Turn σ))
    (smooth : ∀ z ∈ Run.record (World.step ops c) start turns, z.1.Smooth ops c z.2) :
    ∃ y, Kept c (Run.last (World.step ops c) start turns) y ∧
      y.calls = x.calls ++ callsIn (Run.record (World.step ops c) start turns) ∧
      y.ran = x.ran ++ ranIn ops c (Run.record (World.step ops c) start turns) := by
  refine Run.induction (World.step ops c) (P := fun w past =>
    (∀ z ∈ past, z.1.Smooth ops c z.2) →
      ∃ y, Kept c w y ∧ y.calls = x.calls ++ callsIn past ∧ y.ran = x.ran ++ ranIn ops c past) []
    (fun _ => ⟨x, k, by simp [callsIn], by simp [ranIn]⟩) (fun w past turn ih smooth => ?_) turns
    smooth
  obtain ⟨y, k, calls, ran⟩ := ih fun z hz => smooth z (List.mem_append_left _ hz)
  obtain ⟨z, kept, callsToo, ranToo⟩ := k.step ops (smooth (w, turn) (by simp))
  refine ⟨z, kept, ?_, ?_⟩
  · rw [callsToo, calls, callsIn, callsIn, filterMap_concat, List.append_assoc]
  · rw [ranToo, ran, ranIn, ranIn, filterMap_concat, List.append_assoc]

theorem own_call {turn : Turn σ} (own : turn.isOwn c) : turn.call? = none := by
  cases turn with
  | daemon m => rfl
  | consumer m =>
    cases m with
    | client m =>
      cases m with
      | call => cases own
      | _ => rfl
    | _ => rfl

theorem callsIn_own {turns : List (Turn σ)} (own : ∀ turn ∈ turns, turn.isOwn c) :
    callsIn (Run.record (World.step ops c) w turns) = [] := by
  refine List.filterMap_eq_nil_iff.mpr fun ⟨v, turn⟩ there => ?_
  have mem := List.mem_map_of_mem (f := Prod.snd) there
  rw [Run.moves_record] at mem
  exact own_call (own turn mem)

theorem Finishes.turns (h : Finishes ops c w) : ∃ turns, (∀ turn ∈ turns, turn.isOwn c) ∧
    (∀ z ∈ Run.record (World.step ops c) w turns, z.1.Smooth ops c z.2) ∧
    (HeldUp ops c (Run.last (World.step ops c) w turns) ∨
      ∃ s, (Run.last (World.step ops c) w turns).consumer = .client s ∧ s.running = none ∧
        s.waiting = []) := by
  induction h with
  | @idle w s client free nobody =>
    exact ⟨[], List.forall_mem_nil _, List.forall_mem_nil _, .inr ⟨s, client, free, nobody⟩⟩
  | heldUp heldUp => exact ⟨[], List.forall_mem_nil _, List.forall_mem_nil _, .inl heldUp⟩
  | @step w turn own smooth later ih =>
    obtain ⟨turns, owns, smooths, ends⟩ := ih
    exact ⟨turn :: turns, List.forall_mem_cons.mpr ⟨own, owns⟩,
      List.forall_mem_cons.mpr ⟨smooth, smooths⟩, ends⟩

theorem Place.roster {got : Option Ran} (place : Place s conn current got) :
    (s.running.map (·.1)).toList = current.toList.map (·.1) := by
  cases place with
  | idle free => simp [free]
  | asking run | asked run | queued run | opening run | answered run => simp [run]

theorem Place.got_prefix {got : Option Ran} (place : Place s conn current got) :
    got.toList.map (·.command.payload) <+: current.toList.map (·.2) := by
  cases place with
  | answered => exact List.prefix_refl _
  | _ => exact List.nil_prefix

theorem Kept.roster (k : Kept c w x) : x.client.roster = x.calls.map (·.1) := by
  simp [State.roster, k.returned, k.place.roster, Course.calls, Function.comp_def]

-- ---------------------------------------------------------------------------
-- All calls
-- ---------------------------------------------------------------------------

theorem Kept.transparent (k : Kept c w x) : Transparent ops c w x.client x.calls x.ran where
  same i caller result h := by
    rw [k.returned, List.getElem?_map] at h
    obtain ⟨d, there, same⟩ := Option.map_eq_some_iff.mp h
    cases same
    refine ⟨d.2, getElem?_of_prefix (List.prefix_append _ _) (by simp [there]), ?_,
      d.2.answer_reply⟩
    rw [Course.calls, List.append_assoc]
    exact getElem?_of_prefix (List.prefix_append _ _) (by simp [there])
  inOrder := by
    obtain ⟨rest, more⟩ := k.place.got_prefix
    refine ⟨rest ++ x.client.waiting.map (·.2), ?_⟩
    simp [Course.ran, Course.calls, ← more, Function.comp_def]
  line := k.roster
  returns := by
    obtain ⟨turns, own, smooth, ends⟩ := (k.finishes ops).turns
    refine ⟨turns, own, smooth, ends.imp_right ?_⟩
    rintro ⟨t, client, free, nobody⟩
    refine ⟨t, client, ?_⟩
    obtain ⟨y, kept, calls, -⟩ := kept_run ops k turns smooth
    obtain rfl : t = y.client := by simpa [client] using kept.client
    have roster := kept.roster
    rw [calls, callsIn_own ops own, List.append_nil] at roster
    rw [← roster]
    simp [State.roster, free, nobody]

theorem kept_start (host : σ) (filter : DeviceFilter) (registered : Bool) (limit : Duration)
    (duplication : Except String Unit) (timeout : Duration) (before : List (Daemon.Move σ))
    {daemon : Daemon.State σ} (hdaemon : daemon = Run.last (Daemon.State.step ops)
      (.start (.start host filter registered limit duplication)) before) :
    Kept daemon.connections.length (.start daemon timeout)
      ⟨.start timeout, .resting .idle, [], none, none⟩ := by
  have run : daemon.Patient ∧ ∃ handed, Daemon.Attended daemon handed := by
    rw [hdaemon]
    refine Run.invariant (Daemon.State.step ops)
      (P := fun s => s.Patient ∧ ∃ handed, Daemon.Attended s handed)
      ⟨Daemon.patient_start _, [], Daemon.attended_start host filter registered limit duplication⟩
      (fun s m h => ?_) before
    obtain ⟨patient, handed, attended⟩ := h
    have deals := Daemon.step_deals ops s m
    exact ⟨deals.patient patient, _, deals.attended attended⟩
  obtain ⟨patient, handed, attended⟩ := run
  have deals := Daemon.step_deals ops daemon .accept
  exact
    { client := rfl
      here := by simp [World.start, Daemon.State.accept]; rfl
      place := .idle rfl rfl
      patient := deals.patient patient
      attended := ⟨_, deals.attended attended⟩
      returned := rfl
      line := List.forall_mem_nil _ }

/-- Whatever else goes on in the daemon and around it, as long as nothing goes wrong for the client
itself. -/
theorem commands_transparent (host : σ) (filter : DeviceFilter) (registered : Bool)
    (limit : Duration) (duplication : Except String Unit) (timeout : Duration)
    (before : List (Daemon.Move σ)) (turns : List (Turn σ)) {daemon : Daemon.State σ}
    {start last : World σ} {record : List (World σ × Turn σ)}
    (hdaemon : daemon = Run.last (Daemon.State.step ops)
      (.start (.start host filter registered limit duplication)) before)
    (hstart : start = .start daemon timeout)
    (hlast : last = Run.last (World.step ops daemon.connections.length) start turns)
    (hrecord : record = Run.record (World.step ops daemon.connections.length) start turns)
    (smooth : ∀ z ∈ record, z.1.Smooth ops daemon.connections.length z.2) :
    ∃ s, last.consumer = .client s ∧ Transparent ops daemon.connections.length last s
      (callsIn record) (ranIn ops daemon.connections.length record) := by
  subst hlast hrecord hstart
  have first := kept_start ops host filter registered limit duplication timeout before hdaemon
  obtain ⟨x, kept, calls, ran⟩ := kept_run ops first turns smooth
  have transparent := kept.transparent ops
  rw [calls, ran] at transparent
  exact ⟨x.client, kept.client, transparent⟩

end

open Daemon (bareHost bareStart)

def client? : Subscriber α → Option (State α)
  | .client s => some s
  | _ => none

def disk : Device := ⟨1, 4, some "1-2", 0x0951, 0x1666, 1, false⟩

def diskHost : Host Unit := { bareHost with devices := fun _ => .ok [disk] }

/-- One caller opens the device, and another one lists devices. The first request is sent and read
in pieces while the other call is in line. -/
def sharing : List (Turn Unit) :=
  [.consumer (.client (.call 0 (.openRequest disk.identity))), .consumer (.client .begin),
    .consumer (.client (.call 1 .listDevicesRequest)), .consumer (.client (.send (.bytes 6))),
    .daemon (.read 0 4), .consumer (.client (.send (.bytes 64))), .daemon (.read 0 64),
    .daemon (.read 0 64), .daemon (.enqueue 0), .daemon (.serve 0 .whole), .daemon (.advance 0),
    .daemon (.advance 0), .daemon (.advance 0), .daemon (.advance 0), .daemon (.advance 0),
    .daemon (.conclude 0 .whole), .consumer (.client (.receive 4)),
    .consumer (.client (.receive 64)), .consumer (.client .begin),
    .consumer (.client (.send (.bytes 64))), .daemon (.read 0 4), .daemon (.read 0 64),
    .daemon (.enqueue 0), .daemon (.serve 0 .whole), .consumer (.client (.receive 4)),
    .consumer (.client (.receive 64))]

/-- Both calls return, the first one with the file of the connection that was opened. -/
theorem disk_transparent :
    (∀ z ∈ Run.record (World.step diskHost 0) (.start bareStart ⟨0⟩) sharing,
      z.1.Smooth diskHost 0 z.2) ∧
    ∃ s, (Run.last (World.step diskHost 0) (.start bareStart ⟨0⟩) sharing).consumer = .client s ∧
      (s.returned.map fun d => (d.1, rightsKept ((Command.openDevice disk.identity).answer d.2))) =
        [(0, [.device 0]), (1, [])] ∧
      Transparent diskHost 0 (Run.last (World.step diskHost 0) (.start bareStart ⟨0⟩) sharing) s
        (callsIn (Run.record (World.step diskHost 0) (.start bareStart ⟨0⟩) sharing))
        (ranIn diskHost 0 (Run.record (World.step diskHost 0) (.start bareStart ⟨0⟩) sharing)) := by
  have smooth : ∀ z ∈ Run.record (World.step diskHost 0) (.start bareStart ⟨0⟩) sharing,
      z.1.Smooth diskHost 0 z.2 := by decide +kernel
  have kept : ((Run.last (World.step diskHost 0) (.start bareStart ⟨0⟩)
      sharing).consumer.client?.map fun s => s.returned.map fun d =>
        (d.1, rightsKept ((Command.openDevice disk.identity).answer d.2))) =
      some [(0, [.device 0]), (1, [])] := by decide +kernel
  obtain ⟨s, client, transparent⟩ := commands_transparent diskHost () .allowAll true ⟨0⟩ (.ok ())
    ⟨0⟩ [] sharing rfl rfl rfl rfl smooth
  have last : (Run.last (World.step diskHost 0) (.start bareStart ⟨0⟩) sharing).consumer =
      .client s := client
  rw [last] at kept
  exact ⟨smooth, s, last, Option.some.inj kept, transparent⟩

end UsbBridge.Client.Subscriber
