import UsbBridge.Proofs.Client.Stages

/-!
# A subscriber and the daemon

The daemon with all that goes on in it, and one consumer on its way to events (`World`). As long as
the consumer's exchanges are in step, every byte that either of them sends is received or under way,
what the handler takes is what the consumer asked, and what it says is the feed of the consumer's
subscription (`Joined`). This is kept by the moves of the daemon (`Joined.daemon`) and of the
consumer (`Joined.asks`, `Joined.sends`, `Joined.reads`).
-/

namespace UsbBridge

namespace Daemon

open Socket
open UsbBridge.Frame (limit)

-- ---------------------------------------------------------------------------
-- A connection whose consumer sends whole requests
-- ---------------------------------------------------------------------------

/-- What was sent of these requests, and what is left of them. -/
structure Sent (sent unsent : List UInt8) (asked : List Payload) : Prop where
  all : sent ++ unsent = asked.flatMap Payload.frame
  small : ∀ p ∈ asked, (Message.ofPayload p).encode.length ≤ limit

section
variable {conn next : Connection} {h x : History} {unsent : List UInt8} {asked : List Payload}
variable {relay : Relay.State} {rs : List Relay.Move} {channel : Channel Passed}

theorem Serving.heard_prefix (serving : Serving conn h) (sent : Sent h.sent unsent asked) :
    h.heard <+: asked.flatMap Payload.frame :=
  serving.intake.part.trans (sent.all ▸ List.prefix_append _ _)

theorem Serving.taken_prefix (serving : Serving conn h) (sent : Sent h.sent unsent asked) :
    h.taken <+: asked.map Message.ofPayload := by
  have read : h.taken <+: understood h.heard :=
    (List.prefix_append _ _).trans serving.intake.read_prefix
  have all := understood_prefix (serving.heard_prefix sent)
  rw [understood_frames sent.small] at all
  exact read.trans all

theorem Serving.goes_on (serving : Serving conn h) (sent : Sent h.sent unsent asked)
    (going : conn.link.incoming.sending = true) (intact : ¬h.Overflowed) :
    conn.reading ≠ .stopped := by
  intro stopped
  have intake := serving.intake
  rw [stopped] at intake
  cases intake with
  | stopped part so final =>
    obtain bad | ⟨-, shut⟩ | lost := final
    · -- All that was asked would be understood, and whatever is asked then.
      obtain ⟨rest, hrest⟩ := serving.heard_prefix sent
      have all := bad rest
      have more := bad (rest ++ Payload.frame .subscribed)
      rw [hrest, understood_frames sent.small] at all
      rw [← List.append_assoc, hrest, understood_append sent.small, ← all] at more
      have small : (Message.ofPayload .subscribed).encode.length ≤ limit := by decide +kernel
      have one : understood (Payload.frame .subscribed) = [Message.ofPayload .subscribed] := by
        simpa using understood_frames (List.forall_mem_singleton.mpr small)
      rw [one] at more
      exact absurd (congrArg List.length more) (by simp)
    · rw [going] at shut
      cases shut
    · exact intact lost

theorem Turn.stays (turn : Turn relay conn x rs next) (up : conn.handler ≠ .stopped)
    (goes : conn.reading ≠ .stopped) : next.handler ≠ .stopped := by
  cases turn with
  | rests | hears | far | reads | enqueues => exact up
  | works rights work => exact work.running
  | returns idle none ended => exact absurd ended goes

theorem Orderly.part {xs ys : List Message} (h : Orderly xs) (part : ys <+: xs) : Orderly ys := by
  obtain ⟨others, m, later, whole, rest⟩ := h
  exact ⟨others, m, later, part.trans whole, rest⟩

theorem receive_bare (solid : Solid channel.chunks) (bare : rightsOf channel.chunks = [])
    (room : Nat) : rightsOf (channel.receive room).2.chunks = [] ∧
      (channel.receive room).2.sending = channel.sending ∧
      (channel.receive room).2.receiving = channel.receiving ∧
      ∀ installed, (channel.receive room).1 ≠ .ready (.overflow installed) := by
  have receives := receive_receives channel room solid
  generalize channel.receive room = result at receives
  cases receives with
  | blocked | ended => exact ⟨bare, rfl, rfl, nofun⟩
  | data g =>
    have all := g.allRights
    rw [bare, eq_comm, List.append_eq_nil_iff] at all
    exact ⟨all.2, rfl, rfl, nofun⟩
  | overflow g many =>
    have all := g.allRights
    rw [bare, eq_comm, List.append_eq_nil_iff] at all
    simp [all.1] at many

theorem Near.takes (near : Near conn next) (solid : Solid conn.link.incoming.chunks)
    (bare : rightsOf conn.link.incoming.chunks = []) :
    rightsOf next.link.incoming.chunks = [] ∧
      next.link.incoming.sending = conn.link.incoming.sending ∧
      next.link.incoming.receiving = conn.link.incoming.receiving ∧
      gained conn.link.incoming next.link.incoming = [] := by
  obtain same | ⟨room, received⟩ := near.incoming
  · rw [same]
    exact ⟨bare, rfl, rfl, gained_self _⟩
  · obtain ⟨bare, going, hears, -⟩ := receive_bare solid bare room
    rw [received]
    exact ⟨bare, going, hears, gained_fewer (receive_fewer _ room).1⟩

theorem Turn.intact (turn : Turn relay conn x rs next) (solid : Solid conn.link.incoming.chunks)
    (bare : rightsOf conn.link.incoming.chunks = []) (intact : ¬h.Overflowed) :
    ¬(h ++ x).Overflowed := by
  rintro ⟨installed, came⟩
  rcases List.mem_append.mp came with old | new
  · exact intact ⟨installed, old⟩
  · cases turn with
    | rests | hears | far | enqueues | works | returns => cases new
    | reads frame got =>
      obtain rfl := List.mem_singleton.mp new
      exact (receive_bare solid bare _).2.2.2 installed (by rw [got])

end

theorem Seated.relink {σ : Type} {s : State σ} (seated : Seated s) (c : Nat)
    (relink : Link Passed → Link Passed) :
    Seated (s.modify c fun conn => { conn with link := relink conn.link }) := by
  have held : (s.modify c fun conn => { conn with link := relink conn.link }).heldBy =
      s.heldBy := by
    funext d
    simp only [State.heldBy, State.modify, List.getElem?_modify]
    split <;> cases s.connections[d]? <;> rfl
  refine ⟨held ▸ seated.seats, fun d conn hd => ?_⟩
  simp only [State.modify, List.getElem?_modify] at hd
  obtain ⟨before, hbefore, rfl⟩ := Option.map_eq_some_iff.mp hd
  have lives := seated.lives d before hbefore
  split <;> exact lives

end Daemon

namespace Client.Subscriber

open Socket
open Daemon (Passed Connection History Seated Serving Streaming Sent Orderly said)
open UsbBridge.Frame (limit)

-- ---------------------------------------------------------------------------
-- The world
-- ---------------------------------------------------------------------------

structure World (σ : Type) where
  daemon : Daemon.State σ
  consumer : Subscriber Passed
  /-- All bytes that the daemon has written to the consumer. -/
  written : List UInt8

inductive Turn (σ : Type) where
  /-- Anything that can happen in the daemon and around it, other consumers included. A handler
  writes a whole frame at once; the consumer receives it in any pieces, so that it does not matter
  in what pieces it was sent. -/
  | daemon (m : Daemon.Move σ)
  | consumer (m : Move)

section
variable {σ : Type} (ops : Host σ) (c : Nat)

namespace World

def start (daemon : Daemon.State σ) (timeout : Duration) : World σ :=
  ⟨daemon.accept.2, .start timeout, []⟩

def put (w : World σ) (consumer : Subscriber Passed) (link : Link Passed) : World σ :=
  ⟨w.daemon.modify c fun conn => { conn with link := link.flip }, consumer, w.written⟩

/-- Nobody but the consumer makes calls at its end of its connection. -/
def step (w : World σ) : Turn σ → World σ
  | .daemon m =>
    if m.isCall c then w
    else
      let daemon := w.daemon.step ops m
      ⟨daemon, w.consumer,
        w.written ++ Daemon.gained (w.daemon.linkOf c).outgoing (daemon.linkOf c).outgoing⟩
  | .consumer m =>
    let (consumer, link) := w.consumer.step (w.daemon.linkOf c).flip m
    w.put c consumer link

def Fails (w : World σ) : Turn σ → Prop
  | .daemon m => Daemon.GivesUp ops c w.daemon m
  | .consumer _ => False

instance (w : World σ) : DecidablePred (w.Fails ops c)
  | .daemon m => inferInstanceAs (Decidable (Daemon.GivesUp ops c w.daemon m))
  | .consumer _ => inferInstanceAs (Decidable False)

end World

/-- The subscriptions that the connection had in these states. -/
def had (worlds : List (World σ)) : List Nat := worlds.filterMap fun w => w.daemon.heldBy c

-- ---------------------------------------------------------------------------
-- In step
-- ---------------------------------------------------------------------------

/-- The consumer has asked these requests, of which these bytes are still unsent, and it has
received these payloads and these bytes of what comes next. -/
structure Joined (w : World σ) (had : List Nat) (conn : Connection) (h : History)
    (asked : List Payload) (unsent : List UInt8) (got : List Payload) (part : List UInt8) :
    Prop where
  here : w.daemon.connections[c]? = some conn
  seated : Seated w.daemon
  serving : Serving conn h
  up : conn.handler ≠ .stopped
  hearing : conn.link.incoming.sending = true ∧ conn.link.incoming.receiving = true
  bare : rightsOf conn.link.incoming.chunks = []
  intact : ¬h.Overflowed
  sent : Sent h.sent unsent asked
  written : h.written = w.written
  heard : Heard w.written conn.link.outgoing got part
  streaming : Streaming w.daemon.relay had h.taken ((said w.written).filter (·.isHotplug))
    (w.daemon.heldBy c)

variable {c} {w : World σ} {past : List Nat} {conn : Connection} {h : History}
variable {asked : List Payload} {unsent : List UInt8} {got : List Payload} {part : List UInt8}
variable {m : Daemon.Move σ}

theorem Joined.framed (j : Joined c w past conn h asked unsent got part) : Framed w.written := by
  obtain ⟨payloads, hwritten, small, -⟩ := j.serving.written
  exact ⟨payloads, j.written ▸ hwritten, small⟩

theorem Joined.accounted (j : Joined c w past conn h asked unsent got part) :
    Daemon.Accounted conn.handler h.taken (said w.written) := by
  obtain ⟨payloads, hwritten, small, accounted⟩ := j.serving.written
  rwa [← j.written, hwritten, Daemon.said_frames small]

theorem Joined.near (j : Joined c w past conn h asked unsent got part) (hm : m.isCall c = false)
    {next : Connection} (self : (w.daemon.step ops m).connections[c]? = some next)
    (up : next.handler ≠ .stopped) : Daemon.Near conn next := by
  by_cases own : m.connection? = some c
  · exact Daemon.step_near ops j.here own hm self up
  · obtain rfl := Option.some.inj ((Daemon.step_kept ops own j.here).symm.trans self)
    exact .refl conn

theorem Joined.linkOf (j : Joined c w past conn h asked unsent got part) :
    w.daemon.linkOf c = conn.link := by
  simp [Daemon.State.linkOf, j.here]

theorem Joined.counted (j : Joined c w past conn h asked unsent got part) :
    Joined c w (past ++ (w.daemon.heldBy c).toList) conn h asked unsent got part :=
  { j with streaming := j.streaming.stays }

theorem heard_more {channel next : Channel Passed} {written : List UInt8}
    {new : List (Chunk Passed)} (heard : Heard written channel got part)
    (going : next.sending = channel.sending)
    (more : next.chunks = channel.chunks ++ new) (solid : Solid new) (light : Light new) :
    Heard (written ++ Daemon.gained channel next) next got part := by
  have gained : Daemon.gained channel next = bytesOf new := by
    rw [Daemon.gained, more, List.drop_left]
  refine ⟨?_, heard.small, going.trans heard.going, ?_, ?_⟩
  · rw [gained, heard.all, bytes_eq, bytes_eq, more, bytesOf_append]
    simp only [List.append_assoc]
  · exact more ▸ solid_append.mpr ⟨heard.solid, solid⟩
  · exact more ▸ light_append.mpr ⟨heard.light, light⟩

theorem said_more {written new : List UInt8} {p : Option Payload} (framed : Framed written)
    (adds : new = p.toList.flatMap Payload.frame)
    (small : ∀ q ∈ p, (Message.ofPayload q).encode.length ≤ limit) :
    said (written ++ new) = said written ++ p.toList := by
  obtain ⟨payloads, rfl, smallToo⟩ := framed
  rw [Daemon.said_append smallToo, Daemon.said_frames smallToo, adds, Daemon.said_frames]
  simpa using small

theorem Joined.daemon (j : Joined c w past conn h asked unsent got part)
    (orderly : Orderly (asked.map Message.ofPayload)) (hm : m.isCall c = false)
    (sends : ¬Daemon.GivesUp ops c w.daemon m) : ∃ next h',
      Joined c (w.step ops c (.daemon m))
        (past ++ ((w.step ops c (.daemon m)).daemon.heldBy c).toList) next h' asked unsent got
        part := by
  obtain ⟨next, rs, self, goes⟩ := Daemon.step_turn ops j.here sends
  have serving := j.serving.turn goes.turn
  -- All that comes is whole requests, so the reader goes on, and the handler with it.
  have up := goes.turn.stays j.up (j.serving.goes_on j.sent j.hearing.1 j.intact)
  have serves : (w.daemon.step ops m).serves c := by simpa [Daemon.State.serves, self] using up
  obtain ⟨p, ms, hwritten, small, relay, sees⟩ := j.seated.sees ops j.here serves
  have near := j.near ops hm self up
  have stepped : w.step ops c (.daemon m) = ⟨w.daemon.step ops m, w.consumer,
      w.written ++ Daemon.gained conn.link.outgoing next.link.outgoing⟩ := by
    simp [World.step, hm, Daemon.State.linkOf, j.here, self]
  have one := Daemon.history_one ops j.here self
  have hgained := hwritten
  rw [one] at hgained
  obtain ⟨new, more, solid, light⟩ := near.outgoing
  obtain ⟨bare, going, hears, nothing⟩ := near.takes j.serving.solid j.bare
  have sent : Sent (h ++ Daemon.history ops c [(w.daemon, m)]).sent unsent asked := by
    rw [one, Daemon.History.sent_append, nothing, List.append_nil]
    exact j.sent
  rw [stepped]
  refine ⟨next, h ++ Daemon.history ops c [(w.daemon, m)],
    { here := self
      seated := j.seated.step ops m
      serving := serving
      up := up
      hearing := ⟨going.trans j.hearing.1, hears.trans j.hearing.2⟩
      bare := bare
      intact := goes.turn.intact j.serving.solid j.bare j.intact
      sent := sent
      written := ?_
      heard := heard_more j.heard near.going more solid light
      streaming := ?_ }⟩
  · rw [one, Daemon.History.written_append, j.written]
  · have taken := serving.taken_prefix sent
    rw [Daemon.History.taken_append, Daemon.history_taken] at taken ⊢
    rw [said_more j.framed hgained small, List.filter_append]
    exact j.streaming.step j.seated.seats.sound sees relay (orderly.part taken)

theorem Joined.moves (j : Joined c w past conn h asked unsent got part) {x : History}
    {askedToo : List Payload} {unsentToo : List UInt8} {gotToo : List Payload}
    {partToo : List UInt8} (consumer : Subscriber Passed) (link : Link Passed)
    (serving : Serving { conn with link := link.flip } (h ++ x))
    (quiet : x.deliveries = [] ∧ x.taken = [] ∧ x.written = [])
    (hearing : link.outgoing.sending = true ∧ link.outgoing.receiving = true)
    (bare : rightsOf link.outgoing.chunks = []) (sent : Sent (h ++ x).sent unsentToo askedToo)
    (heard : Heard w.written link.incoming gotToo partToo) :
    Joined c (w.put c consumer link) past { conn with link := link.flip } (h ++ x) askedToo
      unsentToo gotToo partToo := by
  have self : (w.put c consumer link).daemon.connections[c]? =
      some { conn with link := link.flip } := by
    simp [World.put, Daemon.State.modify, j.here]
  have held : (w.put c consumer link).daemon.heldBy c = w.daemon.heldBy c := by
    rw [Daemon.heldBy_eq self, Daemon.heldBy_eq j.here]
  refine
    { here := self
      seated := j.seated.relink c fun _ => link.flip
      serving := serving
      up := j.up
      hearing := hearing
      bare := bare
      intact := ?_
      sent := sent
      written := ?_
      heard := heard
      streaming := ?_ }
  · rintro ⟨installed, came⟩
    rcases List.mem_append.mp came with old | new
    · exact j.intact ⟨installed, old⟩
    · rw [quiet.1] at new
      cases new
  · rw [Daemon.History.written_append, quiet.2.2, List.append_nil, j.written]
    rfl
  · rw [Daemon.History.taken_append, quiet.2.1, List.append_nil, held]
    exact j.streaming

theorem Joined.stays (j : Joined c w past conn h asked unsent got part)
    (consumer : Subscriber Passed) :
    Joined c (w.put c consumer conn.link.flip) past conn h asked unsent got part := by
  have turn : Daemon.Turn w.daemon.relay conn ⟨[], [], [], []⟩ [] conn := .rests
  have sent : Sent (h ++ ⟨[], [], [], []⟩).sent unsent asked := by
    rw [Daemon.History.append_nil]
    exact j.sent
  have moved := j.moves consumer conn.link.flip (j.serving.turn turn) ⟨rfl, rfl, rfl⟩ j.hearing
    j.bare sent j.heard
  rwa [Daemon.History.append_nil] at moved

theorem Joined.asks (j : Joined c w past conn h asked unsent got part)
    (consumer : Subscriber Passed) {p : Payload}
    (small : (Message.ofPayload p).encode.length ≤ limit) :
    Joined c (w.put c consumer conn.link.flip) past conn h (asked ++ [p]) (unsent ++ p.frame) got
      part := by
  have sent : Sent h.sent (unsent ++ p.frame) (asked ++ [p]) := by
    refine ⟨?_, List.forall_mem_append.mpr ⟨j.sent.small, List.forall_mem_singleton.mpr small⟩⟩
    rw [← List.append_assoc, j.sent.all]
    simp
  exact { j.stays consumer with sent }

theorem Joined.sends (j : Joined c w past conn h asked unsent got part)
    (consumer : Subscriber Passed) {sent rest : List UInt8} (parts : unsent = sent ++ rest)
    (nonempty : sent ≠ []) : ∃ next h', Joined c (w.put c consumer { conn.link.flip with
      outgoing.chunks := conn.link.flip.outgoing.chunks ++ [⟨sent, []⟩] }) past next h' asked rest
      got part := by
  have turn : Daemon.Turn w.daemon.relay conn ⟨sent, [], [], []⟩ [] (conn.setIncoming
      { conn.link.incoming with chunks := conn.link.incoming.chunks ++ [⟨sent, []⟩] }) :=
    .hears j.hearing.1 nonempty
  refine ⟨_, _, j.moves consumer _ (j.serving.turn turn) ⟨rfl, rfl, rfl⟩ j.hearing ?_ ?_ j.heard⟩
  · show rightsOf (conn.link.incoming.chunks ++ [⟨sent, []⟩]) = []
    simp [j.bare]
  · refine ⟨?_, j.sent.small⟩
    rw [Daemon.History.sent_append, List.append_assoc, ← parts, j.sent.all]

theorem Joined.reads (j : Joined c w past conn h asked unsent got part)
    (consumer : Subscriber Passed) {gotToo : List Payload} {partToo : List UInt8}
    {left : List (Chunk Passed)}
    (heard : Heard w.written { conn.link.flip.incoming with chunks := left } gotToo partToo) :
    ∃ next h', Joined c (w.put c consumer { conn.link.flip with incoming.chunks := left }) past
      next h' asked unsent gotToo partToo := by
  have turn : Daemon.Turn w.daemon.relay conn ⟨[], [], [], []⟩ []
    { conn with link := ⟨{ conn.link.outgoing with chunks := left }, conn.link.incoming⟩ } :=
    .far rfl id
  exact ⟨_, _, j.moves consumer _ (j.serving.turn turn) ⟨rfl, rfl, rfl⟩ j.hearing j.bare
    (by simpa using j.sent) heard⟩

end

end Client.Subscriber

end UsbBridge
