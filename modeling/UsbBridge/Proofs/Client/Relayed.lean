import UsbBridge.Proofs.Client.Served

/-!
# A consumer's feed is the relay's feed

Every turn keeps a consumer in step with the daemon, or leaves it lost (`sound_run`). What was said
to a consumer that has become a feed is the replies to its commands and then the feed of its one
subscription (`Streamed`), and what its calls for the next event have returned follows that. So it
gets the events that the relay put on the subscription, in order and each of them once, and then the
true end (`feed_relayed`).
-/

namespace UsbBridge.Client.Subscriber

open Socket
open Receiver (Reading)
open Daemon (Passed Connection History Seated Streaming Orderly said)
open UsbBridge.Frame (limit)

-- ---------------------------------------------------------------------------
-- What was said
-- ---------------------------------------------------------------------------

/-- The feed of the only subscription that a connection had is what was said after the replies: of
the events that the relay put on it the first so many, and after all of them the end. -/
structure Streamed {σ : Type} (c : Nat) (w : World σ) (had : List Nat) (n : Nat) (f : Relay.Feed)
    (replies : List Payload) (events : List HotplugEvent) (ends : List EndReason) : Prop where
  once : n ∈ had
  other : ∀ k ∈ had, k = n
  feed : w.daemon.relay.feeds[n]? = some f
  /-- Requests for the end that come after it are answered with further ends. -/
  said : said w.written =
    replies ++ .subscribed :: (events.map .notification ++ ends.map .streamEnded)
  plain : ∀ q ∈ replies, q.isHotplug = false
  part : events <+: f.events
  closed : ∀ r, ends.head? = some r → f.ending = some r ∧ events = f.events
  /-- Until the end what was said is what the handler has read. -/
  going : ends = [] → w.daemon.heldBy c = some n ∧ f.held = true ∧ events = f.events.take f.read

theorem first_events {events es : List HotplugEvent} {more : List Payload} {ends : List EndReason}
    (h : events.map .notification ++ more = es.map .notification ++ ends.map .streamEnded) :
    ∃ later, es = events ++ later ∧ more = later.map .notification ++ ends.map .streamEnded := by
  induction events generalizing es with
  | nil => exact ⟨es, rfl, h⟩
  | cons e events ih =>
    cases es with
    | nil => cases ends <;> simp at h
    | cons e' es =>
      obtain ⟨same, further⟩ := List.cons.inj h
      obtain ⟨later, rfl, last⟩ := ih further
      cases same
      exact ⟨later, rfl, last⟩

section
variable {σ : Type} (ops : Host σ) {c n : Nat} {w : World σ} {past : List Nat} {conn : Connection}
variable {h : History} {asked got told first : List Payload} {unsent part : List UInt8}
variable {s t : State Passed} {p : Payload} {r : EndReason} {m : Client.Move}

theorem Joined.streamed (j : Joined c w past conn h asked unsent got part)
    (orderly : Orderly (asked.map Message.ofPayload)) (subscribed : .subscribed ∈ got) :
    ∃ n f replies events ends, Streamed c w past n f replies events ends := by
  have asks : Orderly h.taken := orderly.part (j.serving.taken_prefix j.sent)
  have mem : Payload.subscribed ∈ (said w.written).filter (·.isHotplug) := by
    rw [j.heard.said_eq]
    exact List.mem_filter.mpr ⟨List.mem_append_left _ subscribed, rfl⟩
  have whole {rest : List Payload}
      (hot : (said w.written).filter (·.isHotplug) = .subscribed :: rest) :=
    Daemon.stream_last asks j.accounted hot
  have streaming := j.streaming
  generalize hheld : w.daemon.heldBy c = held at streaming
  cases streaming with
  | silent never unasked nothing => simp [nothing] at mem
  | @going n f one feed holds so =>
    obtain ⟨replies, said, plain⟩ := whole so
    exact ⟨n, f, replies, f.events.take f.read, [], one.once, one.other, feed, by simp [said],
      plain, List.take_prefix _ _, nofun, fun _ => ⟨hheld, holds, rfl⟩⟩
  | @closed n f reason k one feed left ending so =>
    obtain ⟨replies, said, plain⟩ := whole so
    refine ⟨n, f, replies, f.events, reason :: List.replicate k .cancelled, one.once, one.other,
      feed, by simp [said], plain, List.prefix_refl _, fun r hr => ?_, nofun⟩
    obtain rfl := Option.some.inj hr
    exact ⟨ending, rfl⟩

/-- What a consumer was told after it had subscribed, with what it has not heard yet, is the
stream. -/
theorem Streamed.of_heard {f : Relay.Feed} {replies before rest : List Payload}
    {events : List HotplugEvent} {ends : List EndReason}
    (streamed : Streamed c w past n f replies events ends)
    (heard : Daemon.said w.written = before ++ .subscribed :: told ++ rest) :
    told ++ rest = events.map .notification ++ ends.map .streamEnded := by
  rw [streamed.said, List.append_assoc, List.cons_append] at heard
  have absent : Payload.subscribed ∉ replies := fun mem => by cases streamed.plain _ mem
  obtain ⟨-, -, all⟩ := (List.append_cons_inj_of_notMem absent (by simp)).mp heard
  exact all.symm

-- ---------------------------------------------------------------------------
-- Moves of the consumer
-- ---------------------------------------------------------------------------

/-- A consumer is in step with the daemon, or will never read an event. -/
inductive Sound (c : Nat) (past : List Nat) (w : World σ) : Prop
  | inStep {conn : Connection} {h : History} {asked got : List Payload} {unsent part : List UInt8}
      (joined : Joined c w past conn h asked unsent got part)
      (stage : Stage w.consumer asked unsent got part) : Sound c past w
  | lost (lost : Lost w.consumer) : Sound c past w

theorem Joined.exchange (j : Joined c w past conn h asked unsent got part)
    (standing : s.Standing unsent part) (own : m.isExchange) :
    ((s.step conn.link.flip m).1.Spoilt ∧
      ∃ caller e, (s.step conn.link.flip m).1.returned = s.returned ++ [(caller, .error e)]) ∨
    ∃ begun heard unsentToo partToo,
      Onward s (s.step conn.link.flip m).1 begun heard unsentToo partToo ∧
      ∀ y, ∃ next h', Joined c (w.put c y (s.step conn.link.flip m).2) past next h' (asked ++ begun)
        unsentToo (got ++ heard) partToo := by
  have goes := standing.step (l := conn.link.flip) (m := m) j.heard j.framed own
  generalize s.step conn.link.flip m = result at goes
  cases goes with
  | rests =>
    refine .inr ⟨[], [], unsent, part, ⟨standing, rfl, .inl ⟨rfl, rfl⟩⟩, fun y => ⟨conn, h, ?_⟩⟩
    rw [List.append_nil, List.append_nil]
    exact j.stays y
  | @begins t caller request quiet begun line returned small =>
    obtain ⟨rfl, rfl⟩ := quiet
    refine .inr ⟨[request], [], request.frame, [], ⟨begun, by simp [line], .inl ⟨rfl, returned⟩⟩,
      fun y => ⟨conn, h, ?_⟩⟩
    rw [List.append_nil]
    exact j.asks y small
  | @sends t sent rest parts nonempty standing line returned =>
    refine .inr ⟨[], [], rest, part, ⟨standing, by simp [line], .inl ⟨rfl, returned⟩⟩, fun y => ?_⟩
    rw [List.append_nil, List.append_nil]
    exact j.sends y parts nonempty
  | @reads t bytes left standing heard line returned =>
    refine .inr ⟨[], [], unsent, part ++ bytes, ⟨standing, by simp [line], .inl ⟨rfl, returned⟩⟩,
      fun y => ?_⟩
    rw [List.append_nil, List.append_nil]
    exact j.reads y heard
  | @answers t caller p rights left quiet answered next heard line returned =>
    obtain rfl := quiet
    refine .inr ⟨[], [p], [], [], ⟨answered, by simp [line], .inr ⟨p, caller, rights, rfl, rfl, rfl,
      returned⟩⟩, fun y => ?_⟩
    rw [List.append_nil]
    exact j.reads y heard
  | @fails t link caller e spoilt returned => exact .inl ⟨spoilt, caller, e, returned⟩

theorem Joined.client (j : Joined c w past conn h asked unsent got part)
    (standing : s.Standing unsent part)
    (plain : ∀ p ∈ asked ++ s.waiting.map (·.2), p.isCommand) (own : m.isCommand) :
    Sound c past (w.put c (.client (s.step conn.link.flip m).1) (s.step conn.link.flip m).2) := by
  by_cases exchange : m.isExchange
  · obtain ⟨spoilt, -⟩ | ⟨begun, heard, unsentToo, partToo, onward, joined⟩ :=
      j.exchange standing exchange
    · exact .lost (.client spoilt)
    · obtain ⟨next, h', joined⟩ := joined (.client (s.step conn.link.flip m).1)
      refine .inStep joined (.client onward.standing ?_)
      rwa [List.append_assoc, ← onward.line]
  · cases m with
    | begin | send | receive | interrupt | expire => exact absurd rfl exchange
    | call caller request =>
      refine .inStep (j.stays _) (.client (standing.congr rfl rfl) ?_)
      show ∀ p ∈ asked ++ (s.waiting ++ [(caller, request)]).map (·.2), p.isCommand
      rw [List.map_append, ← List.append_assoc]
      exact List.forall_mem_append.mpr ⟨plain, List.forall_mem_singleton.mpr own⟩
    | abandon caller =>
      have fewer : (s.abandon caller).waiting.map (·.2) ⊆ s.waiting.map (·.2) :=
        List.map_subset _ (List.filter_subset_self _)
      obtain ⟨before, waiting⟩ := List.forall_mem_append.mp plain
      have plainToo : ∀ p ∈ asked ++ (s.abandon caller).waiting.map (·.2), p.isCommand :=
        List.forall_mem_append.mpr ⟨before, fun p hp => waiting p (fewer hp)⟩
      cases kept : (s.abandon caller).running with
      | some exchange =>
        have same : (s.abandon caller).running = s.running := by
          rw [kept]
          exact (Option.filter_eq_some_iff.mp kept).1.symm
        exact .inStep (j.stays _) (.client (standing.congr same rfl) plainToo)
      | none =>
        cases standing with
        | idle free inStep => exact .inStep (j.stays _) (.client (.idle kept inStep) plainToo)
        | sending run out | receiving run out => exact .lost (.client ⟨kept, out⟩)

theorem Joined.asking (j : Joined c w past conn h asked unsent got part)
    (standing : s.Standing unsent part) (alone : s.roster = [Endpoint.caller])
    (fresh : s.returned = []) (last : asked ++ s.waiting.map (·.2) = first ++ [.subscribeRequest])
    (plain : ∀ p ∈ first, p.isCommand) (own : m.isExchange) :
    Sound c past (w.put c (settle (s.step conn.link.flip m).1 (s.step conn.link.flip m).2).1
      (settle (s.step conn.link.flip m).1 (s.step conn.link.flip m).2).2) := by
  have roster := (State.roster_step (l := conn.link.flip) own).trans alone
  obtain ⟨spoilt, caller, e, returned⟩ | ⟨begun, heard, unsentToo, partToo, onward, joined⟩ :=
    j.exchange standing own
  · rw [fresh, List.nil_append] at returned
    exact .lost (.settle spoilt (by simp [returned]) _)
  · generalize s.step conn.link.flip m = result at *
    obtain ⟨t, link⟩ := result
    obtain ⟨rfl, returned⟩ | ⟨p, caller, rights, rfl, rfl, rfl, returned⟩ := onward.returned
    · have still := returned.trans fresh
      rw [settle_none still]
      obtain ⟨next, h', joined⟩ := joined (.asking t)
      refine .inStep joined (.asking onward.standing roster still ?_ plain)
      rwa [List.append_assoc, ← onward.line]
    · replace returned : t.returned = [(caller, reply p rights)] := by simpa [fresh] using returned
      -- Nobody else called, so the reply is to the request for the subscription.
      obtain ⟨rfl, -, nobody⟩ : caller = Endpoint.caller ∧ t.running = none ∧ t.waiting = [] := by
        simpa [State.roster, returned] using roster
      obtain ⟨rfl, settled⟩ | settled := settle_reply (l := link) returned
      · rw [settled]
        obtain ⟨next, h', joined⟩ := joined (.feed .start [] [])
        have asks : asked ++ begun = first ++ [.subscribeRequest] := by
          rw [← last, onward.line, nobody, List.map_nil, List.append_nil]
        rw [asks] at joined
        have listening : Follows (.start : Feed Passed) (([] : List HotplugEvent).map .event)
            (([] : List HotplugEvent).map .notification) [] := .listening rfl Receiver.reading_start
        exact .inStep joined (.feed (k := 0) (List.forall_mem_nil _) plain listening)
      · rw [settled]
        exact .lost .gone

section
variable {f : Feed Passed} {cancels : List (Sender Passed)} {results : List NextEvent}
variable {replies : List Payload} {k : Nat}

/-- What comes next after some events is another one, or the end. -/
theorem Joined.nextTold {events : List HotplugEvent}
    (j : Joined c w past conn h asked unsent (replies ++ .subscribed :: events.map .notification)
      part)
    (orderly : Orderly (asked.map Message.ofPayload))
    (next : replies ++ .subscribed :: events.map .notification ++ [p] <+: said w.written) :
    (∃ e, p = .notification e) ∨ ∃ r, p = .streamEnded r := by
  obtain ⟨n, f, all, es, ends, streamed⟩ := j.streamed orderly (by simp)
  obtain ⟨rest, hrest⟩ := next
  rw [List.append_assoc] at hrest
  obtain ⟨later, -, following⟩ := first_events (streamed.of_heard hrest.symm)
  cases later with
  | nil =>
    cases ends with
    | nil => simp at following
    | cons r ends => exact .inr ⟨r, (List.cons.inj following).1⟩
  | cons e later => exact .inl ⟨e, (List.cons.inj following).1⟩

theorem Joined.next (j : Joined c w past conn h
      (first ++ .subscribeRequest :: List.replicate k .cancelRequest) (cancels.flatMap (·.bytes))
      (replies ++ .subscribed :: told) part)
    (whole : ∀ sender ∈ cancels, sender.rights = [] ∧ sender.bytes ≠ [])
    (plain : ∀ p ∈ first, p.isCommand) (follows : Follows f results told part) (most : Nat) :
    Sound c past (w.put c ((feed f cancels results).step conn.link.flip (.next most)).1
      ((feed f cancels results).step conn.link.flip (.next most)).2) := by
  have stage : Stage (.feed f cancels results)
      (first ++ .subscribeRequest :: List.replicate k .cancelRequest) (cancels.flatMap (·.bytes))
      (replies ++ .subscribed :: told) part := .feed whole plain follows
  have orderly := stage.orderly
  simp only [step]
  cases follows with
  | @ended events r calls ended =>
    have again : f.receive conn.link.flip most = (some (.ended r), f, conn.link.flip) := by
      rw [Feed.receive, ended]
    rw [again]
    have more : events.map NextEvent.event ++ List.replicate (calls + 1) (.ended r) ++
        (some (NextEvent.ended r)).toList =
        events.map .event ++ List.replicate (calls + 1 + 1) (.ended r) := by
      rw [List.append_assoc, List.replicate_succ' (n := calls + 1)]
      rfl
    rw [more]
    exact .inStep (j.stays _) (.feed whole plain (.ended ended))
  | @listening events part going reading =>
    rw [Feed.receive_going going]
    have hears := j.heard.receive j.framed reading most
    change Hears _ _ _ _ (f.reading.step? most conn.link.flip.incoming) at hears
    generalize f.reading.step? most conn.link.flip.incoming = result at hears
    cases hears with
    | blocked =>
      rw [Option.map_none, Option.getD_none, Option.toList_none, List.append_nil]
      exact .inStep (j.stays _) (.feed whole plain (.listening going reading))
    | @reading q bytes left further now =>
      obtain ⟨next, h', j⟩ := j.reads
        (.feed { f with reading := q } cancels (events.map .event)) now
      rw [Option.map_some, Option.getD_some, Feed.settle, Option.toList_none, List.append_nil]
      exact .inStep j (.feed whole plain (.listening going further))
    | @message p rights closed left next now =>
      have further {g : Feed Passed} {returned : List NextEvent}
          (heard : Follows g returned (events.map .notification ++ [p]) []) :
          Sound c past (w.put c (.feed g cancels returned)
            { conn.link.flip with incoming.chunks := left }) := by
        obtain ⟨next, h', j⟩ := j.reads (.feed g cancels returned) now
        rw [List.append_assoc, List.cons_append] at j
        exact .inStep j (.feed whole plain heard)
      rw [Option.map_some, Option.getD_some]
      obtain ⟨e, rfl⟩ | ⟨r, rfl⟩ := j.nextTold orderly next
      · have heard : Follows ({ f with reading := .start } : Feed Passed)
            ((events ++ [e]).map .event) ((events ++ [e]).map .notification) [] :=
          .listening going Receiver.reading_start
        rw [List.map_append, List.map_append] at heard
        exact further heard
      · have heard : Follows (⟨.start, some r⟩ : Feed Passed) (events.map .event ++ [.ended r])
            (events.map .notification ++ [.streamEnded r]) [] := .ended (k := 0) rfl
        exact further heard

theorem Joined.sending {sender : Sender Passed} (j : Joined c w past conn h
      (first ++ .subscribeRequest :: List.replicate k .cancelRequest)
      ((sender :: cancels).flatMap (·.bytes)) (replies ++ .subscribed :: told) part)
    (whole : ∀ x ∈ sender :: cancels, x.rights = [] ∧ x.bytes ≠ [])
    (plain : ∀ p ∈ first, p.isCommand) (follows : Follows f results told part) (n : Nat) :
    Sound c past (w.put c (send f results sender cancels conn.link.flip n).1
      (send f results sender cancels conn.link.flip n).2) := by
  obtain ⟨bytes, rights⟩ := sender
  obtain ⟨bare, more⟩ := whole _ List.mem_cons_self
  simp only at bare more
  subst bare
  by_cases blocked : n = 0
  · subst blocked
    have same : send f results ⟨bytes, []⟩ cancels conn.link.flip 0 =
        (.feed f (⟨bytes, []⟩ :: cancels) results, conn.link.flip) := by
      simp [send, Sender.step, Sender.isDone, more]
    rw [same]
    exact .inStep (j.stays _) (.feed whole plain follows)
  · have taken : bytes.take n ≠ [] := by simp [blocked, more]
    have hears : conn.link.flip.outgoing.receiving = true := j.hearing.2
    have sent : send f results ⟨bytes, []⟩ cancels conn.link.flip n = (.feed f
        (if (bytes.drop n).isEmpty then cancels else ⟨bytes.drop n, []⟩ :: cancels) results,
        { conn.link.flip with
          outgoing.chunks := conn.link.flip.outgoing.chunks ++ [⟨bytes.take n, []⟩] }) := by
      simp [send, blocked, Sender.step, Channel.send, hears, more, Sender.isDone]
    have all : (Sender.mk bytes [] :: cancels).flatMap (·.bytes) =
        bytes.take n ++ (bytes.drop n ++ cancels.flatMap (·.bytes)) := by
      rw [List.flatMap_cons, ← List.append_assoc, List.take_append_drop]
    obtain ⟨-, others⟩ := List.forall_mem_cons.mp whole
    rw [sent]
    cases left : bytes.drop n with
    | nil =>
      rw [left] at all
      obtain ⟨next, h', j⟩ := j.sends (.feed f cancels results) all taken
      exact .inStep j (.feed others plain follows)
    | cons b rest =>
      rw [left] at all
      obtain ⟨next, h', j⟩ := j.sends (.feed f (⟨b :: rest, []⟩ :: cancels) results) all taken
      have wholeToo : ∀ x ∈ Sender.mk (b :: rest) [] :: cancels, x.rights = [] ∧ x.bytes ≠ [] :=
        List.forall_mem_cons.mpr ⟨⟨rfl, List.cons_ne_nil b rest⟩, others⟩
      exact .inStep j (.feed wholeToo plain follows)

theorem Joined.cancel (j : Joined c w past conn h
      (first ++ .subscribeRequest :: List.replicate k .cancelRequest) (cancels.flatMap (·.bytes))
      (replies ++ .subscribed :: told) part)
    (whole : ∀ sender ∈ cancels, sender.rights = [] ∧ sender.bytes ≠ [])
    (plain : ∀ p ∈ first, p.isCommand) (follows : Follows f results told part) :
    Sound c past (w.put c ((feed f cancels results).step conn.link.flip .cancel).1
      ((feed f cancels results).step conn.link.flip .cancel).2) := by
  have small : (Message.ofPayload .cancelRequest).encode.length ≤ limit := by decide +kernel
  have asked : first ++ Payload.subscribeRequest :: List.replicate k .cancelRequest ++
      [.cancelRequest] = first ++ .subscribeRequest :: List.replicate (k + 1) .cancelRequest := by
    rw [List.append_assoc, List.cons_append, List.replicate_succ']
  have unsent : cancels.flatMap (·.bytes) ++ Payload.frame .cancelRequest =
      (cancels ++ [(canceller : Sender Passed)]).flatMap (·.bytes) := by
    simp [canceller]
  have joined := j.asks (.feed f (cancels ++ [canceller]) results) small
  rw [asked, unsent] at joined
  simp only [step, Sender.ofMessage, encode_cancel]
  refine .inStep joined (.feed (List.forall_mem_append.mpr ⟨whole, ?_⟩) plain follows)
  exact List.forall_mem_singleton.mpr ⟨rfl, List.cons_ne_nil _ _⟩

theorem Sound.consumer (sound : Sound c past w) (m : Move) :
    Sound c past (w.step ops c (.consumer m)) := by
  cases sound with
  | lost lost => exact .lost (lost.step _ m)
  | @inStep conn h asked got unsent part j stage =>
    have stepped : w.step ops c (.consumer m) = w.put c (w.consumer.step conn.link.flip m).1
        (w.consumer.step conn.link.flip m).2 := by
      rw [World.step, j.linkOf]
    rw [stepped]
    generalize w.consumer = x at stage
    -- What does not apply changes nothing.
    have rests : Sound c past (w.put c x conn.link.flip) := .inStep (j.stays x) stage
    cases stage with
    | @client s _ _ _ _ standing plain =>
      cases m with
      | client m =>
        simp only [step]
        split
        · exact j.client standing plain ‹_›
        · exact rests
      | subscribe =>
        simp only [step]
        split
        · rename_i idle
          obtain ⟨free, nobody⟩ : s.running = none ∧ s.waiting = [] := by simpa using idle
          cases standing with
          | sending run | receiving run => simp [free] at run
          | idle _ inStep =>
            have alone : (ask s).roster = [Endpoint.caller] := by simp [State.roster, ask, free]
            have last : asked ++ (ask s).waiting.map (·.2) = asked ++ [.subscribeRequest] := rfl
            refine .inStep (j.stays _) (.asking (.idle free inStep) alone rfl last ?_)
            simpa [nobody] using plain
        · exact rests
      | next | cancel | send => exact rests
    | @asking s _ _ _ _ _ standing alone fresh last plain =>
      cases m with
      | client m =>
        simp only [step]
        split
        · exact j.asking standing alone fresh last plain ‹_›
        · exact rests
      | subscribe | next | cancel | send => exact rests
    | @feed f cancels results first replies told k part whole plain follows =>
      cases m with
      | client | subscribe => exact rests
      | next most => exact j.next whole plain follows most
      | cancel => exact j.cancel whole plain follows
      | send n =>
        cases cancels with
        | nil => exact rests
        | cons sender later => exact j.sending whole plain follows n

-- ---------------------------------------------------------------------------
-- The whole of the feed
-- ---------------------------------------------------------------------------

def World.Drained (w : World σ) (c : Nat) : Prop :=
  ∃ conn, w.daemon.connections[c]? = some conn ∧ conn.handler = .idle ∧
    w.daemon.canForward conn = false ∧ conn.link.outgoing.chunks = []

/-- What the calls for the next event have returned to a consumer, against what the relay put on the
subscription of its connection. -/
structure Relayed (c : Nat) (past : List Nat) (w : World σ) (f : Feed Passed)
    (results : List NextEvent) (n : Nat) (feed : Relay.Feed) (events : List HotplugEvent)
    (ends : List EndReason) : Prop where
  /-- It had no other subscription, and was written the feed of that one after all replies. -/
  written : ∃ replies told reasons, Streamed c w past n feed replies told reasons
  returned : results = events.map .event ++ ends.map .ended
  reason : f.ended = ends.head?
  inOrder : events <+: feed.events
  /-- The end is the true one, after every event. -/
  whole : ∀ r ∈ ends, feed.ending = some r ∧ events = feed.events
  drained : w.Drained c → events = feed.events ∧ ends.head? = feed.ending

theorem Streamed.all_read {f : Relay.Feed} {replies : List Payload} {events : List HotplugEvent}
    (streamed : Streamed c w past n f replies events []) (seated : Seated w.daemon)
    (drained : w.Drained c) : events = f.events ∧ f.ending = none := by
  obtain ⟨held, reads, so⟩ := streamed.going rfl
  obtain ⟨conn, here, idle, nothing, -⟩ := drained
  rw [Daemon.heldBy_eq here] at held
  have isHeld : w.daemon.relay.isHeld n = true := (Relay.State.isHeld_eq streamed.feed).trans reads
  have pending := Daemon.recv_pending isHeld idle held nothing
  have next := (Relay.State.recv_feed streamed.feed pending).1
  have shaped := seated.seats.sound.shaped n f streamed.feed
  obtain ⟨ending, all⟩ := (Relay.Feed.next_spec shaped).2.2 next
  exact ⟨so.trans (List.take_of_length_le (Nat.le_of_eq all.symm)), ending⟩

theorem Joined.relayed
    (j : Joined c w past conn h asked unsent (replies ++ .subscribed :: told) part)
    (orderly : Orderly (asked.map Message.ofPayload)) (follows : Follows f results told part) :
    ∃ n feed events ends, Relayed c past w f results n feed events ends := by
  obtain ⟨n, feed, before, es, rs, streamed⟩ := j.streamed orderly (by simp)
  have following := streamed.of_heard j.heard.said_eq
  cases follows with
  | @listening events part going reading =>
    obtain ⟨later, rfl, more⟩ := first_events following
    refine ⟨n, feed, events, [], ⟨_, _, _, streamed⟩, by simp, going,
      (List.prefix_append _ _).trans streamed.part, nofun, fun drained => ?_⟩
    obtain ⟨conn', here, -, -, empty⟩ := id drained
    obtain rfl := Option.some.inj (here.symm.trans j.here)
    -- Nothing is under way, so the stream has nothing more.
    obtain ⟨n, short⟩ := reading.front
    rw [bytes_eq, empty, bytesOf_nil, List.append_nil, said_short short, eq_comm,
      List.append_eq_nil_iff, List.map_eq_nil_iff, List.map_eq_nil_iff] at more
    obtain ⟨rfl, rfl⟩ := more
    rw [List.append_nil] at streamed
    exact (streamed.all_read j.seated drained).imp_right Eq.symm
  | @ended events r calls ended =>
    rw [List.append_assoc] at following
    obtain ⟨later, rfl, more⟩ := first_events following
    cases later with
    | cons e later => cases (List.cons.inj more).1
    | nil =>
      cases rs with
      | nil => cases more
      | cons r' rs =>
        obtain ⟨same, -⟩ := List.cons.inj more
        cases same
        obtain ⟨ending, all⟩ := streamed.closed r rfl
        rw [List.append_nil] at all
        refine ⟨n, feed, events, List.replicate (calls + 1) r, ⟨_, _, _, streamed⟩, by simp, ended,
          all ▸ List.prefix_refl _, fun x hx => ?_, fun _ => ⟨all, ending.symm⟩⟩
        obtain rfl := List.eq_of_mem_replicate hx
        exact ⟨ending, all⟩

-- ---------------------------------------------------------------------------
-- Runs
-- ---------------------------------------------------------------------------

theorem Sound.counted (sound : Sound c past w) :
    Sound c (past ++ (w.daemon.heldBy c).toList) w := by
  cases sound with
  | inStep joined stage => exact .inStep joined.counted stage
  | lost lost => exact .lost lost

theorem Sound.step (sound : Sound c past w) {turn : Turn σ} (sends : ¬w.Fails ops c turn) :
    Sound c (past ++ ((w.step ops c turn).daemon.heldBy c).toList) (w.step ops c turn) := by
  cases turn with
  | consumer m => exact (sound.consumer ops m).counted
  | daemon m =>
    have same : (w.step ops c (.daemon m)).consumer = w.consumer := by
      rw [World.step]
      split <;> rfl
    by_cases own : m.isCall c
    · rw [World.step, if_pos own]
      exact sound.counted
    · cases sound with
      | lost lost => exact .lost (same ▸ lost)
      | inStep joined stage =>
        obtain ⟨next, h', joined⟩ := joined.daemon ops stage.orderly (by simpa using own) sends
        exact .inStep joined (same ▸ stage)

theorem sound_start {daemon : Daemon.State σ} (seated : Seated daemon.accept.2)
    (timeout : Duration) :
    Sound daemon.connections.length (had daemon.connections.length [.start daemon timeout])
      (.start daemon timeout) := by
  have here : daemon.accept.2.connections[daemon.connections.length]? = some .fresh := by
    simp [Daemon.State.accept]
  have unheld : daemon.accept.2.heldBy daemon.connections.length = none := Daemon.heldBy_eq here
  have intact : ¬(⟨[], [], [], []⟩ : History).Overflowed := by
    rintro ⟨installed, came⟩
    cases came
  have streaming : Streaming daemon.accept.2.relay
      (had daemon.connections.length [.start daemon timeout]) []
      ((said ([].flatMap Payload.frame)).filter (·.isHotplug))
      (daemon.accept.2.heldBy daemon.connections.length) := by
    have nothing : said ([].flatMap Payload.frame) = [] :=
      Daemon.said_frames (List.forall_mem_nil _)
    rw [unheld, nothing]
    exact .silent (by simp [had, World.start, unheld]) (List.forall_mem_nil _) rfl
  have joined : Joined daemon.connections.length (.start daemon timeout)
      (had daemon.connections.length [.start daemon timeout]) .fresh ⟨[], [], [], []⟩ [] [] [] [] :=
    { here := here
      seated := seated
      serving := Daemon.serving_fresh
      up := by decide
      hearing := ⟨rfl, rfl⟩
      bare := rfl
      intact := intact
      sent := ⟨rfl, List.forall_mem_nil _⟩
      written := rfl
      heard := ⟨rfl, List.forall_mem_nil _, rfl, solid_nil, List.forall_mem_nil _⟩
      streaming := streaming }
  exact .inStep joined (.client (.idle rfl rfl) (List.forall_mem_nil _))

theorem sound_run {start : World σ} (sound : Sound c (had c [start]) start) (turns : List (Turn σ))
    (sends : ∀ x ∈ Run.record (World.step ops c) start turns, ¬x.1.Fails ops c x.2) :
    Sound c (had c ((Run.record (World.step ops c) start turns).map (·.1) ++
      [Run.last (World.step ops c) start turns])) (Run.last (World.step ops c) start turns) := by
  refine Run.induction (World.step ops c) (P := fun w past => (∀ x ∈ past, ¬x.1.Fails ops c x.2) →
    Sound c (had c (past.map (·.1) ++ [w])) w) [] (fun _ => sound) (fun w past turn ih sends => ?_)
    turns sends
  have kept := (ih fun x hx => sends x (List.mem_append_left _ hx)).step ops
    (sends (w, turn) (by simp))
  have all : had c ((past ++ [(w, turn)]).map (·.1) ++ [w.step ops c turn]) =
      had c (past.map (·.1) ++ [w]) ++ ((w.step ops c turn).daemon.heldBy c).toList := by
    simp only [had, List.map_append, List.map_cons, List.map_nil, List.filterMap_append]
    cases held : (w.step ops c turn).daemon.heldBy c <;> simp [held]
  rwa [all]

/-- Whatever else goes on, as long as no send to it fails: a consumer that has subscribed gets the
events of its subscription, each of them once and in order, and then the true end. -/
theorem feed_relayed (host : σ) (filter : DeviceFilter) (registered : Bool) (limit : Duration)
    (duplication : Except String Unit) (timeout : Duration) (before : List (Daemon.Move σ))
    (turns : List (Turn σ)) {daemon : Daemon.State σ} {start last : World σ}
    {record : List (World σ × Turn σ)} {f : Feed Passed} {results : List NextEvent}
    (hdaemon : daemon = Run.last (Daemon.State.step ops)
      (.start (.start host filter registered limit duplication)) before)
    (hstart : start = .start daemon timeout)
    (hlast : last = Run.last (World.step ops daemon.connections.length) start turns)
    (hrecord : record = Run.record (World.step ops daemon.connections.length) start turns)
    (sends : ∀ x ∈ record, ¬x.1.Fails ops daemon.connections.length x.2)
    (subscribed : last.consumer.feed? = some (f, results)) :
    ∃ n feed events ends, Relayed daemon.connections.length
      (had daemon.connections.length (record.map (·.1) ++ [last])) last f results n feed events
      ends := by
  subst hlast hrecord hstart
  have seated : Seated daemon.accept.2 := by
    rw [hdaemon]
    exact (Daemon.seated_run ops (Daemon.seated_start host filter registered limit duplication) rfl
      before).1.step ops .accept
  have sound := sound_run ops (sound_start seated timeout) turns sends
  generalize Run.last (World.step ops daemon.connections.length) _ turns = last at *
  cases sound with
  | lost lost =>
    generalize last.consumer = x at lost subscribed
    cases lost <;> cases subscribed
  | inStep joined stage =>
    have orderly := stage.orderly
    generalize last.consumer = x at stage subscribed
    cases stage with
    | client | asking => cases subscribed
    | feed whole plain follows =>
      cases subscribed
      exact joined.relayed orderly follows

end

end

open Daemon (bareHost bareStart)

def stick : Device := ⟨1, 9, some "2-1", 0x0781, 0x5567, 1, false⟩

/-- A consumer subscribes in small pieces. A stick is plugged in, and the consumer asks for the end
while it reads that event. -/
def watching : List (Turn Unit) :=
  [.consumer .subscribe, .consumer (.client .begin), .consumer (.client (.send (.bytes 3))),
    .consumer (.client (.send (.bytes 5))), .daemon (.read 0 4), .daemon (.read 0 4),
    .daemon (.enqueue 0), .daemon (.serve 0 .whole), .daemon (.notify ⟨"add", stick⟩),
    .daemon .relay, .daemon .relay, .daemon (.forward 0 .whole), .consumer (.client (.receive 4)),
    .consumer (.client (.receive 4)), .consumer (.next 4), .consumer .cancel, .consumer (.send 5),
    .consumer (.next 7), .daemon (.read 0 4), .consumer (.send 3), .daemon (.read 0 4),
    .consumer (.next 64), .daemon (.enqueue 0), .daemon (.serve 0 .whole), .daemon .relay,
    .daemon (.forward 0 .whole), .consumer (.next 64), .consumer (.next 64)]

theorem stick_relayed :
    (∀ x ∈ Run.record (World.step bareHost 0) (.start bareStart ⟨0⟩) watching,
      ¬x.1.Fails bareHost 0 x.2) ∧
    ∃ f n feed events ends, f.ended = some .cancelled ∧
      (Run.last (World.step bareHost 0) (.start bareStart ⟨0⟩) watching).consumer.feed? =
        some (f, [.event ⟨.attached, stick.describe⟩, .ended .cancelled]) ∧
      Relayed 0 (had 0 ((Run.record (World.step bareHost 0) (.start bareStart ⟨0⟩) watching).map
          (·.1) ++ [Run.last (World.step bareHost 0) (.start bareStart ⟨0⟩) watching]))
        (Run.last (World.step bareHost 0) (.start bareStart ⟨0⟩) watching) f
        [.event ⟨.attached, stick.describe⟩, .ended .cancelled] n feed events ends := by
  have sends : ∀ x ∈ Run.record (World.step bareHost 0) (.start bareStart ⟨0⟩) watching,
      ¬x.1.Fails bareHost 0 x.2 := by decide +kernel
  have result : (Run.last (World.step bareHost 0) (.start bareStart ⟨0⟩)
      watching).consumer.feed?.map (fun x => (x.1.ended, x.2)) =
      some (some .cancelled, [.event ⟨.attached, stick.describe⟩, .ended .cancelled]) := by
    decide +kernel
  obtain ⟨⟨f, results⟩, subscribed, so⟩ := Option.map_eq_some_iff.mp result
  obtain ⟨ended, rfl⟩ := Prod.mk.inj so
  obtain ⟨n, feed, events, ends, relayed⟩ := feed_relayed bareHost () .allowAll true ⟨0⟩ (.ok ())
    ⟨0⟩ [] watching rfl rfl rfl rfl sends subscribed
  exact ⟨sends, f, n, feed, events, ends, ended, subscribed, relayed⟩

end UsbBridge.Client.Subscriber
