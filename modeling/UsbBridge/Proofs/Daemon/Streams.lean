import UsbBridge.Proofs.Daemon.Completion
import UsbBridge.Proofs.Daemon.Subscriptions
import UsbBridge.Proofs.Relay.Attached

/-!
# What a connection says about its subscription

A consumer that asks for one subscription, after its other requests, and then only for the end of it
(`Orderly`) is told that it is subscribed, then the events that its handler has read of the feed,
and after all of them the end (`Streaming`). Every move keeps to that, whoever makes it
(`Streaming.step`), and no reply comes in between (`Streaming.said`).
-/

namespace UsbBridge

namespace Relay.State

section
variable {s : State} {m : Move} {n : Nat} {f : Feed} {rs : List Move} {e : HotplugEvent}
variable {r : EndReason}

-- ---------------------------------------------------------------------------
-- Feeds over several moves
-- ---------------------------------------------------------------------------

theorem unread_run (sound : s.Sound) (hf : s.feeds[n]? = some f) (held : f.held = true)
    (others : ∀ m ∈ rs, m ≠ .recv n ∧ m ≠ .drop n) :
    ∃ g, (Run.last move s rs).feeds[n]? = some g ∧ g.held = true ∧
      g.events.take g.read = f.events.take f.read := by
  induction rs generalizing s f with
  | nil => exact ⟨f, hf, held, rfl⟩
  | cons m ms ih =>
    obtain ⟨unread, kept⟩ := others m List.mem_cons_self
    obtain ⟨g, hg, c⟩ := move_feed sound hf m
    have shaped := sound.shaped n f hf
    obtain ⟨last, hlast, heldToo, same⟩ := ih (move_sound sound m) hg
      ((c.held_eq shaped kept).trans held) fun m hm => others m (List.mem_cons_of_mem _ hm)
    exact ⟨last, hlast, heldToo, same.trans (c.unread shaped unread)⟩

theorem frozen_move (sound : s.Sound) (hf : s.feeds[n]? = some f) (unheld : f.held = false)
    (quiet : f.fed = false) (m : Move) : (s.move m).feeds[n]? = some f := by
  obtain ⟨g, hg, c⟩ := move_feed sound hf m
  have unfed : f.fed ≠ true := by simp [quiet]
  cases c with
  | same => exact hg
  | drop => rwa [Feed.drop, ← unheld] at hg
  | leave => rwa [Feed.hangUp, ← quiet] at hg
  | event _ _ fed => exact absurd fed unfed
  | finish _ _ fed | forget _ _ fed => exact absurd fed unfed
  | read hm =>
    have still : s.move m = s := by simp [hm, move, recv, hf, unheld]
    rw [still]
    exact hf

theorem frozen_run (sound : s.Sound) (hf : s.feeds[n]? = some f) (unheld : f.held = false)
    (quiet : f.fed = false) (rs : List Move) : (Run.last move s rs).feeds[n]? = some f := by
  induction rs generalizing s with
  | nil => exact hf
  | cons m ms ih => exact ih (move_sound sound m) (frozen_move sound hf unheld quiet m)

theorem recv_feed {x : Received} (hf : s.feeds[n]? = some f) (got : (s.recv n).map (·.1) = some x) :
    f.next.1 = x ∧ f.held = true ∧ (s.move (.recv n)).feeds[n]? = some f.next.2 := by
  cases held : f.held with
  | false => simp [recv, hf, held] at got
  | true =>
    have hrecv : s.recv n = some (f.next.1, { s with feeds := s.feeds.set n f.next.2 }) := by
      simp [recv, hf, held]
    rw [hrecv, Option.map_some, Option.some.injEq] at got
    refine ⟨got, rfl, ?_⟩
    rw [move, hrecv]
    exact List.getElem?_set_self (List.getElem?_eq_some_iff.mp hf).1

theorem recv_event (sound : s.Sound) (hf : s.feeds[n]? = some f)
    (got : (s.recv n).map (·.1) = some (.event e)) :
    ∃ g, (s.move (.recv n)).feeds[n]? = some g ∧ g.held = true ∧
      g.events.take g.read = f.events.take f.read ++ [e] := by
  obtain ⟨next, held, self⟩ := recv_feed hf got
  have shaped := sound.shaped n f hf
  refine ⟨f.next.2, self, (Feed.next_reads shaped).frame.2.2.trans held, ?_⟩
  rw [next_take shaped, next]
  rfl

theorem recv_over (sound : s.Sound) (hf : s.feeds[n]? = some f)
    (got : (s.recv n).map (·.1) = some (.ended r)) :
    ∃ g, (Run.last move s [.recv n, .drop n]).feeds[n]? = some g ∧ g.held = false ∧
      g.ending = some r ∧ g.events = f.events.take f.read := by
  obtain ⟨next, held, self⟩ := recv_feed hf got
  have shaped := sound.shaped n f hf
  obtain ⟨items, fed, -⟩ := (Feed.next_reads shaped).frame
  obtain ⟨ending, all, -⟩ := (Feed.next_spec shaped).2.1 r next
  refine ⟨f.next.2.drop, ?_, rfl, ?_, ?_⟩
  · show ((s.move (.recv n)).drop n).feeds[n]? = _
    rw [State.drop, getElem?_touch, if_pos rfl, self]
    rfl
  · simpa [Feed.ending, Feed.ends, Feed.drop, items, fed] using ending
  · rw [List.take_of_length_le all]
    simp [Feed.events, Feed.drop, items]

end

end Relay.State

namespace Daemon

open UsbBridge.Frame (limit)
open Relay.State (unread_run frozen_run recv_event recv_over)

-- ---------------------------------------------------------------------------
-- Requests of a subscriber
-- ---------------------------------------------------------------------------

/-- Other requests first, then one for a subscription, then only such for its end; or some of the
first of these. -/
def Orderly (taken : List Message) : Prop :=
  ∃ (others : List Message) (m : Message) (later : List Message), taken <+: others ++ m :: later ∧
    (∀ x ∈ others, x.isSubscribe = false ∧ x.isCancel = false) ∧ m.isSubscribe ∧
    ∀ x ∈ later, x.isCancel

section
variable {m : Message} {taken xs ys : List Message}

theorem Orderly.first (h : Orderly (taken ++ [m])) (none : ∀ x ∈ taken, x.isSubscribe = false) :
    m.isCancel = false := by
  obtain ⟨others, q, later, ⟨rest, hrest⟩, aside, asks, -⟩ := h
  have subscribes : q.isCancel = false := by
    rw [← Bool.not_eq_true]
    intro cancels
    simp [not_both cancels] at asks
  rw [List.append_assoc, List.singleton_append, List.append_eq_append_iff] at hrest
  rcases hrest with ⟨_ | ⟨x, more⟩, hothers, htail⟩ | ⟨_ | ⟨x, more⟩, htaken, htail⟩
  · obtain ⟨rfl, -⟩ := List.cons.inj htail
    exact subscribes
  · obtain ⟨rfl, -⟩ := List.cons.inj htail
    exact (aside m (by simp [hothers])).2
  · obtain ⟨rfl, -⟩ := List.cons.inj htail
    exact subscribes
  · obtain ⟨rfl, -⟩ := List.cons.inj htail
    simp [none q (by simp [htaken])] at asks

theorem Orderly.again (h : Orderly (taken ++ [m])) (asked : ∃ x ∈ taken, x.isSubscribe) :
    m.isCancel := by
  obtain ⟨others, q, later, ⟨rest, hrest⟩, aside, -, cancels⟩ := h
  obtain ⟨x, hx, asks⟩ := asked
  rw [List.append_assoc, List.singleton_append, List.append_eq_append_iff] at hrest
  rcases hrest with ⟨more, hothers, -⟩ | ⟨_ | ⟨y, more⟩, htaken, htail⟩
  · simp [aside x (by simp [hothers, hx])] at asks
  · simp [aside x (by simpa [htaken] using hx)] at asks
  · obtain ⟨-, rfl⟩ := List.cons.inj htail
    exact cancels m (by simp)

theorem Orderly.last_due (h : Orderly taken) (hdue : due taken = xs ++ m :: ys)
    (asks : m.isSubscribe) : ys = [] := by
  obtain ⟨others, q, later, ⟨rest, hrest⟩, aside, asksToo, cancels⟩ := h
  have subscribes : q.isCancel = false := by
    rw [← Bool.not_eq_true]
    intro cancels
    simp [not_both cancels] at asksToo
  have all : due (others ++ q :: later) = others ++ [q] := by
    have first : due others = others :=
      List.filter_eq_self.mpr fun x hx => by simp [aside x hx]
    have last : due later = [] := List.filter_eq_nil_iff.mpr fun x hx => by simp [cancels x hx]
    rw [due_append, first, ← List.singleton_append, due_append, due_one subscribes, last,
      List.append_nil]
  rw [← hrest, due_append, hdue, List.append_assoc, List.cons_append,
    List.append_eq_append_iff] at all
  rcases all with ⟨_ | ⟨x, more⟩, hothers, htail⟩ | ⟨_ | ⟨x, more⟩, -, htail⟩
  · obtain ⟨-, htail⟩ := List.cons.inj htail
    exact (List.append_eq_nil_iff.mp htail).1
  · obtain ⟨rfl, -⟩ := List.cons.inj htail
    simp [aside m (by simp [hothers])] at asks
  · obtain ⟨-, htail⟩ := List.cons.inj htail
    exact (List.append_eq_nil_iff.mp htail.symm).1
  · simp at htail

end

-- ---------------------------------------------------------------------------
-- The stream of a subscription
-- ---------------------------------------------------------------------------

structure Single (had : List Nat) (taken : List Message) (n : Nat) : Prop where
  once : n ∈ had
  other : ∀ k ∈ had, k = n
  asked : ∃ x ∈ taken, x.isSubscribe

/-- Where a stream is: the subscriptions that the connection has had, the messages taken on it, what
was said about hotplug events and the subscription that the connection holds. -/
inductive Streaming (relay : Relay.State) (had : List Nat) (taken : List Message)
    (hot : List Payload) : Option Nat → Prop
  | silent (never : had = []) (unasked : ∀ x ∈ taken, x.isSubscribe = false) (nothing : hot = []) :
      Streaming relay had taken hot none
  | going {n f} (one : Single had taken n) (feed : relay.feeds[n]? = some f) (held : f.held = true)
      (so : hot = .subscribed :: (f.events.take f.read).map .notification) :
      Streaming relay had taken hot (some n)
  /-- A request for the end is answered even after the end. -/
  | closed {n f reason k} (one : Single had taken n) (feed : relay.feeds[n]? = some f)
      (left : f.held = false) (ending : f.ending = some reason)
      (so : hot = .subscribed :: (f.events.map .notification ++
        .streamEnded reason :: List.replicate k (.streamEnded .cancelled))) :
      Streaming relay had taken hot none

section
variable {relay next : Relay.State} {had : List Nat} {taken new : List Message}
variable {hot : List Payload} {held later : Option Nat} {p : Option Payload}
variable {rs : List Relay.Move} {n : Nat} {f : Relay.Feed}

theorem Single.step (h : Single had taken n) (new : List Message)
    (same : ∀ k, later = some k → k = n) :
    Single (had ++ later.toList) (taken ++ new) n where
  once := List.mem_append_left _ h.once
  other := List.forall_mem_append.mpr ⟨h.other, fun k hk => same k (Option.mem_toList.mp hk)⟩
  asked := h.asked.imp fun _ hx => ⟨List.mem_append_left _ hx.1, hx.2⟩

theorem hot_plain (plain : ∀ q ∈ p, q.isHotplug = false) :
    p.toList.filter (·.isHotplug) = [] :=
  List.filter_eq_nil_iff.mpr fun q hq => by simp [plain q (by simpa using hq)]

theorem Streaming.silent_step (unasked : ∀ x ∈ taken, x.isSubscribe = false)
    (sees : Sees relay none new p rs later) (moved : next = Run.last Relay.State.move relay rs)
    (orderly : Orderly (taken ++ new)) :
    Streaming next later.toList (taken ++ new) (p.toList.filter (·.isHotplug)) later := by
  cases sees with
  | foreign => exact .silent rfl (by simpa using unasked) rfl
  | own attends =>
    cases attends with
    | aside other plain =>
      refine .silent rfl (List.forall_mem_append.mpr ⟨unasked, fun x hx => (other x hx).1⟩) ?_
      exact hot_plain plain
    | @subscribes _ m asks =>
      have feed : next.feeds[relay.feeds.length]? = some relay.newFeed := by
        rw [moved]
        simp [Relay.State.move, Relay.State.subscribe, Relay.State.newFeed]
      exact .going ⟨by simp, by simp, m, by simp, asks⟩ feed rfl rfl
    | acknowledges asks => simp [orderly.first unasked] at asks

theorem Streaming.going_step (sound : relay.Sound) (one : Single had taken n)
    (feed : relay.feeds[n]? = some f) (holds : f.held = true)
    (so : hot = .subscribed :: (f.events.take f.read).map .notification)
    (sees : Sees relay (some n) new p rs later)
    (moved : next = Run.last Relay.State.move relay rs) (orderly : Orderly (taken ++ new)) :
    Streaming next (had ++ later.toList) (taken ++ new)
      (hot ++ p.toList.filter (·.isHotplug)) later := by
  have kept : Single (had ++ (some n).toList) (taken ++ new) n := one.step new (by simp)
  -- Nobody reads the feed in this move.
  have unread (same : later = some n) (others : ∀ m ∈ rs, m ≠ .recv n ∧ m ≠ .drop n)
      (quiet : p.toList.filter (·.isHotplug) = []) :
      Streaming next (had ++ later.toList) (taken ++ new)
        (hot ++ p.toList.filter (·.isHotplug)) later := by
    obtain ⟨g, hg, holdsToo, read⟩ := unread_run sound feed holds others
    rw [same, quiet, List.append_nil]
    exact .going kept (moved ▸ hg) holdsToo (by rw [so, read])
  cases sees with
  | foreign spares =>
    refine unread rfl (fun m hm => ⟨?_, ?_⟩) rfl
    · rintro rfl
      exact spares n _ rfl hm rfl
    · rintro rfl
      exact spares n _ rfl hm rfl
  | own attends =>
    cases attends with
    | aside other plain => exact unread rfl nofun (hot_plain plain)
    | subscribes asks =>
      have := not_both (orderly.again one.asked)
      simp [asks] at this
    | cancels asks => exact unread rfl (by simp) rfl
    | forwards got =>
      obtain ⟨g, hg, holdsToo, read⟩ := recv_event sound feed got
      refine .going kept (moved ▸ hg) holdsToo ?_
      rw [so, read, List.map_append]
      rfl
    | ends got =>
      obtain ⟨g, hg, left, ending, all⟩ := recv_over sound feed got
      refine .closed (k := 0) (one.step [] nofun) (moved ▸ hg) left ending ?_
      rw [so, all]
      rfl

theorem Streaming.closed_step {k : Nat} {reason : EndReason} (sound : relay.Sound)
    (one : Single had taken n) (feed : relay.feeds[n]? = some f) (left : f.held = false)
    (ending : f.ending = some reason) (so : hot = .subscribed :: (f.events.map .notification ++
      .streamEnded reason :: List.replicate k (.streamEnded .cancelled)))
    (sees : Sees relay none new p rs later)
    (moved : next = Run.last Relay.State.move relay rs) (orderly : Orderly (taken ++ new)) :
    Streaming next (had ++ later.toList) (taken ++ new)
      (hot ++ p.toList.filter (·.isHotplug)) later := by
  have quiet : f.fed = false := by
    rw [← Bool.not_eq_true]
    intro fed
    simp [Relay.Feed.ending_fed fed] at ending
  have feedToo : next.feeds[n]? = some f := moved ▸ frozen_run sound feed left quiet rs
  have rests (more : Nat) (none : later = none)
      (adds : p.toList.filter (·.isHotplug) = List.replicate more (.streamEnded .cancelled)) :
      Streaming next (had ++ later.toList) (taken ++ new)
        (hot ++ p.toList.filter (·.isHotplug)) later := by
    rw [none]
    refine .closed (k := k + more) (one.step new nofun) feedToo left ending ?_
    rw [adds, so, ← List.replicate_append_replicate, List.cons_append, List.append_assoc,
      List.cons_append]
  cases sees with
  | foreign => exact rests 0 rfl rfl
  | own attends =>
    cases attends with
    | aside other plain => exact rests 0 rfl (hot_plain plain)
    | subscribes asks =>
      have := not_both (orderly.again one.asked)
      simp [asks] at this
    | acknowledges asks => exact rests 1 rfl rfl

/-- Whoever moves, what a connection says about its subscription is the feed of that one. -/
theorem Streaming.step (h : Streaming relay had taken hot held) (sound : relay.Sound)
    (sees : Sees relay held new p rs later) (moved : next = Run.last Relay.State.move relay rs)
    (orderly : Orderly (taken ++ new)) :
    Streaming next (had ++ later.toList) (taken ++ new)
      (hot ++ p.toList.filter (·.isHotplug)) later := by
  cases h with
  | silent never unasked nothing =>
    rw [never, nothing]
    exact silent_step unasked sees moved orderly
  | going one feed holds so => exact going_step sound one feed holds so sees moved orderly
  | closed one feed left ending so =>
    exact closed_step sound one feed left ending so sees moved orderly

theorem Streaming.stays (h : Streaming relay had taken hot held) :
    Streaming relay (had ++ held.toList) taken hot held := by
  cases h with
  | silent never unasked nothing => exact .silent (by simp [never]) unasked nothing
  | @going n f one feed holds so =>
    have kept : Single (had ++ (some n).toList) (taken ++ []) n := one.step [] (by simp)
    rw [List.append_nil] at kept
    exact .going kept feed holds so
  | @closed n f reason k one feed left ending so =>
    rw [Option.toList_none, List.append_nil]
    exact .closed one feed left ending so

-- ---------------------------------------------------------------------------
-- The whole of what is said
-- ---------------------------------------------------------------------------

theorem Answers.isSubscribe {m : Message} (h : Answers m .subscribed) : m.isSubscribe := by
  cases h with
  | subscribed same asks => simp [Message.isSubscribe, same, asks]

theorem stream_last {handler : Handler} {payloads rest : List Payload} (orderly : Orderly taken)
    (accounted : Accounted handler taken payloads)
    (hot : payloads.filter (·.isHotplug) = .subscribed :: rest) :
    ∃ replies, payloads = replies ++ .subscribed :: rest ∧ ∀ q ∈ replies, q.isHotplug = false := by
  obtain ⟨answered, owed, hdue, -, paired⟩ := accounted
  obtain ⟨replies, stream, rfl, plain, -, rfl⟩ := List.filter_eq_cons_iff.mp hot
  refine ⟨replies, ?_, by simpa using plain⟩
  have none : answering stream = [] := by
    have first : answering (replies ++ .subscribed :: stream) =
        answering replies ++ .subscribed :: answering stream := by
      rw [answering_append, ← List.singleton_append, answering_append, answering_one rfl]
      rfl
    rw [first] at paired
    obtain ⟨m, later, subscribed, paired, hdrop⟩ :=
      List.forall₂_cons_right_iff.mp (List.forall₂_drop_append _ _ _ paired)
    rw [← List.take_append_drop (answering replies).length answered, hdrop, List.append_assoc,
      List.cons_append] at hdue
    -- The reply to the request for the subscription is the last one that was due.
    obtain ⟨rfl, -⟩ := List.append_eq_nil_iff.mp (orderly.last_due hdue subscribed.isSubscribe)
    exact List.forall₂_nil_left_iff.mp paired
  have all : stream.filter (·.isHotplug) = stream := by
    refine List.filter_eq_self.mpr fun q hq => ?_
    have := List.filter_eq_nil_iff.mp none q hq
    cases q <;> first | rfl | simp [Payload.isStream] at this
  rw [all]

end

end Daemon

end UsbBridge
