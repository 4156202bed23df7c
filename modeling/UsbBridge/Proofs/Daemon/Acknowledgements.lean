import UsbBridge.Proofs.Daemon.Completion
import UsbBridge.Proofs.Daemon.Subscriptions

/-!
# What follows a cancel

A handler that holds no subscription answers a request to cancel at once. Otherwise the answer is
the end of the subscription, which comes back from the relay: a cancelled subscription is barred
from everything else, so the end is there at the latest when the relay has handled its commands
(`Fate.step`). It is not written if the handler takes a request to subscribe in between, because
then the cancelled subscription is let go before its end was read. `cancel_acknowledged` says that
this is the only exception, and `overtaken_unacknowledged` is a run in which it occurs.
-/

namespace UsbBridge

def Payload.isBoundary : Payload → Bool
  | .subscribed | .streamEnded _ => true
  | _ => false

namespace Daemon

open UsbBridge.Frame (limit)
open Relay.State (isHeld_lt held_feed length_le_run barred_run cancel_barred barred_over)

section
variable {σ : Type} (ops : Host σ)

/-- Whether the relay has handled its commands, and a connection's handler is idle and finds nothing
to pass on. -/
def State.Drained (s : State σ) (c : Nat) : Prop :=
  s.relay.commands = [] ∧ ∀ conn, s.connections[c]? = some conn →
    conn.handler = .idle ∧ s.canForward conn = false

/-- Of a connection whose handler took a request to cancel in one state, and has gone on to another:
what was written since. -/
structure CancelAnswered (s t : State σ) (c : Nat) (later : List (State σ × Move σ)) : Prop where
  /-- The first frame that begins or ends a stream ends one, unless the handler has taken a request
  to subscribe when it still held the cancelled subscription. -/
  first : ∀ p, (said (history ops c later).written).find? (·.isBoundary) = some p →
    (∃ reason, p = .streamEnded reason) ∨
      p = .subscribed ∧ ∃ n, s.heldBy c = some n ∧ HasTaken Message.isSubscribe later c n
  /-- There is one when everything is drained. -/
  drained : t.Drained c →
    ((said (history ops c later).written).find? (·.isBoundary)).isSome = true
  /-- In the exceptional case it does begin a stream. -/
  overtaken : ∀ n, s.heldBy c = some n → HasTaken Message.isSubscribe later c n →
    (said (history ops c later).written).find? (·.isBoundary) = some .subscribed

-- ---------------------------------------------------------------------------
-- The fate of a cancel
-- ---------------------------------------------------------------------------

/-- What has become of a cancel, when these payloads were written since. -/
inductive Fate (t : State σ) (c : Nat) (held : Option Nat) (later : List (State σ × Move σ))
    (payloads : List Payload) : Prop
  | waiting {n : Nat} (same : held = some n) (still : t.heldBy c = some n)
      (barred : t.relay.Barred n) (fresh : ¬HasTaken Message.isSubscribe later c n)
      (first : payloads.find? (·.isBoundary) = none)
  | acknowledged {reason : EndReason} (gone : ∀ n, held = some n → n < t.relay.feeds.length ∧
        t.heldBy c ≠ some n ∧ ¬HasTaken Message.isSubscribe later c n)
      (first : payloads.find? (·.isBoundary) = some (.streamEnded reason))
  | overtaken {n : Nat} (same : held = some n) (again : HasTaken Message.isSubscribe later c n)
      (first : payloads.find? (·.isBoundary) = some .subscribed)

section
variable {ops} {s t u : State σ} {c n : Nat} {held : Option Nat} {m : Move σ}
variable {later : List (State σ × Move σ)} {payloads : List Payload} {p : Option Payload}
variable {rs : List Relay.Move}

theorem hasTaken_concat {asks : Message → Bool} : HasTaken asks (later ++ [(t, m)]) c n ↔
    HasTaken asks later c n ∨
      t.heldBy c = some n ∧ ∃ message, t.taken? c m = some message ∧ asks message := by
  constructor
  · rintro ⟨u, k, message, hmem, hheld, htaken, hasks⟩
    rcases List.mem_append.mp hmem with old | new
    · exact .inl ⟨u, k, message, old, hheld, htaken, hasks⟩
    · cases List.mem_singleton.mp new
      exact .inr ⟨hheld, message, htaken, hasks⟩
  · rintro (old | ⟨hheld, message, htaken, hasks⟩)
    · exact old.later t m
    · exact ⟨t, m, message, by simp, hheld, htaken, hasks⟩

theorem Fate.step (fate : Fate t c held later payloads) (seated : Seated t)
    (relay : u.relay = Run.last Relay.State.move t.relay rs)
    (sees : Sees t.relay (t.heldBy c) (t.taken? c m).toList p rs (u.heldBy c)) :
    Fate u c held (later ++ [(t, m)]) (payloads ++ p.toList) := by
  cases fate with
  | @waiting n same still barred fresh first =>
    rw [still] at sees
    have older : n < t.relay.feeds.length := isHeld_lt (seated.seats.held c n still)
    have barredToo : u.relay.Barred n := by
      rw [relay]
      exact barred_run older barred rs
    -- What was written before this move has no boundary, so that it depends on the move alone.
    have now : (payloads ++ p.toList).find? (·.isBoundary) = p.toList.find? (·.isBoundary) := by
      rw [List.find?_append, first]
      rfl
    have freshToo (other : ∀ message ∈ (t.taken? c m).toList, message.isSubscribe = false) :
        ¬HasTaken Message.isSubscribe (later ++ [(t, m)]) c n := by
      intro again
      rcases hasTaken_concat.mp again with old | ⟨-, message, htaken, asks⟩
      · exact fresh old
      · simp [other message (Option.mem_toList.mpr htaken)] at asks
    have waits (kept : u.heldBy c = some n)
        (other : ∀ message ∈ (t.taken? c m).toList, message.isSubscribe = false)
        (quiet : p.toList.find? (·.isBoundary) = none) :
        Fate u c held (later ++ [(t, m)]) (payloads ++ p.toList) :=
      .waiting same kept barredToo (freshToo other) (now.trans quiet)
    generalize htaken : (t.taken? c m).toList = taken at sees freshToo waits
    generalize hheld : u.heldBy c = after at sees
    cases sees with
    | foreign => exact waits hheld nofun rfl
    | own attends =>
      cases attends with
      | aside other plain =>
        refine waits hheld (fun message hm => (other message hm).1) ?_
        cases p with
        | none => rfl
        | some q => cases q <;> first | rfl | cases plain _ rfl
      | @subscribes _ message asks =>
        refine .overtaken same (hasTaken_concat.mpr (.inr ⟨still, message, ?_, asks⟩)) now
        rw [← Option.mem_toList, htaken]
        exact List.mem_singleton_self _
      | cancels asks =>
        refine waits hheld (fun message hm => ?_) rfl
        rw [List.mem_singleton.mp hm]
        exact not_both asks
      | forwards => exact waits hheld nofun rfl
      | @ends n reason =>
        refine @Fate.acknowledged _ _ _ _ _ _ reason (fun k hk => ?_) now
        obtain rfl := Option.some.inj (same.symm.trans hk)
        refine ⟨?_, by simp [hheld], freshToo nofun⟩
        rw [relay]
        exact Nat.lt_of_lt_of_le older (length_le_run _ _)
  | @acknowledged reason gone first =>
    refine @Fate.acknowledged _ _ _ _ _ _ reason (fun n hn => ?_) ?_
    · obtain ⟨older, left, fresh⟩ := gone n hn
      refine ⟨?_, fun back => ?_, fun again => ?_⟩
      · rw [relay]
        exact Nat.lt_of_lt_of_le older (length_le_run _ rs)
      · rcases sees.newer back with still | new
        · exact left still
        · exact Nat.lt_irrefl n (new ▸ older)
      · rcases hasTaken_concat.mp again with old | ⟨still, -⟩
        · exact fresh old
        · exact left still
    · rw [List.find?_append, first]
      rfl
  | overtaken same again first =>
    refine .overtaken same (again.later t m) ?_
    rw [List.find?_append, first]
    rfl

theorem fate_start {message : Message} (seated : Seated s) (took : s.taken? c m = some message)
    (cancels : message.isCancel) (relay : u.relay = Run.last Relay.State.move s.relay rs)
    (sees : Sees s.relay (s.heldBy c) (s.taken? c m).toList p rs (u.heldBy c)) :
    Fate u c (s.heldBy c) [(s, m)] p.toList := by
  have fresh (n : Nat) : ¬HasTaken Message.isSubscribe [(s, m)] c n := by
    rintro ⟨t, k, other, hmem, -, htaken, asks⟩
    cases List.mem_singleton.mp hmem
    obtain rfl := Option.some.inj (took.symm.trans htaken)
    simp [not_both cancels] at asks
  rw [took, Option.toList_some] at sees
  generalize hheld : s.heldBy c = held, hafter : u.heldBy c = after at sees ⊢
  generalize htaken : [message] = taken at sees
  cases sees with
  | foreign => cases htaken
  | own attends =>
    cases attends with
    | aside other =>
      have := (other message (htaken ▸ List.mem_singleton_self _)).2
      simp [cancels] at this
    | subscribes asks =>
      cases htaken
      simp [not_both cancels] at asks
    | @cancels n =>
      have held := seated.seats.held c n hheld
      refine .waiting rfl hafter ?_ (fresh n) rfl
      rw [relay]
      exact cancel_barred held
    | acknowledges => exact .acknowledged nofun rfl
    | forwards | ends => cases htaken

theorem fate_run {message : Message} {sending : Sending} (seated : Seated s)
    (took : s.taken? c (.serve c sending) = some message) (cancels : message.isCancel)
    (after : List (Move σ))
    (up : (Run.last (State.step ops) s (.serve c sending :: after)).serves c) :
    ∃ payloads,
      (history ops c (Run.record (State.step ops) s (.serve c sending :: after))).written =
        payloads.flatMap Payload.frame ∧
      (∀ p ∈ payloads, (Message.ofPayload p).encode.length ≤ limit) ∧
      Fate (Run.last (State.step ops) s (.serve c sending :: after)) c (s.heldBy c)
        (Run.record (State.step ops) s (.serve c sending :: after)) payloads := by
  obtain ⟨conn, hc, -⟩ := Option.bind_eq_some_iff.mp (show s.connections[c]?.bind (·.next?) = _ by
    simpa [State.taken?] using took)
  have hrun := Run.induction (State.step ops) (P := fun t later => Seated t ∧
      (∃ conn, t.connections[c]? = some conn) ∧ (t.serves c → ∃ payloads,
        (history ops c later).written = payloads.flatMap Payload.frame ∧
        (∀ p ∈ payloads, (Message.ofPayload p).encode.length ≤ limit) ∧
        Fate t c (s.heldBy c) later payloads))
    [(s, .serve c sending)] ⟨seated.step ops (.serve c sending), ?_, fun up => ?_⟩
    (fun t later m ih => ?_) after
  · exact hrun.2.2 up
  · obtain ⟨next, self, -⟩ := steps ops hc (.serve c sending)
    exact ⟨next, self⟩
  · obtain ⟨p, rs, written, small, relay, sees⟩ := seated.sees ops hc up
    exact ⟨p.toList, written, by simpa using small, fate_start seated took cancels relay sees⟩
  · obtain ⟨seated, ⟨conn, hc⟩, fate⟩ := ih
    obtain ⟨next, self, -⟩ := steps ops hc m
    refine ⟨seated.step ops m, ⟨next, self⟩, fun up => ?_⟩
    obtain ⟨payloads, hwritten, hsmall, hfate⟩ := fate (serves_before ops hc up)
    obtain ⟨p, rs, written, small, relay, sees⟩ := seated.sees ops hc up
    refine ⟨payloads ++ p.toList, ?_, ?_, hfate.step seated relay sees⟩
    · rw [history_concat, History.written_append, hwritten, written, List.flatMap_append]
    · refine List.forall_mem_append.mpr ⟨hsmall, ?_⟩
      simpa using small

end

/-- A cancel that a handler has taken is answered by the end of a stream before any other stream
begins, except where the handler takes a request to subscribe in between and so overtakes the end;
this on every connection that stays up, whatever is asked on it and whoever moves in between. -/
theorem cancel_acknowledged (host : σ) (filter : DeviceFilter) (registered : Bool)
    (limit : Duration) (duplication : Except String Unit) (before after : List (Move σ)) (c : Nat)
    (sending : Sending) {s t : State σ} {message : Message}
    (hs : s = Run.last (State.step ops)
      (State.start (.start host filter registered limit duplication)) before)
    (ht : t = Run.last (State.step ops) s (.serve c sending :: after))
    (took : s.taken? c (.serve c sending) = some message) (cancels : message.isCancel)
    (up : t.serves c) :
    CancelAnswered ops s t c (Run.record (State.step ops) s (.serve c sending :: after)) := by
  have seated : Seated s := by
    rw [hs]
    exact (seated_run ops (seated_start host filter registered limit duplication) rfl before).1
  have seatedToo : Seated t := by
    have := seated_run ops (seated_start host filter registered limit duplication) rfl
      (before ++ .serve c sending :: after)
    rw [Run.last_append, ← hs, ← ht] at this
    exact this.1
  obtain ⟨payloads, written, small, fate⟩ := fate_run seated took cancels after (ht ▸ up)
  rw [← ht] at fate
  have hsaid := said_frames small
  rw [← written] at hsaid
  refine ⟨?_, ?_, ?_⟩ <;> rw [hsaid]
  · intro p hp
    cases fate with
    | waiting same still barred fresh first => simp [first] at hp
    | @acknowledged reason gone first => exact .inl ⟨reason, Option.some.inj (hp.symm.trans first)⟩
    | @overtaken n same again first =>
      exact .inr ⟨Option.some.inj (hp.symm.trans first), n, same, again⟩
  · intro rests
    have idle := rests.1
    cases fate with
    | @waiting n same still barred fresh first =>
      have final := barred_over seatedToo.seats.sound (seatedToo.seats.held c n still) barred idle
      obtain ⟨conn, hconn, hsub⟩ := Option.bind_eq_some_iff.mp still
      obtain ⟨free, nothing⟩ := rests.2 conn hconn
      exact absurd (recv_pending (seatedToo.seats.held c n still) free hsub nothing) final
    | acknowledged gone first | overtaken same again first => simp [first]
  · intro n hn again
    cases fate with
    | waiting same still barred fresh first =>
      obtain rfl := Option.some.inj (same.symm.trans hn)
      exact absurd again fresh
    | acknowledged gone first => exact absurd again (gone n hn).2.2
    | overtaken same again first => exact first

end

-- ---------------------------------------------------------------------------
-- In time and overtaken
-- ---------------------------------------------------------------------------

open UsbBridge.Frame (wrap)

def subscribing : State Unit := Run.last (State.step bareHost) bareStart
  [.accept, .consumer 0 (.send (wrap [1, 0, 0, 6] ++ wrap [1, 0, 0, 8]) []), .read 0 4, .read 0 4,
    .enqueue 0, .read 0 4, .read 0 4, .enqueue 0, .serve 0 .whole]

def ending : List (Move Unit) := [.serve 0 .whole, .relay, .relay, .forward 0 .whole]

theorem cancelled_acknowledged :
    (subscribing.taken? 0 (.serve 0 .whole)).any (·.isCancel) ∧
    (Run.last (State.step bareHost) subscribing ending).serves 0 ∧
    CancelAnswered bareHost subscribing (Run.last (State.step bareHost) subscribing ending) 0
      (Run.record (State.step bareHost) subscribing ending) ∧
    (history bareHost 0 (Run.record (State.step bareHost) subscribing ending)).written =
      Payload.frame (.streamEnded .cancelled) := by
  have asked : (subscribing.taken? 0 (.serve 0 .whole)).any (·.isCancel) := by decide +kernel
  have up : (Run.last (State.step bareHost) subscribing ending).serves 0 := by decide +kernel
  obtain ⟨message, took, cancels⟩ := (Option.any_eq_true _ _).mp asked
  have answered := cancel_acknowledged bareHost () .allowAll true ⟨0⟩ (.ok ()) _
    [.relay, .relay, .forward 0 .whole] 0 .whole rfl rfl took cancels up
  exact ⟨asked, up, answered, by decide +kernel⟩

/-- A consumer subscribes, asks for the end and subscribes again without waiting for answers; its
handler takes all that before the relay does anything. -/
def overtaking : List (Move Unit) :=
  let frames := wrap [1, 0, 0, 6] ++ wrap [1, 0, 0, 8] ++ wrap [1, 0, 0, 6]
  [.accept, .consumer 0 (.send frames []), .read 0 4, .read 0 4, .enqueue 0, .read 0 4, .read 0 4,
    .enqueue 0, .read 0 4, .read 0 4, .enqueue 0, .serve 0 .whole, .serve 0 .whole,
    .serve 0 .whole, .relay, .relay, .relay]

/-- Then the request to cancel is never answered, although all is done. -/
theorem overtaken_unacknowledged :
    (history bareHost 0 (Run.record (State.step bareHost) bareStart overtaking)).taken.map
      (·.isCancel) = [false, true, false] ∧
    (history bareHost 0 (Run.record (State.step bareHost) bareStart overtaking)).written =
      Payload.frame .subscribed ++ Payload.frame .subscribed ∧
    (Run.last (State.step bareHost) bareStart overtaking).serves 0 ∧
    (Run.last (State.step bareHost) bareStart overtaking).relay.commands = [] ∧
    (Run.last (State.step bareHost) bareStart overtaking).connections[0]?.any (fun conn =>
      conn.isQuiet && !(Run.last (State.step bareHost) bareStart overtaking).canForward conn) := by
  decide +kernel

end Daemon

end UsbBridge
