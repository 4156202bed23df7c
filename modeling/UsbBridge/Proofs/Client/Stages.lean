import UsbBridge.Proofs.Client.Subscriber
import UsbBridge.Proofs.Daemon.Streams

/-!
# Stages of a subscriber

What the requests of a consumer are, and where it is in sending them and in receiving what was
written to it, when all its exchanges have gone well (`Stage`); what its calls for the next event
have returned then follows what it was told (`Follows`). An exchange that goes well leads on
(`Onward`), and one that does not leaves a consumer that will never read an event (`Lost`).
-/

namespace UsbBridge.Client.Subscriber

open Socket
open Receiver (Reading)
open Daemon (Orderly)
open UsbBridge.Frame (limit)

/-- The calls for the next event have returned what was told after the subscription, and these
bytes of the next message were received. -/
inductive Follows (f : Feed α) : List NextEvent → List Payload → List UInt8 → Prop
  | listening {events : List HotplugEvent} {part : List UInt8} (going : f.ended = none)
      (reading : Reading f.reading part) :
      Follows f (events.map .event) (events.map .notification) part
  /-- Nothing is read after the end, which every later call returns. -/
  | ended {events : List HotplugEvent} {r : EndReason} {k : Nat} (ended : f.ended = some r) :
      Follows f (events.map .event ++ List.replicate (k + 1) (.ended r))
        (events.map .notification ++ [.streamEnded r]) []

/-- Where a consumer is that has asked these requests, has so many bytes of them left to send, and
has received these payloads and these bytes of the next message. -/
inductive Stage : Subscriber α → List Payload → List UInt8 → List Payload → List UInt8 → Prop
  | client {s : State α} {asked got : List Payload} {unsent part : List UInt8}
      (standing : s.Standing unsent part)
      (plain : ∀ p ∈ asked ++ s.waiting.map (·.2), p.isCommand) :
      Stage (.client s) asked unsent got part
  | asking {s : State α} {asked got first : List Payload} {unsent part : List UInt8}
      (standing : s.Standing unsent part) (alone : s.roster = [Endpoint.caller])
      (fresh : s.returned = [])
      (last : asked ++ s.waiting.map (·.2) = first ++ [.subscribeRequest])
      (plain : ∀ p ∈ first, p.isCommand) : Stage (.asking s) asked unsent got part
  | feed {f : Feed α} {cancels : List (Sender α)} {results : List NextEvent}
      {first replies told : List Payload} {k : Nat} {part : List UInt8}
      (whole : ∀ sender ∈ cancels, sender.rights = [] ∧ sender.bytes ≠ [])
      (plain : ∀ p ∈ first, p.isCommand) (follows : Follows f results told part) :
      Stage (.feed f cancels results)
        (first ++ .subscribeRequest :: List.replicate k .cancelRequest)
        (cancels.flatMap (·.bytes)) (replies ++ .subscribed :: told) part

inductive Lost : Subscriber α → Prop
  | client {s : State α} (spoilt : s.Spoilt) : Lost (.client s)
  | asking {s : State α} (spoilt : s.Spoilt) (errors : ∀ x ∈ s.returned, ∃ e, x.2 = .error e) :
      Lost (.asking s)
  | gone : Lost .gone

section
variable {x : Subscriber α} {s t : State α} {l : Link α} {asked got : List Payload}
variable {unsent part : List UInt8} {p : Payload} {caller : Nat} {e : BridgeError}

theorem aside_of_command (h : p.isCommand) :
    (Message.ofPayload p).isSubscribe = false ∧ (Message.ofPayload p).isCancel = false := by
  cases p <;> first | exact ⟨rfl, rfl⟩ | cases h

theorem Stage.orderly (stage : Stage x asked unsent got part) :
    Orderly (asked.map Message.ofPayload) := by
  have aside {first : List Payload} (plain : ∀ p ∈ first, p.isCommand) :
      ∀ m ∈ first.map Message.ofPayload, m.isSubscribe = false ∧ m.isCancel = false := by
    intro m hm
    obtain ⟨p, hp, rfl⟩ := List.mem_map.mp hm
    exact aside_of_command (plain p hp)
  cases stage with
  | client standing plain =>
    have plain := (List.forall_mem_append.mp plain).1
    exact ⟨_, .ofPayload .subscribeRequest, [], List.prefix_append _ _, aside plain, rfl, nofun⟩
  | @asking s _ _ first _ _ standing alone fresh last plain =>
    refine ⟨first.map Message.ofPayload, .ofPayload .subscribeRequest, [], ?_, aside plain, rfl,
      nofun⟩
    have whole := congrArg (List.map Message.ofPayload) last
    rw [List.map_append, List.map_append] at whole
    exact whole ▸ List.prefix_append _ _
  | @feed f cancels results first replies told k part whole plain follows =>
    refine ⟨first.map Message.ofPayload, .ofPayload .subscribeRequest,
      List.replicate k (.ofPayload .cancelRequest), ?_, aside plain, rfl, fun m hm => ?_⟩
    · simp
    · rw [List.eq_of_mem_replicate hm]
      rfl

-- ---------------------------------------------------------------------------
-- The end of the exchange
-- ---------------------------------------------------------------------------

theorem settle_none (fresh : s.returned = []) : settle s l = (.asking s, l) := by
  simp [settle, Endpoint.settled, State.take, fresh]

/-- Only the reply that it is subscribed makes a client a feed. -/
theorem settle_reply {rights : List α}
    (returned : s.returned = [(Endpoint.caller, reply p rights)]) :
    p = .subscribed ∧ settle s l = (.feed .start [] [], l) ∨ settle s l = (.gone, l.close) := by
  cases p <;> simp [settle, Endpoint.settled, State.take, returned, reply, Command.interpret,
    Endpoint.conclude, ofEndpoint]

theorem Lost.settle (spoilt : s.Spoilt) (errors : ∀ x ∈ s.returned, ∃ e, x.2 = .error e)
    (l : Link α) : Lost (settle s l).1 := by
  unfold Subscriber.settle Endpoint.settled State.take
  cases found : s.returned.lookup Endpoint.caller with
  | none => exact .asking spoilt errors
  | some result =>
    obtain ⟨before, after, all, -⟩ := List.lookup_eq_some_iff.mp found
    obtain ⟨e, rfl⟩ := errors (Endpoint.caller, result) (by simp [all])
    exact .gone

theorem Lost.step (lost : Lost x) (l : Link α) (m : Move) : Lost (x.step l m).1 := by
  cases lost with
  | @client s spoilt =>
    cases m with
    | client m =>
      simp only [step]
      split
      · exact .client (spoilt.step l m).1
      · exact .client spoilt
    | subscribe =>
      simp only [step]
      split
      · exact .asking ⟨spoilt.free, spoilt.out⟩ (List.forall_mem_nil _)
      · exact .client spoilt
    | next | cancel | send => exact .client spoilt
  | @asking s spoilt errors =>
    cases m with
    | client m =>
      simp only [step]
      split
      · obtain ⟨spoiltToo, more⟩ := spoilt.step l m
        exact .settle spoiltToo (fun x hx => (more x hx).elim (errors x) id) _
      · exact .asking spoilt errors
    | subscribe | next | cancel | send => exact .asking spoilt errors
  | gone => cases m <;> exact .gone

-- ---------------------------------------------------------------------------
-- Steps of a client
-- ---------------------------------------------------------------------------

/-- An exchange has been brought on: these requests were begun and these responses received. -/
structure Onward (s t : State α) (begun heard : List Payload) (unsent part : List UInt8) :
    Prop where
  standing : t.Standing unsent part
  line : s.waiting.map (·.2) = begun ++ t.waiting.map (·.2)
  returned : heard = [] ∧ t.returned = s.returned ∨
    ∃ p caller rights, heard = [p] ∧ unsent = [] ∧ part = [] ∧
      t.returned = s.returned ++ [(caller, reply p rights)]

end

end UsbBridge.Client.Subscriber
