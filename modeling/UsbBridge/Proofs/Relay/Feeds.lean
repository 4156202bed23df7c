import UsbBridge.Relay.Basic

/-!
# Feeds

What was pushed to a subscription is some events and at most one end (`Feed.Shaped`), whatever the
relay pushes and the holder reads (`push_shaped`, `next_shaped`). The holder finds every event and
then the reason (`next_spec`).
-/

namespace UsbBridge.Relay

def FeedItem.event? : FeedItem → Option HotplugEvent
  | .event e => some e
  | .ended _ => none

def FeedItem.reason? : FeedItem → Option EndReason
  | .event _ => none
  | .ended r => some r

namespace Feed

def events (f : Feed) : List HotplugEvent := f.items.filterMap (·.event?)

def ends (f : Feed) : List EndReason := f.items.filterMap (·.reason?)

/-- Why a subscription is over, if it is. Silence counts as shutdown. -/
def ending (f : Feed) : Option EndReason :=
  if f.fed then none else some (f.ends.head?.getD .shutdown)

/-- Events and then at most one end, none while the relay may still push. -/
structure Shaped (f : Feed) : Prop where
  items : f.items = f.events.map .event ++ f.ends.map .ended
  once : f.ends.length ≤ 1
  going : f.fed = true → f.ends = []
  reading : f.ended = none → f.read ≤ f.events.length
  /-- The holder has met the true end, after every event. -/
  told : ∀ r, f.ended = some r → f.ending = some r ∧ f.events.length ≤ f.read

variable {f : Feed} {item : FeedItem} {r : EndReason} {e : HotplugEvent}

-- ---------------------------------------------------------------------------
-- What the operations do to a feed
-- ---------------------------------------------------------------------------

@[simp] theorem fed_push (f : Feed) (item : FeedItem) : (f.push item).fed = f.fed := by
  unfold push; split <;> rfl

@[simp] theorem held_push (f : Feed) (item : FeedItem) : (f.push item).held = f.held := by
  unfold push; split <;> rfl

@[simp] theorem fed_hangUp (f : Feed) : f.hangUp.fed = false := rfl
@[simp] theorem held_hangUp (f : Feed) : f.hangUp.held = f.held := rfl
@[simp] theorem events_hangUp (f : Feed) : f.hangUp.events = f.events := rfl
@[simp] theorem ends_hangUp (f : Feed) : f.hangUp.ends = f.ends := rfl

@[simp] theorem fed_drop (f : Feed) : f.drop.fed = f.fed := rfl
@[simp] theorem held_drop (f : Feed) : f.drop.held = false := rfl
@[simp] theorem events_drop (f : Feed) : f.drop.events = f.events := rfl
@[simp] theorem ends_drop (f : Feed) : f.drop.ends = f.ends := rfl

@[simp] theorem fed_finish (f : Feed) (r : EndReason) : (f.finish r).fed = false := rfl

@[simp] theorem held_finish (f : Feed) (r : EndReason) : (f.finish r).held = f.held := by
  simp [finish]

theorem push_eq (fed : f.fed = true) (held : f.held = true) (item : FeedItem) :
    f.push item = { f with items := f.items ++ [item] } := by
  simp [push, fed, held]

theorem push_unheld (held : f.held = false) (item : FeedItem) : f.push item = f := by
  simp [push, held]

theorem events_push (fed : f.fed = true) (held : f.held = true) (e : HotplugEvent) :
    (f.push (.event e)).events = f.events ++ [e] := by
  simp [push_eq fed held, events, FeedItem.event?]

theorem ends_push_event (f : Feed) (e : HotplugEvent) : (f.push (.event e)).ends = f.ends := by
  unfold push; split <;> simp [ends, FeedItem.reason?]

@[simp] theorem events_finish (f : Feed) (r : EndReason) : (f.finish r).events = f.events := by
  unfold finish push; split <;> simp [hangUp, events, FeedItem.event?]

theorem ends_finish (fed : f.fed = true) (held : f.held = true) (r : EndReason) :
    (f.finish r).ends = f.ends ++ [r] := by
  simp [finish, push_eq fed held, hangUp, ends, FeedItem.reason?]

theorem ending_fed (fed : f.fed = true) : f.ending = none := by simp [ending, fed]

theorem ending_finish (h : f.Shaped) (fed : f.fed = true) (held : f.held = true)
    (r : EndReason) : (f.finish r).ending = some r := by
  simp [ending, ends_finish fed held, h.going fed]

theorem ending_hangUp (h : f.Shaped) (fed : f.fed = true) : f.hangUp.ending = some .shutdown := by
  simp [ending, h.going fed]

-- ---------------------------------------------------------------------------
-- Reading
-- ---------------------------------------------------------------------------

inductive Reads (f : Feed) : Received → Feed → Prop
  | told {r : EndReason} (ended : f.ended = some r) : Reads f (.ended r) f
  | event {e : HotplugEvent} (listening : f.ended = none) (here : f.events[f.read]? = some e) :
      Reads f (.event e) { f with read := f.read + 1 }
  | ended {r : EndReason} (listening : f.ended = none) (all : f.read = f.events.length)
      (ends : f.ends = [r]) : Reads f (.ended r) { f with read := f.read + 1, ended := some r }
  | waits (listening : f.ended = none) (all : f.read = f.events.length) (fed : f.fed = true) :
      Reads f .pending f
  | silence (listening : f.ended = none) (all : f.read = f.events.length) (ends : f.ends = [])
      (quiet : f.fed = false) : Reads f (.ended .shutdown) { f with ended := some .shutdown }

theorem next_reads (h : f.Shaped) : Reads f f.next.1 f.next.2 := by
  have reads {x g} (hnext : f.next = (x, g)) (hr : Reads f x g) : Reads f f.next.1 f.next.2 := by
    rw [hnext]
    exact hr
  cases hf : f.ended with
  | some r => exact reads (by simp [next, hf]) (.told hf)
  | none =>
    rcases Nat.lt_or_eq_of_le (h.reading hf) with hlt | heq
    · have hitem : f.items[f.read]? = some (.event f.events[f.read]) := by
        rw [h.items, List.getElem?_append_left (by simpa using hlt)]
        simp [hlt]
      exact reads (by simp [next, hf, hitem]) (.event hf (List.getElem?_eq_getElem hlt))
    · have hitem : f.items[f.read]? = (f.ends.map FeedItem.ended)[0]? := by
        rw [h.items, List.getElem?_append_right (by simp [heq])]
        simp [heq]
      cases hends : f.ends with
      | nil =>
        cases hfed : f.fed with
        | true => exact reads (by simp [next, hf, hitem, hends, hfed]) (.waits hf heq hfed)
        | false => exact reads (by simp [next, hf, hitem, hends, hfed]) (.silence hf heq hends hfed)
      | cons r rs =>
        have hone : f.ends = [r] := by
          have := h.once
          rw [hends] at this ⊢
          simpa using this
        exact reads (by simp [next, hf, hitem, hone]) (.ended hf heq hone)

theorem Shaped.quiet (h : f.Shaped) (ends : f.ends = [r]) : f.fed = false := by
  cases hfed : f.fed with
  | false => rfl
  | true => simp [h.going hfed] at ends

theorem Reads.frame {x : Received} {g : Feed} (h : Reads f x g) :
    g.items = f.items ∧ g.fed = f.fed ∧ g.held = f.held := by
  cases h <;> exact ⟨rfl, rfl, rfl⟩

/-- The holder finds the events in order, and after the last one the true end. -/
theorem next_spec (h : f.Shaped) :
    (∀ e, f.next.1 = .event e → f.events[f.read]? = some e ∧ f.next.2.read = f.read + 1) ∧
      (∀ r, f.next.1 = .ended r →
        f.ending = some r ∧ f.events.length ≤ f.read ∧ f.next.2.ended = some r) ∧
      (f.next.1 = .pending → f.ending = none ∧ f.read = f.events.length) := by
  have hr := next_reads h
  generalize f.next.1 = x, f.next.2 = g at hr ⊢
  cases hr with
  | told ended =>
    obtain ⟨hending, hall⟩ := h.told _ ended
    exact ⟨nofun, fun r hr => by cases hr; exact ⟨hending, hall, ended⟩, nofun⟩
  | event listening here => exact ⟨fun e he => by cases he; exact ⟨here, rfl⟩, nofun, nofun⟩
  | ended listening all ends =>
    refine ⟨nofun, fun r hr => ?_, nofun⟩
    cases hr
    exact ⟨by simp [ending, h.quiet ends, ends], Nat.le_of_eq all.symm, rfl⟩
  | waits listening all fed => exact ⟨nofun, nofun, fun _ => ⟨ending_fed fed, all⟩⟩
  | silence listening all ends quiet =>
    refine ⟨nofun, fun r hr => ?_, nofun⟩
    cases hr
    exact ⟨by simp [ending, quiet, ends], Nat.le_of_eq all.symm, rfl⟩

-- ---------------------------------------------------------------------------
-- The shape of a feed
-- ---------------------------------------------------------------------------

theorem Shaped.not_fed (h : f.Shaped) (ended : f.ended = some r) : f.fed = false := by
  cases hfed : f.fed with
  | false => rfl
  | true => simpa [ending_fed hfed] using (h.told r ended).1

theorem Shaped.listening (h : f.Shaped) (fed : f.fed = true) : f.ended = none := by
  cases hr : f.ended with
  | none => rfl
  | some r => simp [h.not_fed hr] at fed

theorem push_shaped (h : f.Shaped) (fed : f.fed = true) (held : f.held = true)
    (e : HotplugEvent) : (f.push (.event e)).Shaped := by
  have hread := h.reading (h.listening fed)
  constructor
  · rw [events_push fed held, ends_push_event, push_eq fed held, h.items, h.going fed]
    simp
  · rw [ends_push_event]
    exact h.once
  · rw [ends_push_event]
    exact fun _ => h.going fed
  · rw [events_push fed held, push_eq fed held]
    simp
    omega
  · simp [push_eq fed held, h.listening fed]

theorem hangUp_shaped (h : f.Shaped) : f.hangUp.Shaped where
  items := h.items
  once := h.once
  going := nofun
  reading := h.reading
  told r ended := by
    obtain ⟨hending, hall⟩ := h.told r ended
    exact ⟨by simpa [ending, h.not_fed ended] using hending, hall⟩

theorem drop_shaped (h : f.Shaped) : f.drop.Shaped :=
  ⟨h.items, h.once, h.going, h.reading, h.told⟩

theorem finish_shaped (h : f.Shaped) (fed : f.fed = true) (r : EndReason) :
    (f.finish r).Shaped := by
  cases held : f.held with
  | false =>
    rw [finish, push_unheld held]
    exact hangUp_shaped h
  | true =>
    have hend : (f.finish r).ended = none := by
      simp [finish, push_eq fed held, hangUp, h.listening fed]
    constructor
    · rw [events_finish, ends_finish fed held, finish, push_eq fed held, hangUp, h.items,
        h.going fed]
      simp
    · simp [ends_finish fed held, h.going fed]
    · nofun
    · intro _
      have hread := h.reading (h.listening fed)
      rw [events_finish]
      simpa [finish, push_eq fed held, hangUp] using hread
    · simp [hend]

theorem next_shaped (h : f.Shaped) : f.next.2.Shaped := by
  have hr := next_reads h
  generalize f.next.1 = x, f.next.2 = g at hr ⊢
  cases hr with
  | told | waits => exact h
  | @event e listening here =>
    obtain ⟨hlt, -⟩ := List.getElem?_eq_some_iff.mp here
    exact ⟨h.items, h.once, h.going, fun _ => hlt, fun r hr => by simp [listening] at hr⟩
  | @ended r listening all ends =>
    have hending : f.ending = some r := by simp [ending, h.quiet ends, ends]
    refine ⟨h.items, h.once, h.going, nofun, fun r' hr => ?_⟩
    cases hr
    exact ⟨hending, Nat.le_succ_of_le (Nat.le_of_eq all.symm)⟩
  | silence listening all ends quiet =>
    have hending : f.ending = some .shutdown := by simp [ending, quiet, ends]
    refine ⟨h.items, h.once, h.going, nofun, fun r' hr => ?_⟩
    cases hr
    exact ⟨hending, Nat.le_of_eq all.symm⟩

end Feed

end UsbBridge.Relay
