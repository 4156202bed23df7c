import UsbBridge.Proofs.Relay.Delivery

/-!
# A subscription that stays attached

A subscription waits for its turn while nothing is delivered, because commands come first, and then
every notification is its own for as long as it is attached (`Attending`). Its holder reads the
events in order (`handed_run`). So a holder that has read on until there was nothing more has got an
event for everything that was reported since it subscribed (`attended`).
-/

namespace UsbBridge.Relay

def Move.notice? : Move → Option RawNotification
  | .notify r => some r
  | _ => none

def Received.event? : Received → Option HotplugEvent
  | .event e => some e
  | _ => none

namespace State

def handed? (s : State) (n : Nat) : Move → Option HotplugEvent
  | .recv k => if k = n then (s.recv k).bind (·.1.event?) else none
  | _ => none

def handed (s : State) (n : Nat) (moves : List Move) : List HotplugEvent :=
  (Run.record move s moves).filterMap fun p => p.1.handed? n p.2

section
variable {s t : State} {m : Move} {n : Nat} {f g : Feed} {moves : List Move}

-- ---------------------------------------------------------------------------
-- While the registration lasts
-- ---------------------------------------------------------------------------

theorem registered_move (h : (s.move m).registered = true) : s.registered = true := by
  cases m with
  | work =>
    obtain ⟨-, hs⟩ | ⟨d, -, hp⟩ := work_cases s
    · rwa [hs] at h
    · generalize s.move .work = t at hp h
      cases hp <;> simpa using h
  | subscribe => simpa [move, subscribe] using h
  | cancel k => obtain hc | ⟨-, hc⟩ := cancel_cases s k <;> simpa [move, hc] using h
  | shutdown => simpa [move, shutdown] using h
  | notify r => obtain ⟨-, hc⟩ | ⟨-, hc⟩ := notify_cases s r <;> simpa [move, hc] using h
  | unregister => simp [move, unregister] at h
  | drop k => exact h
  | recv k => obtain hc | ⟨f, -, hc⟩ := recv_cases s k <;> simpa [hc] using h

theorem registered_last (h : (Run.last move s moves).registered = true) :
    s.registered = true := by
  induction moves generalizing s with
  | nil => exact h
  | cons m ms ih => exact registered_move (ih h)

theorem pushes_registered (h : (Run.last move s moves).registered = true) :
    s.pushes moves = moves.filterMap (·.notice?) := by
  induction moves generalizing s with
  | nil => rfl
  | cons m ms ih =>
    have hs : s.registered = true := registered_last h
    have hm : s.pushed? m = m.notice? := by cases m <;> simp [pushed?, Move.notice?, hs]
    have hms : (s.move m).pushes ms = ms.filterMap (·.notice?) := ih h
    rw [pushes_cons, hm, hms, filterMap_cons_toList]

-- ---------------------------------------------------------------------------
-- While the subscription lasts
-- ---------------------------------------------------------------------------

/-- Of a subscription that has not ended, with what was delivered since it began. -/
inductive Attending (n : Nat) (s : State) (past : List (RawNotification × Option Nat)) : Prop
  | queued (waits : n ∈ s.queued) (nothing : past = [])
  | attached (current : s.current = some n) (each : ∀ p ∈ past, p.2 = some n)

theorem FeedChange.was_fed (c : s.FeedChange m t n f g) (h : f.Shaped) (fed : g.fed = true) :
    f.fed = true := by
  cases c with
  | same | drop => exact fed
  | read => rwa [(Feed.next_reads h).frame.2.1] at fed
  | event got quiet was => exact was
  | leave | finish | forget => simp at fed

theorem Attending.move {past} (ih : Attending n s past) (h : s.Sound)
    (hf : s.feeds[n]? = some f) (c : s.FeedChange m (s.move m) n f g) (fed : g.fed = true)
    (held : g.held = true) : Attending n (s.move m) (past ++ (s.handled? m).toList) := by
  have hshaped := h.shaped n f hf
  have hheld : s.isHeld n = true := (isHeld_eq hf).trans (c.held hshaped held)
  cases ih with
  | queued waits nothing =>
    have unhandled : s.handled? m = none := by
      cases hh : s.handled? m with
      | none => rfl
      | some p =>
        obtain ⟨-, commands, -⟩ := deed_notification (handled_cases hh).2.1
        rw [queued_nil commands] at waits
        cases waits
    rw [unhandled, nothing]
    rcases mem_line.mp ((c.fed h hf).mp fed) with current | waits
    · exact .attached current (List.forall_mem_nil _)
    · exact .queued waits rfl
  | attached current each =>
    have hquiet : s.verdict? m n = none := by
      have hending := c.ending hshaped held
      rw [Feed.ending_fed fed, eq_comm, Option.toList_none, List.append_eq_nil_iff] at hending
      simpa using hending.2
    refine .attached (current_keeps h current hheld hquiet) fun p hp => ?_
    rcases List.mem_append.mp hp with hp | hp
    · exact each p hp
    · exact handled_current current hheld (Option.mem_toList.mp hp)

/-- From its beginning on, and for as long as nobody ends it. -/
theorem attending_run (h : s.Sound) (moves : List Move) :
    (Run.last State.move s.subscribe.2 moves).Sound ∧
      ∃ f, (Run.last State.move s.subscribe.2 moves).feeds[s.feeds.length]? = some f ∧
        (f.fed = true → f.held = true →
          Attending s.feeds.length (Run.last State.move s.subscribe.2 moves)
            (s.subscribe.2.log moves)) := by
  refine Run.induction State.move
    (P := fun t past => t.Sound ∧ ∃ f, t.feeds[s.feeds.length]? = some f ∧
      (f.fed = true → f.held = true →
        Attending s.feeds.length t (past.filterMap fun p => p.1.handled? p.2)))
    [] ⟨subscribe_sound h, s.newFeed, by simp [subscribe, newFeed], fun fed _ => ?_⟩
    (fun t past m ih => ?_) moves
  · have hline : s.feeds.length ∈ s.subscribe.2.line := by
      have : s.running = true := fed
      simp [line_subscribe, this]
    rcases mem_line.mp hline with current | waits
    · exact .attached current (List.forall_mem_nil _)
    · exact .queued waits rfl
  · obtain ⟨hsound, f, hf, attending⟩ := ih
    obtain ⟨g, hg, c⟩ := move_feed hsound hf m
    rw [filterMap_concat]
    refine ⟨move_sound hsound m, g, hg, fun fed held => ?_⟩
    have hshaped := hsound.shaped _ f hf
    exact (attending (c.was_fed hshaped fed) (c.held hshaped held)).move hsound hf c fed held

/-- A subscription that gets a notification has got every one since it began. -/
theorem gapless (h : s.Sound) {us vs : List (RawNotification × Option Nat)} {r : RawNotification}
    (got : s.subscribe.2.log moves = us ++ (r, some s.feeds.length) :: vs) :
    ∀ p ∈ us, p.2 = some s.feeds.length := by
  obtain ⟨before, m, after, rfl, rfl, hh⟩ := log_split got
  obtain ⟨hsound, f, hf, attending⟩ := attending_run h before
  obtain ⟨-, -, htarget⟩ := handled_cases hh
  obtain ⟨current, held⟩ := Option.filter_eq_some_iff.mp htarget.symm
  rw [isHeld_eq hf] at held
  intro p hp
  cases attending (hsound.fed_current hf current) held with
  | queued waits nothing =>
    rw [nothing] at hp
    cases hp
  | attached _ each => exact each p hp

/-- A subscription that is still attached, with nothing left to deliver, has got all that was
reported since it began. -/
theorem attending_log (h : s.Sound) (start : s.notifications = [])
    (current : (Run.last State.move s.subscribe.2 moves).current = some s.feeds.length)
    (held : (Run.last State.move s.subscribe.2 moves).isHeld s.feeds.length = true)
    (registered : (Run.last State.move s.subscribe.2 moves).registered = true)
    (drained : (Run.last State.move s.subscribe.2 moves).notifications = []) :
    s.subscribe.2.log moves =
      (moves.filterMap (·.notice?)).map (·, some s.feeds.length) := by
  obtain ⟨hsound, f, hf, attending⟩ := attending_run h moves
  have hfed := hsound.fed_current hf current
  rw [isHeld_eq hf] at held
  have each : ∀ p ∈ s.subscribe.2.log moves, (p.1, some s.feeds.length) = p := by
    cases attending hfed held with
    | queued waits nothing => exact absurd waits (hsound.head current)
    | attached _ each => exact fun p hp => by rw [← each p hp]
  obtain ⟨rest, hpast, hrest⟩ := queue_conserved s.subscribe.2 moves
  have running : (Run.last State.move s.subscribe.2 moves).running = true := by
    rw [← Bool.not_eq_false]
    intro stopped
    simp [hsound.vacant (.inr stopped)] at current
  have hstart : s.subscribe.2.notifications = [] := by simpa [subscribe] using start
  rw [hrest running, drained, List.append_nil, hstart, List.nil_append,
    pushes_registered registered] at hpast
  rw [← hpast, List.map_map]
  exact ((List.map_congr_left each).trans (List.map_id _)).symm

-- ---------------------------------------------------------------------------
-- What the holder reads
-- ---------------------------------------------------------------------------

theorem handed_cons (s : State) (n : Nat) (m : Move) (ms : List Move) :
    s.handed n (m :: ms) = (s.handed? n m).toList ++ (s.move m).handed n ms :=
  filterMap_cons_toList _ _ _

theorem handed_other (hm : m ≠ .recv n) : s.handed? n m = none := by
  cases m with
  | recv k => exact if_neg fun same => hm (congrArg Move.recv same)
  | _ => rfl

theorem FeedChange.unread (c : s.FeedChange m t n f g) (h : f.Shaped) (hm : m ≠ .recv n) :
    g.events.take g.read = f.events.take f.read := by
  cases c with
  | same | drop | leave | forget => rfl
  | read hr => exact absurd hr hm
  | event got quiet fed held =>
    have hread := h.reading (h.listening fed)
    rw [Feed.events_push fed held, Feed.push_eq fed held, List.take_append_of_le_length hread]
  | @finish r verdict nothing fed =>
    have hread : (f.finish r).read = f.read := by
      unfold Feed.finish Feed.push
      split <;> rfl
    rw [Feed.events_finish, hread]

theorem next_take (h : f.Shaped) : f.next.2.events.take f.next.2.read =
    f.events.take f.read ++ f.next.1.event?.toList := by
  have hr := Feed.next_reads h
  generalize f.next.1 = x, f.next.2 = g at hr
  cases hr with
  | told | waits | silence => exact (List.append_nil _).symm
  | event listening here =>
    show f.events.take (f.read + 1) = _
    rw [List.take_add_one, here]
    rfl
  | ended listening all ends =>
    show f.events.take (f.read + 1) = _
    rw [all, List.take_of_length_le (Nat.le_succ _), List.take_length]
    exact (List.append_nil _).symm

theorem handed_move (hf : s.feeds[n]? = some f) (h : f.Shaped) (hg : (s.move m).feeds[n]? = some g)
    (c : s.FeedChange m (s.move m) n f g) :
    g.events.take g.read = f.events.take f.read ++ (s.handed? n m).toList := by
  by_cases hm : m = .recv n
  · subst hm
    cases held : f.held with
    | false =>
      have hrecv : s.recv n = none := by simp [recv, hf, held]
      rw [move, hrecv, Option.map_none, Option.getD_none, hf] at hg
      obtain rfl := Option.some.inj hg
      simp [handed?, hrecv]
    | true =>
      have hrecv : s.recv n = some (f.next.1, { s with feeds := s.feeds.set n f.next.2 }) := by
        simp [recv, hf, held]
      rw [move, hrecv, Option.map_some, Option.getD_some,
        List.getElem?_set_self (List.getElem?_eq_some_iff.mp hf).1] at hg
      obtain rfl := Option.some.inj hg
      simpa [handed?, hrecv] using next_take h
  · rw [handed_other hm, c.unread h hm, Option.toList_none, List.append_nil]

/-- The holder of a subscription reads the events on its feed from the first one on. -/
theorem handed_run (h : s.Sound) (moves : List Move)
    (hf : (Run.last State.move s.subscribe.2 moves).feeds[s.feeds.length]? = some f) :
    s.subscribe.2.handed s.feeds.length moves = f.events.take f.read := by
  have hrun := Run.induction State.move
    (P := fun t past => t.Sound ∧ ∃ f, t.feeds[s.feeds.length]? = some f ∧
      past.filterMap (fun p => p.1.handed? s.feeds.length p.2) = f.events.take f.read)
    [] ⟨subscribe_sound h, s.newFeed, by simp [subscribe, newFeed], rfl⟩
    (fun t past m ih => ?_) moves
  · obtain ⟨-, f', hf', hhanded⟩ := hrun
    obtain rfl := Option.some.inj (hf'.symm.trans hf)
    exact hhanded
  · obtain ⟨hsound, f, hf, hhanded⟩ := ih
    obtain ⟨g, hg, c⟩ := move_feed hsound hf m
    refine ⟨move_sound hsound m, g, hg, ?_⟩
    rw [filterMap_concat, hhanded]
    exact (handed_move hf (hsound.shaped _ f hf) hg c).symm

/-- A subscription that begins with nothing to deliver, and is still attached when everything has
been delivered and read, has handed over an event for everything that was reported in between. -/
theorem attended {filter : DeviceFilter} {past} (h : s.Delivered filter past)
    (start : s.notifications = [])
    (current : (Run.last State.move s.subscribe.2 moves).current = some s.feeds.length)
    (registered : (Run.last State.move s.subscribe.2 moves).registered = true)
    (drained : (Run.last State.move s.subscribe.2 moves).notifications = [])
    (read : ((Run.last State.move s.subscribe.2 moves).recv s.feeds.length).map (·.1) =
      some .pending) :
    s.subscribe.2.handed s.feeds.length moves =
      (moves.filterMap (·.notice?)).filterMap (eventOf filter) := by
  have hd : (Run.last State.move s.subscribe.2 moves).Delivered filter
      (past ++ s.subscribe.2.log moves) := by
    have := (h.move .subscribe).run moves
    rwa [show s.handled? .subscribe = none from rfl, Option.toList_none, List.append_nil] at this
  obtain ⟨f, hf, held, hnext⟩ : ∃ f,
      (Run.last State.move s.subscribe.2 moves).feeds[s.feeds.length]? = some f ∧
        f.held = true ∧ f.next.1 = .pending := by
    unfold recv at read
    split at read
    · cases read
    · rename_i f hf
      split at read
      · exact ⟨f, hf, ‹_›, by simpa using read⟩
      · cases read
  have hlog := attending_log h.sound start current ((isHeld_eq hf).trans held) registered drained
  have hevents := hd.events s.feeds.length f hf
  rw [images_append, h.fresh, hlog, images_all, List.nil_append] at hevents
  have all := ((Feed.next_spec (hd.sound.shaped _ f hf)).2.2 hnext).2
  rw [handed_run h.sound moves hf, all, List.take_length, hevents]

end

end State

end UsbBridge.Relay
