import UsbBridge.Proofs.Relay.Line
import UsbBridge.Proofs.Run

/-!
# Delivery of notifications

Notifications are handled in the order in which they were pushed (`queue_conserved`). A notification
has an image if it tells of a change that the filter shows (`eventOf_eq_some_iff`). The events on a
feed are the images of those that were handled while its subscription was attached and read
(`feeds_conserved`). A subscription that is cancelled or replaced by a later one is barred from what
comes after (`move_barred`). `delivery_exact` puts this together for every run of a relay.
-/

namespace UsbBridge.Relay

namespace State

def pushed? (s : State) : Move → Option RawNotification
  | .notify r => if s.registered then some r else none
  | _ => none

def pushes (s : State) (moves : List Move) : List RawNotification :=
  (Run.record move s moves).filterMap fun p => p.1.pushed? p.2

/-- The notifications that the relay handled in a run, each with the subscription that got it. -/
def log (s : State) (moves : List Move) : List (RawNotification × Option Nat) :=
  (Run.record move s moves).filterMap fun p => p.1.handled? p.2

/-- The events that a subscription gets by a log. -/
def images (f : DeviceFilter) (log : List (RawNotification × Option Nat)) (n : Nat) :
    List HotplugEvent :=
  (log.filter (·.2 == some n)).filterMap fun p => eventOf f p.1

section
variable {s t : State} {m : Move} {n k : Nat} {r : RawNotification}

theorem log_append (s : State) (xs ys : List Move) :
    s.log (xs ++ ys) = s.log xs ++ (Run.last move s xs).log ys := by
  simp [log, Run.record_append]

theorem log_cons (s : State) (m : Move) (ms : List Move) :
    s.log (m :: ms) = (s.handled? m).toList ++ (s.move m).log ms :=
  filterMap_cons_toList _ _ _

theorem pushes_append (s : State) (xs ys : List Move) :
    s.pushes (xs ++ ys) = s.pushes xs ++ (Run.last move s xs).pushes ys := by
  simp [pushes, Run.record_append]

theorem pushes_cons (s : State) (m : Move) (ms : List Move) :
    s.pushes (m :: ms) = (s.pushed? m).toList ++ (s.move m).pushes ms :=
  filterMap_cons_toList _ _ _

theorem log_split {us vs : List (RawNotification × Option Nat)} {p : RawNotification × Option Nat}
    {moves : List Move} (h : s.log moves = us ++ p :: vs) :
    ∃ before m after, moves = before ++ m :: after ∧ s.log before = us ∧
      (Run.last move s before).handled? m = some p := by
  induction moves generalizing s us with
  | nil => simp [log] at h
  | cons m ms ih =>
    rw [log_cons] at h
    cases hm : s.handled? m with
    | none =>
      rw [hm, Option.toList_none, List.nil_append] at h
      obtain ⟨before, m', after, rfl, hbefore, hh⟩ := ih h
      exact ⟨m :: before, m', after, rfl, by simp [log_cons, hm, hbefore], hh⟩
    | some q =>
      rw [hm, Option.toList_some, List.singleton_append] at h
      cases us with
      | nil =>
        obtain ⟨rfl, -⟩ := List.cons.inj h
        exact ⟨[], m, ms, rfl, rfl, hm⟩
      | cons u us =>
        obtain ⟨rfl, hms⟩ := List.cons.inj h
        obtain ⟨before, m', after, rfl, hbefore, hh⟩ := ih hms
        exact ⟨m :: before, m', after, rfl, by simp [log_cons, hm, hbefore], hh⟩

-- ---------------------------------------------------------------------------
-- The queue of notifications
-- ---------------------------------------------------------------------------

theorem handled_eq_none (h : m ≠ .work) : s.handled? m = none := by
  cases m <;> first | rfl | exact absurd rfl h

theorem handled_cases (h : s.handled? m = some p) : m = .work ∧
    s.deed? = some (.notification p.1) ∧ p.2 = s.current.filter s.isHeld := by
  cases m with
  | work =>
    simp only [handled?, deedOf?] at h
    split at h
    · rename_i r hd
      obtain rfl := Option.some.inj h
      exact ⟨rfl, hd, rfl⟩
    · cases h
  | _ => cases h

/-- What is handled goes to the attached subscription, if that is read. -/
theorem handled_current {p : RawNotification × Option Nat} (current : s.current = some n)
    (held : s.isHeld n = true) (hh : s.handled? m = some p) : p.2 = some n := by
  obtain ⟨-, -, htarget⟩ := handled_cases hh
  simp [htarget, current, held, Option.filter]

/-- The relay goes on when it has handled a notification. -/
theorem running_handled (h : s.handled? m = some p) : (s.move m).running = true := by
  obtain ⟨rfl, hd, -⟩ := handled_cases h
  have running := running_of_deed hd
  obtain ⟨hnone, -⟩ | ⟨d, hd', hp⟩ := work_cases s
  · simp [hd] at hnone
  · obtain rfl : .notification p.1 = d := by simpa [hd] using hd'
    generalize s.move .work = t at hp ⊢
    cases hp <;> simpa using running

theorem move_queue (s : State) (m : Move) (running : (s.move m).running = true) :
    ((s.handled? m).map (·.1)).toList ++ (s.move m).notifications =
      s.notifications ++ (s.pushed? m).toList := by
  cases m with
  | work =>
    obtain ⟨hd, hs⟩ | ⟨d, hd, hp⟩ := work_cases s
    · simp [hs, handled?, deedOf?, hd, pushed?]
    · generalize s.move .work = t at hp running ⊢
      cases hp with
      | deliver | leave | ignore =>
        obtain ⟨-, -, -, hn⟩ := deed_notification hd
        simpa [handled?, deedOf?, hd, pushed?, takeNotification] using hn.symm
      | shutdown => simp at running
      | refuse | attach | cancel | pass | loss => simp [handled?, deedOf?, hd, pushed?]
  | subscribe => simp [handled_eq_none, move, subscribe, pushed?]
  | cancel k =>
    obtain hc | ⟨-, hc⟩ := cancel_cases s k <;> simp [handled_eq_none, move, hc, pushed?]
  | shutdown => simp [handled_eq_none, move, shutdown, pushed?]
  | notify r =>
    obtain ⟨hr, hc⟩ | ⟨hr, hc⟩ := notify_cases s r <;>
      simp [handled_eq_none, move, hc, pushed?, hr]
  | drop k | unregister => simp [handled_eq_none, move, State.drop, unregister, pushed?]
  | recv k =>
    obtain hc | ⟨f, -, hc⟩ := recv_cases s k <;> simp [handled_eq_none, hc, pushed?]

/-- Of a relay, when some notifications have been queued and some handled: the handled ones are the
first that were queued, and while it runs the others wait. -/
def Conserved (queue : List RawNotification) (past : List (RawNotification × Option Nat))
    (s : State) : Prop :=
  ∃ rest, past.map (·.1) ++ rest = queue ∧ (s.running = true → rest = s.notifications)

theorem Conserved.move {queue past} (h : s.Conserved queue past) (m : Move) :
    (s.move m).Conserved (queue ++ (s.pushed? m).toList) (past ++ (s.handled? m).toList) := by
  obtain ⟨rest, hpast, hrest⟩ := h
  cases hr : (s.move m).running with
  | true =>
    obtain rfl := hrest (running_move hr)
    refine ⟨(s.move m).notifications, ?_, fun _ => rfl⟩
    have hq := move_queue s m hr
    rw [Option.toList_map] at hq
    rw [List.map_append, List.append_assoc, hq, ← List.append_assoc, hpast]
  | false =>
    have hnone : s.handled? m = none := by
      cases hh : s.handled? m with
      | none => rfl
      | some p => simp [running_handled hh] at hr
    refine ⟨rest ++ (s.pushed? m).toList, ?_, by simp [hr]⟩
    simp [hnone, ← List.append_assoc, hpast]

theorem queue_conserved (s : State) (moves : List Move) :
    (Run.last move s moves).Conserved (s.notifications ++ s.pushes moves) (s.log moves) := by
  refine Run.induction move
    (P := fun t past => t.Conserved (s.notifications ++ past.filterMap fun p => p.1.pushed? p.2)
      (past.filterMap fun p => p.1.handled? p.2))
    [] ⟨s.notifications, by simp, fun _ => rfl⟩ (fun t past m h => ?_) moves
  simp only [filterMap_concat, ← List.append_assoc]
  exact h.move m

theorem length_log (start : s.notifications = []) (moves : List Move) :
    (s.log moves).length ≤ (s.pushes moves).length := by
  obtain ⟨rest, hpast, -⟩ := queue_conserved s moves
  rw [start, List.nil_append] at hpast
  rw [← hpast]
  simp

-- ---------------------------------------------------------------------------
-- The events on feeds
-- ---------------------------------------------------------------------------

theorem FeedChange.events (c : s.FeedChange m t n f g) (h : f.Shaped) :
    g.events = f.events ++ (s.received? m n).toList := by
  cases c with
  | same quiet nothing => simp [nothing]
  | drop hm => subst hm; simp [received?, handled_eq_none]
  | read hm =>
    subst hm
    simp [received?, handled_eq_none, Feed.events, (Feed.next_reads h).frame.1]
  | event got quiet fed held => rw [Feed.events_push fed held, got]; rfl
  | leave held nothing => simp [nothing]
  | finish verdict nothing => simp [nothing]
  | forget verdict nothing => simp [nothing]

@[simp] theorem filter_move (s : State) (m : Move) : (s.move m).filter = s.filter := by
  cases m with
  | work =>
    obtain ⟨-, hs⟩ | ⟨d, -, hp⟩ := work_cases s
    · rw [hs]
    · generalize s.move .work = t at hp ⊢
      cases hp <;> simp
  | subscribe => simp [move, subscribe]
  | cancel k => obtain hc | ⟨-, hc⟩ := cancel_cases s k <;> simp [move, hc]
  | notify r => obtain ⟨-, hc⟩ | ⟨-, hc⟩ := notify_cases s r <;> simp [move, hc]
  | recv k => obtain hc | ⟨f, -, hc⟩ := recv_cases s k <;> simp [hc]
  | drop | unregister | shutdown => simp [move, State.drop, unregister, shutdown]

theorem images_concat (s : State) (m : Move) (n : Nat)
    (past : List (RawNotification × Option Nat)) :
    images s.filter (past ++ (s.handled? m).toList) n =
      images s.filter past n ++ (s.received? m n).toList := by
  simp only [images, List.filter_append, List.filterMap_append, received?]
  cases s.handled? m with
  | none => rfl
  | some p =>
    by_cases hp : p.2 = some n
    · cases he : eventOf s.filter p.1 <;> simp [hp, he]
    · simp [hp]

/-- Of a relay that has come from another one with a log: each feed has what the log says. -/
structure Delivered (f : DeviceFilter) (past : List (RawNotification × Option Nat)) (s : State) :
    Prop where
  sound : s.Sound
  filter : s.filter = f
  events : ∀ (n : Nat) (fd : Feed), s.feeds[n]? = some fd → fd.events = images f past n
  known : ∀ p ∈ past, ∀ n, p.2 = some n → n < s.feeds.length

theorem delivered_start (f : DeviceFilter) (registered : Bool) :
    (start f registered).Delivered f [] where
  sound := sound_start f registered
  filter := rfl
  events := by simp [start]
  known := by simp

theorem Delivered.fresh {past} (h : s.Delivered f past) : images f past s.feeds.length = [] := by
  have : past.filter (·.2 == some s.feeds.length) = [] := by
    refine List.filter_eq_nil_iff.mpr fun p hp heq => ?_
    exact Nat.lt_irrefl _ (h.known p hp _ (by simpa using heq))
  simp [images, this]

theorem Delivered.move {past} (h : s.Delivered f past) (m : Move) :
    (s.move m).Delivered f (past ++ (s.handled? m).toList) where
  sound := move_sound h.sound m
  filter := by rw [filter_move, h.filter]
  events n g hg := by
    rw [← h.filter, images_concat]
    obtain ⟨fd, hf, hc⟩ | ⟨rfl, rfl, rfl⟩ := feed_cases h.sound hg
    · rw [hc.events (h.sound.shaped n fd hf), h.events n fd hf, h.filter]
    · have hnone : images s.filter past s.feeds.length = [] := h.filter ▸ h.fresh
      simp [hnone, received?, handled_eq_none, newFeed, Feed.events]
  known p hp n hn := by
    refine Nat.lt_of_lt_of_le ?_ (length_le_move s m)
    rcases List.mem_append.mp hp with hp | hp
    · exact h.known p hp n hn
    · obtain ⟨-, -, htarget⟩ := handled_cases (Option.mem_toList.mp hp)
      rw [hn, eq_comm, Option.filter_eq_some_iff] at htarget
      exact isHeld_lt htarget.2

theorem Delivered.run {past} (h : s.Delivered f past) (moves : List Move) :
    (Run.last State.move s moves).Delivered f (past ++ s.log moves) := by
  refine Run.induction State.move
    (P := fun t later => t.Delivered f (past ++ later.filterMap fun p => p.1.handled? p.2))
    [] (by simpa using h) (fun t later m h => ?_) moves
  rw [filterMap_concat, ← List.append_assoc]
  exact h.move m

theorem delivered_run (f : DeviceFilter) (registered : Bool) (moves : List Move) :
    (Run.last State.move (start f registered) moves).Delivered f
      ((start f registered).log moves) :=
  (delivered_start f registered).run moves

-- ---------------------------------------------------------------------------
-- Cancelled and replaced subscriptions
-- ---------------------------------------------------------------------------

/-- Who is attached after a command, if nothing but commands counts. -/
def succeed : Option Nat → Command → Option Nat
  | _, .attach k => some k
  | c, .cancel k => if c.any (mark · == mark k) then none else c
  | _, .shutdown => none

/-- Who will be attached when the commands that are queued have been handled. -/
def heir (s : State) : Option Nat := s.commands.foldl succeed s.current

/-- A subscription gets nothing any more, whatever is still queued: commands come first. -/
def Barred (s : State) (n : Nat) : Prop := s.running = true → s.lost = false → s.heir ≠ some n

theorem heir_send (s : State) (c : Command) (running : s.running = true) :
    (s.send c).heir = succeed s.heir c := by
  simp [heir, commands_send, running]

theorem heir_command (h : s.commands = c :: s.commands.tail) :
    s.heir = s.takeCommand.commands.foldl succeed (succeed s.current c) := by
  rw [heir, h]
  rfl

theorem succeed_cancel (c : Option Nat) (n : Nat) : succeed c (.cancel n) ≠ some n := by
  cases c with
  | none => simp [succeed]
  | some k =>
    simp only [succeed]
    split
    · simp
    · rintro ⟨⟩
      simp_all

theorem cancel_barred (held : s.isHeld n = true) : (s.cancel n).Barred n := by
  intro running _
  rw [cancel, if_pos held] at running ⊢
  rw [heir_send s _ (by simpa using running)]
  exact succeed_cancel _ n

theorem subscribe_barred (hn : n < s.feeds.length) : s.subscribe.2.Barred n := by
  intro running _
  rw [subscribe, heir_send _ _ (by simpa [subscribe] using running)]
  simpa [succeed] using Nat.ne_of_gt hn

theorem send_barred (h : s.Barred n) (hc : c.attached? = none) : (s.send c).Barred n := by
  intro running lost
  have hheir := h (by simpa using running) (by simpa using lost)
  rw [heir_send s c (by simpa using running)]
  cases c with
  | attach k => simp [Command.attached?] at hc
  | cancel k =>
    simp only [succeed]
    split
    · simp
    · exact hheir
  | shutdown => simp [succeed]

theorem move_barred (hn : n < s.feeds.length) (h : s.Barred n) (m : Move) :
    (s.move m).Barred n := by
  cases m with
  | work =>
    obtain ⟨-, hs⟩ | ⟨d, hd, hp⟩ := work_cases s
    · rwa [hs]
    · have running := running_of_deed hd
      generalize s.move .work = t at hp ⊢
      cases hp with
      | refuse lost => exact fun _ hl => by simp [lost] at hl
      | attach lost =>
        have hheir := h running lost
        rw [heir_command (deed_command hd).2, succeed] at hheir
        exact fun _ _ => by simpa [heir] using hheir
      | cancel hit =>
        intro _ hl
        have hheir := h running (by simpa using hl)
        rw [heir_command (deed_command hd).2, succeed, if_pos hit] at hheir
        simpa [heir] using hheir
      | pass miss =>
        intro _ hl
        have hheir := h running hl
        rw [heir_command (deed_command hd).2, succeed, if_neg (by simp [miss])] at hheir
        exact hheir
      | shutdown => exact nofun
      | deliver => exact h
      | leave => exact fun _ _ => by simp [heir, (deed_notification hd).2.1]
      | ignore => exact h
      | loss => exact fun _ hl => by simp at hl
  | subscribe => exact subscribe_barred hn
  | cancel k =>
    obtain hc | ⟨-, hc⟩ := cancel_cases s k
    · rwa [move, hc]
    · rw [move, hc]
      exact send_barred h rfl
  | shutdown => exact send_barred h rfl
  | notify r => obtain ⟨-, hc⟩ | ⟨-, hc⟩ := notify_cases s r <;> rw [move, hc] <;> exact h
  | drop k | unregister => exact h
  | recv k => obtain hc | ⟨f, -, hc⟩ := recv_cases s k <;> rw [hc] <;> exact h

theorem Barred.handled (h : s.Barred n) (hh : s.handled? m = some (r, some k)) : k ≠ n := by
  obtain ⟨-, hd, htarget⟩ := handled_cases hh
  obtain ⟨running, hc, lost, -⟩ := deed_notification hd
  rw [eq_comm, Option.filter_eq_some_iff] at htarget
  rintro rfl
  -- No command is queued when a notification is handled, so the heir is attached already.
  exact h running lost (by simpa [heir, hc] using htarget.1)

theorem barred_log (hn : n < s.feeds.length) (h : s.Barred n) (moves : List Move) :
    ∀ p ∈ s.log moves, p.2 ≠ some n := by
  induction moves generalizing s with
  | nil => simp [log]
  | cons m ms ih =>
    rw [log_cons]
    intro p hp
    rcases List.mem_append.mp hp with hp | hp
    · obtain ⟨r, target⟩ := p
      cases target with
      | none => simp
      | some k => simpa using h.handled (Option.mem_toList.mp hp)
    · exact ih (Nat.lt_of_lt_of_le hn (length_le_move s m)) (move_barred hn h m) p hp

-- ---------------------------------------------------------------------------
-- Lost registrations
-- ---------------------------------------------------------------------------

theorem current_keeps (h : s.Sound) (current : s.current = some n) (held : s.isHeld n = true)
    (quiet : s.verdict? m n = none) : (s.move m).current = some n := by
  cases m with
  | work =>
    obtain ⟨-, hs⟩ | ⟨d, hd, hp⟩ := work_cases s
    · rwa [hs]
    · simp only [verdict?, deedOf?, hd] at quiet
      generalize s.move .work = t at hp ⊢
      cases hp with
      | refuse lost => simp [h.vacant (.inl lost)] at current
      | attach lost => simp [lost, current] at quiet
      | cancel hit => simp_all
      | pass => exact current
      | shutdown => simp [mem_line, current] at quiet
      | deliver => exact current
      | @leave r e k _ hc hk => simp_all
      | ignore => exact current
      | loss => simp [current] at quiet
  | subscribe => simpa [move, subscribe] using current
  | cancel k => obtain hc | ⟨-, hc⟩ := cancel_cases s k <;> simpa [move, hc] using current
  | shutdown => simpa [move, shutdown] using current
  | notify r => obtain ⟨-, hc⟩ | ⟨-, hc⟩ := notify_cases s r <;> simpa [move, hc] using current
  | drop | unregister => exact current
  | recv k => obtain hc | ⟨f, -, hc⟩ := recv_cases s k <;> simpa [hc] using current

theorem verdict_lost (h : s.Sound) (current : s.current = some n)
    (verdict : s.verdict? m n = some .registrationLost) :
    m = .work ∧ s.running = true ∧ s.notifications = [] ∧ s.registered = false := by
  cases verdict_iff.mp verdict with
  | bereft hd =>
    obtain ⟨running, -, -, notifications, registered⟩ := deed_loss hd
    exact ⟨rfl, running, notifications, registered⟩
  | late hd lost => simp [h.vacant (.inl lost)] at current

theorem quiet_move (notifications : s.notifications = []) (registered : s.registered = false)
    (m : Move) : (s.move m).notifications = [] ∧ (s.move m).registered = false := by
  cases m with
  | work =>
    obtain ⟨-, hs⟩ | ⟨d, -, hp⟩ := work_cases s
    · simp [hs, notifications, registered]
    · generalize s.move .work = t at hp ⊢
      cases hp <;> simp [takeNotification, notifications, registered]
  | subscribe => simp [move, subscribe, notifications, registered]
  | cancel k =>
    obtain hc | ⟨-, hc⟩ := cancel_cases s k <;> simp [move, hc, notifications, registered]
  | notify r =>
    obtain ⟨-, hc⟩ | ⟨hr, -⟩ := notify_cases s r
    · simp [move, hc, notifications, registered]
    · simp [registered] at hr
  | recv k => obtain hc | ⟨f, -, hc⟩ := recv_cases s k <;> simp [hc, notifications, registered]
  | drop | unregister | shutdown =>
    simp [move, State.drop, unregister, shutdown, notifications, registered]

theorem handled_quiet (notifications : s.notifications = []) (m : Move) : s.handled? m = none := by
  cases hh : s.handled? m with
  | none => rfl
  | some p =>
    obtain ⟨-, -, -, hn⟩ := deed_notification (handled_cases hh).2.1
    simp [notifications] at hn

/-- How a subscription that was attached has fared since, when some notifications were queued and
some handled: it gets each one, until it is over; by the loss of the registration only when it has
got all. -/
inductive Fares (n : Nat) (f : Feed) (s : State) (queue : List RawNotification)
    (past : List (RawNotification × Option Nat)) : Prop
  | attached (current : s.current = some n) (each : ∀ p ∈ past, p.2 = some n)
  | lost (ending : f.ending = some .registrationLost) (each : ∀ p ∈ past, p.2 = some n)
      (all : past.map (·.1) = queue) (notifications : s.notifications = [])
      (registered : s.registered = false)
  | ended {r : EndReason} (ending : f.ending = some r) (other : r ≠ .registrationLost)

theorem Fares.move {f g : Feed} {queue past} (h : s.Sound) (hq : s.Conserved queue past)
    (hf : s.feeds[n]? = some f) (fares : Fares n f s queue past)
    (c : s.FeedChange m (s.move m) n f g) (held : g.held = true) :
    Fares n g (s.move m) (queue ++ (s.pushed? m).toList) (past ++ (s.handled? m).toList) := by
  have hshaped := h.shaped n f hf
  have hf' := c.held hshaped held
  cases fares with
  | attached current each =>
    -- Whatever the move hands over goes to the attached subscription.
    have each' : ∀ p ∈ past ++ (s.handled? m).toList, p.2 = some n := by
      intro p hp
      rcases List.mem_append.mp hp with hp | hp
      · exact each p hp
      · exact handled_current current ((isHeld_eq hf).trans hf') (Option.mem_toList.mp hp)
    have hending := c.ending hshaped held
    rw [Feed.ending_fed (h.fed_current hf current)] at hending
    cases hv : s.verdict? m n with
    | none => exact .attached (current_keeps h current (by rwa [isHeld_eq hf]) hv) each'
    | some r =>
      rw [hv] at hending
      have ending : g.ending = some r := by cases hg : g.ending <;> simp_all
      by_cases hr : r = .registrationLost
      · subst hr
        obtain ⟨rfl, running, notifications, registered⟩ := verdict_lost h current hv
        obtain ⟨hn, hr⟩ := quiet_move notifications registered .work
        obtain ⟨rest, hpast, hrest⟩ := hq
        refine .lost ending each' ?_ hn hr
        simpa [handled_quiet notifications, pushed?, hrest running, notifications] using hpast
      · exact .ended ending hr
  | lost ending each all notifications registered =>
    -- Nothing is queued without a registration, so there is nothing left to miss.
    obtain ⟨hn, hr⟩ := quiet_move notifications registered m
    have hpushed : s.pushed? m = none := by cases m <;> simp [pushed?, registered]
    refine .lost (c.ended hshaped held ending).1 ?_ ?_ hn hr
    · simpa [handled_quiet notifications] using each
    · simpa [handled_quiet notifications, hpushed] using all
  | ended ending other => exact .ended (c.ended hshaped held ending).1 other

/-- A subscription that was attached and ends because the registration is lost has got every
notification that was queued then or pushed later. -/
theorem lost_log (h : s.Sound) (current : s.current = some n) (moves : List Move)
    (hg : (Run.last State.move s moves).feeds[n]? = some g) (held : g.held = true)
    (ending : g.ending = some .registrationLost) :
    s.log moves = (s.notifications ++ s.pushes moves).map (·, some n) := by
  have hn : n < s.feeds.length := h.bound n (by simp [line, current])
  have hrun := Run.induction State.move
    (P := fun t past =>
      let queue := s.notifications ++ past.filterMap fun p => p.1.pushed? p.2
      let log := past.filterMap fun p => p.1.handled? p.2
      t.Sound ∧ t.Conserved queue log ∧
        ∃ f, t.feeds[n]? = some f ∧ (f.held = true → Fares n f t queue log))
    [] ⟨h, ⟨s.notifications, by simp, fun _ => rfl⟩, _, List.getElem?_eq_getElem hn,
      fun _ => .attached current (by simp)⟩ (fun t past m ih => ?_) moves
  · obtain ⟨hsound, -, f, hf, fares⟩ := hrun
    obtain rfl : f = g := by simpa [hf] using hg
    cases fares held with
    | attached current each =>
      simp [Feed.ending_fed (hsound.fed_current hf current)] at ending
    | lost ending each all =>
      have same : ∀ p ∈ s.log moves, (p.1, some n) = p := fun p hp => by rw [← each p hp]
      have hlog : (s.log moves).map (·.1) = s.notifications ++ s.pushes moves := all
      rw [← hlog, List.map_map]
      exact ((List.map_congr_left same).trans (List.map_id _)).symm
    | ended he other =>
      obtain rfl := Option.some.inj (he.symm.trans ending)
      exact absurd rfl other
  · obtain ⟨hsound, hq, f, hf, fares⟩ := ih
    obtain ⟨g, hg, c⟩ := move_feed hsound hf m
    simp only [filterMap_concat, ← List.append_assoc]
    refine ⟨move_sound hsound m, hq.move m, g, hg, fun held => ?_⟩
    exact (fares (c.held (hsound.shaped n f hf) held)).move hsound hq hf c held

-- ---------------------------------------------------------------------------
-- Runs of a relay
-- ---------------------------------------------------------------------------

theorem images_append (f : DeviceFilter) (xs ys : List (RawNotification × Option Nat)) (n : Nat) :
    images f (xs ++ ys) n = images f xs n ++ images f ys n := by
  simp [images]

theorem images_all (f : DeviceFilter) (rs : List RawNotification) (n : Nat) :
    images f (rs.map (·, some n)) n = rs.filterMap (eventOf f) := by
  induction rs with
  | nil => rfl
  | cons r rs ih =>
    simp only [images] at ih ⊢
    cases he : eventOf f r <;> simp [he, ih]

/-- The notification of some place in a log comes to a subscription as an event. -/
def Reaches (f : DeviceFilter) (past : List (RawNotification × Option Nat)) (i n : Nat) : Prop :=
  ∃ r e, past[i]? = some (r, some n) ∧ eventOf f r = some e

/-- A move that bars a subscription bars it from whatever is pushed later. -/
theorem barred_later (s : State) (f : DeviceFilter) (before after : List Move) (hm : m ≠ .work)
    (start : s.notifications = [])
    (hn : n < ((Run.last move s before).move m).feeds.length)
    (barred : ((Run.last move s before).move m).Barred n) :
    ∀ i, (s.pushes before).length ≤ i → ¬Reaches f (s.log (before ++ m :: after)) i n := by
  rintro i hi ⟨r, e, hr, -⟩
  have hlen := length_log start before
  rw [log_append, log_cons, handled_eq_none hm, Option.toList_none, List.nil_append,
    List.getElem?_append_right (Nat.le_trans hlen hi)] at hr
  exact barred_log hn barred after _ (List.mem_of_getElem? hr) rfl

end

end State

open State in
/-- Of a relay that has made some moves since its start: what comes to whom. -/
structure ExactDelivery (f : DeviceFilter) (registered : Bool) (moves : List Move) : Prop where
  /-- Notifications are handled as they were pushed, each once; while the relay runs the others
  wait. -/
  order : (Run.last move (start f registered) moves).Conserved
    ((start f registered).pushes moves) ((start f registered).log moves)
  /-- The events on a feed are the images of the notifications that its subscription got. -/
  events : ∀ (n : Nat) (fd : Feed),
    (Run.last move (start f registered) moves).feeds[n]? = some fd →
    fd.events = images f ((start f registered).log moves) n
  once : ∀ i n k, Reaches f ((start f registered).log moves) i n →
    Reaches f ((start f registered).log moves) i k → n = k
  /-- Nothing pushed after a subscription has been cancelled reaches it. -/
  cancelled : ∀ before n after, moves = before ++ .cancel n :: after →
    (Run.last move (start f registered) before).isHeld n = true →
    ∀ i, ((start f registered).pushes before).length ≤ i →
    ¬Reaches f ((start f registered).log moves) i n
  /-- Nothing pushed after a later subscription reaches an earlier one. -/
  replaced : ∀ before n after, moves = before ++ .subscribe :: after →
    n < (Run.last move (start f registered) before).feeds.length →
    ∀ i, ((start f registered).pushes before).length ≤ i →
    ¬Reaches f ((start f registered).log moves) i n
  /-- A subscription that was attached and has ended with the registration has got every event
  that was queued then or came later. -/
  lost : ∀ before n after (fd : Feed), moves = before ++ after →
    (Run.last move (start f registered) before).current = some n →
    (Run.last move (start f registered) moves).feeds[n]? = some fd →
    fd.held = true → fd.ending = some .registrationLost →
    fd.events = images f ((start f registered).log before) n ++
      ((Run.last move (start f registered) before).notifications ++
        (Run.last move (start f registered) before).pushes after).filterMap (eventOf f)

/-- In every run of a relay, whoever subscribes, cancels or goes away, whatever the operating system
reports and whenever the registration is lost or the relay is closed. -/
theorem delivery_exact (f : DeviceFilter) (registered : Bool) (moves : List Move) :
    ExactDelivery f registered moves where
  order := State.queue_conserved (.start f registered) moves
  events := (State.delivered_run f registered moves).events
  once := by
    rintro i n k ⟨r, e, hn, -⟩ ⟨r', e', hk, -⟩
    simp_all
  cancelled := by
    rintro before n after rfl held
    refine State.barred_later _ f before after nofun rfl ?_ (State.cancel_barred held)
    exact Nat.lt_of_lt_of_le (State.isHeld_lt held) (State.length_le_move _ _)
  replaced := by
    rintro before n after rfl hn
    refine State.barred_later _ f before after nofun rfl ?_ (State.subscribe_barred hn)
    exact Nat.lt_of_lt_of_le hn (State.length_le_move _ _)
  lost := by
    rintro before n after fd rfl current hf held ending
    have hsound := (State.delivered_run f registered before).sound
    rw [(State.delivered_run f registered _).events n fd hf, State.log_append, State.images_append]
    rw [Run.last_append] at hf
    rw [State.lost_log hsound current after hf held ending, State.images_all]

end UsbBridge.Relay
