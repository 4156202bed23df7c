import UsbBridge.Relay.Basic

/-!
# What the relay does in one step

A step of the relay handles a command, passes a notification on or finds the registration lost
(`Deed`, `step?_eq`). `Performs` lists all that this can do to the state, and no later proof opens a
step.
-/

namespace UsbBridge.Relay

inductive Deed where
  | command (c : Command)
  | notification (r : RawNotification)
  | loss

namespace State

def deed? (s : State) : Option Deed :=
  if s.running then
    match s.commands, s.lost, s.notifications, s.registered with
    | c :: _, _, _, _ => some (.command c)
    | [], false, r :: _, _ => some (.notification r)
    | [], false, [], false => some .loss
    | _, _, _, _ => none
  else none

def takeCommand (s : State) : State := { s with commands := s.commands.tail }

def takeNotification (s : State) : State := { s with notifications := s.notifications.tail }

def seat (s : State) (current : Option Nat) : State := { s with current }

def lose (s : State) : State := { s with lost := true }

def perform (s : State) : Deed → State
  | .command c => s.takeCommand.obey c
  | .notification r => s.takeNotification.deliver r
  | .loss => (s.finishCurrent .registrationLost).lose

theorem step?_eq (s : State) : s.step? = s.deed?.map s.perform := by
  unfold step? deed?
  cases hr : s.running with
  | false => simp
  | true =>
    cases hc : s.commands with
    | cons c cs => simp [perform, takeCommand, hc, hr]
    | nil =>
      cases hl : s.lost with
      | true => simp
      | false =>
        cases hn : s.notifications with
        | cons r rs => simp [perform, takeNotification, hc, hl, hn, hr]
        | nil => cases hg : s.registered <;> simp [perform, lose]

section
variable {s : State} {c : Command} {r : RawNotification}

theorem deed_command (h : s.deed? = some (.command c)) :
    s.running = true ∧ s.commands = c :: s.commands.tail := by
  unfold deed? at h
  split at h
  · rename_i running
    split at h <;> simp_all
  · cases h

theorem deed_notification (h : s.deed? = some (.notification r)) :
    s.running = true ∧ s.commands = [] ∧ s.lost = false ∧
      s.notifications = r :: s.notifications.tail := by
  unfold deed? at h
  split at h
  · rename_i running
    split at h <;> simp_all
  · cases h

theorem deed_loss (h : s.deed? = some .loss) :
    s.running = true ∧ s.commands = [] ∧ s.lost = false ∧ s.notifications = [] ∧
      s.registered = false := by
  unfold deed? at h
  split at h
  · rename_i running
    split at h <;> simp_all
  · cases h

theorem running_of_deed {d : Deed} (h : s.deed? = some d) : s.running = true := by
  unfold deed? at h
  split at h
  · assumption
  · cases h

theorem move_work (s : State) : s.move .work = (s.deed?.map s.perform).getD s := by
  rw [move, step?_eq]

end

-- ---------------------------------------------------------------------------
-- What the operations leave alone
-- ---------------------------------------------------------------------------

section
variable (s : State) (n : Nat) (g : Feed → Feed) (r : EndReason)

@[simp] theorem filter_takeCommand : s.takeCommand.filter = s.filter := rfl
@[simp] theorem notifications_takeCommand : s.takeCommand.notifications = s.notifications := rfl
@[simp] theorem registered_takeCommand : s.takeCommand.registered = s.registered := rfl
@[simp] theorem current_takeCommand : s.takeCommand.current = s.current := rfl
@[simp] theorem lost_takeCommand : s.takeCommand.lost = s.lost := rfl
@[simp] theorem running_takeCommand : s.takeCommand.running = s.running := rfl
@[simp] theorem feeds_takeCommand : s.takeCommand.feeds = s.feeds := rfl

@[simp] theorem filter_takeNotification : s.takeNotification.filter = s.filter := rfl
@[simp] theorem commands_takeNotification : s.takeNotification.commands = s.commands := rfl
@[simp] theorem registered_takeNotification : s.takeNotification.registered = s.registered := rfl
@[simp] theorem current_takeNotification : s.takeNotification.current = s.current := rfl
@[simp] theorem lost_takeNotification : s.takeNotification.lost = s.lost := rfl
@[simp] theorem running_takeNotification : s.takeNotification.running = s.running := rfl
@[simp] theorem feeds_takeNotification : s.takeNotification.feeds = s.feeds := rfl

@[simp] theorem filter_seat (c : Option Nat) : (s.seat c).filter = s.filter := rfl
@[simp] theorem commands_seat (c : Option Nat) : (s.seat c).commands = s.commands := rfl
@[simp] theorem notifications_seat (c : Option Nat) :
    (s.seat c).notifications = s.notifications := rfl
@[simp] theorem registered_seat (c : Option Nat) : (s.seat c).registered = s.registered := rfl
@[simp] theorem current_seat (c : Option Nat) : (s.seat c).current = c := rfl
@[simp] theorem lost_seat (c : Option Nat) : (s.seat c).lost = s.lost := rfl
@[simp] theorem running_seat (c : Option Nat) : (s.seat c).running = s.running := rfl
@[simp] theorem feeds_seat (c : Option Nat) : (s.seat c).feeds = s.feeds := rfl

@[simp] theorem filter_lose : s.lose.filter = s.filter := rfl
@[simp] theorem commands_lose : s.lose.commands = s.commands := rfl
@[simp] theorem notifications_lose : s.lose.notifications = s.notifications := rfl
@[simp] theorem registered_lose : s.lose.registered = s.registered := rfl
@[simp] theorem current_lose : s.lose.current = s.current := rfl
@[simp] theorem lost_lose : s.lose.lost = true := rfl
@[simp] theorem running_lose : s.lose.running = s.running := rfl
@[simp] theorem feeds_lose : s.lose.feeds = s.feeds := rfl

@[simp] theorem filter_touch : (s.touch n g).filter = s.filter := rfl
@[simp] theorem commands_touch : (s.touch n g).commands = s.commands := rfl
@[simp] theorem notifications_touch : (s.touch n g).notifications = s.notifications := rfl
@[simp] theorem registered_touch : (s.touch n g).registered = s.registered := rfl
@[simp] theorem current_touch : (s.touch n g).current = s.current := rfl
@[simp] theorem lost_touch : (s.touch n g).lost = s.lost := rfl
@[simp] theorem running_touch : (s.touch n g).running = s.running := rfl

theorem getElem?_touch (k : Nat) :
    (s.touch k g).feeds[n]? = if k = n then s.feeds[n]?.map g else s.feeds[n]? := by
  rw [touch, List.getElem?_modify]
  split <;> simp

@[simp] theorem length_touch : (s.touch n g).feeds.length = s.feeds.length := by simp [touch]

theorem finishCurrent_eq : s.finishCurrent r =
    { s with
      current := none
      feeds := match s.current with
        | some k => s.feeds.modify k (·.finish r)
        | none => s.feeds } := by
  obtain ⟨_, _, _, _, current, _, _, _⟩ := s
  cases current <;> rfl

@[simp] theorem current_finishCurrent : (s.finishCurrent r).current = none := by
  rw [finishCurrent_eq]
@[simp] theorem filter_finishCurrent : (s.finishCurrent r).filter = s.filter := by
  rw [finishCurrent_eq]
@[simp] theorem commands_finishCurrent : (s.finishCurrent r).commands = s.commands := by
  rw [finishCurrent_eq]
@[simp] theorem notifications_finishCurrent :
    (s.finishCurrent r).notifications = s.notifications := by
  rw [finishCurrent_eq]
@[simp] theorem registered_finishCurrent : (s.finishCurrent r).registered = s.registered := by
  rw [finishCurrent_eq]
@[simp] theorem lost_finishCurrent : (s.finishCurrent r).lost = s.lost := by
  rw [finishCurrent_eq]
@[simp] theorem running_finishCurrent : (s.finishCurrent r).running = s.running := by
  rw [finishCurrent_eq]

@[simp] theorem length_finishCurrent : (s.finishCurrent r).feeds.length = s.feeds.length := by
  rw [finishCurrent_eq]
  split <;> simp

theorem getElem?_finishCurrent : (s.finishCurrent r).feeds[n]? =
    if s.current = some n then s.feeds[n]?.map (·.finish r) else s.feeds[n]? := by
  unfold finishCurrent
  split
  · rename_i k hk
    simp [finish, getElem?_touch, hk]
  · rename_i hk
    simp [hk]

end

end State

-- ---------------------------------------------------------------------------
-- The line
-- ---------------------------------------------------------------------------

def Command.attached? : Command → Option Nat
  | .attach n => some n
  | _ => none

namespace State

def queued (s : State) : List Nat := s.commands.filterMap (·.attached?)

/-- The attached subscription and those that wait for their turn, in order. -/
def line (s : State) : List Nat := s.current.toList ++ s.queued

section
variable {s : State} {c : Command} {n : Nat}

theorem mem_line : n ∈ s.line ↔ s.current = some n ∨ n ∈ s.queued := by
  rw [line, List.mem_append, Option.mem_toList]

theorem queued_command (h : s.commands = c :: s.commands.tail) :
    s.queued = c.attached?.toList ++ s.takeCommand.queued := by
  unfold queued takeCommand
  rw [h]
  cases c <;> rfl

theorem queued_nil (h : s.commands = []) : s.queued = [] := by simp [queued, h]

@[simp] theorem queued_seat (s : State) (c : Option Nat) : (s.seat c).queued = s.queued := rfl

@[simp] theorem queued_lose (s : State) : s.lose.queued = s.queued := rfl

@[simp] theorem queued_touch (s : State) (k : Nat) (g : Feed → Feed) :
    (s.touch k g).queued = s.queued := rfl

@[simp] theorem queued_takeNotification (s : State) : s.takeNotification.queued = s.queued := rfl

@[simp] theorem queued_finishCurrent (s : State) (r : EndReason) :
    (s.finishCurrent r).queued = s.queued := by
  simp [queued]

theorem line_of_vacant (h : s.current = none) : s.line = s.queued := by simp [line, h]

theorem queued_suffix (s : State) : s.queued <:+ s.line := List.suffix_append _ _

theorem takeCommand_suffix (s : State) : s.takeCommand.queued <:+ s.queued :=
  (List.tail_suffix s.commands).filterMap _

theorem mem_takeCommand (h : c ∈ s.takeCommand.commands) : c ∈ s.commands :=
  List.mem_of_mem_tail h

end

theorem forget_frame (s : State) (cs : List Command) :
    cs.foldl forget s = { s with feeds := (cs.foldl forget s).feeds } := by
  induction cs generalizing s with
  | nil => rfl
  | cons c cs ih =>
    rw [List.foldl_cons, ih]
    cases c <;> rfl

theorem getElem?_forget (s : State) (cs : List Command) (n : Nat) :
    (cs.foldl forget s).feeds[n]? =
      if n ∈ cs.filterMap (·.attached?) then s.feeds[n]?.map (·.hangUp) else s.feeds[n]? := by
  induction cs generalizing s with
  | nil => simp
  | cons c cs ih =>
    rw [List.foldl_cons, ih]
    cases c with
    | attach k =>
      simp only [forget, hangUp, getElem?_touch, Command.attached?, List.filterMap_cons,
        List.mem_cons]
      by_cases hk : k = n
      · subst hk
        cases s.feeds[k]? <;> simp [Feed.hangUp]
      · simp [hk, Ne.symm hk]
    | cancel | shutdown => rfl

theorem stop_eq (s : State) : s.stop =
    { s with
      commands := []
      notifications := []
      running := false
      feeds := (s.commands.foldl forget s).feeds } := by
  rw [stop, forget_frame]

@[simp] theorem filter_stop (s : State) : s.stop.filter = s.filter := by rw [stop_eq]
@[simp] theorem commands_stop (s : State) : s.stop.commands = [] := rfl
@[simp] theorem notifications_stop (s : State) : s.stop.notifications = [] := rfl
@[simp] theorem registered_stop (s : State) : s.stop.registered = s.registered := by rw [stop_eq]
@[simp] theorem current_stop (s : State) : s.stop.current = s.current := by rw [stop_eq]
@[simp] theorem lost_stop (s : State) : s.stop.lost = s.lost := by rw [stop_eq]
@[simp] theorem running_stop (s : State) : s.stop.running = false := rfl

@[simp] theorem length_stop (s : State) : s.stop.feeds.length = s.feeds.length := by
  have length (cs : List Command) (s : State) :
      (cs.foldl forget s).feeds.length = s.feeds.length := by
    induction cs generalizing s with
    | nil => rfl
    | cons c cs ih =>
      rw [List.foldl_cons, ih]
      cases c <;> simp [forget, hangUp]
  rw [stop_eq]
  exact length s.commands s

theorem getElem?_stop (s : State) (n : Nat) : s.stop.feeds[n]? =
    if n ∈ s.queued then s.feeds[n]?.map (·.hangUp) else s.feeds[n]? := by
  rw [stop_eq]
  exact getElem?_forget s s.commands n

inductive Performs (s : State) : Deed → State → Prop
  | refuse {k : Nat} (lost : s.lost = true) : Performs s (.command (.attach k))
      (s.takeCommand.touch k (·.finish .registrationLost))
  | attach {k : Nat} (lost : s.lost = false) : Performs s (.command (.attach k))
      ((s.takeCommand.finishCurrent .replaced).seat (some k))
  | cancel {k : Nat} (hit : s.current.any (mark · == mark k) = true) :
      Performs s (.command (.cancel k)) (s.takeCommand.finishCurrent .cancelled)
  | pass {k : Nat} (miss : s.current.any (mark · == mark k) = false) :
      Performs s (.command (.cancel k)) s.takeCommand
  | shutdown : Performs s (.command .shutdown) (s.takeCommand.finishCurrent .shutdown).stop
  | deliver {r : RawNotification} {e : HotplugEvent} {k : Nat}
      (shown : eventOf s.filter r = some e) (current : s.current = some k)
      (held : s.isHeld k = true) :
      Performs s (.notification r) (s.takeNotification.touch k (·.push (.event e)))
  | leave {r : RawNotification} {e : HotplugEvent} {k : Nat}
      (shown : eventOf s.filter r = some e) (current : s.current = some k)
      (held : s.isHeld k = false) : Performs s (.notification r)
        ((s.takeNotification.touch k (·.hangUp)).seat none)
  | ignore {r : RawNotification} (nothing : eventOf s.filter r = none ∨ s.current = none) :
      Performs s (.notification r) s.takeNotification
  | loss : Performs s .loss (s.finishCurrent .registrationLost).lose

theorem perform_performs (s : State) (d : Deed) : Performs s d (s.perform d) := by
  cases d with
  | command c =>
    cases c with
    | attach k =>
      simp only [perform, obey]
      split
      · rename_i lost
        exact .refuse lost
      · rename_i lost
        exact .attach (Bool.eq_false_iff.mpr lost)
    | cancel k =>
      simp only [perform, obey]
      split
      · rename_i hit
        exact .cancel hit
      · rename_i miss
        exact .pass (Bool.eq_false_iff.mpr miss)
    | shutdown => exact .shutdown
  | notification r =>
    simp only [perform, State.deliver]
    split
    · rename_i e k shown current
      split
      · rename_i held
        exact .deliver shown current held
      · rename_i held
        exact .leave shown current (Bool.eq_false_iff.mpr held)
    · rename_i nothing
      refine .ignore ?_
      cases he : eventOf s.filter r with
      | none => exact .inl rfl
      | some e =>
        cases hc : s.current with
        | none => exact .inr rfl
        | some k => exact (nothing e k he hc).elim
  | loss => exact .loss

theorem work_cases (s : State) : (s.deed? = none ∧ s.move .work = s) ∨
    ∃ d, s.deed? = some d ∧ Performs s d (s.move .work) := by
  cases hd : s.deed? with
  | none => exact .inl ⟨rfl, by simp [move_work, hd]⟩
  | some d => exact .inr ⟨d, rfl, by simpa [move_work, hd] using perform_performs s d⟩

-- ---------------------------------------------------------------------------
-- What everyone else does
-- ---------------------------------------------------------------------------

@[simp] theorem filter_send (s : State) (c : Command) : (s.send c).filter = s.filter := by
  unfold send; split <;> rfl
@[simp] theorem notifications_send (s : State) (c : Command) :
    (s.send c).notifications = s.notifications := by
  unfold send; split <;> rfl
@[simp] theorem registered_send (s : State) (c : Command) :
    (s.send c).registered = s.registered := by
  unfold send; split <;> rfl
@[simp] theorem current_send (s : State) (c : Command) : (s.send c).current = s.current := by
  unfold send; split <;> rfl
@[simp] theorem lost_send (s : State) (c : Command) : (s.send c).lost = s.lost := by
  unfold send; split <;> rfl
@[simp] theorem running_send (s : State) (c : Command) : (s.send c).running = s.running := by
  unfold send; split <;> rfl
@[simp] theorem feeds_send (s : State) (c : Command) : (s.send c).feeds = s.feeds := by
  unfold send; split <;> rfl

theorem commands_send (s : State) (c : Command) :
    (s.send c).commands = s.commands ++ if s.running then [c] else [] := by
  unfold send; split <;> simp

theorem queued_send (s : State) (c : Command) :
    (s.send c).queued = s.queued ++ if s.running then c.attached?.toList else [] := by
  unfold queued
  rw [commands_send, List.filterMap_append]
  cases s.running <;> cases c <;> rfl

theorem line_send (s : State) (c : Command) :
    (s.send c).line = s.line ++ if s.running then c.attached?.toList else [] := by
  rw [line, line, queued_send, current_send, List.append_assoc]

theorem cancel_cases (s : State) (k : Nat) :
    s.cancel k = s ∨ (s.isHeld k = true ∧ s.cancel k = s.send (.cancel k)) := by
  unfold cancel
  split
  · rename_i held
    exact .inr ⟨held, rfl⟩
  · exact .inl rfl

theorem notify_cases (s : State) (r : RawNotification) :
    (s.registered = false ∧ s.notify r = s) ∨ (s.registered = true ∧
      s.notify r = { s with notifications := s.notifications ++ [r] }) := by
  unfold notify
  split
  · rename_i registered
    exact .inr ⟨registered, rfl⟩
  · rename_i gone
    exact .inl ⟨Bool.eq_false_iff.mpr gone, rfl⟩

theorem recv_cases (s : State) (k : Nat) : s.move (.recv k) = s ∨ ∃ f, s.feeds[k]? = some f ∧
    s.move (.recv k) = { s with feeds := s.feeds.set k f.next.2 } := by
  cases hf : s.feeds[k]? with
  | none => exact .inl (by simp [move, recv, hf])
  | some f =>
    cases held : f.held with
    | true => exact .inr ⟨f, rfl, by simp [move, recv, hf, held]⟩
    | false => exact .inl (by simp [move, recv, hf, held])

end State

end UsbBridge.Relay
