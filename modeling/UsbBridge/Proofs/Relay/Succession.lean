import UsbBridge.Proofs.Relay.Delivery
import UsbBridge.Proofs.Relay.Endings

/-!
# Who is attached next

The heir of a relay is the subscription that will be attached when the queued commands have been
handled. Only a new subscription becomes the heir (`heir_move`, `heir_subscribe`), and a cancelled
one is the heir no longer (`heir_cancel`). A subscription that has been cancelled and has lost its
place is over for its holder (`barred_over`).
-/

namespace UsbBridge.Relay

def Move.subject? : Move → Option Nat
  | .cancel n | .drop n | .recv n => some n
  | _ => none

namespace State

section
variable {s : State} {m : Move} {n k : Nat} {f g : Feed} {cs : List Command}

-- ---------------------------------------------------------------------------
-- The heir
-- ---------------------------------------------------------------------------

theorem succeed_vacant (h : cs.foldl succeed none = some n) (current : Option Nat) :
    cs.foldl succeed current = some n := by
  induction cs generalizing current with
  | nil => cases h
  | cons c cs ih =>
    cases c with
    | attach k => exact h
    | cancel k => exact ih h _
    | shutdown => exact h

theorem succeed_line {current : Option Nat} (h : cs.foldl succeed current = some n) :
    current = some n ∨ n ∈ cs.filterMap (·.attached?) := by
  induction cs generalizing current with
  | nil => exact .inl h
  | cons c cs ih =>
    rcases ih h with now | later
    · cases c with
      | attach k =>
        obtain rfl := Option.some.inj now
        exact .inr (by simp [Command.attached?])
      | cancel k =>
        simp only [succeed] at now
        split at now
        · cases now
        · exact .inl now
      | shutdown => cases now
    · right
      rw [filterMap_cons_toList]
      exact List.mem_append_right _ later

theorem heir_line (h : s.heir = some n) : n ∈ s.line := mem_line.mpr (succeed_line h)

theorem heir_idle (idle : s.commands = []) : s.heir = s.current := by simp [heir, idle]

theorem heir_move (sound : s.Sound) (hm : m ≠ .subscribe) (h : (s.move m).heir = some n) :
    s.heir = some n := by
  have sent {c : Command} (hc : c.attached? = none) (h : (s.send c).heir = some n) :
      s.heir = some n := by
    cases running : s.running with
    | false => simpa [send, running] using h
    | true =>
      rw [heir_send s c running] at h
      cases c with
      | attach k => cases hc
      | cancel k =>
        simp only [succeed] at h
        split at h
        · cases h
        · exact h
      | shutdown => cases h
  cases m with
  | work =>
    obtain ⟨-, hs⟩ | ⟨d, hd, hp⟩ := work_cases s
    · rwa [hs] at h
    · generalize s.move .work = t at hp h
      cases hp with
      | @refuse k lost =>
        rw [heir_command (deed_command hd).2, succeed]
        -- Nobody is attached after the loss, so that whoever is refused makes no difference.
        have vacant : s.current = none := sound.vacant (.inl lost)
        have h : s.takeCommand.commands.foldl succeed s.current = some n := h
        rw [vacant] at h
        exact succeed_vacant h (some k)
      | attach lost =>
        rw [heir_command (deed_command hd).2, succeed]
        simpa [heir] using h
      | cancel hit =>
        rw [heir_command (deed_command hd).2, succeed, if_pos hit]
        simpa [heir] using h
      | pass miss =>
        rw [heir_command (deed_command hd).2, succeed, if_neg (by simp [miss])]
        exact h
      | shutdown => simp [heir] at h
      | deliver => exact h
      | leave => simp [heir, (deed_notification hd).2.1] at h
      | ignore => exact h
      | loss => simp [heir, (deed_loss hd).2.1] at h
  | subscribe => exact absurd rfl hm
  | cancel k =>
    obtain hc | ⟨-, hc⟩ := cancel_cases s k
    · rwa [move, hc] at h
    · rw [move, hc] at h
      exact sent rfl h
  | shutdown => exact sent rfl h
  | notify r => obtain ⟨-, hc⟩ | ⟨-, hc⟩ := notify_cases s r <;> rw [move, hc] at h <;> exact h
  | drop k | unregister => exact h
  | recv k => obtain hc | ⟨f, -, hc⟩ := recv_cases s k <;> rw [hc] at h <;> exact h

theorem heir_subscribe (sound : s.Sound) (h : s.subscribe.2.heir = some n) :
    n = s.feeds.length := by
  cases running : s.running with
  | true =>
    rw [subscribe, heir_send _ _ (by simpa using running)] at h
    exact (Option.some.inj h).symm
  | false =>
    have line : s.subscribe.2.line = [] := by
      rw [line_subscribe, running]
      simp [State.line, queued, sound.vacant (.inr running), sound.stopped running]
    have hn := heir_line h
    rw [line] at hn
    cases hn

theorem heir_cancel (sound : s.Sound) (held : s.isHeld n = true) : (s.cancel n).heir ≠ some n := by
  rw [cancel, if_pos held]
  cases running : s.running with
  | true =>
    rw [heir_send s _ running]
    exact succeed_cancel _ n
  | false =>
    intro h
    have vacant : s.heir = none := by
      simp [heir, sound.stopped running, sound.vacant (.inr running)]
    simp [send, running, vacant] at h

-- ---------------------------------------------------------------------------
-- What a move leaves to the holders
-- ---------------------------------------------------------------------------

theorem FeedChange.held_eq (c : s.FeedChange m (s.move m) n f g) (h : f.Shaped)
    (hm : m ≠ .drop n) : g.held = f.held := by
  cases c with
  | same | leave | forget => rfl
  | drop same => exact absurd same hm
  | read => exact (Feed.next_reads h).frame.2.2
  | event => exact Feed.held_push ..
  | finish => exact Feed.held_finish ..

theorem held_feed (held : s.isHeld n = true) : ∃ f, s.feeds[n]? = some f ∧ f.held = true := by
  have hf := List.getElem?_eq_getElem (isHeld_lt held)
  exact ⟨_, hf, (isHeld_eq hf).symm.trans held⟩

theorem isHeld_move (sound : s.Sound) (hm : m ≠ .drop n) (held : s.isHeld n = true) :
    (s.move m).isHeld n = true := by
  obtain ⟨f, hf, held⟩ := held_feed held
  obtain ⟨g, hg, c⟩ := move_feed sound hf m
  rw [isHeld_eq hg, c.held_eq (sound.shaped n f hf) hm, held]

theorem isHeld_subscribe (s : State) : s.subscribe.2.isHeld s.feeds.length = true := by
  simp [isHeld, subscribe]

theorem length_le_run (s : State) (rs : List Move) :
    s.feeds.length ≤ (Run.last move s rs).feeds.length := by
  induction rs generalizing s with
  | nil => exact Nat.le_refl _
  | cons m ms ih => exact Nat.le_trans (length_le_move s m) (ih _)

theorem barred_run (hn : n < s.feeds.length) (h : s.Barred n) (rs : List Move) :
    (Run.last move s rs).Barred n := by
  induction rs generalizing s with
  | nil => exact h
  | cons m ms ih => exact ih (Nat.lt_of_lt_of_le hn (length_le_move s m)) (move_barred hn h m)

theorem mem_commands_move (h : .cancel n ∈ (s.move m).commands) :
    .cancel n ∈ s.commands ∨ m = .cancel n := by
  have sent {t : State} {c : Command} (h : .cancel n ∈ (t.send c).commands) :
      .cancel n ∈ t.commands ∨ c = .cancel n := by
    rw [commands_send] at h
    rcases List.mem_append.mp h with h | h
    · exact .inl h
    · split at h
      · exact .inr (List.mem_singleton.mp h).symm
      · cases h
  cases m with
  | work =>
    obtain ⟨-, hs⟩ | ⟨d, -, hp⟩ := work_cases s
    · rw [hs] at h
      exact .inl h
    · generalize s.move .work = t at hp h
      cases hp with
      | refuse | pass => exact .inl (mem_takeCommand h)
      | attach | cancel => exact .inl (mem_takeCommand (by simpa using h))
      | shutdown => simp at h
      | deliver | leave | ignore => exact .inl h
      | loss => exact .inl (by simpa using h)
  | subscribe =>
    rcases sent h with h | h
    · exact .inl h
    · cases h
  | cancel k =>
    obtain hc | ⟨-, hc⟩ := cancel_cases s k
    · rw [move, hc] at h
      exact .inl h
    · rw [move, hc] at h
      rcases sent h with h | h
      · exact .inl h
      · exact .inr (by rw [Command.cancel.inj h])
  | shutdown =>
    rcases sent h with h | h
    · exact .inl h
    · cases h
  | notify r =>
    obtain ⟨-, hc⟩ | ⟨-, hc⟩ := notify_cases s r <;> rw [move, hc] at h <;> exact .inl h
  | drop k | unregister => exact .inl h
  | recv k => obtain hc | ⟨f, -, hc⟩ := recv_cases s k <;> rw [hc] at h <;> exact .inl h

theorem mem_commands_run {rs : List Move} (h : .cancel n ∈ (Run.last move s rs).commands) :
    .cancel n ∈ s.commands ∨ .cancel n ∈ rs := by
  induction rs generalizing s with
  | nil => exact .inl h
  | cons m ms ih =>
    rcases ih h with h | h
    · rcases mem_commands_move h with h | rfl
      · exact .inl h
      · exact .inr List.mem_cons_self
    · exact .inr (List.mem_cons_of_mem m h)

/-- Only the relay itself takes a subscription out of the line. -/
theorem line_move (hm : m ≠ .work) (hn : n ∈ s.line) : n ∈ (s.move m).line := by
  cases m with
  | work => exact absurd rfl hm
  | subscribe =>
    rw [move, line_subscribe]
    exact List.mem_append_left _ hn
  | cancel k =>
    obtain hc | ⟨-, hc⟩ := cancel_cases s k
    · rwa [move, hc]
    · rw [move, hc, line_send]
      exact List.mem_append_left _ hn
  | shutdown =>
    rw [move, shutdown, line_send]
    exact List.mem_append_left _ hn
  | notify r => obtain ⟨-, hc⟩ | ⟨-, hc⟩ := notify_cases s r <;> rw [move, hc] <;> exact hn
  | drop k | unregister => exact hn
  | recv k => obtain hc | ⟨f, -, hc⟩ := recv_cases s k <;> rw [hc] <;> exact hn

theorem line_run {rs : List Move} (hm : .work ∉ rs) (hn : n ∈ s.line) :
    n ∈ (Run.last move s rs).line := by
  induction rs generalizing s with
  | nil => exact hn
  | cons m ms ih =>
    have first : m ≠ .work := fun same => hm (same ▸ List.mem_cons_self)
    exact ih (fun later => hm (List.mem_cons_of_mem m later)) (line_move first hn)

/-- A subscription that is held leaves the line for one of a few reasons. -/
theorem leaves_line (sound : s.Sound) (held : s.isHeld n = true) (hn : n ∈ s.line)
    (gone : n ∉ (s.move m).line) : ∃ r, Verdict s n m r := by
  obtain ⟨f, hf, held⟩ := held_feed held
  obtain ⟨g, -, c⟩ := move_feed sound hf m
  cases c with
  | same quiet nothing line | drop hm line | read hm line | event got quiet fed held line =>
    exact absurd (line.mpr hn) gone
  | leave unheld => simp [unheld] at held
  | finish verdict | forget verdict => exact ⟨_, verdict_iff.mp verdict⟩

theorem ended_line (sound : s.Sound) (got : (s.recv n).map (·.1) = some (.ended r)) :
    n ∉ s.line := by
  obtain ⟨⟨item, t⟩, hrecv, rfl⟩ := Option.map_eq_some_iff.mp got
  obtain ⟨f, hf, ending, -⟩ := recv_ended sound hrecv
  intro hn
  rw [Feed.ending_fed ((sound.fed n f hf).mpr hn)] at ending
  cases ending

/-- As long as the numbers suffice, a subscription is cancelled by a command that names it. -/
theorem cancelled_named (sound : s.Sound) (numbers : s.feeds.length ≤ UInt64.size)
    (verdict : Verdict s n m .cancelled) : .cancel n ∈ s.commands := by
  cases verdict with
  | @cancelled k hd current same =>
    have hc : .cancel k ∈ s.commands := by
      rw [(deed_command hd).2]
      exact List.mem_cons_self
    have hn : n < s.feeds.length := sound.bound n (mem_line.mpr (.inl current))
    have hk : k < s.feeds.length := sound.known k hc
    obtain rfl := mark_inj (Nat.lt_of_lt_of_le hn numbers) (Nat.lt_of_lt_of_le hk numbers) same
    exact hc

/-- For the holder of a subscription that is barred, whatever is left to read is there when no
command is queued. -/
theorem barred_over (sound : s.Sound) (held : s.isHeld n = true) (barred : s.Barred n)
    (idle : s.commands = []) : (s.recv n).map (·.1) ≠ some .pending := by
  obtain ⟨f, hf, held⟩ := held_feed held
  have unattached : s.current ≠ some n := by
    intro current
    have running : s.running = true := by
      rw [← Bool.not_eq_false]
      intro stopped
      simp [sound.vacant (.inr stopped)] at current
    have kept : s.lost = false := by
      rw [← Bool.not_eq_true]
      intro lost
      simp [sound.vacant (.inl lost)] at current
    exact barred running kept ((heir_idle idle).trans current)
  have quiet : f.fed = false := by
    rw [← Bool.not_eq_true, sound.fed n f hf, mem_line, queued_nil idle]
    simpa using unattached
  simp only [recv, hf, held, if_true, Option.map_some, ne_eq, Option.some.injEq]
  intro pending
  have going := ((Feed.next_spec (sound.shaped n f hf)).2.2 pending).1
  simp [Feed.ending, quiet] at going

end

end State

end UsbBridge.Relay
