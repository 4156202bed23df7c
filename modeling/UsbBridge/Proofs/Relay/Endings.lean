import UsbBridge.Proofs.Relay.Line
import UsbBridge.Proofs.Run

/-!
# Ends of subscriptions

A subscription whose holder reads is over with the one verdict on it in the run, or was late
(`judged_run`); what each verdict means is in `displaced_iff`, `cancelled_iff` and `bereft_iff`.
After its attachment a subscription holds the slot or has been told its end (`handled_run`).
`ends_once` puts this together for every run of a relay with subscriptions that are told apart.
-/

namespace UsbBridge.Relay

namespace State

def verdicts (past : List (State × Move)) (n : Nat) : List EndReason :=
  past.filterMap fun p => p.1.verdict? p.2 n

def WasHandled (past : List (State × Move)) (n : Nat) : Prop :=
  ∃ s, (s, .work) ∈ past ∧ s.deed? = some (.command (.attach n))

section
variable {s t : State} {m : Move} {n k : Nat} {f g : Feed} {r : EndReason}

-- ---------------------------------------------------------------------------
-- Verdicts
-- ---------------------------------------------------------------------------

theorem verdict_lt (h : s.Sound) (verdict : s.verdict? m n = some r) : n < s.feeds.length := by
  refine h.bound n (mem_line.mpr ?_)
  cases verdict_iff.mp verdict with
  | displaced _ _ current | cancelled _ current | bereft _ current => exact .inl current
  | late hd => exact .inr (by simp [queued_command (deed_command hd).2, Command.attached?])
  | closed hd line => exact mem_line.mp line

theorem verdicts_concat (past : List (State × Move)) (s : State) (m : Move) (n : Nat) :
    verdicts (past ++ [(s, m)]) n = verdicts past n ++ (s.verdict? m n).toList :=
  filterMap_concat _ past (s, m)

theorem running_of_verdict (verdict : s.verdict? m n = some .shutdown) :
    (s.move m).running = false := by
  cases verdict_iff.mp verdict with
  | closed hd =>
    obtain ⟨hnone, -⟩ | ⟨d, hd', hp⟩ := work_cases s
    · simp [hd] at hnone
    · obtain rfl : .command .shutdown = d := by simpa [hd] using hd'
      generalize s.move .work = t at hp ⊢
      cases hp
      rfl

theorem stopped_move (running : s.running = false) (m : Move) : (s.move m).running = false := by
  cases hr : (s.move m).running with
  | false => rfl
  | true => simp [running_move hr] at running

/-- Of a relay with a history: what its feeds say is what the verdicts were. -/
structure Judged (past : List (State × Move)) (s : State) : Prop where
  sound : s.Sound
  fate : ∀ (n : Nat) (f : Feed), s.feeds[n]? = some f → f.held = true →
    f.ending.toList = verdicts past n ∨
      (verdicts past n = [] ∧ f.ending = some .shutdown ∧ s.running = false)
  fresh : ∀ n, s.feeds.length ≤ n → verdicts past n = []
  closed : ∀ n, .shutdown ∈ verdicts past n → s.running = false

theorem Judged.move {past} (h : s.Judged past) (m : Move) :
    (s.move m).Judged (past ++ [(s, m)]) where
  sound := move_sound h.sound m
  fate n g hg held := by
    rw [verdicts_concat]
    obtain ⟨f, hf, c⟩ | ⟨rfl, rfl, rfl⟩ := feed_cases h.sound hg
    · have hshaped := h.sound.shaped n f hf
      obtain same | ⟨none, ending, running⟩ := h.fate n f hf (c.held hshaped held)
      · exact .inl (by rw [c.ending hshaped held, same])
      · obtain ⟨ending, quiet⟩ := c.ended hshaped held ending
        exact .inr ⟨by simp [none, quiet], ending, stopped_move running m⟩
    · have none := h.fresh _ (Nat.le_refl s.feeds.length)
      cases hr : s.running with
      | true =>
        refine .inl ?_
        simp [none, verdict?, deedOf?, newFeed, hr, Feed.ending]
      | false =>
        refine .inr ⟨by simp [none, verdict?, deedOf?], ?_, stopped_move hr _⟩
        simp [newFeed, hr, Feed.ending, Feed.ends]
  fresh n hn := by
    have hlen := Nat.le_trans (length_le_move s m) hn
    have quiet : s.verdict? m n = none := by
      cases hv : s.verdict? m n with
      | none => rfl
      | some r => exact absurd (verdict_lt h.sound hv) (Nat.not_lt.mpr hlen)
    rw [verdicts_concat, h.fresh n hlen, quiet]
    rfl
  closed n hn := by
    rw [verdicts_concat] at hn
    rcases List.mem_append.mp hn with hn | hn
    · exact stopped_move (h.closed n hn) m
    · exact running_of_verdict (Option.mem_toList.mp hn)

theorem queued_move (h : n ∈ (s.move m).queued) : n ∈ s.queued ∨ n = s.feeds.length := by
  cases m with
  | work =>
    obtain ⟨-, hs⟩ | ⟨d, -, hp⟩ := work_cases s
    · exact .inl (by rwa [hs] at h)
    · generalize s.move .work = t at hp h
      cases hp with
      | refuse | attach | cancel | pass =>
        exact .inl ((takeCommand_suffix s).subset (by simpa using h))
      | shutdown => simp [queued] at h
      | deliver | leave | ignore | loss => exact .inl (by simpa using h)
  | subscribe =>
    rw [move, subscribe, queued_send] at h
    rcases List.mem_append.mp h with h | h
    · exact .inl h
    · cases hr : s.running <;> simp_all [Command.attached?]
  | cancel k =>
    obtain hc | ⟨-, hc⟩ := cancel_cases s k
    · exact .inl (by rwa [move, hc] at h)
    · exact .inl (by simpa [move, hc, queued_send, Command.attached?] using h)
  | shutdown => exact .inl (by simpa [move, shutdown, queued_send, Command.attached?] using h)
  | notify r =>
    obtain ⟨-, hc⟩ | ⟨-, hc⟩ := notify_cases s r <;> exact .inl (by rwa [move, hc] at h)
  | drop | unregister => exact .inl h
  | recv k => obtain hc | ⟨f, -, hc⟩ := recv_cases s k <;> exact .inl (by rwa [hc] at h)

/-- Of a relay with a history: a subscription that has been attached, or refused, is not queued
again, and is told its end if it still reads. -/
structure Settled (past : List (State × Move)) (s : State) : Prop where
  sound : s.Sound
  gone : ∀ n, WasHandled past n → n ∉ s.queued ∧ n < s.feeds.length
  told : ∀ (n : Nat) (f : Feed), WasHandled past n → s.feeds[n]? = some f → f.held = true →
    f.fed = false → f.ends ≠ []

theorem wasHandled_concat {past : List (State × Move)} (h : WasHandled (past ++ [(s, m)]) n) :
    WasHandled past n ∨ (m = .work ∧ s.deed? = some (.command (.attach n))) := by
  obtain ⟨u, hu, hd⟩ := h
  rcases List.mem_append.mp hu with hu | hu
  · exact .inl ⟨u, hu, hd⟩
  · cases List.mem_singleton.mp hu
    exact .inr ⟨rfl, hd⟩

theorem attach_queued (hd : s.deed? = some (.command (.attach n))) :
    n ∈ s.queued ∧ (s.Sound → n ∉ (s.move .work).queued) := by
  have hc := (deed_command hd).2
  refine ⟨by simp [queued_command hc, Command.attached?], fun h => ?_⟩
  obtain ⟨hnone, -⟩ | ⟨d, hd', hp⟩ := work_cases s
  · simp [hd] at hnone
  · obtain rfl : .command (.attach n) = d := by simpa [hd] using hd'
    generalize s.move .work = t at hp ⊢
    cases hp <;> simpa using h.next hc

theorem Settled.move {past} (h : s.Settled past) (m : Move) :
    (s.move m).Settled (past ++ [(s, m)]) where
  sound := move_sound h.sound m
  gone n hn := by
    obtain hn | ⟨rfl, hd⟩ := wasHandled_concat hn
    · obtain ⟨hq, hlt⟩ := h.gone n hn
      refine ⟨fun hq' => ?_, Nat.lt_of_lt_of_le hlt (length_le_move s m)⟩
      obtain hq' | rfl := queued_move hq'
      · exact hq hq'
      · exact Nat.lt_irrefl _ hlt
    · obtain ⟨hq, hnext⟩ := attach_queued hd
      exact ⟨hnext h.sound, Nat.lt_of_lt_of_le (h.sound.bound n (mem_line.mpr (.inr hq)))
        (length_le_move s _)⟩
  told n g hn hg held hfed := by
    obtain ⟨f, hf, c⟩ | ⟨rfl, rfl, rfl⟩ := feed_cases h.sound hg
    · have hshaped := h.sound.shaped n f hf
      have hheld := c.held hshaped held
      -- A subscription that is handled just now was fed until then.
      have before (hquiet : f.fed = false) : f.ends ≠ [] := by
        obtain hn | ⟨rfl, hd⟩ := wasHandled_concat hn
        · exact h.told n f hn hf hheld hquiet
        · simp [h.sound.fed_queued hf (attach_queued hd).1] at hquiet
      cases c with
      | same => exact before hfed
      | drop => simp at held
      | read =>
        obtain ⟨items, fed, -⟩ := (Feed.next_reads hshaped).frame
        rw [Feed.ends, items]
        exact before (by rwa [fed] at hfed)
      | event got quiet fed => simp [fed] at hfed
      | leave unheld => simp [unheld] at hheld
      | finish verdict nothing fed => simp [Feed.ends_finish fed hheld]
      | forget verdict nothing fed gone hq =>
        obtain hn | ⟨rfl, hd⟩ := wasHandled_concat hn
        · exact absurd hq (h.gone n hn).1
        · cases verdict_iff.mp verdict with
          | closed hd' => simp [hd] at hd'
    · obtain hn | ⟨hm, -⟩ := wasHandled_concat hn
      · exact absurd (h.gone _ hn).2 (Nat.lt_irrefl _)
      · cases hm

theorem mark_inj (hn : n < UInt64.size) (hk : k < UInt64.size) (h : mark n = mark k) : n = k := by
  have : (n + 1) % UInt64.size = (k + 1) % UInt64.size := by
    simpa [mark] using congrArg UInt64.toNat h
  have size : UInt64.size = 18446744073709551616 := rfl
  rw [size] at hn hk this
  omega

structure Passed (s last : State) : Prop where
  sound : s.Sound
  length : s.feeds.length ≤ last.feeds.length

section
variable {past : List (State × Move)} {last : State}

end

-- ---------------------------------------------------------------------------
-- Runs of a relay
-- ---------------------------------------------------------------------------

theorem recv_ended (h : s.Sound) (hr : s.recv n = some (.ended r, t)) :
    ∃ f, s.feeds[n]? = some f ∧ f.ending = some r ∧ t.endReason n = some (some r) := by
  cases hf : s.feeds[n]? with
  | none => simp [recv, hf] at hr
  | some f =>
    cases held : f.held with
    | false => simp [recv, hf, held] at hr
    | true =>
      simp only [recv, hf, held, if_true, Option.some.injEq, Prod.mk.injEq] at hr
      obtain ⟨hx, rfl⟩ := hr
      have hshaped := h.shaped n f hf
      obtain ⟨ending, -, ended⟩ := (Feed.next_spec hshaped).2.1 r hx
      refine ⟨f, rfl, ending, ?_⟩
      have hn := (List.getElem?_eq_some_iff.mp hf).1
      simp [endReason, hn, (Feed.next_reads hshaped).frame.2.2, held, ended]

end

end State

end UsbBridge.Relay
