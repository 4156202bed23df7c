import UsbBridge.Proofs.Lists
import UsbBridge.Proofs.Relay.Deeds
import UsbBridge.Proofs.Relay.Feeds

/-!
# Who is in line, and what they are told

Who is attached or waits for it stands in line; the feeds of those in line are fed, and no others
(`Sound`, `move_sound`). A move leaves a feed alone, brings it an event or ends it, as `received?`
and `verdict?` say (`move_feed`).
-/

namespace UsbBridge.Relay

namespace State

def deedOf? (s : State) : Move → Option Deed
  | .work => s.deed?
  | _ => none

/-- The notification that a move passes on, and the subscription that gets it, if one reads. -/
def handled? (s : State) (m : Move) : Option (RawNotification × Option Nat) :=
  match s.deedOf? m with
  | some (.notification r) => some (r, s.current.filter s.isHeld)
  | _ => none

def received? (s : State) (m : Move) (n : Nat) : Option HotplugEvent :=
  (s.handled? m).bind fun p => if p.2 = some n then eventOf s.filter p.1 else none

/-- Why a subscription is over with a move. -/
def verdict? (s : State) (m : Move) (n : Nat) : Option EndReason :=
  match s.deedOf? m with
  | some (.command (.attach k)) =>
    if s.lost then if k = n then some .registrationLost else none
    else if s.current = some n then some .replaced else none
  | some (.command (.cancel k)) =>
    if s.current = some n ∧ mark n = mark k then some .cancelled else none
  | some (.command .shutdown) => if n ∈ s.line then some .shutdown else none
  | some .loss => if s.current = some n then some .registrationLost else none
  | _ => none

structure Sound (s : State) : Prop where
  order : s.line.Pairwise (· < ·)
  bound : ∀ n ∈ s.line, n < s.feeds.length
  fed : ∀ (n : Nat) (f : Feed), s.feeds[n]? = some f → (f.fed = true ↔ n ∈ s.line)
  shaped : ∀ (n : Nat) (f : Feed), s.feeds[n]? = some f → f.Shaped
  vacant : s.lost = true ∨ s.running = false → s.current = none
  stopped : s.running = false → s.commands = []
  known : ∀ n, .cancel n ∈ s.commands → n < s.feeds.length

theorem sound_start (f : DeviceFilter) (registered : Bool) : (start f registered).Sound where
  order := .nil
  bound := by simp [start, line, queued]
  fed := by simp [start]
  shaped := by simp [start]
  vacant _ := rfl
  stopped _ := rfl
  known := by simp [start]

inductive Verdict (s : State) (n : Nat) : Move → EndReason → Prop
  | displaced {k : Nat} (hd : s.deed? = some (.command (.attach k))) (lost : s.lost = false)
      (current : s.current = some n) : Verdict s n .work .replaced
  | cancelled {k : Nat} (hd : s.deed? = some (.command (.cancel k)))
      (current : s.current = some n) (same : mark n = mark k) : Verdict s n .work .cancelled
  | bereft (hd : s.deed? = some .loss) (current : s.current = some n) :
      Verdict s n .work .registrationLost
  | late (hd : s.deed? = some (.command (.attach n))) (lost : s.lost = true) :
      Verdict s n .work .registrationLost
  | closed (hd : s.deed? = some (.command .shutdown)) (line : n ∈ s.line) :
      Verdict s n .work .shutdown

theorem verdict_iff {s : State} : s.verdict? m n = some r ↔ Verdict s n m r := by
  constructor
  · intro verdict
    unfold verdict? at verdict
    cases m with
    | work =>
      cases hd : s.deed? with
      | none => simp [deedOf?, hd] at verdict
      | some d =>
        simp only [deedOf?, hd] at verdict
        cases d with
        | command c =>
          cases c with
          | attach k =>
            cases lost : s.lost with
            | true =>
              obtain ⟨rfl, rfl⟩ : k = n ∧ .registrationLost = r := by simpa [lost] using verdict
              exact .late hd lost
            | false =>
              obtain ⟨current, rfl⟩ : s.current = some n ∧ .replaced = r := by
                simpa [lost] using verdict
              exact .displaced hd lost current
          | cancel k =>
            obtain ⟨⟨current, same⟩, rfl⟩ :
                (s.current = some n ∧ mark n = mark k) ∧ .cancelled = r := by simpa using verdict
            exact .cancelled hd current same
          | shutdown =>
            obtain ⟨hn, rfl⟩ : n ∈ s.line ∧ .shutdown = r := by simpa using verdict
            exact .closed hd hn
        | notification => cases verdict
        | loss =>
          obtain ⟨current, rfl⟩ : s.current = some n ∧ .registrationLost = r := by
            simpa using verdict
          exact .bereft hd current
    | _ => cases verdict
  · intro h
    cases h with
    | displaced hd lost current => simp [verdict?, deedOf?, hd, lost, current]
    | cancelled hd current same => simp [verdict?, deedOf?, hd, current, same]
    | bereft hd current => simp [verdict?, deedOf?, hd, current]
    | late hd lost => simp [verdict?, deedOf?, hd, lost]
    | closed hd line => simp [verdict?, deedOf?, hd, line]

/-- What can become of a feed with a move. -/
inductive FeedChange (s : State) (m : Move) (t : State) (n : Nat) (f : Feed) : Feed → Prop
  | same (quiet : s.verdict? m n = none) (nothing : s.received? m n = none)
      (line : n ∈ t.line ↔ n ∈ s.line) : FeedChange s m t n f f
  | drop (hm : m = .drop n) (line : n ∈ t.line ↔ n ∈ s.line) : FeedChange s m t n f f.drop
  | read (hm : m = .recv n) (line : n ∈ t.line ↔ n ∈ s.line) : FeedChange s m t n f f.next.2
  | event {e : HotplugEvent} (got : s.received? m n = some e) (quiet : s.verdict? m n = none)
      (fed : f.fed = true) (held : f.held = true) (line : n ∈ t.line ↔ n ∈ s.line) :
      FeedChange s m t n f (f.push (.event e))
  | leave (held : f.held = false) (nothing : s.received? m n = none) (gone : n ∉ t.line) :
      FeedChange s m t n f f.hangUp
  | finish {r : EndReason} (verdict : s.verdict? m n = some r) (nothing : s.received? m n = none)
      (fed : f.fed = true) (gone : n ∉ t.line) : FeedChange s m t n f (f.finish r)
  | forget (verdict : s.verdict? m n = some .shutdown) (nothing : s.received? m n = none)
      (fed : f.fed = true) (gone : n ∉ t.line) (queued : n ∈ s.queued) :
      FeedChange s m t n f f.hangUp

section
variable {s t : State} {m : Move} {n k : Nat} {f : Feed} {r : EndReason}

theorem Sound.lt_queued (h : s.Sound) (current : s.current = some n) (hk : k ∈ s.queued) :
    n < k := by
  have := h.order
  simp only [line, current, Option.toList_some, List.singleton_append, List.pairwise_cons] at this
  exact this.1 k hk

theorem Sound.head (h : s.Sound) (current : s.current = some n) : n ∉ s.queued :=
  fun hn => Nat.lt_irrefl n (h.lt_queued current hn)

theorem Sound.fed_current (h : s.Sound) (hf : s.feeds[n]? = some f)
    (current : s.current = some n) : f.fed = true :=
  (h.fed n f hf).mpr (by simp [line, current])

theorem Sound.fed_queued (h : s.Sound) (hf : s.feeds[n]? = some f) (hn : n ∈ s.queued) :
    f.fed = true :=
  (h.fed n f hf).mpr (List.mem_append_right _ hn)

theorem isHeld_eq (hf : s.feeds[n]? = some f) : s.isHeld n = f.held := by simp [isHeld, hf]

theorem isHeld_lt (held : s.isHeld n = true) : n < s.feeds.length := by
  cases hf : s.feeds[n]? with
  | none => simp [isHeld, hf] at held
  | some f => exact (List.getElem?_eq_some_iff.mp hf).1

theorem Sound.next (h : s.Sound) (hc : s.commands = .attach n :: s.commands.tail) :
    n ∉ s.takeCommand.queued := by
  have := h.order
  simp only [line, queued_command hc, List.pairwise_append] at this
  obtain ⟨-, ⟨-, -, hlt⟩, -⟩ := this
  exact fun hn => Nat.lt_irrefl n (hlt n (by simp [Command.attached?]) n hn)

theorem finishCurrent_feed (h : s.Sound) (hf : s.feeds[n]? = some f)
    (feed : t.feeds[n]? = if s.current = some n then s.feeds[n]?.map (·.finish r) else s.feeds[n]?)
    (verdict : s.verdict? m n = if s.current = some n then some r else none)
    (nothing : s.received? m n = none) (line : n ∈ t.line ↔ n ∈ s.queued) :
    ∃ g, t.feeds[n]? = some g ∧ s.FeedChange m t n f g := by
  by_cases hn : s.current = some n
  · simp only [hn, if_true, hf, Option.map_some] at feed verdict
    exact ⟨_, feed, .finish verdict nothing (h.fed_current hf hn) (by simp [line, h.head hn])⟩
  · simp only [hn, if_false, hf] at feed verdict
    exact ⟨f, feed, .same verdict nothing (by simp [line, mem_line, hn])⟩

theorem refuse_feed (h : s.Sound) (hd : s.deed? = some (.command (.attach k)))
    (lost : s.lost = true) (hf : s.feeds[n]? = some f)
    (ht : t = s.takeCommand.touch k (·.finish .registrationLost)) :
    ∃ g, t.feeds[n]? = some g ∧ s.FeedChange .work t n f g := by
  have hc := (deed_command hd).2
  have hq := queued_command hc
  have hnone : s.current = none := h.vacant (.inl lost)
  have nothing : s.received? .work n = none := by simp [received?, handled?, deedOf?, hd]
  subst ht
  by_cases hk : k = n
  · subst hk
    refine ⟨_, by simp [getElem?_touch, hf], .finish (r := .registrationLost) ?_ nothing ?_ ?_⟩
    · simp [verdict?, deedOf?, hd, lost]
    · exact h.fed_queued hf (by simp [hq, Command.attached?])
    · simpa [mem_line, hnone] using h.next hc
  · refine ⟨f, by simp [getElem?_touch, hf, hk], .same ?_ nothing ?_⟩
    · simp [verdict?, deedOf?, hd, lost, hk]
    · simp [mem_line, hq, Command.attached?, Ne.symm hk]

/-- A relay that stops tells the attached subscription so, and lets go of those that wait. -/
theorem shutdown_feed (h : s.Sound) (hd : s.deed? = some (.command .shutdown))
    (hf : s.feeds[n]? = some f) (ht : t = (s.takeCommand.finishCurrent .shutdown).stop) :
    ∃ g, t.feeds[n]? = some g ∧ s.FeedChange .work t n f g := by
  subst ht
  have hq : s.takeCommand.queued = s.queued := by
    simpa [Command.attached?] using (queued_command (deed_command hd).2).symm
  have gone : n ∉ (s.takeCommand.finishCurrent .shutdown).stop.line := by
    simp [mem_line, queued]
  have nothing : s.received? .work n = none := by simp [received?, handled?, deedOf?, hd]
  have verdict (hn : n ∈ s.line) : s.verdict? .work n = some .shutdown := by
    simp [verdict?, deedOf?, hd, hn]
  rw [getElem?_stop, queued_finishCurrent, getElem?_finishCurrent, hq]
  by_cases hn : s.current = some n
  · have hline : n ∈ s.line := mem_line.mpr (.inl hn)
    exact ⟨_, by simp [hf, hn, h.head hn],
      .finish (verdict hline) nothing (h.fed_current hf hn) gone⟩
  by_cases hn' : n ∈ s.queued
  · have hline : n ∈ s.line := mem_line.mpr (.inr hn')
    exact ⟨_, by simp [hf, hn, hn'],
      .forget (verdict hline) nothing (h.fed_queued hf hn') gone hn'⟩
  · have hline : n ∉ s.line := by simp [mem_line, hn, hn']
    exact ⟨f, by simp [hf, hn, hn'],
      .same (by simp [verdict?, deedOf?, hd, hline]) nothing (by simp [gone, hline])⟩

theorem deliver_feed {r : RawNotification} (h : s.Sound)
    (hd : s.deed? = some (.notification r)) (shown : eventOf s.filter r = some e)
    (current : s.current = some k) (held : s.isHeld k = true) (hf : s.feeds[n]? = some f)
    (ht : t = s.takeNotification.touch k (·.push (.event e))) :
    ∃ g, t.feeds[n]? = some g ∧ s.FeedChange .work t n f g := by
  have quiet : s.verdict? .work n = none := by simp [verdict?, deedOf?, hd]
  subst ht
  by_cases hk : k = n
  · subst hk
    refine ⟨_, by simp [getElem?_touch, hf], .event (e := e) ?_ quiet ?_ ?_ ?_⟩
    · simp [received?, handled?, deedOf?, hd, current, held, shown]
    · exact h.fed_current hf current
    · rwa [isHeld_eq hf] at held
    · simp [mem_line]
  · refine ⟨f, by simp [getElem?_touch, hf, hk], .same quiet ?_ ?_⟩
    · simp [received?, handled?, deedOf?, hd, current, hk]
    · simp [mem_line]

/-- A subscriber that no longer reads gets nothing and loses its place. -/
theorem leave_feed {r : RawNotification} (hd : s.deed? = some (.notification r))
    (current : s.current = some k) (held : s.isHeld k = false) (hf : s.feeds[n]? = some f)
    (ht : t = (s.takeNotification.touch k (·.hangUp)).seat none) :
    ∃ g, t.feeds[n]? = some g ∧ s.FeedChange .work t n f g := by
  have hq := queued_nil (deed_notification hd).2.1
  have nobody : s.current.filter s.isHeld = none := by simp [current, held, Option.filter]
  have nothing : s.received? .work n = none := by
    simp [received?, handled?, deedOf?, hd, nobody]
  subst ht
  by_cases hk : k = n
  · subst hk
    exact ⟨_, by simp [getElem?_touch, hf],
      .leave (by rwa [isHeld_eq hf] at held) nothing (by simp [mem_line, hq])⟩
  · refine ⟨f, by simp [getElem?_touch, hf, hk], .same ?_ nothing ?_⟩
    · simp [verdict?, deedOf?, hd]
    · simp [mem_line, current, hk, hq]

theorem perform_feed (h : s.Sound) (hd : s.deed? = some d) (hf : s.feeds[n]? = some f) :
    ∃ g, (s.perform d).feeds[n]? = some g ∧ s.FeedChange .work (s.perform d) n f g := by
  have hp := perform_performs s d
  generalize s.perform d = t at hp ⊢
  cases hp with
  | refuse lost => exact refuse_feed h hd lost hf rfl
  | @attach k lost =>
    have hq := queued_command (deed_command hd).2
    refine finishCurrent_feed h hf (getElem?_finishCurrent s.takeCommand n .replaced) ?_ ?_ ?_
    · simp [verdict?, deedOf?, hd, lost]
    · simp [received?, handled?, deedOf?, hd]
    · simp [mem_line, hq, Command.attached?, eq_comm]
  | @cancel k hit =>
    have hq := queued_command (deed_command hd).2
    have hmark (hn : s.current = some n) : mark n = mark k := by simpa [hn] using hit
    refine finishCurrent_feed h hf (getElem?_finishCurrent s.takeCommand n .cancelled) ?_ ?_ ?_
    · by_cases hn : s.current = some n
      · simp [verdict?, deedOf?, hd, hn, hmark hn]
      · simp [verdict?, deedOf?, hd, hn]
    · simp [received?, handled?, deedOf?, hd]
    · simp [mem_line, hq, Command.attached?]
  | @pass k miss =>
    have hq := queued_command (deed_command hd).2
    refine ⟨f, hf, .same ?_ ?_ ?_⟩
    · have : ¬(s.current = some n ∧ mark n = mark k) := by
        rintro ⟨hn, hm⟩
        simp [hn, hm] at miss
      simpa [verdict?, deedOf?, hd] using this
    · simp [received?, handled?, deedOf?, hd]
    · simp [mem_line, hq, Command.attached?]
  | shutdown => exact shutdown_feed h hd hf rfl
  | deliver shown current held => exact deliver_feed h hd shown current held hf rfl
  | leave shown current held => exact leave_feed hd current held hf rfl
  | @ignore r nothing =>
    refine ⟨f, hf, .same ?_ ?_ ?_⟩
    · simp [verdict?, deedOf?, hd]
    · obtain none | none := nothing <;> simp [received?, handled?, deedOf?, hd, none]
    · simp [mem_line]
  | loss =>
    have hq := queued_nil (deed_loss hd).2.1
    refine finishCurrent_feed h hf (getElem?_finishCurrent s n .registrationLost) ?_ ?_ ?_
    · simp [verdict?, deedOf?, hd]
    · simp [received?, handled?, deedOf?, hd]
    · simp [mem_line, hq]

theorem FeedChange.fed (c : s.FeedChange m t n f g) (h : s.Sound) (hf : s.feeds[n]? = some f) :
    g.fed = true ↔ n ∈ t.line := by
  have hfed := h.fed n f hf
  cases c with
  | same quiet nothing line => rw [hfed, line]
  | drop hm line => rw [Feed.fed_drop, hfed, line]
  | read hm line => rw [(Feed.next_reads (h.shaped n f hf)).frame.2.1, hfed, line]
  | event got quiet fed held line => rw [Feed.fed_push, hfed, line]
  | leave held nothing gone => simp [gone]
  | finish verdict nothing fed gone => simp [gone]
  | forget verdict nothing fed gone => simp [gone]

theorem FeedChange.shaped (c : s.FeedChange m t n f g) (h : f.Shaped) : g.Shaped := by
  cases c with
  | same => exact h
  | drop => exact Feed.drop_shaped h
  | read => exact Feed.next_shaped h
  | event got quiet fed held => exact Feed.push_shaped h fed held _
  | leave | forget => exact Feed.hangUp_shaped h
  | finish verdict nothing fed => exact Feed.finish_shaped h fed _

theorem FeedChange.held (c : s.FeedChange m t n f g) (h : f.Shaped) (held : g.held = true) :
    f.held = true := by
  cases c with
  | same | event _ _ _ held => assumption
  | drop => simp at held
  | read => rwa [(Feed.next_reads h).frame.2.2] at held
  | leave | forget => exact held
  | finish => simpa using held

/-- A feed that is read is over with a verdict, and only then. -/
theorem FeedChange.ending (c : s.FeedChange m t n f g) (h : f.Shaped) (held : g.held = true) :
    g.ending.toList = f.ending.toList ++ (s.verdict? m n).toList := by
  have hf := c.held h held
  cases c with
  | same quiet => simp [quiet]
  | drop => simp at held
  | read hm =>
    obtain ⟨items, fed, -⟩ := (Feed.next_reads h).frame
    subst hm
    simp [Feed.ending, Feed.ends, items, fed, verdict?, deedOf?]
  | event got quiet fed => simp [quiet, Feed.ending, fed]
  | leave unheld => simp [unheld] at hf
  | finish verdict nothing fed =>
    rw [Feed.ending_finish h fed hf, Feed.ending_fed fed, verdict]
    rfl
  | forget verdict nothing fed =>
    rw [Feed.ending_hangUp h fed, Feed.ending_fed fed, verdict]
    rfl

theorem FeedChange.ended (c : s.FeedChange m t n f g) (h : f.Shaped) (held : g.held = true)
    (ending : f.ending = some r) : g.ending = some r ∧ s.verdict? m n = none := by
  have hg := c.ending h held
  rw [ending] at hg
  cases hv : s.verdict? m n <;> cases he : g.ending <;> simp_all

/-- The line only ever loses its head, unless somebody joins at its end. -/
theorem Sound.step (h : s.Sound)
    (feed : ∀ (n : Nat) (f : Feed), s.feeds[n]? = some f →
      ∃ g, t.feeds[n]? = some g ∧ s.FeedChange m t n f g)
    (length : t.feeds.length = s.feeds.length) (line : t.line <:+ s.line)
    (vacant : t.lost = true ∨ t.running = false → t.current = none)
    (stopped : t.running = false → t.commands = [])
    (known : ∀ n, .cancel n ∈ t.commands → .cancel n ∈ s.commands ∨ n < s.feeds.length) :
    t.Sound := by
  have change {n g} (hg : t.feeds[n]? = some g) :
      ∃ f, s.feeds[n]? = some f ∧ s.FeedChange m t n f g := by
    have hn : n < s.feeds.length := length ▸ (List.getElem?_eq_some_iff.mp hg).1
    obtain ⟨g', hg', hc⟩ := feed n _ (List.getElem?_eq_getElem hn)
    obtain rfl : g = g' := by simpa [hg] using hg'
    exact ⟨_, List.getElem?_eq_getElem hn, hc⟩
  refine ⟨h.order.sublist line.sublist, fun n hn => ?_, fun n g hg => ?_, fun n g hg => ?_, vacant,
    stopped, fun n hn => ?_⟩
  · exact length ▸ h.bound n (line.subset hn)
  · obtain ⟨f, hf, hc⟩ := change hg
    exact hc.fed h hf
  · obtain ⟨f, hf, hc⟩ := change hg
    exact hc.shaped (h.shaped n f hf)
  · rw [length]
    exact (known n hn).elim (h.known n) id

theorem perform_sound (h : s.Sound) (hd : s.deed? = some d) : (s.perform d).Sound := by
  have hfeed (n : Nat) (f : Feed) (hf : s.feeds[n]? = some f) := perform_feed h hd hf
  have hp := perform_performs s d
  generalize s.perform d = t at hp hfeed ⊢
  -- A deed takes a command off its queue or leaves the queue alone, and sends none.
  have taken (hcommands : t.commands = s.takeCommand.commands) (n : Nat)
      (hn : .cancel n ∈ t.commands) : .cancel n ∈ s.commands ∨ n < s.feeds.length :=
    .inl (mem_takeCommand (hcommands ▸ hn))
  have kept (hcommands : t.commands = s.commands) (n : Nat)
      (hn : .cancel n ∈ t.commands) : .cancel n ∈ s.commands ∨ n < s.feeds.length :=
    .inl (hcommands ▸ hn)
  cases hp with
  | @refuse k lost =>
    have running := (deed_command hd).1
    have hnone : s.current = none := h.vacant (.inl lost)
    refine h.step hfeed (by simp) ?_ (by simp [hnone]) (by simp [running]) (taken rfl)
    rw [line_of_vacant (by simpa using hnone)]
    exact (takeCommand_suffix s).trans (queued_suffix s)
  | @attach k lost =>
    obtain ⟨running, hc⟩ := deed_command hd
    refine h.step hfeed (by simp) ?_ (by simp [lost, running]) (by simp [running])
      (taken (by simp))
    have hline : ((s.takeCommand.finishCurrent .replaced).seat (some k)).line = s.queued := by
      simp [line, queued_command hc, Command.attached?]
    rw [hline]
    exact queued_suffix s
  | @cancel k hit =>
    have running := (deed_command hd).1
    refine h.step hfeed (by simp) ?_ (by simp) (by simp [running]) (taken (by simp))
    rw [line_of_vacant (by simp), queued_finishCurrent]
    exact (takeCommand_suffix s).trans (queued_suffix s)
  | @pass k miss =>
    obtain ⟨running, hc⟩ := deed_command hd
    refine h.step hfeed rfl ?_ h.vacant (by simp [running]) (taken rfl)
    have hline : s.takeCommand.line = s.line := by
      simp [line, queued_command hc, Command.attached?]
    exact hline ▸ List.suffix_refl _
  | shutdown =>
    refine h.step hfeed (by simp) ?_ (by simp) (by simp) (by simp)
    simp [line, queued]
  | deliver =>
    obtain ⟨running, hc, lost, -⟩ := deed_notification hd
    exact h.step hfeed (by simp) (List.suffix_refl _) h.vacant (by simp [running]) (kept rfl)
  | leave =>
    obtain ⟨running, hc, lost, -⟩ := deed_notification hd
    exact h.step hfeed (by simp) (queued_suffix s) (by simp) (by simp [running]) (kept rfl)
  | ignore =>
    obtain ⟨running, hc, lost, -⟩ := deed_notification hd
    exact h.step hfeed rfl (List.suffix_refl _) h.vacant (by simp [running]) (kept rfl)
  | loss =>
    have running := (deed_loss hd).1
    refine h.step hfeed (by simp) ?_ (by simp) (by simp [running]) (kept (by simp))
    rw [line_of_vacant (by simp), queued_lose, queued_finishCurrent]
    exact queued_suffix s

-- ---------------------------------------------------------------------------
-- All moves
-- ---------------------------------------------------------------------------

theorem line_subscribe (s : State) :
    s.subscribe.2.line = s.line ++ if s.running then [s.feeds.length] else [] :=
  line_send ..

@[simp] theorem length_subscribe (s : State) :
    s.subscribe.2.feeds.length = s.feeds.length + 1 := by
  simp [subscribe]

theorem getElem?_subscribe (hf : s.feeds[n]? = some f) : s.subscribe.2.feeds[n]? = some f := by
  simp only [subscribe, feeds_send]
  rw [List.getElem?_append_left (List.getElem?_eq_some_iff.mp hf).1, hf]

theorem FeedChange.idle (hm : m ≠ .work) (line : n ∈ t.line ↔ n ∈ s.line) :
    s.FeedChange m t n f f := by
  refine .same ?_ ?_ line <;> cases m <;> first | rfl | exact absurd rfl hm

theorem move_feed (h : s.Sound) (hf : s.feeds[n]? = some f) (m : Move) :
    ∃ g, (s.move m).feeds[n]? = some g ∧ s.FeedChange m (s.move m) n f g := by
  cases m with
  | work =>
    cases hd : s.deed? with
    | none =>
      have hmove : s.move .work = s := by simp [move_work, hd]
      rw [hmove]
      exact ⟨f, hf, .same (by simp [verdict?, deedOf?, hd])
        (by simp [received?, handled?, deedOf?, hd]) .rfl⟩
    | some d =>
      have hmove : s.move .work = s.perform d := by simp [move_work, hd]
      rw [hmove]
      exact perform_feed h hd hf
  | subscribe =>
    refine ⟨f, getElem?_subscribe hf, .idle (by simp) ?_⟩
    have hn := (List.getElem?_eq_some_iff.mp hf).1
    rw [move, line_subscribe]
    cases s.running <;> simp [Nat.ne_of_lt hn]
  | cancel k =>
    obtain hc | ⟨-, hc⟩ := cancel_cases s k
    · exact ⟨f, by simpa [move, hc] using hf, .idle (by simp) (by simp [move, hc])⟩
    · exact ⟨f, by simpa [move, hc] using hf,
        .idle (by simp) (by simp [move, hc, line_send, Command.attached?])⟩
  | shutdown =>
    exact ⟨f, by simpa [move, shutdown] using hf,
      .idle (by simp) (by simp [move, shutdown, line_send, Command.attached?])⟩
  | drop k =>
    by_cases hk : k = n
    · subst hk
      exact ⟨_, by simp [move, State.drop, getElem?_touch, hf], .drop rfl .rfl⟩
    · exact ⟨f, by simp [move, State.drop, getElem?_touch, hf, hk], .idle (by simp) .rfl⟩
  | notify r =>
    obtain ⟨-, hc⟩ | ⟨-, hc⟩ := notify_cases s r
    · exact ⟨f, by simpa [move, hc] using hf, .idle (by simp) (by simp [move, hc])⟩
    · exact ⟨f, by simpa [move, hc] using hf, .idle (by simp) (by rw [move, hc]; rfl)⟩
  | unregister => exact ⟨f, hf, .idle (by simp) .rfl⟩
  | recv k =>
    obtain hc | ⟨g, hg, hc⟩ := recv_cases s k
    · exact ⟨f, by simpa [hc] using hf, .idle (by simp) (by simp [hc])⟩
    · rw [hc]
      by_cases hk : k = n
      · subst hk
        obtain rfl : g = f := by simpa [hg] using hf
        exact ⟨_, List.getElem?_set_self (List.getElem?_eq_some_iff.mp hf).1, .read rfl .rfl⟩
      · exact ⟨f, by simpa [hk] using hf, .idle (by simp) .rfl⟩

theorem running_move (h : (s.move m).running = true) : s.running = true := by
  cases m with
  | work =>
    obtain ⟨-, hs⟩ | ⟨d, hd, -⟩ := work_cases s
    · simpa [hs] using h
    · exact running_of_deed hd
  | subscribe => simpa [move, subscribe] using h
  | cancel k => obtain hc | ⟨-, hc⟩ := cancel_cases s k <;> simpa [move, hc] using h
  | shutdown => simpa [move, shutdown] using h
  | notify r => obtain ⟨-, hc⟩ | ⟨-, hc⟩ := notify_cases s r <;> simpa [move, hc] using h
  | drop k | unregister => exact h
  | recv k => obtain hc | ⟨f, -, hc⟩ := recv_cases s k <;> simpa [hc] using h

def newFeed (s : State) : Feed :=
  ⟨[], 0, s.running, true, if s.running then none else some .shutdown⟩

theorem subscribe_sound (h : s.Sound) : s.subscribe.2.Sound := by
  have old {n f} (hf : s.subscribe.2.feeds[n]? = some f) :
      (n < s.feeds.length ∧ s.feeds[n]? = some f) ∨ (n = s.feeds.length ∧ f = s.newFeed) := by
    simp only [subscribe, feeds_send] at hf
    obtain hf | hf := getElem?_concat_cases hf
    · exact .inl ⟨(List.getElem?_eq_some_iff.mp hf).1, hf⟩
    · exact .inr hf
  refine ⟨?_, fun n hn => ?_, fun n f hf => ?_, fun n f hf => ?_, ?_, ?_, fun n hn => ?_⟩
  · rw [line_subscribe]
    cases s.running with
    | false => simpa using h.order
    | true =>
      refine List.pairwise_append.mpr ⟨h.order, by simp, fun a ha b hb => ?_⟩
      rw [List.mem_singleton.mp hb]
      exact h.bound a ha
  · rw [line_subscribe] at hn
    rw [length_subscribe]
    rcases List.mem_append.mp hn with hn | hn
    · exact Nat.lt_succ_of_lt (h.bound n hn)
    · cases hr : s.running <;> simp_all
  · rw [line_subscribe]
    obtain ⟨hlt, hf⟩ | ⟨rfl, rfl⟩ := old hf
    · rw [h.fed n f hf]
      cases s.running <;> simp [Nat.ne_of_lt hlt]
    · have hnew : s.feeds.length ∉ s.line := fun hn => Nat.lt_irrefl _ (h.bound _ hn)
      cases hr : s.running <;> simp [newFeed, hr, hnew]
  · obtain ⟨-, hf⟩ | ⟨-, rfl⟩ := old hf
    · exact h.shaped n f hf
    · cases hr : s.running <;> constructor <;>
        simp [newFeed, hr, Feed.events, Feed.ends, Feed.ending]
  · simpa [subscribe] using h.vacant
  · intro hr
    have hr : s.running = false := by simpa [subscribe] using hr
    simp [subscribe, commands_send, hr, h.stopped hr]
  · rw [length_subscribe]
    refine Nat.lt_succ_of_lt (h.known n ?_)
    simp only [subscribe, commands_send] at hn
    cases hr : s.running <;> simpa [hr] using hn

theorem send_sound (h : s.Sound) (hc : c.attached? = none)
    (known : ∀ n, c = .cancel n → n < s.feeds.length) : (s.send c).Sound := by
  have line : (s.send c).line = s.line := by simp [line_send, hc]
  refine h.step (m := .shutdown)
    (fun n f hf => ⟨f, by simpa using hf, .idle (by simp) (by rw [line])⟩) (by simp)
    (line ▸ List.suffix_refl _) (by simpa using h.vacant) (fun hr => ?_) fun n hn => ?_
  · have hr : s.running = false := by simpa using hr
    simp [commands_send, hr, h.stopped hr]
  · rw [commands_send] at hn
    rcases List.mem_append.mp hn with hn | hn
    · exact .inl hn
    · cases hr : s.running
      · simp [hr] at hn
      · exact .inr (known n (by simpa [hr, eq_comm] using hn))

theorem move_sound (h : s.Sound) (m : Move) : (s.move m).Sound := by
  have hfeed (n : Nat) (f : Feed) (hf : s.feeds[n]? = some f) := move_feed h hf m
  cases m with
  | work =>
    cases hd : s.deed? with
    | none =>
      rw [show s.move .work = s by simp [move_work, hd]]
      exact h
    | some d =>
      rw [show s.move .work = s.perform d by simp [move_work, hd]]
      exact perform_sound h hd
  | subscribe => exact subscribe_sound h
  | cancel k =>
    obtain hc | ⟨held, hc⟩ := cancel_cases s k
    · simpa [move, hc] using h
    · rw [move, hc]
      refine send_sound h rfl fun n hn => ?_
      obtain rfl := Command.cancel.inj hn
      exact isHeld_lt held
  | shutdown => exact send_sound h rfl (by simp)
  | drop k =>
    exact h.step hfeed (by simp [move, State.drop]) (List.suffix_refl _) h.vacant h.stopped
      fun _ => .inl
  | notify r =>
    obtain ⟨-, hc⟩ | ⟨-, hc⟩ := notify_cases s r
    · simpa [move, hc] using h
    · simp only [move, hc] at hfeed ⊢
      exact h.step hfeed rfl (List.suffix_refl _) h.vacant h.stopped fun _ => .inl
  | unregister => exact h.step hfeed rfl (List.suffix_refl _) h.vacant h.stopped fun _ => .inl
  | recv k =>
    obtain hc | ⟨g, hg, hc⟩ := recv_cases s k
    · simpa [hc] using h
    · rw [hc] at hfeed ⊢
      exact h.step hfeed (by simp) (List.suffix_refl _) h.vacant h.stopped fun _ => .inl

theorem perform_length (hp : Performs s d t) : t.feeds.length = s.feeds.length := by
  cases hp <;> simp

theorem move_length (s : State) (hm : m ≠ .subscribe) :
    (s.move m).feeds.length = s.feeds.length := by
  cases m with
  | work =>
    obtain ⟨-, hs⟩ | ⟨d, -, hp⟩ := work_cases s
    · rw [hs]
    · exact perform_length hp
  | subscribe => exact absurd rfl hm
  | cancel k => obtain hc | ⟨-, hc⟩ := cancel_cases s k <;> simp [move, hc]
  | notify r => obtain ⟨-, hc⟩ | ⟨-, hc⟩ := notify_cases s r <;> simp [move, hc]
  | recv k => obtain hc | ⟨f, -, hc⟩ := recv_cases s k <;> simp [hc]
  | drop | unregister | shutdown => simp [move, State.drop, unregister, shutdown]

theorem length_le_move (s : State) (m : Move) : s.feeds.length ≤ (s.move m).feeds.length := by
  by_cases hm : m = .subscribe
  · subst hm
    simp [move]
  · exact Nat.le_of_eq (move_length s hm).symm

theorem feed_cases (h : s.Sound) (hg : (s.move m).feeds[n]? = some g) :
    (∃ f, s.feeds[n]? = some f ∧ s.FeedChange m (s.move m) n f g) ∨
      (m = .subscribe ∧ n = s.feeds.length ∧ g = s.newFeed) := by
  cases hf : s.feeds[n]? with
  | some f =>
    obtain ⟨g', hg', hc⟩ := move_feed h hf m
    obtain rfl : g' = g := by simpa [hg] using hg'.symm
    exact .inl ⟨f, rfl, hc⟩
  | none =>
    by_cases hm : m = .subscribe
    · subst hm
      simp only [move, subscribe, feeds_send] at hg
      obtain hg | hg := getElem?_concat_cases hg
      · simp [hf] at hg
      · exact .inr ⟨rfl, hg⟩
    · have hlt := (List.getElem?_eq_some_iff.mp hg).1
      rw [move_length s hm] at hlt
      simp [hlt] at hf

end

end State

end UsbBridge.Relay
