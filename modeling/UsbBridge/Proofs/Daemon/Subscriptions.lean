import UsbBridge.Proofs.Daemon.Answers
import UsbBridge.Proofs.Relay.Succession
import UsbBridge.Proofs.Session.Runs

/-!
# Whose subscription is attached

A subscription that is attached, or will be, is held by one connection whose handler is running
(`Seated`). A move keeps this whatever a handler does about its own subscription (`Attends.seats`,
`release_seats`), since it touches nobody else's. A connection that returns or cancels therefore
ends no subscription but its own (`slot_living`).
-/

namespace UsbBridge.Daemon

open UsbBridge.Frame (limit)
open Relay.State (heir_move heir_line heir_idle heir_subscribe heir_cancel isHeld_move isHeld_lt
  isHeld_subscribe move_sound ended_line)

-- ---------------------------------------------------------------------------
-- Seats
-- ---------------------------------------------------------------------------

/-- Of a relay and the holders of its subscriptions: nobody shares one, and whoever will be attached
is held. -/
structure Seats (r : Relay.State) (who : Nat → Option Nat) : Prop where
  sound : r.Sound
  held : ∀ c n, who c = some n → r.isHeld n = true
  own : ∀ c d n, who c = some n → who d = some n → c = d
  heir : ∀ n, r.heir = some n → ∃ c, who c = some n

section
variable {r : Relay.State} {who who' : Nat → Option Nat} {c n : Nat} {held : Option Nat}
variable {taken : List Message} {p : Option Payload} {rs : List Relay.Move} {m : Relay.Move}

theorem Seats.keep (h : Seats r who) (hm : m ≠ .subscribe)
    (spares : ∀ c n, who c = some n → m ≠ .drop n) : Seats (r.move m) who where
  sound := move_sound h.sound m
  held c n hn := isHeld_move h.sound (spares c n hn) (h.held c n hn)
  own := h.own
  heir n hn := h.heir n (heir_move h.sound hm hn)

theorem Seats.plain (h : Seats r who) (plain : ∀ m ∈ rs, m.subject? = none ∧ m ≠ .subscribe) :
    Seats (Run.last Relay.State.move r rs) who := by
  induction rs generalizing r with
  | nil => exact h
  | cons m ms ih =>
    obtain ⟨named, old⟩ := plain m List.mem_cons_self
    refine ih (h.keep old fun c n _ same => ?_) fun m hm => plain m (List.mem_cons_of_mem _ hm)
    rw [same] at named
    cases named

theorem Seats.drop (h : Seats r who) (nobody : ∀ c, who c ≠ some n) :
    Seats (r.move (.drop n)) who := by
  refine h.keep nofun fun c k hk same => ?_
  obtain rfl := Relay.Move.drop.inj same
  exact nobody c hk

/-- A connection holds its subscription no longer, which will not be attached any more. -/
theorem Seats.vacate (h : Seats r who) (self : who' c = none)
    (others : ∀ d, d ≠ c → who' d = who d) (vacant : ∀ n, who c = some n → r.heir ≠ some n) :
    Seats r who' := by
  have kept {d n} (hd : who' d = some n) : who d = some n := by
    by_cases hdc : d = c
    · rw [hdc, self] at hd
      cases hd
    · rwa [← others d hdc]
  refine ⟨h.sound, fun d n hd => h.held d n (kept hd), fun d e n hd he => ?_, fun n hn => ?_⟩
  · exact h.own d e n (kept hd) (kept he)
  · obtain ⟨d, hd⟩ := h.heir n hn
    have hdc : d ≠ c := by
      rintro rfl
      exact vacant n hd hn
    exact ⟨d, (others d hdc).trans hd⟩

theorem Seats.gone (h : Seats r who) (before : who c = some n) (after : who' c ≠ some n)
    (others : ∀ d, d ≠ c → who' d = who d) : ∀ d, who' d ≠ some n := by
  intro d hd
  by_cases hdc : d = c
  · exact after (hdc ▸ hd)
  · exact hdc (h.own d c n (others d hdc ▸ hd) before)

theorem Seats.subscribe (h : Seats r who) (self : who' c = some r.feeds.length)
    (others : ∀ d, d ≠ c → who' d = who d) : Seats (r.move .subscribe) who' := by
  have older {d n} (hdc : d ≠ c) (hd : who' d = some n) : who d = some n ∧ n < r.feeds.length := by
    rw [others d hdc] at hd
    exact ⟨hd, isHeld_lt (h.held d n hd)⟩
  refine ⟨move_sound h.sound _, fun d n hd => ?_, fun d e n hd he => ?_, fun n hn => ?_⟩
  · by_cases hdc : d = c
    · rw [hdc, self] at hd
      obtain rfl := Option.some.inj hd
      exact isHeld_subscribe r
    · exact isHeld_move h.sound nofun (h.held d n (older hdc hd).1)
  · by_cases hdc : d = c <;> by_cases hec : e = c
    · rw [hdc, hec]
    · rw [hdc, self] at hd
      obtain rfl := Option.some.inj hd
      exact absurd (older hec he).2 (Nat.lt_irrefl _)
    · rw [hec, self] at he
      obtain rfl := Option.some.inj he
      exact absurd (older hdc hd).2 (Nat.lt_irrefl _)
    · exact h.own d e n (older hdc hd).1 (older hec he).1
  · exact ⟨c, by rw [self, heir_subscribe h.sound hn]⟩

theorem release_seats (h : Seats r who) (self : who' c = none)
    (others : ∀ d, d ≠ c → who' d = who d) :
    Seats (Run.last Relay.State.move r (release (who c))) who' := by
  cases hc : who c with
  | none => exact h.vacate self others (by simp [hc])
  | some n =>
    have asked : Seats (r.move (.cancel n)) who :=
      h.keep (show Relay.Move.cancel n ≠ .subscribe by nofun) nofun
    have left : Seats (r.move (.cancel n)) who' := by
      refine asked.vacate self others fun k hk => ?_
      obtain rfl := Option.some.inj (hc.symm.trans hk)
      exact heir_cancel h.sound (h.held c n hc)
    exact left.drop (h.gone hc (by simp [self]) others)

/-- Whatever a handler does about its subscription, the others keep theirs. -/
theorem Attends.seats (attends : Attends r (who c) taken p rs held) (h : Seats r who)
    (self : who' c = held) (others : ∀ d, d ≠ c → who' d = who d) :
    Seats (Run.last Relay.State.move r rs) who' := by
  generalize hc : who c = before at attends
  have same (unchanged : held = before) : who' = who := by
    funext d
    by_cases hdc : d = c
    · rw [hdc, self, hc, unchanged]
    · exact others d hdc
  cases attends with
  | aside | acknowledges =>
    rw [same rfl]
    exact h
  | @cancels n =>
    rw [same rfl]
    exact h.keep (show Relay.Move.cancel n ≠ .subscribe by nofun) nofun
  | @forwards n =>
    rw [same rfl]
    exact h.keep (show Relay.Move.recv n ≠ .subscribe by nofun) nofun
  | subscribes asks =>
    have joined := h.subscribe self others
    cases before with
    | none => exact joined
    | some old =>
      -- The one it held before is nobody's now, and is let go without a word.
      have new : who' c ≠ some old := by
        rw [self]
        rintro ⟨⟩
        exact Nat.lt_irrefl _ (isHeld_lt (h.held c _ hc))
      exact joined.drop (h.gone hc new others)
  | @ends n reason got =>
    have read : Seats (r.move (.recv n)) who :=
      h.keep (show Relay.Move.recv n ≠ .subscribe by nofun) nofun
    have vacant : (r.move (.recv n)).heir ≠ some n := by
      intro heir
      have hrecv : Relay.Move.recv n ≠ .subscribe := nofun
      exact ended_line h.sound got (heir_line (heir_move h.sound hrecv heir))
    have left : Seats (r.move (.recv n)) who' := by
      refine read.vacate self others fun k hk => ?_
      obtain rfl := Option.some.inj (hc.symm.trans hk)
      exact vacant
    exact left.drop (h.gone hc (by simp [self]) others)

end

theorem mem_release (hm : m ∈ release held) (hn : m.subject? = some n) : held = some n := by
  cases held with
  | none => cases hm
  | some k =>
    rcases List.mem_cons.mp hm with rfl | hm
    · exact hn
    · rw [List.mem_singleton.mp hm] at hn
      exact hn

theorem release_no_work (held : Option Nat) : .work ∉ release held := by
  intro work
  cases held <;> simp [release] at work

theorem Attends.subject {before : Option Nat} (attends : Attends r before taken p rs held)
    (hm : m ∈ rs) (hn : m.subject? = some n) : before = some n := by
  cases attends with
  | aside | acknowledges => cases hm
  | cancels | forwards =>
    rw [List.mem_singleton.mp hm] at hn
    exact hn
  | ends =>
    rcases List.mem_cons.mp hm with rfl | hm
    · exact hn
    · rw [List.mem_singleton.mp hm] at hn
      exact hn
  | subscribes =>
    rcases List.mem_cons.mp hm with rfl | hm
    · cases hn
    · obtain ⟨old, hold, rfl⟩ := List.mem_map.mp hm
      rw [Option.mem_toList.mp hold]
      exact hn

theorem Attends.after {before : Option Nat} (attends : Attends r before taken p rs held)
    (hn : held = some n) : before = some n ∨ n = r.feeds.length := by
  cases attends with
  | aside | acknowledges | cancels | forwards => exact .inl hn
  | ends => cases hn
  | subscribes => exact .inr (Option.some.inj hn).symm

theorem Attends.no_work {before : Option Nat} (attends : Attends r before taken p rs held) :
    .work ∉ rs := by
  intro work
  cases attends <;> simp at work

-- ---------------------------------------------------------------------------
-- Connections
-- ---------------------------------------------------------------------------

def State.heldBy {σ : Type} (s : State σ) (c : Nat) : Option Nat :=
  s.connections[c]?.bind (·.subscription)

def Connection.Lives (conn : Connection) : Prop :=
  ∀ n, conn.subscription = some n → conn.handler ≠ .stopped

structure Seated {σ : Type} (s : State σ) : Prop where
  seats : Seats s.relay s.heldBy
  lives : ∀ (c : Nat) (conn : Connection), s.connections[c]? = some conn → conn.Lives

section
variable {σ : Type} (ops : Host σ) {s : State σ} {c d n : Nat} {conn next : Connection}
variable {m : Move σ} {relay : Relay.State} {rs : List Relay.Move} {x : History}

theorem heldBy_eq (h : s.connections[c]? = some conn) : s.heldBy c = conn.subscription := by
  simp [State.heldBy, h]

/-- The relay goes its own way when no connection moves: nobody's subscription is named. -/
theorem step_relay (hm : m.connection? = none) : ∃ rs,
    (s.step ops m).relay = Run.last Relay.State.move s.relay rs ∧
      (∀ r ∈ rs, r.subject? = none ∧ r ≠ .subscribe) ∧ (.work ∈ rs → m = .relay) := by
  cases m with
  | consumer | read | enqueue | serve | forward | conclude | expire => cases hm
  | accept | host => exact ⟨[], rfl, nofun, nofun⟩
  | advance task =>
    refine ⟨[], ?_, nofun, nofun⟩
    rw [State.step]
    cases h : s.manager.advance? ops task with
    | none => rfl
    | some manager => exact Manager.advance_relay ops h
  | relay => exact ⟨[.work], rfl, by simp [Relay.Move.subject?], fun _ => rfl⟩
  | notify r => exact ⟨[.notify r], rfl, by simp [Relay.Move.subject?], by simp⟩
  | unregister => exact ⟨[.unregister], rfl, by simp [Relay.Move.subject?], by simp⟩
  | close => exact ⟨[.shutdown], rfl, by simp [Relay.Move.subject?], by simp⟩

theorem step_run (s : State σ) (m : Move σ) :
    ∃ rs, (s.step ops m).relay = Run.last Relay.State.move s.relay rs := by
  cases hm : m.connection? with
  | none =>
    obtain ⟨rs, relay, -⟩ := step_relay ops hm
    exact ⟨rs, relay⟩
  | some c =>
    cases hc : s.connections[c]? with
    | none => exact ⟨[], by rw [step_absent ops hc hm]; rfl⟩
    | some conn =>
      obtain ⟨next, -, ⟨rs, goes⟩ | fails⟩ := steps ops hc m
      · exact ⟨rs, goes.relay hm⟩
      · obtain ⟨taken, p, rs, held, -, left⟩ := fails.left
        exact ⟨rs ++ release held, left⟩

theorem step_kept (hm : m.connection? ≠ some d) (h : s.connections[d]? = some conn) :
    (s.step ops m).connections[d]? = some conn := by
  cases m with
  | accept => exact getElem?_concat h _
  | advance | relay | host | notify | unregister | close => exact h
  | consumer c | read c | enqueue c | serve c | forward c | conclude c | expire c =>
    have hdc : d ≠ c := fun same => hm (congrArg some same.symm)
    rwa [step_only ops s rfl d hdc]

/-- The feed of a subscription has nothing for an idle handler that finds nothing. -/
theorem recv_pending (held : s.relay.isHeld n = true) (idle : conn.handler = .idle)
    (hn : conn.subscription = some n) (nothing : s.canForward conn = false) :
    (s.relay.recv n).map (·.1) = some .pending := by
  obtain ⟨f, hf, reads⟩ := Relay.State.held_feed held
  simp only [State.canForward, idle, hn, Relay.State.recv, hf, reads, if_true] at nothing
  simp only [Relay.State.recv, hf, reads, if_true, Option.map_some]
  cases hnext : f.next.1 <;> simp [hnext] at nothing ⊢

theorem heldBy_other (hm : m.connection? ≠ some d) : (s.step ops m).heldBy d = s.heldBy d := by
  cases hd : s.connections[d]? with
  | none =>
    obtain ⟨after | after, -⟩ := step_none ops hd m
    · simp [State.heldBy, hd, after]
    · simp [State.heldBy, hd, after, Connection.fresh]
  | some conn => rw [heldBy_eq hd, heldBy_eq (step_kept ops hm hd)]

theorem Turn.seats {who who' : Nat → Option Nat} (turn : Turn relay conn x rs next)
    (h : Seats relay who) (before : who c = conn.subscription) (self : who' c = next.subscription)
    (others : ∀ d, d ≠ c → who' d = who d) :
    Seats (Run.last Relay.State.move relay rs) who' := by
  have rests (unchanged : next.subscription = conn.subscription) : who' = who := by
    funext d
    by_cases hdc : d = c
    · rw [hdc, self, before, unchanged]
    · exact others d hdc
  cases turn with
  | rests | hears | far | reads | enqueues =>
    rw [rests rfl]
    exact h
  | works rights work attends => exact Attends.seats (before ▸ attends) h self others
  | returns => exact before ▸ release_seats h self others

theorem Turn.subject (turn : Turn relay conn x rs next) {r : Relay.Move} (hr : r ∈ rs)
    (hn : r.subject? = some n) : conn.subscription = some n := by
  cases turn with
  | rests | hears | far | reads | enqueues => cases hr
  | works rights work attends => exact attends.subject hr hn
  | returns => exact mem_release hr hn

theorem Turn.after (turn : Turn relay conn x rs next) (hn : next.subscription = some n) :
    conn.subscription = some n ∨ n = relay.feeds.length := by
  cases turn with
  | rests | hears | far | reads | enqueues => exact .inl hn
  | works rights work attends => exact attends.after hn
  | returns => cases hn

theorem Turn.no_work (turn : Turn relay conn x rs next) : .work ∉ rs := by
  cases turn with
  | rests | hears | far | reads | enqueues => nofun
  | works rights work attends => exact attends.no_work
  | returns => exact release_no_work _

theorem Turn.lives (turn : Turn relay conn x rs next) (h : conn.Lives) : next.Lives := by
  cases turn with
  | rests | hears | far | reads | enqueues => exact h
  | works rights work => exact fun _ _ => work.running
  | returns => nofun

theorem Turn.ended (turn : Turn relay conn x rs next) (ended : conn.handler = .stopped) :
    next.handler = .stopped := by
  cases turn with
  | rests | hears | far | reads | enqueues => exact ended
  | works rights work => cases work <;> simp_all
  | returns => rfl

theorem serves_before (hc : s.connections[c]? = some conn) (up : (s.step ops m).serves c) :
    s.serves c := by
  obtain ⟨next, self, ⟨rs, goes⟩ | fails⟩ := steps ops hc m
  · have running : next.handler ≠ .stopped := by simpa [State.serves, self] using up
    simpa [State.serves, hc] using mt goes.turn.ended running
  · obtain ⟨q, rfl⟩ := fails.ended
    simp [State.serves, self, Connection.stop] at up

theorem Fails.seats {who' : Nat → Option Nat} (fails : Fails ops s c m conn next)
    (hc : s.connections[c]? = some conn) (h : Seats s.relay s.heldBy) (self : who' c = none)
    (others : ∀ d, d ≠ c → who' d = s.heldBy d) : Seats (s.step ops m).relay who' := by
  obtain ⟨taken, p, rs, held, attends, left⟩ := fails.left
  let meanwhile (d : Nat) : Option Nat := if d = c then held else s.heldBy d
  have now : meanwhile c = held := if_pos rfl
  have seats : Seats (Run.last Relay.State.move s.relay rs) meanwhile :=
    Attends.seats (heldBy_eq hc ▸ attends) h now fun d hd => if_neg hd
  rw [left, Run.last_append, ← now]
  refine release_seats seats self fun d hd => ?_
  rw [others d hd]
  exact (if_neg hd).symm

theorem Seated.step (h : Seated s) (m : Move σ) : Seated (s.step ops m) := by
  have kept {d : Nat} {conn : Connection} (hd : (s.step ops m).connections[d]? = some conn)
      (hm : m.connection? ≠ some d) : conn.Lives := by
    cases hs : s.connections[d]? with
    | some before =>
      rw [step_kept ops hm hs] at hd
      exact Option.some.inj hd ▸ h.lives d before hs
    | none =>
      obtain ⟨after | after, -⟩ := step_none ops hs m
      · rw [after] at hd
        cases hd
      · rw [after] at hd
        cases hd
        nofun
  cases hm : m.connection? with
  | none =>
    obtain ⟨rs, relay, plain, -⟩ := step_relay ops hm
    have same : (s.step ops m).heldBy = s.heldBy := by
      funext d
      exact heldBy_other ops (by simp [hm])
    refine ⟨?_, fun d conn hd => kept hd (by simp [hm])⟩
    rw [relay, same]
    exact h.seats.plain plain
  | some c =>
    cases hc : s.connections[c]? with
    | none => rwa [step_absent ops hc hm]
    | some conn =>
      have others (d : Nat) (hd : d ≠ c) : (s.step ops m).heldBy d = s.heldBy d :=
        heldBy_other ops fun same => hd (Option.some.inj (same.symm.trans hm))
      obtain ⟨next, self, step⟩ := steps ops hc m
      have hself := heldBy_eq self
      refine ⟨?_, fun d conn' hd => ?_⟩
      · obtain ⟨rs, goes⟩ | fails := step
        · rw [goes.relay hm]
          exact goes.turn.seats h.seats (heldBy_eq hc) hself others
        · obtain ⟨q, rfl⟩ := fails.ended
          exact fails.seats ops hc h.seats hself others
      · by_cases hdc : d = c
        · rw [hdc, self] at hd
          obtain rfl := Option.some.inj hd
          obtain ⟨rs, goes⟩ | fails := step
          · exact goes.turn.lives (h.lives c conn hc)
          · obtain ⟨q, rfl⟩ := fails.ended
            nofun
        · exact kept hd fun same => hdc (Option.some.inj (same.symm.trans hm))

theorem Seated.foreign (h : Seated s) (hn : s.heldBy c = some n) (hm : m.connection? ≠ some c) :
    ∃ rs, (s.step ops m).relay = Run.last Relay.State.move s.relay rs ∧
      (∀ r ∈ rs, r.subject? ≠ some n) ∧ (.work ∈ rs → m = .relay) := by
  cases hd : m.connection? with
  | none =>
    obtain ⟨rs, relay, plain, work⟩ := step_relay ops hd
    exact ⟨rs, relay, fun r hr => by simp [plain r hr], work⟩
  | some d =>
    cases hs : s.connections[d]? with
    | none => exact ⟨[], by rw [step_absent ops hs hd]; rfl, nofun, nofun⟩
    | some conn =>
      have other : conn.subscription ≠ some n := by
        intro same
        have hdc := h.seats.own d c n ((heldBy_eq hs).trans same) hn
        exact hm (hdc ▸ hd)
      obtain ⟨next, self, ⟨rs, goes⟩ | fails⟩ := steps ops hs m
      · refine ⟨rs, goes.relay hd, fun r hr named => ?_, fun work => absurd work goes.turn.no_work⟩
        exact other (goes.turn.subject hr named)
      · obtain ⟨taken, p, rs, held, attends, left⟩ := fails.left
        refine ⟨rs ++ release held, left, fun r hr named => ?_, fun work => ?_⟩
        · rcases List.mem_append.mp hr with hr | hr
          · exact other (attends.subject hr named)
          · -- A subscription that it has only just made is newer than any that is held.
            rcases attends.after (mem_release hr named) with same | new
            · exact other same
            · have older := isHeld_lt (h.seats.held c n hn)
              exact Nat.lt_irrefl _ (new ▸ older)
        · rcases List.mem_append.mp work with work | work
          · exact absurd work attends.no_work
          · exact absurd work (release_no_work held)

theorem history_taken (s : State σ) (m : Move σ) :
    (history ops c [(s, m)]).taken = (s.taken? c m).toList := by
  simp [history, filterMap_cons_toList]

theorem Goes.attends (goes : Goes ops s c m conn rs next) (up : next.handler ≠ .stopped) :
    ∃ p, (history ops c [(s, m)]).written = p.toList.flatMap Payload.frame ∧
      (∀ q ∈ p, (Message.ofPayload q).encode.length ≤ limit) ∧
      Attends s.relay conn.subscription (s.taken? c m).toList p rs next.subscription := by
  have turn := goes.turn
  have nothing (q : Payload) (h : q ∈ (none : Option Payload)) : False := by simp at h
  have spared : Attends s.relay conn.subscription [] none [] conn.subscription :=
    .aside (List.forall_mem_nil _) fun q hq => (nothing q hq).elim
  rw [← history_taken ops s m]
  generalize history ops c [(s, m)] = x at turn ⊢
  cases turn with
  | rests | hears | far | reads | enqueues =>
    exact ⟨none, rfl, fun q hq => (nothing q hq).elim, spared⟩
  | works rights work attends small => exact ⟨_, rfl, small, attends⟩
  | returns => exact absurd rfl up

theorem history_foreign (h : s.connections[c]? = some conn) (hm : m.connection? ≠ some c) :
    history ops c [(s, m)] = ⟨[], [], [], []⟩ := by
  have quiet : s.delivery? c m = none := by
    cases m with
    | read d most => exact if_neg fun same => hm (congrArg some same)
    | _ => rfl
  have idle : s.taken? c m = none := by
    cases m with
    | serve d sending => exact if_neg fun same => hm (congrArg some same)
    | _ => rfl
  rw [history_one ops h (step_kept ops hm h), quiet, idle, gained_self, gained_self]
  rfl

/-- What a move comes to for a connection that holds this: its own handler does something about
it, or somebody else moves the relay and leaves its subscription unnamed. -/
inductive Sees (relay : Relay.State) (held : Option Nat) :
    List Message → Option Payload → List Relay.Move → Option Nat → Prop
  | own {taken : List Message} {p : Option Payload} {rs : List Relay.Move} {after : Option Nat}
      (attends : Attends relay held taken p rs after) : Sees relay held taken p rs after
  | foreign {rs : List Relay.Move}
      (spares : ∀ n r, held = some n → r ∈ rs → r.subject? ≠ some n) :
      Sees relay held [] none rs held

theorem Sees.newer {held later : Option Nat} {taken : List Message} {p : Option Payload}
    (sees : Sees relay held taken p rs later) (hn : later = some n) :
    held = some n ∨ n = relay.feeds.length := by
  cases sees with
  | own attends => exact attends.after hn
  | foreign => exact .inl hn

theorem Seated.sees (h : Seated s) (hc : s.connections[c]? = some conn)
    (up : (s.step ops m).serves c) : ∃ (p : Option Payload) (rs : List Relay.Move),
      (history ops c [(s, m)]).written = p.toList.flatMap Payload.frame ∧
      (∀ q ∈ p, (Message.ofPayload q).encode.length ≤ limit) ∧
      (s.step ops m).relay = Run.last Relay.State.move s.relay rs ∧
      Sees s.relay (s.heldBy c) (s.taken? c m).toList p rs ((s.step ops m).heldBy c) := by
  by_cases hm : m.connection? = some c
  · obtain ⟨next, self, ⟨rs, goes⟩ | fails⟩ := steps ops hc m
    · have running : next.handler ≠ .stopped := by simpa [State.serves, self] using up
      obtain ⟨p, written, small, attends⟩ := goes.attends ops running
      rw [heldBy_eq hc, heldBy_eq self]
      exact ⟨p, rs, written, small, goes.relay hm, .own attends⟩
    · obtain ⟨q, rfl⟩ := fails.ended
      simp [State.serves, self, Connection.stop] at up
  · have written := history_foreign ops hc hm
    rw [← history_taken ops s m, written, heldBy_other ops hm]
    cases hn : s.heldBy c with
    | none =>
      obtain ⟨rs, relay⟩ := step_run ops s m
      exact ⟨none, rs, rfl, by simp, relay, .foreign (by simp)⟩
    | some n =>
      obtain ⟨rs, relay, spares, -⟩ := h.foreign ops hn hm
      refine ⟨none, rs, rfl, by simp, relay, .foreign fun k r hk hr => ?_⟩
      obtain rfl := Option.some.inj hk
      exact spares r hr

theorem Seated.keeps (h : Seated s) (hn : s.heldBy c = some n)
    (still : (s.step ops m).heldBy c = some n) : ∃ rs,
      (s.step ops m).relay = Run.last Relay.State.move s.relay rs ∧ (.work ∈ rs → m = .relay) := by
  by_cases hm : m.connection? = some c
  · obtain ⟨conn, hc, -⟩ := Option.bind_eq_some_iff.mp hn
    obtain ⟨next, self, ⟨rs, goes⟩ | fails⟩ := steps ops hc m
    · exact ⟨rs, goes.relay hm, fun work => absurd work goes.turn.no_work⟩
    · obtain ⟨q, rfl⟩ := fails.ended
      rw [heldBy_eq self] at still
      cases still
  · obtain ⟨rs, relay, -, work⟩ := h.foreign ops hn hm
    exact ⟨rs, relay, work⟩

end

-- ---------------------------------------------------------------------------
-- Who has asked for an end
-- ---------------------------------------------------------------------------

def HasTaken {σ : Type} (asks : Message → Bool) (past : List (State σ × Move σ)) (c n : Nat) :
    Prop :=
  ∃ s m message, (s, m) ∈ past ∧ s.heldBy c = some n ∧ s.taken? c m = some message ∧
    asks message

/-- A cancel that is still queued was asked for by the holder, if there still is one. -/
def Asked {σ : Type} (past : List (State σ × Move σ)) (s : State σ) : Prop :=
  ∀ c n, s.heldBy c = some n → .cancel n ∈ s.relay.commands →
    HasTaken Message.isCancel past c n

section
variable {σ : Type} (ops : Host σ) {s : State σ} {c d n : Nat} {conn next : Connection}
variable {m : Move σ} {past : List (State σ × Move σ)}

theorem HasTaken.later {asks : Message → Bool} (h : HasTaken asks past c n) (s : State σ)
    (m : Move σ) : HasTaken asks (past ++ [(s, m)]) c n := by
  obtain ⟨t, k, message, hmem, hheld, htaken, asks⟩ := h
  exact ⟨t, k, message, List.mem_append_left _ hmem, hheld, htaken, asks⟩

/-- What a connection still holds is cancelled by its own request only. -/
theorem Goes.cancels {rs : List Relay.Move} (goes : Goes ops s c m conn rs next)
    (before : conn.subscription = some n) (after : next.subscription = some n)
    (lives : next.handler ≠ .stopped) (hc : .cancel n ∈ rs) :
    ∃ message, s.taken? c m = some message ∧ message.isCancel := by
  obtain ⟨p, -, -, attends⟩ := goes.attends ops lives
  rw [before, after] at attends
  generalize htaken : (s.taken? c m).toList = taken at attends
  cases attends with
  | aside => cases hc
  | @cancels n message asks =>
    refine ⟨message, ?_, asks⟩
    rw [← Option.mem_toList, htaken]
    exact List.mem_singleton_self _
  | subscribes | forwards => simp at hc

theorem Asked.step (h : Asked past s) (seated : Seated s) (m : Move σ) :
    Asked (past ++ [(s, m)]) (s.step ops m) := by
  intro c n hn queued
  by_cases hm : m.connection? = some c
  · cases hs : s.connections[c]? with
    | none =>
      rw [step_absent ops hs hm] at hn queued
      exact (h c n hn queued).later s m
    | some conn =>
      obtain ⟨next, self, ⟨rs, goes⟩ | fails⟩ := steps ops hs m
      · rw [heldBy_eq self] at hn
        rw [goes.relay hm] at queued
        rcases goes.turn.after hn with same | new
        · rcases Relay.State.mem_commands_run queued with old | now
          · exact (h c n ((heldBy_eq hs).trans same) old).later s m
          · have lives := goes.turn.lives (seated.lives c conn hs) n hn
            obtain ⟨message, taken, asks⟩ := goes.cancels ops same hn lives now
            exact ⟨s, m, message, by simp, (heldBy_eq hs).trans same, taken, asks⟩
        · -- Nobody can have cancelled what did not exist.
          have unborn : ¬n < s.relay.feeds.length := by simp [new]
          rcases Relay.State.mem_commands_run queued with old | now
          · exact absurd (seated.seats.sound.known n old) unborn
          · have same := goes.turn.subject now rfl
            exact absurd (isHeld_lt (seated.seats.held c n ((heldBy_eq hs).trans same))) unborn
      · obtain ⟨q, rfl⟩ := fails.ended
        rw [heldBy_eq self] at hn
        cases hn
  · rw [heldBy_other ops hm] at hn
    obtain ⟨rs, relay, foreign, -⟩ := seated.foreign ops hn hm
    rw [relay] at queued
    rcases Relay.State.mem_commands_run queued with old | new
    · exact (h c n hn old).later s m
    · exact absurd rfl (foreign _ new)

end

-- ---------------------------------------------------------------------------
-- Runs
-- ---------------------------------------------------------------------------

open Relay.State (Verdict line_run leaves_line cancelled_named)

section
variable {σ : Type} (ops : Host σ)

/-- Of a daemon that has made some moves since its start: whom the subscriber's place belongs to. -/
structure LivingSlot (start : State σ) (moves : List (Move σ)) : Prop where
  /-- When no command is queued, who is attached is held by one connection, whose handler is
  running. -/
  attached : ∀ n, (Run.last (State.step ops) start moves).relay.commands = [] →
    (Run.last (State.step ops) start moves).relay.current = some n →
    ∃ c, (Run.last (State.step ops) start moves).heldBy c = some n ∧
      (Run.last (State.step ops) start moves).serves c ∧
      ∀ d, (Run.last (State.step ops) start moves).heldBy d = some n → d = c
  /-- A subscription that a connection holds, and goes on holding, is ended or detached by the
  relay alone: because of a later subscription, the loss of the registration or the end of the
  relay, or because this very connection has cancelled it. The last needs that not all numbers
  have been given to subscriptions. -/
  spared : ∀ before m after s t c n, moves = before ++ m :: after →
    s = Run.last (State.step ops) start before → t = s.step ops m →
    s.heldBy c = some n → t.heldBy c = some n → n ∈ s.relay.line → n ∉ t.relay.line →
    m = .relay ∧ ∃ r, Verdict s.relay n .work r ∧
      (r = .cancelled → s.relay.feeds.length ≤ UInt64.size →
        HasTaken Message.isCancel (Run.record (State.step ops) start before) c n)

theorem seated_start (host : σ) (filter : DeviceFilter) (registered : Bool) (limit : Duration)
    (duplication : Except String Unit) :
    Seated (State.start (.start host filter registered limit duplication)) where
  seats := by
    refine ⟨Relay.State.sound_start filter registered, nofun, nofun, fun n heir => ?_⟩
    cases heir
  lives c conn h := by simp [State.start] at h

theorem seated_run {start : State σ} (seated : Seated start) (idle : start.relay.commands = [])
    (moves : List (Move σ)) : Seated (Run.last (State.step ops) start moves) ∧
      Asked (Run.record (State.step ops) start moves)
        (Run.last (State.step ops) start moves) := by
  refine Run.induction (State.step ops) (P := fun s past => Seated s ∧ Asked past s) []
    ⟨seated, fun c n _ queued => ?_⟩ (fun s past m ih => ?_) moves
  · rw [idle] at queued
    cases queued
  · exact ⟨ih.1.step ops m, ih.2.step ops ih.1 m⟩

/-- However many connections subscribe, cancel, are replaced and end, for whatever reason. -/
theorem slot_living (host : σ) (filter : DeviceFilter) (registered : Bool) (limit : Duration)
    (duplication : Except String Unit) (moves : List (Move σ)) :
    LivingSlot ops (State.start (.start host filter registered limit duplication)) moves where
  attached := by
    intro n idle current
    obtain ⟨seated, -⟩ := seated_run ops (seated_start host filter registered limit duplication)
      rfl moves
    obtain ⟨c, hc⟩ := seated.seats.heir n ((heir_idle idle).trans current)
    refine ⟨c, hc, ?_, fun d hd => seated.seats.own d c n hd hc⟩
    obtain ⟨conn, hconn, hn⟩ := Option.bind_eq_some_iff.mp hc
    simpa [State.serves, hconn] using seated.lives c conn hconn n hn
  spared := by
    intro before m after s t c n _ hs ht held still inside outside
    obtain ⟨seated, asked⟩ := seated_run ops (seated_start host filter registered limit duplication)
      rfl before
    rw [← hs] at seated asked
    have own : m = .relay := by
      obtain ⟨rs, relay, work⟩ := ht ▸ seated.keeps ops held (ht ▸ still)
      refine work (Classical.byContradiction fun idle => outside ?_)
      rw [relay]
      exact line_run idle inside
    subst own
    have relay : t.relay = s.relay.move .work := congrArg State.relay ht
    rw [relay] at outside
    obtain ⟨r, verdict⟩ :=
      leaves_line seated.seats.sound (seated.seats.held c n held) inside outside
    refine ⟨rfl, r, verdict, fun cancelled numbers => ?_⟩
    subst cancelled
    exact asked c n held (cancelled_named seated.seats.sound numbers verdict)

end

end UsbBridge.Daemon
