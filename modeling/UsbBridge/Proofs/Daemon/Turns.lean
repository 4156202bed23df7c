import UsbBridge.Proofs.Daemon.Replies
import UsbBridge.Proofs.Socket.Receiving

/-!
# What a move does to a connection

The history of a connection is what its consumer sent, what the receive calls of its reader handed
over, the messages that its handler took and the bytes that were written to it (`history`). As long
as the handler does not give up (`GivesUp`), a move does one of a few things to a connection
(`Turn`), whoever makes it (`step_turn`). A handler gives up only when what it has to send does not
fit a frame or cannot be sent (`gives_up_cause`). The relay is moved by the handlers in turn, and by
itself (`step_relay`).
-/

namespace UsbBridge.Daemon

open Socket
open UsbBridge.Frame (limit)

-- ---------------------------------------------------------------------------
-- Histories
-- ---------------------------------------------------------------------------

structure History where
  /-- The bytes that its consumer sent. -/
  sent : List UInt8
  /-- What its reader's receive calls handed over. -/
  deliveries : List (Delivery Passed)
  /-- The messages that its handler took. -/
  taken : List Message
  /-- The bytes that were written to it. -/
  written : List UInt8

def gained (before after : Channel Passed) : List UInt8 :=
  bytesOf (after.chunks.drop before.chunks.length)

section
variable {σ : Type} (ops : Host σ)

def State.linkOf (s : State σ) (c : Nat) : Link Passed :=
  (s.connections[c]?.map (·.link)).getD .fresh

def Connection.delivery? (conn : Connection) (most : Nat) : Option (Delivery Passed) :=
  match conn.reading with
  | .frame r =>
    match (conn.link.incoming.receive (min most r.wanted)).1 with
    | .ready delivery => some delivery
    | .blocked => none
  | _ => none

def State.delivery? (s : State σ) (c : Nat) : Move σ → Option (Delivery Passed)
  | .read d most => if d = c then s.connections[c]?.bind (·.delivery? most) else none
  | _ => none

def State.taken? (s : State σ) (c : Nat) : Move σ → Option Message
  | .serve d _ => if d = c then s.connections[c]?.bind (·.next?) else none
  | _ => none

def history (c : Nat) (past : List (State σ × Move σ)) : History where
  sent := past.flatMap fun (s, m) => gained (s.linkOf c).incoming ((s.step ops m).linkOf c).incoming
  deliveries := past.filterMap fun (s, m) => s.delivery? c m
  taken := past.filterMap fun (s, m) => s.taken? c m
  written :=
    past.flatMap fun (s, m) => gained (s.linkOf c).outgoing ((s.step ops m).linkOf c).outgoing

/-- Whether the handler of a connection has not returned. -/
def State.serves (s : State σ) (c : Nat) : Bool := s.connections[c]?.any (·.handler ≠ .stopped)

def State.runsDry (s : State σ) (c : Nat) : Move σ → Bool
  | .serve d _ => d = c && s.connections[c]?.any (·.requests.isEmpty)
  | _ => false

/-- The handler of a connection returns although it has not run out of requests. -/
def GivesUp (c : Nat) (s : State σ) (m : Move σ) : Prop :=
  s.serves c ∧ ¬(s.step ops m).serves c ∧ ¬s.runsDry c m

instance (c : Nat) (s : State σ) (m : Move σ) : Decidable (GivesUp ops c s m) :=
  inferInstanceAs (Decidable (_ ∧ _ ∧ _))

end

-- ---------------------------------------------------------------------------
-- Turns
-- ---------------------------------------------------------------------------

def Reading.after : Receiver.Progress Passed → Reading
  | .reading r => .frame r
  | .done (.message m rights) _ => .waiting ⟨m, rights⟩
  | .done _ _ => .stopped

def Connection.setIncoming (conn : Connection) (incoming : Channel Passed) : Connection :=
  { conn with link := { conn.link with incoming } }

/-- What one move may do to a connection, what it adds to the history, and how the handler moves the
relay. -/
inductive Turn (relay : Relay.State) (conn : Connection) :
    History → List Relay.Move → Connection → Prop
  | rests : Turn relay conn ⟨[], [], [], []⟩ [] conn
  | hears {bytes rights} (going : conn.link.incoming.sending = true) (nonempty : bytes ≠ []) :
      Turn relay conn ⟨bytes, [], [], []⟩ [] (conn.setIncoming
        { conn.link.incoming with chunks := conn.link.incoming.chunks ++ [⟨bytes, rights⟩] })
  /-- The consumer receives, or lets go of a direction. -/
  | far {link} (same : link.incoming.chunks = conn.link.incoming.chunks)
      (shut : conn.link.incoming.sending = false → link.incoming.sending = false) :
      Turn relay conn ⟨[], [], [], []⟩ [] { conn with link }
  | reads {r most delivery incoming} (frame : conn.reading = .frame r)
      (got : conn.link.incoming.receive (min most r.wanted) = (.ready delivery, incoming)) :
      Turn relay conn ⟨[], [delivery], [], []⟩ []
        { conn.setIncoming incoming with reading := .after (r.accept delivery) }
  | enqueues {request} (waiting : conn.reading = .waiting request) :
      Turn relay conn ⟨[], [], [], []⟩ []
        { conn with reading := .frame .start, requests := conn.requests ++ [request] }
  | works {taken p requests handler subscription rs} (rights : List Passed)
      (h : Works conn taken p requests handler)
      (attends : Attends relay conn.subscription taken p rs subscription)
      (small : ∀ q ∈ p, (Message.ofPayload q).encode.length ≤ limit) (light : rights.length ≤ 1) :
      Turn relay conn ⟨[], [], taken, p.toList.flatMap Payload.frame⟩ rs
        ⟨told conn.link p rights, conn.reading, requests, handler, subscription⟩
  | returns (idle : conn.handler = .idle) (none : conn.requests = [])
      (ended : conn.reading = .stopped) :
      Turn relay conn ⟨[], [], [], []⟩ (release conn.subscription) conn.stop

section
variable {σ : Type} (ops : Host σ) {s : State σ} {c d : Nat} {conn : Connection}
variable {sending : Sending} {taken : List Message}

@[simp] theorem gained_self (channel : Channel Passed) : gained channel channel = [] := by
  simp [gained]

theorem gained_fewer {before after : Channel Passed}
    (h : after.chunks.length ≤ before.chunks.length) : gained before after = [] := by
  rw [gained, List.drop_of_length_le h, bytesOf_nil]

theorem gained_concat (channel : Channel Passed) (chunk : Chunk Passed) :
    gained channel { channel with chunks := channel.chunks ++ [chunk] } = chunk.bytes := by
  simp [gained]

theorem length_gather (room : Nat) (chunks : List (Chunk Passed)) :
    (Channel.gather room chunks).2.2.length ≤ chunks.length := by
  induction chunks generalizing room with
  | nil => exact Nat.le_refl _
  | cons chunk rest ih =>
    simp only [Channel.gather]
    split
    · exact Nat.le_refl _
    split
    · exact Nat.le_refl _
    split
    · exact Nat.le_succ_of_le (ih _)
    · exact Nat.le_succ _

theorem receive_fewer (channel : Channel Passed) (room : Nat) :
    (channel.receive room).2.chunks.length ≤ channel.chunks.length ∧
      (channel.receive room).2.sending = channel.sending := by
  unfold Channel.receive
  split
  · simp
  · dsimp only
    split <;> exact ⟨length_gather _ _, rfl⟩

-- ---------------------------------------------------------------------------
-- What moves do
-- ---------------------------------------------------------------------------

def Move.isCut : Move σ → Bool
  | .serve _ sending | .forward _ sending | .conclude _ sending | .expire _ sending =>
    sending ≠ .whole
  | _ => false

def Move.connection? : Move σ → Option Nat
  | .consumer d _ | .read d _ | .enqueue d | .serve d _ | .forward d _ | .conclude d _
  | .expire d _ => some d
  | _ => none

/-- A move of a connection is a turn of it, which ends its handler only when that runs out of
requests. -/
structure Goes (s : State σ) (c : Nat) (m : Move σ) (conn : Connection) (rs : List Relay.Move)
    (next : Connection) : Prop where
  turn : Turn s.relay conn (history ops c [(s, m)]) rs next
  relay : m.connection? = some c →
    (s.step ops m).relay = Run.last Relay.State.move s.relay rs
  dry : next.handler = .stopped → conn.handler = .stopped ∨ s.runsDry c m

structure Fails (s : State σ) (c : Nat) (m : Move σ) (conn next : Connection) : Prop where
  cause : ∃ taken p requests handler, Works conn taken (some p) requests handler ∧
    (limit < (Message.ofPayload p).encode.length ∨ m.isCut ∨ conn.link.outgoing.receiving = false)
  left : ∃ taken p rs held, Attends s.relay conn.subscription taken (some p) rs held ∧
    (s.step ops m).relay = Run.last Relay.State.move s.relay (rs ++ release held)
  ended : ∃ q : Connection, next = q.stop
  more : s.runsDry c m = false

def Steps (s : State σ) (c : Nat) (m : Move σ) (conn next : Connection) : Prop :=
  (s.step ops m).connections[c]? = some next ∧
    ((∃ rs, Goes ops s c m conn rs next) ∨ Fails ops s c m conn next)

section
variable {m : Move σ} {next : Connection}

theorem history_one (h : s.connections[c]? = some conn)
    (h' : (s.step ops m).connections[c]? = some next) :
    history ops c [(s, m)] = ⟨gained conn.link.incoming next.link.incoming,
      (s.delivery? c m).toList, (s.taken? c m).toList,
      gained conn.link.outgoing next.link.outgoing⟩ := by
  simp [history, State.linkOf, h, h', filterMap_cons_toList]

theorem steps_rests (h : s.connections[c]? = some conn)
    (same : (s.step ops m).connections[c]? = some conn)
    (relay : m.connection? = some c → (s.step ops m).relay = s.relay)
    (quiet : s.delivery? c m = none) (idle : s.taken? c m = none) :
    Steps ops s c m conn conn := by
  refine ⟨same, .inl ⟨[], ?_, relay, .inl⟩⟩
  rw [history_one ops h same, quiet, idle, gained_self, gained_self]
  exact .rests

theorem steps_handled (h : s.connections[c]? = some conn)
    (work : Handled s c conn sending taken (s.step ops m))
    (cut : m.isCut = decide (sending ≠ .whole))
    (quiet : s.delivery? c m = none) (took : (s.taken? c m).toList = taken)
    (more : s.runsDry c m = false) : ∃ next, Steps ops s c m conn next := by
  cases work with
  | @done p requests handler rights subscription rs work attends small light only self relay =>
    refine ⟨_, self, .inl ⟨rs, ?_, fun _ => relay, fun ended => ?_⟩⟩
    · rw [history_one ops h self, quiet, took]
      have turn : Turn s.relay conn _ rs _ := .works rights work attends small light
      cases p with
      | none => simpa [told] using turn
      | some p => simpa [told, gained_concat] using turn
    · cases work with
      | serves idle next h => cases h <;> cases ended
      | concludes => cases ended
      | forwards => cases ended
  | failed q work attends cause only self left =>
    refine ⟨_, self, .inr ⟨⟨_, _, _, _, work, ?_⟩, ⟨_, _, _, _, attends, left⟩, ⟨q, rfl⟩, more⟩⟩
    simpa [cut] using cause

end

theorem step_serve (h : s.connections[c]? = some conn) (sending : Sending) :
    ∃ next, Steps ops s c (.serve c sending) conn next := by
  have took : s.taken? c (.serve c sending) = conn.next? := by simp [State.taken?, h]
  obtain ⟨request, later, idle, next, work⟩ | ⟨none, ⟨-, same⟩ | ⟨idle, empty, ended, returns⟩⟩ :=
    serve_cases ops h sending
  · refine steps_handled ops h work rfl rfl ?_ ?_
    · simp [took, Connection.next?, idle, next]
    · simp [State.runsDry, h, next]
  · exact ⟨conn, steps_rests ops h (by rw [State.step, same, h]) (fun _ => by rw [State.step, same])
      rfl (took.trans none)⟩
  · have self : (s.step ops (.serve c sending)).connections[c]? = some conn.stop := by
      rw [State.step, returns, stop_self h]
    refine ⟨conn.stop, self, .inl ⟨release conn.subscription, ?_, fun _ => ?_,
      fun _ => .inr (by simp [State.runsDry, h, empty])⟩⟩
    case refine_2 => rw [State.step, returns, stop_relay h]
    have unheard : gained conn.link.incoming conn.stop.link.incoming = [] :=
      gained_fewer (Nat.zero_le _)
    have unwritten : gained conn.link.outgoing conn.stop.link.outgoing = [] :=
      gained_fewer (Nat.le_refl _)
    rw [history_one ops h self, took, none, unheard, unwritten]
    exact .returns idle empty ended

theorem read_ready {r : Receiver Passed} {most : Nat} {delivery : Delivery Passed}
    {incoming : Channel Passed} (frame : conn.reading = .frame r)
    (got : conn.link.incoming.receive (min most r.wanted) = (.ready delivery, incoming)) :
    conn.read most = { conn.setIncoming incoming with reading := .after (r.accept delivery) } := by
  simp only [Connection.read, frame, Receiver.step?_eq got]
  cases r.accept delivery with
  | reading => rfl
  | done outcome closed => cases outcome <;> rfl

theorem read_cases (conn : Connection) (most : Nat) :
    conn.read most = conn ∧ conn.delivery? most = none ∨
    ∃ r delivery incoming, conn.reading = .frame r ∧ conn.delivery? most = some delivery ∧
      conn.link.incoming.receive (min most r.wanted) = (.ready delivery, incoming) := by
  cases frame : conn.reading with
  | waiting request => exact .inl (by simp [Connection.read, Connection.delivery?, frame])
  | stopped => exact .inl (by simp [Connection.read, Connection.delivery?, frame])
  | frame r =>
    cases got : conn.link.incoming.receive (min most r.wanted) with
    | mk readiness incoming =>
      cases readiness with
      | blocked =>
        exact .inl (by simp [Connection.read, Connection.delivery?, frame, Receiver.step?, got])
      | ready delivery =>
        exact .inr ⟨r, delivery, incoming, rfl, by simp [Connection.delivery?, frame, got], got⟩

theorem step_read (h : s.connections[c]? = some conn) (most : Nat) :
    ∃ next, Steps ops s c (.read c most) conn next := by
  have self : (s.step ops (.read c most)).connections[c]? = some (conn.read most) := by
    simp [State.step, State.modify, h]
  have got : s.delivery? c (.read c most) = conn.delivery? most := by simp [State.delivery?, h]
  obtain ⟨same, none⟩ | ⟨r, delivery, incoming, frame, some_, ready⟩ := read_cases conn most
  · exact ⟨conn, steps_rests ops h (same ▸ self) (fun _ => rfl) (got.trans none) rfl⟩
  · refine ⟨_, self, .inl ⟨[], ?_, fun _ => rfl, fun ended => .inl ?_⟩⟩
    · have fewer := (receive_fewer conn.link.incoming (min most r.wanted)).1
      rw [ready] at fewer
      rw [history_one ops h self, got, some_, read_ready frame ready]
      simp only [Connection.setIncoming, gained_self, gained_fewer fewer]
      exact .reads frame ready
    · rw [read_ready frame ready] at ended
      exact ended

theorem step_enqueue (h : s.connections[c]? = some conn) :
    ∃ next, Steps ops s c (.enqueue c) conn next := by
  have self : (s.step ops (.enqueue c)).connections[c]? = some conn.enqueue := by
    simp [State.step, State.modify, h]
  unfold Connection.enqueue at self
  split at self
  · rename_i request waiting
    split at self
    · refine ⟨_, self, .inl ⟨[], ?_, fun _ => rfl, .inl⟩⟩
      rw [history_one ops h self, gained_self, gained_self]
      exact .enqueues waiting
    · exact ⟨conn, steps_rests ops h self (fun _ => rfl) rfl rfl⟩
  · exact ⟨conn, steps_rests ops h self (fun _ => rfl) rfl rfl⟩

theorem turn_far (relay : Relay.State) (link : Link Passed)
    (same : link.incoming.chunks = conn.link.incoming.chunks)
    (shut : conn.link.incoming.sending = false → link.incoming.sending = false)
    (fewer : link.outgoing.chunks.length ≤ conn.link.outgoing.chunks.length) :
    Turn relay conn ⟨gained conn.link.incoming link.incoming, [], [],
      gained conn.link.outgoing link.outgoing⟩ [] { conn with link } := by
  rw [gained_fewer fewer, gained_fewer (Nat.le_of_eq (congrArg List.length same))]
  exact .far same shut

theorem turn_call (relay : Relay.State) (conn : Connection) (call : LinkCall Passed) :
    Turn relay conn ⟨gained conn.link.incoming (conn.link.flip.call call).outgoing, [], [],
      gained conn.link.outgoing (conn.link.flip.call call).incoming⟩ []
      { conn with link := (conn.link.flip.call call).flip } := by
  cases call with
  | send bytes rights =>
    cases going : conn.link.incoming.sending with
    | false =>
      have same : conn.link.flip.call (.send bytes rights) = conn.link.flip := by
        simp [Link.call, Link.flip, going]
      rw [same]
      exact turn_far relay _ rfl id (Nat.le_refl _)
    | true =>
      by_cases lost : conn.link.incoming.receiving = false ∨ bytes = []
      · have same : conn.link.flip.call (.send bytes rights) = conn.link.flip := by
          cases heard : conn.link.incoming.receiving <;>
            simp_all [Link.call, Link.flip, Channel.send]
        rw [same]
        exact turn_far relay _ rfl id (Nat.le_refl _)
      · obtain ⟨heard, nonempty⟩ := not_or.mp lost
        have sent : conn.link.flip.call (.send bytes rights) = ⟨{ conn.link.incoming with
            chunks := conn.link.incoming.chunks ++ [⟨bytes, rights⟩] }, conn.link.outgoing⟩ := by
          simp [Link.call, Link.flip, going, Channel.send, heard, nonempty]
        rw [sent, gained_concat, gained_self]
        exact .hears going nonempty
  | receive room =>
    exact turn_far relay ⟨_, _⟩ rfl id (receive_fewer conn.link.outgoing room).1
  | finish => exact turn_far relay ⟨_, _⟩ rfl (fun _ => rfl) (Nat.le_refl _)
  | close => exact turn_far relay ⟨_, _⟩ rfl (fun _ => rfl) (Nat.zero_le _)

theorem step_consumer (h : s.connections[c]? = some conn) (call : LinkCall Passed) :
    ∃ next, Steps ops s c (.consumer c call) conn next := by
  have self : (s.step ops (.consumer c call)).connections[c]? =
      some { conn with link := (conn.link.flip.call call).flip } := by
    simp [State.step, State.consumer, State.modify, h]
  refine ⟨_, self, .inl ⟨[], ?_, fun _ => rfl, .inl⟩⟩
  rw [history_one ops h self]
  exact turn_call s.relay conn call

theorem modify_only (s : State σ) (d : Nat) (f : Connection → Connection) :
    Only d s (s.modify d f) :=
  fun _ hc => List.getElem?_modify_ne f _ (Ne.symm hc)

theorem only_of_cases (h : Handled s c conn sending taken t ∨ t = s) : Only c s t := by
  obtain work | rfl := h
  · exact work.only
  · exact .refl t c

theorem step_absent (hd : s.connections[d]? = none) {m : Move σ} (hm : m.connection? = some d) :
    s.step ops m = s := by
  have modify (f : Connection → Connection) : s.modify d f = s := by
    rw [State.modify, List.modify_eq_self (List.getElem?_eq_none_iff.mp hd)]
  cases m with
  | accept | advance | relay | host | notify | unregister | close => cases hm
  | consumer | read | enqueue =>
    cases hm
    exact modify _
  | serve | forward | conclude | expire =>
    cases hm
    simp [State.step, State.serve, State.forward, State.conclude, State.expire, hd]

theorem step_only (s : State σ) {m : Move σ} (hm : m.connection? = some d) :
    Only d s (s.step ops m) := by
  cases hd : s.connections[d]? with
  | none =>
    rw [step_absent ops hd hm]
    exact .refl s d
  | some conn =>
    cases m with
    | accept | advance | relay | host | notify | unregister | close => cases hm
    | consumer | read | enqueue =>
      cases hm
      exact modify_only s d _
    | serve _ sending =>
      cases hm
      obtain ⟨_, _, _, _, work⟩ | ⟨-, ⟨-, same⟩ | ⟨-, -, -, returns⟩⟩ := serve_cases ops hd sending
      · exact work.only
      · rw [State.step, same]
        exact .refl s d
      · rw [State.step, returns]
        exact stop_only s d
    | forward _ sending =>
      cases hm
      exact only_of_cases (forward_cases hd sending)
    | conclude _ sending =>
      cases hm
      exact only_of_cases (conclude_cases hd sending)
    | expire _ sending =>
      cases hm
      exact only_of_cases (expire_cases hd sending)

theorem steps_cases (h : s.connections[c]? = some conn) {m : Move σ}
    (work : Handled s c conn sending [] (s.step ops m) ∨ s.step ops m = s)
    (cut : m.isCut = decide (sending ≠ .whole)) (quiet : s.delivery? c m = none)
    (idle : s.taken? c m = none) (more : s.runsDry c m = false) :
    ∃ next, Steps ops s c m conn next := by
  obtain work | same := work
  · exact steps_handled ops h work cut quiet (by rw [idle, Option.toList_none]) more
  · exact ⟨conn, steps_rests ops h (by rw [same, h]) (fun _ => by rw [same]) quiet idle⟩

theorem steps (h : s.connections[c]? = some conn) (m : Move σ) :
    ∃ next, Steps ops s c m conn next := by
  -- A move of another connection changes nothing on this one.
  have other {d} (hm : m.connection? = some d) (hd : d ≠ c) (quiet : s.delivery? c m = none)
      (idle : s.taken? c m = none) : ∃ next, Steps ops s c m conn next :=
    ⟨conn, steps_rests ops h ((step_only ops s hm c hd.symm).trans h)
      (fun own => absurd (Option.some.inj (hm.symm.trans own)) hd) quiet idle⟩
  cases m with
  | accept => exact ⟨conn, steps_rests ops h (getElem?_concat h _) nofun rfl rfl⟩
  | advance | relay | host | notify | unregister | close =>
    exact ⟨conn, steps_rests ops h h nofun rfl rfl⟩
  | consumer d call =>
    by_cases hd : d = c
    · exact hd ▸ step_consumer ops (hd ▸ h) call
    · exact other rfl hd rfl rfl
  | read d most =>
    by_cases hd : d = c
    · exact hd ▸ step_read ops (hd ▸ h) most
    · exact other rfl hd (if_neg hd) rfl
  | enqueue d =>
    by_cases hd : d = c
    · exact hd ▸ step_enqueue ops (hd ▸ h)
    · exact other rfl hd rfl rfl
  | serve d sending =>
    by_cases hd : d = c
    · exact hd ▸ step_serve ops (hd ▸ h) sending
    · exact other rfl hd rfl (if_neg hd)
  | forward d sending =>
    by_cases hd : d = c
    · exact steps_cases ops h (hd ▸ forward_cases (hd ▸ h) sending) rfl rfl rfl rfl
    · exact other rfl hd rfl rfl
  | conclude d sending =>
    by_cases hd : d = c
    · exact steps_cases ops h (hd ▸ conclude_cases (hd ▸ h) sending) rfl rfl rfl rfl
    · exact other rfl hd rfl rfl
  | expire d sending =>
    by_cases hd : d = c
    · exact steps_cases ops h (hd ▸ expire_cases (hd ▸ h) sending) rfl rfl rfl rfl
    · exact other rfl hd rfl rfl

/-- Unless its handler gives up, a move is a turn of a connection. -/
theorem step_turn (h : s.connections[c]? = some conn) {m : Move σ} (sends : ¬GivesUp ops c s m) :
    ∃ next rs, (s.step ops m).connections[c]? = some next ∧ Goes ops s c m conn rs next := by
  obtain ⟨next, self, ⟨rs, goes⟩ | fails⟩ := steps ops h m
  · exact ⟨next, rs, self, goes⟩
  · refine absurd ⟨?_, ?_, ?_⟩ sends
    · obtain ⟨taken, p, requests, handler, work, -⟩ := fails.cause
      have going : conn.handler ≠ .stopped := by cases work <;> simp_all
      simp [State.serves, h, going]
    · obtain ⟨q, rfl⟩ := fails.ended
      simp [State.serves, self, Connection.stop]
    · simp [fails.more]

theorem step_none (h : s.connections[c]? = none) (m : Move σ) :
    ((s.step ops m).connections[c]? = none ∨ (s.step ops m).connections[c]? = some .fresh) ∧
      history ops c [(s, m)] = ⟨[], [], [], []⟩ := by
  have after : (s.step ops m).connections[c]? = none ∨
      (s.step ops m).connections[c]? = some .fresh := by
    cases hm : m.connection? with
    | some d =>
      left
      by_cases hd : d = c
      · rw [step_absent ops (hd ▸ h) hm, h]
      · rw [step_only ops s hm c (Ne.symm hd), h]
    | none =>
      cases m with
      | consumer | read | enqueue | serve | forward | conclude | expire => cases hm
      | advance | relay | host | notify | unregister | close => exact .inl h
      | accept =>
        by_cases hc : c = s.connections.length
        · exact .inr (by simp [State.step, State.accept, hc])
        · have := List.getElem?_eq_none_iff.mp h
          exact .inl (List.getElem?_eq_none_iff.mpr (by simp [State.step, State.accept]; omega))
  refine ⟨after, ?_⟩
  have link : (s.step ops m).linkOf c = s.linkOf c := by
    obtain after | after := after <;> simp [State.linkOf, after, h, Connection.fresh]
  have quiet : s.delivery? c m = none := by cases m <;> simp [State.delivery?, h]
  have idle : s.taken? c m = none := by cases m <;> simp [State.taken?, h]
  simp [history, link, quiet, idle]

/-- A handler that gives up has something to send that is over the limit or broken off, or that
meets a consumer that does not receive. -/
theorem gives_up_cause {m : Move σ} (h : GivesUp ops c s m) :
    ∃ conn taken p requests handler, s.connections[c]? = some conn ∧
      Works conn taken (some p) requests handler ∧
      (limit < (Message.ofPayload p).encode.length ∨ m.isCut ∨
        conn.link.outgoing.receiving = false) := by
  obtain ⟨serves, ended, more⟩ := h
  cases h : s.connections[c]? with
  | none => simp [State.serves, h] at serves
  | some conn =>
    obtain ⟨next, self, ⟨rs, goes⟩ | fails⟩ := steps ops h m
    · simp only [State.serves, h, self, Option.any_some, decide_eq_true_eq, ne_eq,
        Decidable.not_not] at serves ended
      obtain stopped | dry := goes.dry ended
      · exact absurd stopped serves
      · exact absurd dry more
    · obtain ⟨taken, p, requests, handler, work, cause⟩ := fails.cause
      exact ⟨conn, taken, p, requests, handler, rfl, work, cause⟩

-- ---------------------------------------------------------------------------
-- Links
-- ---------------------------------------------------------------------------

def Move.isCall (c : Nat) : Move σ → Bool
  | .consumer d _ => d = c
  | _ => false

/-- What the daemon leaves of a connection's link: it receives, or it sends something. -/
structure Near (conn next : Connection) : Prop where
  incoming : next.link.incoming = conn.link.incoming ∨
    ∃ room, next.link.incoming = (conn.link.incoming.receive room).2
  going : next.link.outgoing.sending = conn.link.outgoing.sending
  outgoing : ∃ new, next.link.outgoing.chunks = conn.link.outgoing.chunks ++ new ∧ Solid new ∧
    Light new

section
variable {m : Move σ} {next : Connection}

theorem Near.refl (conn : Connection) : Near conn conn :=
  ⟨.inl rfl, rfl, [], (List.append_nil _).symm, solid_nil, nofun⟩

theorem Near.told (conn : Connection) (p : Option Payload) {rights : List Passed}
    (light : rights.length ≤ 1) (requests : List Request) (handler : Handler)
    (subscription : Option Nat) :
    Near conn ⟨told conn.link p rights, conn.reading, requests, handler, subscription⟩ := by
  cases p with
  | none => exact ⟨.inl rfl, rfl, [], (List.append_nil _).symm, solid_nil, nofun⟩
  | some p =>
    refine ⟨.inl rfl, rfl, [⟨p.frame, rights⟩], rfl, ?_, ?_⟩
    · exact solid_cons.mpr ⟨List.cons_ne_nil _ _, solid_nil⟩
    · exact light_cons.mpr ⟨Nat.le_trans light (by decide), nofun⟩

theorem near_cases (h : s.connections[c]? = some conn)
    (work : Handled s c conn sending taken t ∨ t = s) (self : t.connections[c]? = some next)
    (up : next.handler ≠ .stopped) : Near conn next := by
  obtain work | rfl := work
  · cases work with
    | done rights work attends small light only done =>
      obtain rfl := Option.some.inj (done.symm.trans self)
      exact .told conn _ light _ _ _
    | failed q work attends cause only failed =>
      obtain rfl := Option.some.inj (failed.symm.trans self)
      exact absurd rfl up
  · obtain rfl := Option.some.inj (h.symm.trans self)
    exact .refl _

/-- Whatever the daemon does on a connection that stays up, it leaves the consumer's part alone. -/
theorem step_near (h : s.connections[c]? = some conn) (own : m.connection? = some c)
    (hm : m.isCall c = false) (self : (s.step ops m).connections[c]? = some next)
    (up : next.handler ≠ .stopped) : Near conn next := by
  cases m with
  | accept | advance | relay | host | notify | unregister | close => cases own
  | consumer d call =>
    cases own
    simp [Move.isCall] at hm
  | read d most =>
    cases own
    obtain rfl : conn.read most = next := by simpa [State.step, State.modify, h] using self
    obtain ⟨same, -⟩ | ⟨r, delivery, incoming, frame, -, got⟩ := read_cases conn most
    · rw [same]
      exact .refl conn
    · rw [read_ready frame got]
      exact ⟨.inr ⟨min most r.wanted, by rw [got]; rfl⟩, rfl, [], (List.append_nil _).symm,
        solid_nil, nofun⟩
  | enqueue d =>
    cases own
    obtain rfl : conn.enqueue = next := by simpa [State.step, State.modify, h] using self
    have same : conn.enqueue.link = conn.link := by
      unfold Connection.enqueue
      split
      · split <;> rfl
      · rfl
    exact ⟨.inl (by rw [same]), by rw [same], [], by rw [same, List.append_nil], solid_nil, nofun⟩
  | serve d sending =>
    cases own
    obtain ⟨request, later, -, -, work⟩ | ⟨-, ⟨-, same⟩ | ⟨-, -, -, returns⟩⟩ :=
      serve_cases ops h sending
    · exact near_cases h (.inl work) self up
    · rw [State.step, same] at self
      obtain rfl := Option.some.inj (h.symm.trans self)
      exact .refl _
    · rw [State.step, returns, stop_self h] at self
      cases self
      exact absurd rfl up
  | forward d sending =>
    cases own
    exact near_cases h (forward_cases h sending) self up
  | conclude d sending =>
    cases own
    exact near_cases h (conclude_cases h sending) self up
  | expire d sending =>
    cases own
    exact near_cases h (expire_cases h sending) self up

end

end

end UsbBridge.Daemon
