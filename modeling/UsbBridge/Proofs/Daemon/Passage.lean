import UsbBridge.Proofs.Daemon.Subscriptions
import UsbBridge.Proofs.Daemon.Waiting
import UsbBridge.Proofs.Socket.Custody

/-!
# Descriptors on the way

A handler sends no descriptor but the file of a duplicate that the manager has just returned to it
(`State.passed`), and no more of it comes to the consumer than was sent, wherever the send breaks
off (`step_balance`). What the daemon reads comes from the connection's own consumer
(`step_inbound`), and is not kept when the request is handled (`serve_closes`) or the handler has
returned (`State.Cleared`).
-/

namespace UsbBridge.Daemon

open Socket

def Reading.rights : Reading → List Passed
  | .frame r => r.rights
  | .waiting request => request.rights
  | .stopped => []

/-- The descriptors that a consumer has sent: under way, or held by the daemon. -/
def Connection.inbound (conn : Connection) : List Passed :=
  conn.link.incoming.rights ++ conn.rightsRead

section
variable {σ : Type} (ops : Host σ) {s t u : State σ} {c d : Nat} {conn next : Connection}
variable {sending : Sending} {rights : List Passed} {r : Passed}

def State.outbound (s : State σ) (c : Nat) : List Passed := (s.linkOf c).outgoing.rights

def State.received (s : State σ) : Move σ → List (Nat × Passed)
  | .consumer c (.receive room) =>
    (Receipt.installs ((s.linkOf c).outgoing.receive room).1).map fun r => (c, r)
  | _ => []

/-- The descriptors that the manager returns to a handler, which passes them on to its consumer. -/
def State.passed (s : State σ) (m : Move σ) : List (Nat × Passed) :=
  (s.handed? m).toList.flatMap fun (c, dup) => (s.fileOf dup).map fun r => (c, r)

-- ---------------------------------------------------------------------------
-- Channels
-- ---------------------------------------------------------------------------

theorem rights_eq (channel : Channel Passed) : channel.rights = rightsOf channel.chunks := rfl

theorem gather_rights (room : Nat) (chunks : List (Chunk Passed)) :
    (Channel.gather room chunks).2.1 ++ rightsOf (Channel.gather room chunks).2.2 =
      rightsOf chunks := by
  induction chunks generalizing room with
  | nil => rfl
  | cons chunk rest ih =>
    simp only [Channel.gather]
    split
    · rfl
    split
    · simp [rightsOf]
    split
    · rename_i plain
      have := ih (room - chunk.bytes.length)
      simp only [rightsOf, List.map_cons, List.flatten_cons] at this ⊢
      rw [this, List.isEmpty_iff.mp plain, List.nil_append]
    · simp [rightsOf]

theorem receive_rights (channel : Channel Passed) (room : Nat) :
    (Receipt.installs (channel.receive room).1 ++ (channel.receive room).2.rights).Sublist
      channel.rights := by
  have all := gather_rights room channel.chunks
  unfold Channel.receive
  split
  · split <;> exact List.Sublist.refl _
  · dsimp only
    split
    · rw [rights_eq channel, ← all]
      exact (List.take_sublist _ _).append (List.Sublist.refl _)
    · rw [rights_eq channel, ← all]
      exact List.Sublist.refl _

theorem send_rights (channel : Channel Passed) (bytes : List UInt8) (rights : List Passed) :
    (channel.send bytes rights).2.rights = channel.rights ∨
      (channel.send bytes rights).2.rights = channel.rights ++ rights := by
  unfold Channel.send
  split
  · exact .inl rfl
  split
  · exact .inl rfl
  · exact .inr (by simp [Channel.rights])

-- ---------------------------------------------------------------------------
-- What handlers pass on
-- ---------------------------------------------------------------------------

/-- No other connection is changed, and this one has sent these descriptors or none. -/
structure Passes (c : Nat) (rights : List Passed) (s t : State σ) : Prop where
  only : Only c s t
  sent : t.outbound c = s.outbound c ∨ t.outbound c = s.outbound c ++ rights

theorem outbound_eq (h : s.connections[c]? = some conn) :
    s.outbound c = conn.link.outgoing.rights := by
  simp [State.outbound, State.linkOf, h]

theorem outbound_congr (h : t.connections[c]? = s.connections[c]?) :
    t.outbound c = s.outbound c := by
  rw [State.outbound, State.outbound, State.linkOf, State.linkOf, h]

theorem Passes.of_connections (h : t.connections = s.connections) (c : Nat)
    (rights : List Passed) : Passes c rights s t :=
  ⟨fun _ _ => by rw [h], .inl (outbound_congr (by rw [h]))⟩

theorem Passes.trans (h : Passes c [] s t) (h' : Passes c rights t u) : Passes c rights s u := by
  have same : t.outbound c = s.outbound c := h.sent.elim id fun sent => by simpa using sent
  exact ⟨h.only.trans h'.only, same ▸ h'.sent⟩

theorem put_passes (h : s.connections[c]? = some conn)
    (sent : next.link.outgoing.rights = conn.link.outgoing.rights ∨
      next.link.outgoing.rights = conn.link.outgoing.rights ++ rights) :
    Passes c rights s (s.put c next) :=
  ⟨put_only s c next, by rwa [outbound_eq (put_self h next), outbound_eq h]⟩

theorem stop_outbound (s : State σ) (c : Nat) : (s.stop c).outbound c = s.outbound c := by
  cases h : s.connections[c]? with
  | none => exact outbound_congr (by simp [State.stop, h])
  | some conn =>
    rw [outbound_eq (stop_self h), outbound_eq h]
    rfl

theorem Passes.stop (h : Passes c rights s t) : Passes c rights s (t.stop c) :=
  ⟨h.only.trans (stop_only t c), by rw [stop_outbound]; exact h.sent⟩

theorem Passes.refl (s : State σ) (c : Nat) (rights : List Passed) : Passes c rights s s :=
  ⟨.refl s c, .inl rfl⟩

theorem reply_passes (s : State σ) (c : Nat) (sending : Sending) (p : Payload)
    (rights : List Passed) : Passes c rights s (s.reply c sending p rights) := by
  unfold State.reply
  split
  · exact .refl s c rights
  · rename_i conn h
    split
    · exact (Passes.refl s c rights).stop
    · rename_i frame _
      have sent : Passes c rights s
          (s.put c { conn with link := (conn.link.sendBytes (sending.part frame) rights).2 }) := by
        refine put_passes h ?_
        have := send_rights conn.link.outgoing (sending.part frame) rights
        simp only [Link.sendBytes, Channel.sendBytes]
        generalize conn.link.outgoing.send (sending.part frame) rights = result at this
        obtain ⟨outcome, channel⟩ := result
        cases outcome <;> exact this
      dsimp only
      split
      · exact sent
      · exact sent.stop

theorem relay_passes (s : State σ) (c : Nat) (relay : Relay.State) :
    Passes c [] s (s.setRelay relay) :=
  .of_connections (s := s) (t := s.setRelay relay) rfl c []

theorem openings_passes (s : State σ) (c : Nat) (openings : Opening.State) :
    Passes c [] s (s.setOpenings openings) :=
  .of_connections (s := s) (t := s.setOpenings openings) rfl c []

theorem turn_passes (h : s.connections[c]? = some conn) (next : Connection)
    (same : next.link = conn.link) : Passes c [] s (s.put c next) :=
  put_passes h (.inl (by rw [same]))

theorem handle_passes (self : s.connections[c]? = some conn) (sending : Sending) (m : Message) :
    Passes c [] s (s.handle ops c conn sending m) := by
  unfold State.handle
  split
  · exact reply_passes ..
  split
  · exact reply_passes ..
  · exact reply_passes ..
  · split
    · exact reply_passes ..
    · rename_i id _ _ task openings _
      exact (openings_passes s c openings).trans (turn_passes (s := s.setOpenings openings) self
        { conn with handler := .opening id task } rfl)
  · have there : (s.subscribe c conn).connections[c]? =
        some { conn with subscription := some s.relay.feeds.length } := put_self self _
    have joined : Passes c [] s (s.subscribe c conn) :=
      ⟨put_only s c _, .inl (by rw [outbound_eq there, outbound_eq self])⟩
    exact joined.trans (reply_passes ..)
  · split
    · exact relay_passes s c _
    · exact reply_passes ..
  · exact reply_passes ..

theorem serve_passes (s : State σ) (c : Nat) (sending : Sending) :
    Passes c [] s (s.serve ops c sending) := by
  unfold State.serve
  split
  · exact .refl s c []
  · rename_i conn h
    split
    · rename_i request later idle next
      exact (turn_passes h { conn with requests := later } rfl).trans
        (handle_passes ops (put_self h _) sending _)
    · exact (Passes.refl s c []).stop
    · exact .refl s c []

theorem forward_passes (s : State σ) (c : Nat) (sending : Sending) :
    Passes c [] s (s.forward c sending) := by
  unfold State.forward
  split
  · rename_i link reading requests n h
    split
    · exact (relay_passes s c _).trans (reply_passes ..)
    · rename_i relay _
      have dropped : Passes c [] (s.setRelay (relay.drop n))
          ((s.setRelay (relay.drop n)).put c ⟨link, reading, requests, .idle, none⟩) :=
        turn_passes (s := s.setRelay (relay.drop n)) h _ rfl
      exact ((relay_passes s c _).trans dropped).trans (reply_passes ..)
    · exact .refl s c []
  · exact .refl s c []

/-- What a handler that concludes an opening passes on is what the manager returned to it. -/
theorem conclude_passes (s : State σ) (c : Nat) (sending : Sending) :
    Passes c ((s.passed (.conclude c sending)).map (·.2)) s (s.conclude c sending) := by
  have rests : Passes c ((s.passed (.conclude c sending)).map (·.2)) s s :=
    .refl s c _
  unfold State.conclude
  split
  · exact rests
  · rename_i conn h
    split
    · rename_i id task waits
      have waited : s.waitsFor c = some (id, task) := by rw [waitsFor_eq h, waits]; rfl
      have idle (openings : Opening.State) :
          Passes c [] s ((s.put c { conn with handler := .idle }).setOpenings openings) :=
        (turn_passes h { conn with handler := .idle } rfl).trans (openings_passes _ c openings)
      dsimp only
      split
      · exact rests
      · rename_i e openings got
        have nothing : s.passed (.conclude c sending) = [] := by
          simp [State.passed, State.handed?, waited, got]
        rw [nothing]
        exact (idle openings).trans (reply_passes ..)
      · rename_i dup openings got
        have file : (s.passed (.conclude c sending)).map (·.2) = s.fileOf dup := by
          simp [State.passed, State.handed?, waited, got, Function.comp_def]
        rw [file]
        have replied := (idle openings).trans
          (reply_passes _ c sending (.openResponse (.ok id)) (s.fileOf dup))
        exact ⟨replied.only, replied.sent⟩
    · exact rests

theorem expire_passes (s : State σ) (c : Nat) (sending : Sending) :
    Passes c ((s.passed (.expire c sending)).map (·.2)) s (s.expire c sending) := by
  have same : s.passed (.expire c sending) = s.passed (.conclude c sending) := rfl
  have rests : Passes c ((s.passed (.expire c sending)).map (·.2)) s s :=
    .refl s c _
  unfold State.expire
  split
  · exact rests
  · rename_i conn h
    split
    · rename_i id task waits
      split
      · exact same ▸ conclude_passes s c sending
      · rename_i early
        have nothing : s.passed (.expire c sending) = [] := by
          have waited : s.waitsFor c = some (id, task) := by rw [waitsFor_eq h, waits]; rfl
          simp [State.passed, State.handed?, waited, early]
        rw [nothing]
        exact ((openings_passes s c (s.manager.openings.leave task)).trans
          (turn_passes (s := s.setOpenings (s.manager.openings.leave task)) h
            { conn with handler := .idle } rfl)).trans (reply_passes ..)
    · exact rests

-- ---------------------------------------------------------------------------
-- What consumers get
-- ---------------------------------------------------------------------------

theorem count_pairs (rights : List Passed) (c d : Nat) (r : Passed) :
    (rights.map fun r => (c, r)).count (d, r) = if c = d then rights.count r else 0 := by
  induction rights with
  | nil => simp
  | cons first later ih =>
    rw [List.map_cons, List.count_cons, ih, List.count_cons]
    by_cases hc : c = d <;> simp [hc]

theorem received_others {m : Move σ} (hm : m.connection? ≠ some c) (r : Passed) :
    (s.received m).count (c, r) = 0 := by
  cases m with
  | consumer d call =>
    have hd : d ≠ c := fun same => hm (congrArg some same)
    cases call with
    | receive room => rw [State.received, count_pairs, if_neg hd]
    | send | finish | close => rfl
  | accept | read | enqueue | serve | forward | conclude | expire | advance | relay | host | notify
  | unregister | close => rfl

theorem step_outbound_others {m : Move σ} (hm : m.connection? ≠ some c) :
    (s.step ops m).outbound c = s.outbound c := by
  cases h : s.connections[c]? with
  | some conn => rw [outbound_eq (step_kept ops hm h), outbound_eq h]
  | none =>
    obtain ⟨after, -⟩ := step_none ops h m
    have before : s.outbound c = [] := by simp [State.outbound, State.linkOf, h]; rfl
    rw [before]
    obtain after | after := after
    · rw [outbound_congr (after.trans h.symm), before]
    · exact outbound_eq after

theorem Passes.balance (h : Passes c rights s t) (r : Passed) :
    (t.outbound c).count r ≤ (s.outbound c).count r + rights.count r := by
  obtain same | more := h.sent
  · rw [same]
    exact Nat.le_add_right _ _
  · exact Nat.le_of_eq (by rw [more, List.count_append])

theorem call_balance (h : s.connections[c]? = some conn) (call : LinkCall Passed) (r : Passed) :
    (s.received (.consumer c call)).count (c, r) +
      ((s.step ops (.consumer c call)).outbound c).count r ≤ (s.outbound c).count r := by
  have self : (s.step ops (.consumer c call)).connections[c]? =
      some { conn with link := (conn.link.flip.call call).flip } := by
    simp [State.step, State.consumer, State.modify, h]
  rw [outbound_eq self, outbound_eq h]
  have aside (same : (conn.link.flip.call call).incoming.rights = conn.link.outgoing.rights) :
      ([] : List (Nat × Passed)).count (c, r) +
        (conn.link.flip.call call).flip.outgoing.rights.count r ≤
          conn.link.outgoing.rights.count r := by
    rw [List.count_nil, Nat.zero_add]
    exact Nat.le_of_eq (congrArg (List.count r) same)
  cases call with
  | receive room =>
    have less := (receive_rights conn.link.outgoing room).count_le r
    have there : s.linkOf c = conn.link := by simp [State.linkOf, h]
    rw [State.received, count_pairs, if_pos rfl, there, ← List.count_append]
    exact less
  | send bytes rights =>
    refine aside ?_
    simp only [Link.call]
    split <;> rfl
  | finish => exact aside rfl
  | close => exact Nat.zero_le _

theorem received_absent (h : s.connections[c]? = none) {m : Move σ}
    (own : m.connection? = some c) : s.received m = [] := by
  cases m with
  | consumer d call =>
    cases own
    cases call with
    | receive room => simp [State.received, State.linkOf, h]; rfl
    | send | finish | close => rfl
  | accept | read | enqueue | serve | forward | conclude | expire | advance | relay | host
  | notify | unregister | close => rfl

theorem modify_passes (h : s.connections[c]? = some conn) {f : Connection → Connection}
    (same : (f conn).link.outgoing = conn.link.outgoing) : Passes c [] s (s.modify c f) := by
  have self : (s.modify c f).connections[c]? = some (f conn) := by simp [State.modify, h]
  exact ⟨modify_only s c f, .inl (by rw [outbound_eq self, outbound_eq h, same])⟩

theorem read_outgoing (conn : Connection) (most : Nat) :
    (conn.read most).link.outgoing = conn.link.outgoing := by
  unfold Connection.read
  split
  · split <;> rfl
  · rfl

theorem enqueue_link (conn : Connection) : conn.enqueue.link = conn.link := by
  unfold Connection.enqueue
  split
  · split <;> rfl
  · rfl

/-- What the daemon does on a connection passes on what the manager returned, and nothing else. -/
theorem step_passes (h : s.connections[c]? = some conn) {m : Move σ}
    (own : m.connection? = some c) (near : m.isCall c = false) :
    Passes c ((s.passed m).map (·.2)) s (s.step ops m) := by
  cases m with
  | accept | advance | relay | host | notify | unregister | close => cases own
  | consumer d call =>
    cases own
    simp [Move.isCall] at near
  | read d most =>
    cases own
    exact modify_passes h (read_outgoing conn most)
  | enqueue d =>
    cases own
    exact modify_passes h (by rw [enqueue_link])
  | serve d sending =>
    cases own
    exact serve_passes ops s c sending
  | forward d sending =>
    cases own
    exact forward_passes s c sending
  | conclude d sending =>
    cases own
    exact conclude_passes s c sending
  | expire d sending =>
    cases own
    exact expire_passes s c sending

theorem passed_own {m : Move σ} (own : m.connection? = some c) (r : Passed) :
    ((s.passed m).map (·.2)).count r = (s.passed m).count (c, r) := by
  have handed : ∀ x ∈ s.handed? m, x.1 = c := by
    intro x hx
    cases m with
    | conclude d | expire d =>
      cases own
      simp only [State.handed?] at hx
      split at hx
      · split at hx
        · rw [← Option.some.inj hx]
        · cases hx
      · cases hx
    | accept | consumer | read | enqueue | serve | forward | advance | relay | host | notify
    | unregister | close => cases hx
  unfold State.passed
  cases hx : s.handed? m with
  | none => rfl
  | some x =>
    obtain rfl := handed x hx
    simp [Function.comp_def, count_pairs]

/-- What a consumer gets, and what is under way to it then, was under way before or is passed on by
its handler. -/
theorem step_balance (s : State σ) (m : Move σ) (c : Nat) (r : Passed) :
    (s.received m).count (c, r) + ((s.step ops m).outbound c).count r ≤
      (s.outbound c).count r + (s.passed m).count (c, r) := by
  by_cases own : m.connection? = some c
  · cases h : s.connections[c]? with
    | none =>
      rw [step_absent ops h own, received_absent h own, List.count_nil, Nat.zero_add]
      exact Nat.le_add_right _ _
    | some conn =>
      cases near : m.isCall c with
      | false =>
        have nothing : s.received m = [] := by
          cases m with
          | consumer d call =>
            cases own
            simp [Move.isCall] at near
          | accept | read | enqueue | serve | forward | conclude | expire | advance | relay | host
          | notify | unregister | close => rfl
        rw [nothing, List.count_nil, Nat.zero_add, ← passed_own own]
        exact (step_passes ops h own near).balance r
      | true =>
        cases m with
        | consumer d call =>
          cases own
          exact Nat.le_trans (call_balance ops h call r) (Nat.le_add_right _ _)
        | accept | read | enqueue | serve | forward | conclude | expire | advance | relay | host
        | notify | unregister | close => cases near
  · rw [received_others own, step_outbound_others ops own, Nat.zero_add]
    exact Nat.le_add_right _ _

-- ---------------------------------------------------------------------------
-- What consumers send
-- ---------------------------------------------------------------------------

theorem rightsRead_eq (conn : Connection) :
    conn.rightsRead = (conn.requests.map (·.rights)).flatten ++ conn.reading.rights := by
  unfold Connection.rightsRead Reading.rights
  cases conn.reading <;> rfl

@[simp] theorem inbound_stop (conn : Connection) : conn.stop.inbound = [] := by
  simp [Connection.inbound, Connection.stop, rightsRead_eq, Reading.rights, Link.close,
    Channel.closeReceiving, Channel.rights]

/-- What a reader holds after a receive call it held before or was just handed. -/
theorem accept_rights (receiver : Receiver Passed) (delivery : Delivery Passed) :
    ∀ r ∈ (Reading.after (receiver.accept delivery)).rights,
      r ∈ receiver.rights ++ delivery.installed := by
  have held (progress : Receiver.Progress Passed) :
      (Reading.after progress).rights = progress.held := by
    cases progress with
    | reading r => rfl
    | done outcome closed => cases outcome <;> rfl
  rw [held]
  cases delivery with
  | data bytes rights =>
    have all : receiver.rights ++ rights = _ := (Receiver.advance_keeps
      ⟨receiver.bodyLength?, receiver.bytes ++ bytes, receiver.rights ++ rights⟩).all
    intro r hr
    rw [Delivery.installed, all]
    exact List.mem_append_left _ hr
  | endOfFile =>
    have keeps := Receiver.accept_end_keeps receiver
    intro r hr
    exact List.mem_append_left _ (keeps.all ▸ List.mem_append_left _ hr)
  | overflow installed =>
    intro r hr
    cases hr

theorem read_inbound (conn : Connection) (most : Nat) :
    ∀ r ∈ (conn.read most).inbound, r ∈ conn.inbound := by
  obtain ⟨same, -⟩ | ⟨receiver, delivery, incoming, frame, -, got⟩ := read_cases conn most
  · rw [same]
    exact fun _ => id
  · have less := receive_rights conn.link.incoming (min most receiver.wanted)
    rw [got] at less
    intro r hr
    rw [read_ready frame got] at hr
    simp only [Connection.inbound, rightsRead_eq, Connection.setIncoming, frame,
      List.mem_append] at hr ⊢
    obtain under | queued | reading := hr
    · exact .inl (less.subset (List.mem_append_right _ under))
    · exact .inr (.inl queued)
    · rcases List.mem_append.mp (accept_rights receiver delivery r reading) with old | new
      · exact .inr (.inr old)
      · exact .inl (less.subset (List.mem_append_left _ new))

theorem enqueue_inbound (conn : Connection) : conn.enqueue.inbound = conn.inbound := by
  unfold Connection.enqueue
  split
  · rename_i request waiting
    split
    · simp [Connection.inbound, rightsRead_eq, waiting, Reading.rights, Receiver.start]
    · rfl
  · rfl

theorem Works.fewer {taken : List Message} {p : Option Payload} {requests : List Request}
    {handler : Handler} (works : Works conn taken p requests handler) :
    requests.Sublist conn.requests := by
  cases works with
  | serves idle next => exact next ▸ List.sublist_cons_self _ _
  | concludes | forwards => exact List.Sublist.refl _

theorem Works.takes {taken : List Message} {p : Option Payload} {requests later : List Request}
    {handler : Handler} {request : Request} (works : Works conn taken p requests handler)
    (some_ : taken ≠ []) (first : conn.requests = request :: later) : requests = later := by
  cases works with
  | serves idle next => exact (List.cons.inj (next.symm.trans first)).2
  | concludes | forwards => exact absurd rfl some_

theorem handled_inbound {taken : List Message}
    (work : Handled s c conn sending taken t) (self : t.connections[c]? = some next) :
    ∀ r ∈ next.inbound, r ∈ conn.inbound := by
  cases work with
  | failed q works attends cause only failed =>
    obtain rfl := Option.some.inj (failed.symm.trans self)
    simp
  | done rights works attends small light only done =>
    obtain rfl := Option.some.inj (done.symm.trans self)
    intro r hr
    simp only [Connection.inbound, rightsRead_eq, told_incoming, List.mem_append,
      List.mem_flatten, List.mem_map] at hr ⊢
    obtain under | ⟨rights, ⟨request, there, same⟩, held⟩ | reading := hr
    · exact .inl under
    · exact .inr (.inl ⟨rights, ⟨request, works.fewer.subset there, same⟩, held⟩)
    · exact .inr (.inr reading)

theorem call_inbound (conn : Connection) (call : LinkCall Passed) :
    ∀ r ∈ ({ conn with link := (conn.link.flip.call call).flip } : Connection).inbound,
      r ∈ conn.inbound ∨ ∃ bytes rights, call = .send bytes rights ∧ r ∈ rights := by
  have aside (same : (conn.link.flip.call call).outgoing.rights = conn.link.incoming.rights) :
      ∀ r ∈ ({ conn with link := (conn.link.flip.call call).flip } : Connection).inbound,
        r ∈ conn.inbound ∨ ∃ bytes rights, call = .send bytes rights ∧ r ∈ rights := by
    intro r hr
    left
    have same : (conn.link.flip.call call).flip.incoming.rights = conn.link.incoming.rights := same
    rwa [Connection.inbound, same] at hr
  cases call with
  | receive room => exact aside rfl
  | finish => exact aside rfl
  | close => exact aside rfl
  | send bytes rights =>
    by_cases going : conn.link.incoming.sending = true
    · have more := send_rights conn.link.incoming bytes rights
      have sent : (conn.link.flip.call (.send bytes rights)).outgoing =
          (conn.link.incoming.send bytes rights).2 := by
        simp [Link.call, Link.flip, going]
      obtain same | more := more
      · exact aside (by rw [sent, same])
      · intro r hr
        have incoming : (conn.link.flip.call (.send bytes rights)).flip.incoming.rights =
            conn.link.incoming.rights ++ rights := by
          rw [← more, ← sent]
          rfl
        simp only [Connection.inbound, incoming, List.mem_append] at hr ⊢
        obtain (old | new) | read := hr
        · exact .inl (.inl old)
        · exact .inr ⟨bytes, rights, rfl, new⟩
        · exact .inl (.inr read)
    · exact aside (by simp [Link.call, Link.flip, going])

/-- What the daemon has of a consumer it had before, or the consumer has just sent it. -/
theorem step_inbound (h : s.connections[c]? = some conn) {m : Move σ}
    (self : (s.step ops m).connections[c]? = some next) : ∀ r ∈ next.inbound,
      r ∈ conn.inbound ∨ ∃ bytes rights, m = .consumer c (.send bytes rights) ∧ r ∈ rights := by
  have handled (work : (∃ sending taken, Handled s c conn sending taken (s.step ops m)) ∨
      s.step ops m = s) : ∀ r ∈ next.inbound, r ∈ conn.inbound ∨
        ∃ bytes rights, m = .consumer c (.send bytes rights) ∧ r ∈ rights := by
    obtain ⟨sending, taken, work⟩ | same := work
    · exact fun r hr => .inl (handled_inbound work self r hr)
    · rw [same] at self
      obtain rfl := Option.some.inj (h.symm.trans self)
      exact fun r hr => .inl hr
  by_cases own : m.connection? = some c
  · cases m with
    | accept | advance | relay | host | notify | unregister | close => cases own
    | consumer d call =>
      cases own
      have after : (s.step ops (.consumer c call)).connections[c]? =
          some { conn with link := (conn.link.flip.call call).flip } := by
        simp [State.step, State.consumer, State.modify, h]
      obtain rfl := Option.some.inj (after.symm.trans self)
      intro r hr
      refine (call_inbound conn call r hr).imp_right ?_
      rintro ⟨bytes, rights, rfl, there⟩
      exact ⟨bytes, rights, rfl, there⟩
    | read d most =>
      cases own
      have after : (s.step ops (.read c most)).connections[c]? = some (conn.read most) := by
        simp [State.step, State.modify, h]
      obtain rfl := Option.some.inj (after.symm.trans self)
      exact fun r hr => .inl (read_inbound conn most r hr)
    | enqueue d =>
      cases own
      have after : (s.step ops (.enqueue c)).connections[c]? = some conn.enqueue := by
        simp [State.step, State.modify, h]
      obtain rfl := Option.some.inj (after.symm.trans self)
      exact fun r hr => .inl (enqueue_inbound conn ▸ hr)
    | serve d sending =>
      cases own
      obtain ⟨request, later, -, -, work⟩ | ⟨-, ⟨-, same⟩ | ⟨-, -, -, returns⟩⟩ :=
        serve_cases ops h sending
      · exact handled (.inl ⟨_, _, work⟩)
      · exact handled (.inr same)
      · rw [State.step, returns, stop_self h] at self
        cases self
        simp
    | forward d sending =>
      cases own
      exact handled ((forward_cases h sending).imp_left fun work => ⟨_, _, work⟩)
    | conclude d sending =>
      cases own
      exact handled ((conclude_cases h sending).imp_left fun work => ⟨_, _, work⟩)
    | expire d sending =>
      cases own
      exact handled ((expire_cases h sending).imp_left fun work => ⟨_, _, work⟩)
  · obtain rfl := Option.some.inj ((step_kept ops own h).symm.trans self)
    exact fun r hr => .inl hr

/-- When a handler takes a request, the descriptors that came with it are held no more, and those
that came later are held unless the handler returns. -/
theorem serve_closes (h : s.connections[c]? = some conn) (idle : conn.handler = .idle)
    {request : Request} {later : List Request} (first : conn.requests = request :: later)
    (sending : Sending) : ∃ next, (s.step ops (.serve c sending)).connections[c]? = some next ∧
      (conn.rightsRead = request.rights ++ next.rightsRead ∨ next.rightsRead = []) := by
  obtain ⟨taken, rest, -, more, work⟩ | ⟨none, -⟩ := serve_cases ops h sending
  · obtain ⟨rfl, rfl⟩ := List.cons.inj (first.symm.trans more)
    cases work with
    | failed q works attends cause only self =>
      exact ⟨_, self, .inr (List.append_eq_nil_iff.mp (inbound_stop q)).2⟩
    | @done p requests handler rights subscription rs works attends small light only self =>
      refine ⟨_, self, .inl ?_⟩
      simp [rightsRead_eq, first, works.takes (List.cons_ne_nil _ _) first]
  · simp [Connection.next?, idle, first] at none

/-- A connection whose handler has returned is not read any more, and has no requests left. -/
def Connection.Cleared (conn : Connection) : Prop :=
  conn.handler = .stopped → conn.reading = .stopped ∧ conn.requests = []

theorem Connection.Cleared.rightsRead (h : conn.Cleared) (ended : conn.handler = .stopped) :
    conn.rightsRead = [] := by
  obtain ⟨reading, requests⟩ := h ended
  simp [rightsRead_eq, reading, requests, Reading.rights]

theorem Turn.cleared {relay : Relay.State} {x : History} {rs : List Relay.Move}
    (turn : Turn relay conn x rs next) (h : conn.Cleared) : next.Cleared := by
  cases turn with
  | rests | hears | far => exact h
  | reads frame => exact fun ended => absurd (h ended).1 (by simp [frame])
  | enqueues waiting => exact fun ended => absurd (h ended).1 (by simp [waiting])
  | works rights work => exact fun ended => absurd ended work.running
  | returns => exact fun _ => ⟨rfl, rfl⟩

def State.Cleared (s : State σ) : Prop :=
  ∀ (c : Nat) (conn : Connection), s.connections[c]? = some conn → conn.Cleared

theorem cleared_start (manager : Manager σ) : (State.start manager).Cleared := by
  intro c conn there
  simp [State.start] at there

theorem State.Cleared.step (h : s.Cleared) (m : Move σ) : (s.step ops m).Cleared := by
  intro c next self
  cases before : s.connections[c]? with
  | none =>
    obtain after | after := (step_none ops before m).1
    · simp [after] at self
    · obtain rfl := Option.some.inj (after.symm.trans self)
      nofun
  | some conn =>
    obtain ⟨conn', same, step⟩ := steps ops before m
    obtain rfl := Option.some.inj (same.symm.trans self)
    obtain ⟨rs, goes⟩ | fails := step
    · exact goes.turn.cleared (h c conn before)
    · obtain ⟨q, rfl⟩ := fails.ended
      exact fun _ => ⟨rfl, rfl⟩

end

end UsbBridge.Daemon
