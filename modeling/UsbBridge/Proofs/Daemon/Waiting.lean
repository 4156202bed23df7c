import UsbBridge.Proofs.Daemon.Turns
import UsbBridge.Proofs.Opening.Progress

/-!
# Handlers that wait for openings

Of the daemon's moves a few have to do with openings: an opening goes on by itself, a handler begins
to wait for a new one, or it waits no more, because it has the result or no patience (`Deals`).
Whoever is waited for has a handler that waits (`Attended`), and a duplicate is no handler's between
two moves. What a handler waits for goes on, and no other handler takes it away (`State.Patient`).
-/

namespace UsbBridge.Daemon

open Socket
open Opening (Parts Tended)

def Handler.waitsFor : Handler → Option (Identity × Nat)
  | .opening id task => some (id, task)
  | _ => none

section
variable {σ : Type} (ops : Host σ) {s t : State σ} {c d : Nat} {conn : Connection}
variable {sending : Sending}

def State.waitsFor (s : State σ) (c : Nat) : Option (Identity × Nat) :=
  s.connections[c]?.bind (·.handler.waitsFor)

/-- The duplicate that the manager returns to a handler with a move, and the connection. -/
def State.handed? (s : State σ) : Move σ → Option (Nat × Nat)
  | .conclude c _ | .expire c _ =>
    match s.waitsFor c with
    | some (_, task) =>
      match (s.manager.openings.collect task).1 with
      | some (.ok dup) => some (c, dup)
      | _ => none
    | none => none
  | _ => none

/-- What a move comes to for the openings and for those who wait for one. -/
inductive Deals (s t : State σ) : Option (Nat × Nat) → Prop
  | runs {moves : List Opening.Move} (own : ∀ m ∈ moves, m.isOwn)
      (openings : t.manager.openings = Run.last Opening.step s.manager.openings moves)
      (waits : ∀ d, t.waitsFor d = s.waitsFor d) : Deals s t none
  | calls {c id} (free : s.waitsFor c = none) (new : s.manager.openings.isOpening id = false)
      (openings : t.manager.openings = s.manager.openings.enroll id)
      (self : t.waitsFor c = some (id, s.manager.openings.tasks.length))
      (others : ∀ d, d ≠ c → t.waitsFor d = s.waitsFor d) : Deals s t none
  | parts {c id task dup} (waited : s.waitsFor c = some (id, task))
      (ends : Parts s.manager.openings task dup t.manager.openings) (self : t.waitsFor c = none)
      (others : ∀ d, d ≠ c → t.waitsFor d = s.waitsFor d) : Deals s t (dup.map fun dup => (c, dup))

theorem waitsFor_eq (h : s.connections[c]? = some conn) :
    s.waitsFor c = conn.handler.waitsFor := by
  simp [State.waitsFor, h]

theorem waits_others (only : Only c s t) (d : Nat) (hd : d ≠ c) :
    t.waitsFor d = s.waitsFor d := by
  rw [State.waitsFor, State.waitsFor, only d hd]

theorem waits_same (only : Only c s t) (self : t.waitsFor c = s.waitsFor c) (d : Nat) :
    t.waitsFor d = s.waitsFor d := by
  by_cases hd : d = c
  · exact hd ▸ self
  · exact waits_others only d hd

theorem Deals.rests (openings : t.manager.openings = s.manager.openings)
    (waits : ∀ d, t.waitsFor d = s.waitsFor d) : Deals s t none :=
  .runs (List.forall_mem_nil _) openings waits

theorem Deals.congr {u : State σ} {given : Option (Nat × Nat)} (h : Deals s t given)
    (openings : s.manager.openings = u.manager.openings)
    (waits : ∀ d, s.waitsFor d = u.waitsFor d) : Deals u t given := by
  cases h with
  | runs own last same => exact .runs own (openings ▸ last) fun d => (same d).trans (waits d)
  | calls free new last self others =>
    exact .calls (waits _ ▸ free) (openings ▸ new) (openings ▸ last) (openings ▸ self)
      fun d hd => (others d hd).trans (waits d)
  | parts waited ends self others =>
    exact .parts (waits _ ▸ waited) (openings ▸ ends) self fun d hd => (others d hd).trans (waits d)

@[simp] theorem stop_openings (s : State σ) (c : Nat) :
    (s.stop c).manager.openings = s.manager.openings := by
  unfold State.stop
  split <;> rfl

@[simp] theorem reply_openings (s : State σ) (c : Nat) (sending : Sending) (p : Payload)
    (rights : List Passed) :
    (s.reply c sending p rights).manager.openings = s.manager.openings := by
  unfold State.reply
  split
  · rfl
  split
  · exact stop_openings s c
  · dsimp only
    split
    · rfl
    · exact stop_openings _ c

theorem reply_waits (h : s.connections[c]? = some conn) (free : conn.handler.waitsFor = none)
    (p : Payload) (rights : List Passed) : (s.reply c sending p rights).waitsFor c = none := by
  have replied := reply_replied h sending p rights
  generalize s.reply c sending p rights = t at replied
  cases replied with
  | whole => rw [waitsFor_eq (put_self h _), free]
  | failed q cause only self => exact waitsFor_eq self

theorem replied_only (h : s.connections[c]? = some conn) (p : Payload) (rights : List Passed) :
    Only c s (s.reply c sending p rights) := by
  have replied := reply_replied h sending p rights
  generalize s.reply c sending p rights = t at replied
  cases replied with
  | whole => exact put_only s c _
  | failed q cause only => exact only

theorem reply_deals (free : s.waitsFor c = none) (only : Only c s t)
    (openings : t.manager.openings = s.manager.openings)
    (self : t.connections[c]? = some conn) (idle : conn.handler.waitsFor = none) (p : Payload)
    (rights : List Passed) : Deals s (t.reply c sending p rights) none := by
  refine .rests ((reply_openings ..).trans openings)
    (waits_same (only.trans (replied_only self p rights)) ?_)
  rw [reply_waits self idle, free]

theorem handle_deals (self : s.connections[c]? = some conn) (idle : conn.handler = .idle)
    (sending : Sending) (m : Message) : Deals s (s.handle ops c conn sending m) none := by
  have free : s.waitsFor c = none := by rw [waitsFor_eq self, idle]; rfl
  have quiet : conn.handler.waitsFor = none := by rw [idle]; rfl
  have replies (p : Payload) : Deals s (s.reply c sending p []) none :=
    reply_deals free (.refl s c) rfl self quiet p []
  unfold State.handle
  split
  · exact replies _
  split
  · exact replies _
  · exact replies _
  · rename_i id _
    obtain ⟨-, busy⟩ | ⟨new, begun⟩ := Opening.call_cases s.manager.openings id
    · simp only [busy]
      exact replies _
    · simp only [begun]
      exact .calls free new rfl (waitsFor_eq (put_self self _)) (waits_others (put_only _ c _))
  · have joined : (s.subscribe c conn).connections[c]? = some
        { conn with subscription := some s.relay.feeds.length } := put_self self _
    exact reply_deals (t := s.subscribe c conn) free (put_only _ c _) rfl joined quiet _ []
  · split
    · exact .rests rfl fun _ => rfl
    · exact replies _
  · exact replies _

theorem serve_deals (h : s.connections[c]? = some conn) (sending : Sending) :
    Deals s (s.serve ops c sending) none := by
  simp only [State.serve, h]
  split
  · rename_i request later idle next
    refine (handle_deals ops (put_self h { conn with requests := later }) idle sending
      request.message).congr rfl (waits_same (put_only s c _) ?_)
    rw [waitsFor_eq (put_self h _), waitsFor_eq h]
  · rename_i idle none ended
    refine .rests (stop_openings s c) (waits_same (stop_only s c) ?_)
    rw [waitsFor_eq (stop_self h), waitsFor_eq h, idle]
    rfl
  · exact .rests rfl fun _ => rfl

theorem forward_deals (s : State σ) (c : Nat) (sending : Sending) :
    Deals s (s.forward c sending) none := by
  unfold State.forward
  split
  · rename_i link reading requests n h
    have free : s.waitsFor c = none := waitsFor_eq h
    split
    · rename_i relay _
      have same : Only c s (s.setRelay relay) := fun _ _ => rfl
      exact reply_deals free same rfl h rfl _ []
    · rename_i relay _
      exact reply_deals free (put_only (s.setRelay (relay.drop n)) c _) rfl
        (put_self (s := s.setRelay (relay.drop n)) h _) rfl _ []
    · exact .rests rfl fun _ => rfl
  · exact .rests rfl fun _ => rfl

theorem parts_deals {id : Identity} {task : Nat} {openings : Opening.State} {p : Payload}
    {rights : List Passed} (dup : Option Nat) (h : s.connections[c]? = some conn)
    (waits : conn.handler = .opening id task)
    (ends : Parts s.manager.openings task dup t.manager.openings)
    (connections : t.connections =
      (((s.setOpenings openings).put c { conn with handler := .idle }).reply c sending p
        rights).connections) : Deals s t (dup.map fun dup => (c, dup)) := by
  have self := put_self (s := s.setOpenings openings) h { conn with handler := .idle }
  have only : Only c s t := by
    intro d hd
    rw [connections, replied_only self p rights d hd, put_only _ c _ d hd]
    rfl
  refine .parts (by rw [waitsFor_eq h, waits]; rfl) ends ?_ (waits_others only)
  rw [State.waitsFor, connections]
  exact reply_waits self rfl p rights

theorem conclude_deals (h : s.connections[c]? = some conn) (sending : Sending) :
    Deals s (s.conclude c sending) (s.handed? (.conclude c sending)) := by
  cases waits : conn.handler with
  | idle | stopped =>
    have rests : s.conclude c sending = s := by simp [State.conclude, h, waits]
    have nothing : s.handed? (.conclude c sending) = none := by
      simp [State.handed?, waitsFor_eq h, waits, Handler.waitsFor]
    rw [rests, nothing]
    exact .rests rfl fun _ => rfl
  | opening id task =>
    have waited : s.waitsFor c = some (id, task) := by rw [waitsFor_eq h, waits]; rfl
    obtain early | ⟨-, result, -, got⟩ := Opening.collect_cases s.manager.openings task
    · have rests : s.conclude c sending = s := by simp [State.conclude, h, waits, early]
      have nothing : s.handed? (.conclude c sending) = none := by
        simp [State.handed?, waited, early]
      rw [rests, nothing]
      exact .rests rfl fun _ => rfl
    cases result with
    | error e =>
      have nothing : s.handed? (.conclude c sending) = none := by
        simp [State.handed?, waited, got]
      simp only [State.conclude, h, waits, got, nothing]
      refine parts_deals none h waits ?_ rfl
      rw [reply_openings]
      exact .refused got
    | ok dup =>
      have handed : s.handed? (.conclude c sending) = some (c, dup) := by
        simp [State.handed?, waited, got]
      simp only [State.conclude, h, waits, got, handed]
      refine parts_deals (some dup) h waits ?_ rfl
      simp only [State.setOpenings, reply_openings]
      exact .handed got

theorem expire_deals (h : s.connections[c]? = some conn) (sending : Sending) :
    Deals s (s.expire c sending) (s.handed? (.expire c sending)) := by
  have same : s.handed? (.expire c sending) = s.handed? (.conclude c sending) := rfl
  cases waits : conn.handler with
  | idle | stopped =>
    have rests : s.expire c sending = s.conclude c sending := by
      simp [State.expire, State.conclude, h, waits]
    rw [rests, same]
    exact conclude_deals h sending
  | opening id task =>
    simp only [State.expire, h, waits]
    obtain early | ⟨-, result, -, got⟩ := Opening.collect_cases s.manager.openings task
    · have nothing : s.handed? (.expire c sending) = none := by
        simp [State.handed?, waitsFor_eq h, waits, Handler.waitsFor, early]
      simp only [early, nothing]
      refine parts_deals none h waits ?_ rfl
      rw [reply_openings]
      exact .leaves (by rw [early])
    · simp only [got, same]
      exact conclude_deals h sending

theorem modify_waits (s : State σ) (c : Nat) {f : Connection → Connection}
    (keeps : ∀ conn, (f conn).handler = conn.handler) (d : Nat) :
    (s.modify c f).waitsFor d = s.waitsFor d := by
  simp only [State.waitsFor, State.modify, List.getElem?_modify]
  cases s.connections[d]? with
  | none => rfl
  | some conn => by_cases hd : c = d <;> simp [hd, keeps]

theorem read_handler (conn : Connection) (most : Nat) :
    (conn.read most).handler = conn.handler := by
  unfold Connection.read
  split
  · split <;> rfl
  · rfl

theorem enqueue_handler (conn : Connection) : conn.enqueue.handler = conn.handler := by
  unfold Connection.enqueue
  split
  · split <;> rfl
  · rfl

theorem accept_waits (s : State σ) (d : Nat) : s.accept.2.waitsFor d = s.waitsFor d := by
  simp only [State.waitsFor, State.accept, List.getElem?_append]
  split
  · rfl
  · rename_i new
    rw [List.getElem?_eq_none (Nat.le_of_not_lt new)]
    cases hd : [Connection.fresh][d - s.connections.length]? with
    | none => rfl
    | some conn =>
      obtain rfl := List.mem_singleton.mp (List.mem_of_getElem? hd)
      rfl

theorem step_deals (s : State σ) (m : Move σ) : Deals s (s.step ops m) (s.handed? m) := by
  -- Nothing happens on a connection that is not there.
  have absent {c} (hm : m.connection? = some c) (h : s.connections[c]? = none) :
      Deals s (s.step ops m) (s.handed? m) := by
    have nothing : s.handed? m = none := by
      cases m <;> cases hm <;> simp [State.handed?, State.waitsFor, h]
    rw [step_absent ops h hm, nothing]
    exact .rests rfl fun _ => rfl
  have on {c} (hm : m.connection? = some c)
      (there : ∀ conn, s.connections[c]? = some conn → Deals s (s.step ops m) (s.handed? m)) :
      Deals s (s.step ops m) (s.handed? m) := by
    cases h : s.connections[c]? with
    | none => exact absent hm h
    | some conn => exact there conn h
  cases m with
  | accept => exact .rests rfl (accept_waits s)
  | consumer c call => exact .rests rfl (modify_waits s c fun _ => rfl)
  | read c most => exact .rests rfl (modify_waits s c fun conn => read_handler conn most)
  | enqueue c => exact .rests rfl (modify_waits s c enqueue_handler)
  | serve c sending => exact on rfl fun conn h => serve_deals ops h sending
  | forward c sending => exact forward_deals s c sending
  | conclude c sending => exact on rfl fun conn h => conclude_deals h sending
  | expire c sending => exact on rfl fun conn h => expire_deals h sending
  | advance task =>
    cases next : s.manager.advance? ops task with
    | none =>
      refine .rests ?_ fun _ => rfl
      simp [State.step, next]
    | some m' =>
      obtain ⟨host, moves, own, rfl⟩ := Manager.advance_proceeds ops next
      refine .runs own ?_ fun _ => rfl
      simp [State.step, next]
  | relay | host | notify | unregister | close => exact .rests rfl fun _ => rfl

-- ---------------------------------------------------------------------------
-- Runs
-- ---------------------------------------------------------------------------

/-- The manager has returned these duplicates to handlers, which have closed them; whatever opening
is waited for has a handler that waits. -/
def Attended (s : State σ) (handed : List Nat) : Prop :=
  ∃ given, given.map (·.2) = handed ∧
    Tended s.manager.openings given fun n => ∃ c id, s.waitsFor c = some (id, n)

theorem attended_start (host : σ) (filter : DeviceFilter) (registered : Bool) (limit : Duration)
    (duplication : Except String Unit) :
    Attended (State.start (.start host filter registered limit duplication)) [] :=
  ⟨[], rfl, Opening.tended_start filter⟩

theorem Deals.run {given : Option (Nat × Nat)} (h : Deals s t given) :
    ∃ moves, t.manager.openings = Run.last Opening.step s.manager.openings moves := by
  cases h with
  | runs own openings => exact ⟨_, openings⟩
  | @calls c id free new openings =>
    refine ⟨[.call id], openings.trans ?_⟩
    simp [Opening.step, Opening.State.call, new]
  | @parts c id task dup waited ends =>
    generalize t.manager.openings = openings at ends
    cases ends with
    | leaves => exact ⟨[.leave task], rfl⟩
    | refused got => exact ⟨[.collect task], by simp [Opening.step, got]⟩
    | @handed dup o got => exact ⟨[.collect task, .close dup], by simp [Opening.step, got]⟩

/-- A handler that waits for an opening of an identity is the only one to do so, and gets what it
comes to. -/
structure State.Patient (s : State σ) : Prop where
  awaited : ∀ c id n, s.waitsFor c = some (id, n) → s.manager.openings.AwaitsFor id n
  apart : ∀ c d id other n, s.waitsFor c = some (id, n) → s.waitsFor d = some (other, n) → c = d

theorem patient_start (manager : Manager σ) : (State.start manager).Patient where
  awaited c id n hc := by simp [State.waitsFor, State.start] at hc
  apart c d id other n hc := by simp [State.waitsFor, State.start] at hc

theorem State.Patient.lt (h : s.Patient) {id : Identity} {n : Nat}
    (waits : s.waitsFor c = some (id, n)) : n < s.manager.openings.tasks.length := by
  obtain ⟨stage, task, -⟩ := h.awaited c id n waits
  exact (List.getElem?_eq_some_iff.mp task).1

theorem Deals.patient {given : Option (Nat × Nat)} (h : Deals s t given) (patient : s.Patient) :
    t.Patient := by
  cases h with
  | runs own openings waits =>
    refine ⟨fun d id n hd => ?_, fun d e id other n hd he => ?_⟩
    · rw [waits] at hd
      rw [openings]
      exact Opening.own_awaitsFor own (patient.awaited d id n hd)
    · rw [waits] at hd he
      exact patient.apart d e id other n hd he
  | @calls c new free unknown openings self others =>
    have older {d : Nat} {id : Identity} {n : Nat} (hd : t.waitsFor d = some (id, n)) :
        d = c ∧ id = new ∧ n = s.manager.openings.tasks.length ∨
          d ≠ c ∧ s.waitsFor d = some (id, n) ∧ n < s.manager.openings.tasks.length := by
      by_cases hdc : d = c
      · subst hdc
        cases self.symm.trans hd
        exact .inl ⟨rfl, rfl, rfl⟩
      · have before := (others d hdc).symm.trans hd
        exact .inr ⟨hdc, before, patient.lt before⟩
    refine ⟨fun d id n hd => ?_, fun d e id other n hd he => ?_⟩
    · rw [openings]
      obtain ⟨-, rfl, rfl⟩ | ⟨-, before, -⟩ := older hd
      · exact ⟨.admitted, by simp [Opening.State.enroll], Opening.Stage.noConfusion⟩
      · exact Opening.enroll_awaitsFor (patient.awaited d id n before) new
    · obtain ⟨rfl, -, last⟩ | ⟨-, before, old⟩ := older hd <;>
        obtain ⟨rfl, -, lastToo⟩ | ⟨-, beforeToo, oldToo⟩ := older he
      · rfl
      · omega
      · omega
      · exact patient.apart d e id other n before beforeToo
  | @parts c gone task dup waited ends self others =>
    have older {d : Nat} {id : Identity} {n : Nat} (hd : t.waitsFor d = some (id, n)) :
        d ≠ c ∧ s.waitsFor d = some (id, n) := by
      have hdc : d ≠ c := by
        rintro rfl
        cases self.symm.trans hd
      exact ⟨hdc, (others d hdc).symm.trans hd⟩
    refine ⟨fun d id n hd => ?_, fun d e id other n hd he => ?_⟩
    · obtain ⟨hdc, before⟩ := older hd
      have hn : n ≠ task := by
        rintro rfl
        exact hdc (patient.apart d c id gone n before waited)
      obtain ⟨stage, there, going⟩ := patient.awaited d id n before
      exact ⟨stage, (ends.others hn).trans there, going⟩
    · exact patient.apart d e id other n (older hd).2 (older he).2

theorem Deals.attended {given : Option (Nat × Nat)} {handed : List Nat} (h : Deals s t given)
    (attended : Attended s handed) : Attended t (handed ++ given.toList.map (·.2)) := by
  obtain ⟨callers, rfl, tended⟩ := attended
  cases h with
  | runs own openings waits =>
    refine ⟨callers, by simp, ?_⟩
    rw [openings]
    exact (tended.own own).mono fun n ⟨c, id, hc⟩ => ⟨c, id, (waits c).trans hc⟩
  | @calls c id free new openings self others =>
    refine ⟨callers, by simp, ?_⟩
    rw [openings]
    refine (tended.enroll id).mono fun n hn => ?_
    obtain rfl | ⟨d, other, hd⟩ := hn
    · exact ⟨c, id, self⟩
    · have hdc : d ≠ c := by
        rintro rfl
        simp [free] at hd
      exact ⟨d, other, (others d hdc).trans hd⟩
  | @parts c id task dup waited ends self others =>
    obtain ⟨callers', hcallers, tended'⟩ := tended.parts ends
    refine ⟨callers', by cases dup <;> simp [hcallers], tended'.mono fun n ⟨hn, d, other, hd⟩ => ?_⟩
    have hdc : d ≠ c := by
      rintro rfl
      rw [waited] at hd
      cases hd
      exact hn rfl
    exact ⟨d, other, (others d hdc).trans hd⟩

end

end UsbBridge.Daemon
