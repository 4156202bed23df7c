import Mathlib.Data.List.Nodup
import Mathlib.Data.List.Perm.Subperm
import UsbBridge.Proofs.Client.Takings
import UsbBridge.Proofs.Daemon.Passage

/-!
# Handing over

A duplicate that the manager returns to a handler is closed in the same move (`Closes`), and at no
other time in a run (`closed_once`). Handlers pass on no descriptor twice, so that at most one
consumer gets it (`Sends`), whatever becomes of sends and consumers (`handed_over`).
-/

namespace UsbBridge.Daemon

open Socket

theorem nodup_of_count [BEq α] [LawfulBEq α] {f : α → β} {xs ys : List α}
    (few : ∀ a, xs.count a ≤ ys.count a) (once : (ys.map f).Nodup) : (xs.map f).Nodup := by
  obtain ⟨zs, perm, less⟩ := List.subperm_ext_iff.mpr fun a (_ : a ∈ xs) => few a
  exact (perm.map f).nodup_iff.mp (once.sublist (less.map f))

section
variable {σ : Type} (ops : Host σ) {s t : State σ} {m : Move σ} {c d : Nat} {handed : List Nat}
variable {past : List (State σ × Move σ)}

def State.isOpen (s : State σ) (dup : Nat) : Bool :=
  s.manager.openings.duplicates[dup]?.any (·.owner != .nobody)

def State.closes (s : State σ) (m : Move σ) (dup : Nat) : Bool :=
  s.isOpen dup && !(s.step ops m).isOpen dup

def State.Shut (s : State σ) (dup : Nat) : Prop :=
  ∃ x, s.manager.openings.duplicates[dup]? = some x ∧ x.owner = .nobody

/-- What a move comes to with which the manager returns a duplicate to a handler. -/
structure Closes (s : State σ) (m : Move σ) (c dup : Nat) : Prop where
  /-- Until then it is one of the descriptors that refer to a connection's file, and then these are
  one less. -/
  file : ∃ k, s.fileOf dup = [.device k] ∧ s.manager.openings.isReferenced k = true ∧
    (s.step ops m).manager.openings.references = s.manager.openings.references.modify k (· - 1)
  now : s.closes ops m dup
  /-- The handler has nothing to do with the opening any more. -/
  free : (s.step ops m).waitsFor c = none

def closings (past : List (State σ × Move σ)) (dup : Nat) : Nat :=
  past.countP fun p => p.1.closes ops p.2 dup

/-- The duplicates that the manager returned to handlers, each with the handler's connection. -/
def handedIn (past : List (State σ × Move σ)) : List (Nat × Nat) :=
  past.filterMap fun p => p.1.handed? p.2

def passedIn (past : List (State σ × Move σ)) : List (Nat × Passed) :=
  past.flatMap fun p => p.1.passed p.2

/-- The descriptors that consumers received, each with the consumer. -/
def receivedIn (past : List (State σ × Move σ)) : List (Nat × Passed) :=
  past.flatMap fun p => p.1.received p.2

-- ---------------------------------------------------------------------------
-- Closing
-- ---------------------------------------------------------------------------

theorem State.Shut.isOpen (h : s.Shut d) : s.isOpen d = false := by
  obtain ⟨x, there, owner⟩ := h
  simp [State.isOpen, there, owner]

theorem step_attended (h : Attended s handed) (m : Move σ) :
    Attended (s.step ops m) (handed ++ (s.handed? m).toList.map (·.2)) :=
  (step_deals ops s m).attended h

theorem step_files (s : State σ) (m : Move σ) :
    s.manager.openings.files <+: (s.step ops m).manager.openings.files := by
  obtain ⟨moves, openings⟩ := (step_deals ops s m).run
  rw [openings]
  exact Opening.run_files _ moves

theorem step_shut (h : Attended s handed) (shut : s.Shut d) (m : Move σ) :
    (s.step ops m).Shut d := by
  obtain ⟨given, -, tended⟩ := h
  obtain ⟨x, there, owner⟩ := shut
  obtain ⟨moves, openings⟩ := (step_deals ops s m).run
  refine ⟨x, ?_, owner⟩
  rw [openings]
  exact Opening.run_keeps_closed tended.accounted.holdings there owner moves

theorem run_attended (h : Attended s handed) (moves : List (Move σ)) :
    ∃ later, Attended (Run.last (State.step ops) s moves) later := by
  induction moves generalizing s handed with
  | nil => exact ⟨handed, h⟩
  | cons m ms ih => exact ih (step_attended ops h m)

theorem run_shut (h : Attended s handed) (shut : s.Shut d) (moves : List (Move σ)) :
    (Run.last (State.step ops) s moves).Shut d := by
  induction moves generalizing s handed with
  | nil => exact shut
  | cons m ms ih => exact ih (step_attended ops h m) (step_shut ops h shut m)

theorem shut_of_closes (closes : s.closes ops m d) : (s.step ops m).Shut d := by
  simp only [State.closes, State.isOpen, Bool.and_eq_true, Bool.not_eq_true'] at closes
  obtain ⟨before, after⟩ := closes
  cases there : s.manager.openings.duplicates[d]? with
  | none => simp [there] at before
  | some x =>
    have file : (s.step ops m).manager.openings.files[d]? = some x.connection :=
      getElem?_of_prefix (step_files ops s m) (by simp [Opening.State.files, there])
    rw [Opening.State.files, List.getElem?_map, Option.map_eq_some_iff] at file
    obtain ⟨y, still, -⟩ := file
    exact ⟨y, still, by simpa [still] using after⟩

theorem Attended.closes (h : Attended s handed) (gives : s.handed? m = some (c, d)) :
    Closes ops s m c d ∧ ∃ k, s.manager.openings.files[d]? = some k ∧ s.fileOf d = [.device k] := by
  obtain ⟨given, -, tended⟩ := h
  have deals := step_deals ops s m
  rw [gives] at deals
  generalize hg : some (c, d) = gift at deals
  cases deals with
  | runs | calls => cases hg
  | @parts c' id task dup waited ends self others =>
    obtain ⟨dup, rfl, same⟩ := Option.map_eq_some_iff.mp hg.symm
    cases same
    generalize openings : (s.step ops m).manager.openings = after at ends
    cases ends with
    | @handed dup o got =>
      obtain ⟨x, there, owner, -, duplicates, referenced, references⟩ :=
        Opening.collect_close tended.accounted got
      have file : s.fileOf d = [.device x.connection] := by simp [State.fileOf, there]
      have less : (s.step ops m).manager.openings.references =
          s.manager.openings.references.modify x.connection (· - 1) := by rw [openings, references]
      refine ⟨⟨⟨x.connection, file, referenced, less⟩, ?_, self⟩,
        x.connection, by simp [Opening.State.files, there], file⟩
      simp [State.closes, State.isOpen, there, owner, openings, duplicates,
        Opening.State.setOwner]

theorem closings_cons (s : State σ) (m : Move σ) (past : List (State σ × Move σ)) (d : Nat) :
    closings ops ((s, m) :: past) d = closings ops past d + (s.closes ops m d).toNat := by
  rw [closings, List.countP_cons, closings]
  cases s.closes ops m d <;> rfl

theorem closings_append (before after : List (State σ × Move σ)) (d : Nat) :
    closings ops (before ++ after) d = closings ops before d + closings ops after d :=
  List.countP_append

theorem open_closings (h : Attended s handed) (moves : List (Move σ))
    (isOpen : (Run.last (State.step ops) s moves).isOpen d = true) :
    closings ops (Run.record (State.step ops) s moves) d = 0 := by
  induction moves generalizing s handed with
  | nil => rfl
  | cons m ms ih =>
    have attended := step_attended ops h m
    have stays : s.closes ops m d = false := by
      refine Bool.eq_false_iff.mpr fun closes => ?_
      have shut := run_shut ops attended (shut_of_closes ops closes) ms
      exact absurd isOpen (by simp [shut.isOpen])
    rw [Run.record, closings_cons, ih attended isOpen, stays, Bool.toNat_false]

theorem shut_closings (h : Attended s handed) (shut : s.Shut d) (moves : List (Move σ)) :
    closings ops (Run.record (State.step ops) s moves) d = 0 := by
  induction moves generalizing s handed with
  | nil => rfl
  | cons m ms ih =>
    have stays : s.closes ops m d = false := by simp [State.closes, shut.isOpen]
    rw [Run.record, closings_cons, ih (step_attended ops h m) (step_shut ops h shut m), stays,
      Bool.toNat_false]

/-- Of all moves of a run just the one with which it is handed over closes a duplicate. -/
theorem closed_once (h : Attended s handed) (moves : List (Move σ))
    (there : (t, m) ∈ Run.record (State.step ops) s moves) (gives : t.handed? m = some (c, d)) :
    Closes ops t m c d ∧ closings ops (Run.record (State.step ops) s moves) d = 1 := by
  obtain ⟨before, after, rfl, rfl⟩ := Run.mem_record _ there
  obtain ⟨given, attended⟩ := run_attended ops h before
  have closes := (attended.closes ops gives).1
  have isOpen := closes.now
  simp only [State.closes, Bool.and_eq_true] at isOpen
  have shut := shut_of_closes ops closes.now
  rw [Run.record_append, Run.record, closings_append, closings_cons,
    open_closings ops h before isOpen.1,
    shut_closings ops (step_attended ops attended m) shut after, closes.now]
  exact ⟨closes, rfl⟩

-- ---------------------------------------------------------------------------
-- Passing on
-- ---------------------------------------------------------------------------

/-- What handlers have passed on are the files of duplicates that the manager returned to them, no
file twice, and there is no more of it with their consumers or under way to them. -/
structure Sends (past : List (State σ × Move σ)) (s : State σ) : Prop where
  origin : ∀ p ∈ passedIn past, ∃ d k, (p.1, d) ∈ handedIn past ∧
    s.manager.openings.files[d]? = some k ∧ p.2 = .device k
  once : ((passedIn past).map (·.2)).Nodup
  balance : ∀ c r, (receivedIn past).count (c, r) + (s.outbound c).count r ≤
    (passedIn past).count (c, r)

theorem handedIn_concat (past : List (State σ × Move σ)) (s : State σ) (m : Move σ) :
    handedIn (past ++ [(s, m)]) = handedIn past ++ (s.handed? m).toList :=
  filterMap_concat ..

theorem passedIn_concat (past : List (State σ × Move σ)) (s : State σ) (m : Move σ) :
    passedIn (past ++ [(s, m)]) = passedIn past ++ s.passed m := by
  simp [passedIn]

theorem receivedIn_concat (past : List (State σ × Move σ)) (s : State σ) (m : Move σ) :
    receivedIn (past ++ [(s, m)]) = receivedIn past ++ s.received m := by
  simp [receivedIn]

theorem sends_start (manager : Manager σ) : Sends [] (State.start manager) where
  origin := nofun
  once := .nil
  balance c r := by
    have nothing : (State.start manager).outbound c = [] := by
      simp [State.outbound, State.linkOf, State.start, Link.fresh, Channel.rights, Channel.fresh]
    simp [nothing, receivedIn]

/-- What a handler is given now it has not passed on before: another duplicate is of another file,
and none is handed over twice. -/
theorem Sends.fresh (h : Sends past s) (attended : Attended s ((handedIn past).map (·.2)))
    (gives : s.handed? m = some (c, d)) {k : Nat}
    (file : (s.step ops m).manager.openings.files[d]? = some k) :
    Passed.device k ∉ (passedIn past).map (·.2) := by
  obtain ⟨given, handed, tended⟩ := step_attended ops attended m
  have once := tended.accounted.holdings.nodup
  rw [handed, gives, List.nodup_append] at once
  intro passed
  obtain ⟨p, hp, hpr⟩ := List.mem_map.mp passed
  obtain ⟨d', k', before, file', same⟩ := h.origin p hp
  obtain rfl : k' = k := by simpa [same] using hpr
  have now := getElem?_of_prefix (step_files ops s m) file'
  obtain rfl : d' = d := (List.getElem?_inj (List.getElem?_eq_some_iff.mp now).1
    tended.copied.once).mp (now.trans file.symm)
  exact once.2.2 d' (List.mem_map.mpr ⟨_, before, rfl⟩) d' (by simp) rfl

theorem Sends.step (h : Sends past s) (attended : Attended s ((handedIn past).map (·.2)))
    (m : Move σ) : Sends (past ++ [(s, m)]) (s.step ops m) := by
  have files := step_files ops s m
  have older : ∀ p ∈ passedIn past, ∃ d k, (p.1, d) ∈ handedIn (past ++ [(s, m)]) ∧
      (s.step ops m).manager.openings.files[d]? = some k ∧ p.2 = .device k := by
    intro p hp
    obtain ⟨d, k, handed, file, same⟩ := h.origin p hp
    rw [handedIn_concat]
    exact ⟨d, k, List.mem_append_left _ handed, getElem?_of_prefix files file, same⟩
  have balance (c : Nat) (r : Passed) : (receivedIn (past ++ [(s, m)])).count (c, r) +
      ((s.step ops m).outbound c).count r ≤ (passedIn (past ++ [(s, m)])).count (c, r) := by
    have before := h.balance c r
    have now := step_balance ops s m c r
    rw [receivedIn_concat, passedIn_concat, List.count_append, List.count_append]
    omega
  cases gives : s.handed? m with
  | none =>
    have nothing : passedIn (past ++ [(s, m)]) = passedIn past := by
      simp [passedIn_concat, State.passed, gives]
    exact ⟨nothing ▸ older, nothing ▸ h.once, balance⟩
  | some gift =>
    obtain ⟨c, d⟩ := gift
    obtain ⟨k, file, fileOf⟩ := (attended.closes ops gives).2
    have passed : s.passed m = [(c, .device k)] := by simp [State.passed, gives, fileOf]
    have now := getElem?_of_prefix files file
    refine ⟨?_, ?_, balance⟩
    · rw [passedIn_concat, passed]
      refine List.forall_mem_append.mpr ⟨older, List.forall_mem_singleton.mpr ?_⟩
      refine ⟨d, k, ?_, now, rfl⟩
      simp [handedIn_concat, gives]
    · rw [passedIn_concat, passed, List.map_append, List.map_singleton, ← List.concat_eq_append,
        List.nodup_concat]
      exact ⟨h.fresh ops attended gives now, h.once⟩

theorem Sends.received (h : Sends past s) {p : Nat × Passed} (hp : p ∈ receivedIn past) :
    ∃ d k, (p.1, d) ∈ handedIn past ∧ s.manager.openings.files[d]? = some k ∧
      p.2 = .device k := by
  obtain ⟨c, r⟩ := p
  have came := List.count_pos_iff.mpr hp
  have balance := h.balance c r
  exact h.origin (c, r) (List.count_pos_iff.mp (by omega))

theorem Sends.received_once (h : Sends past s) : ((receivedIn past).map (·.2)).Nodup :=
  nodup_of_count (fun p => Nat.le_trans (Nat.le_add_right _ _) (h.balance p.1 p.2)) h.once

-- ---------------------------------------------------------------------------
-- Runs
-- ---------------------------------------------------------------------------

/-- What is on the way to the daemon, or held by it, was sent by the connection's own consumer. -/
def Brought (past : List (State σ × Move σ)) (s : State σ) : Prop :=
  ∀ c conn, s.connections[c]? = some conn → ∀ r ∈ conn.inbound,
    ∃ t bytes rights, (t, Move.consumer c (.send bytes rights)) ∈ past ∧ r ∈ rights

theorem brought_start (manager : Manager σ) : Brought [] (State.start manager) := by
  intro c conn there
  simp [State.start] at there

theorem Brought.step (h : Brought past s) (m : Move σ) :
    Brought (past ++ [(s, m)]) (s.step ops m) := by
  intro c next self r hr
  cases before : s.connections[c]? with
  | none =>
    obtain after | after := (step_none ops before m).1
    · simp [after] at self
    · obtain rfl := Option.some.inj (after.symm.trans self)
      cases hr
  | some conn =>
    obtain old | ⟨bytes, rights, rfl, sent⟩ := step_inbound ops before self r hr
    · obtain ⟨t, bytes, rights, came, sent⟩ := h c conn before r old
      exact ⟨t, bytes, rights, List.mem_append_left _ came, sent⟩
    · exact ⟨s, bytes, rights, by simp, sent⟩

/-- After a run: what has become of the duplicates that the manager returned to handlers, and of
the descriptors that come with messages. -/
structure HandedOver (past : List (State σ × Move σ)) (s : State σ) : Prop where
  /-- A duplicate that a handler gets is closed in the same move, wherever the send breaks off, and
  never else. -/
  closed : ∀ t m c d, (t, m) ∈ past → t.handed? m = some (c, d) →
    Closes ops t m c d ∧ closings ops past d = 1
  /-- No duplicate is returned to two handlers, or twice. -/
  once : ((handedIn past).map (·.2)).Nodup
  /-- What refers to a connection's file is the handle that it came with, while it is live, and the
  duplicates that are open. -/
  counted : ∀ k n, s.manager.openings.references[k]? = some n →
    n = (s.manager.openings.isLive k).toNat +
      s.manager.openings.duplicates.countP (·.refersTo k)
  /-- While no handler waits for an opening and none runs, the daemon has neither of them. -/
  quiet : (∀ c, s.waitsFor c = none) →
    (∀ task ∈ s.manager.openings.tasks, task.stage.isRunning = false) →
    ∀ k, s.manager.openings.isReferenced k = false
  /-- What came with messages to the daemon is the consumer's who sent it. -/
  brought : Brought past s
  /-- It is closed when the handler takes the request. -/
  dropped : ∀ c conn request later sending, s.connections[c]? = some conn →
    conn.handler = .idle → conn.requests = request :: later →
    ∃ next, (s.step ops (.serve c sending)).connections[c]? = some next ∧
      (conn.rightsRead = request.rights ++ next.rightsRead ∨ next.rightsRead = [])
  /-- A handler that has returned, for whatever reason, leaves none behind. -/
  left : ∀ (c : Nat) (conn : Connection), s.connections[c]? = some conn →
    conn.handler = .stopped → conn.rightsRead = []
  /-- A consumer receives no descriptor but of a file whose duplicate was returned to the handler
  of its connection. -/
  origin : ∀ p ∈ receivedIn past, ∃ d k, (p.1, d) ∈ handedIn past ∧
    s.manager.openings.files[d]? = some k ∧ p.2 = .device k
  /-- Every file has one duplicate at most, and no consumer receives what another one has received,
  or twice. -/
  files : s.manager.openings.files.Nodup
  received : ((receivedIn past).map (·.2)).Nodup
  /-- What a client makes of a response and its descriptors. -/
  taken : ∀ (client : Client.State Passed) (link : Link Passed) (m : Client.Move),
    Client.Takes client link m
  /-- What a feed makes of the descriptors that come with an event or with the end. -/
  fed : ∀ (feed : Client.Feed Passed) (link : Link Passed), feed.ended = none →
    (feed.poll link).1.isSome → (feed.poll link).2.1.reading.rights = []

/-- In every run of the daemon, with any number of consumers: sends break off after any number of
bytes, and consumers disconnect and openings time out at any time. -/
theorem handed_over (host : σ) (f : DeviceFilter) (registered : Bool) (limit : Duration)
    (duplication : Except String Unit) (moves : List (Move σ)) :
    HandedOver ops
      (Run.record (State.step ops) (.start (.start host f registered limit duplication)) moves)
      (Run.last (State.step ops) (.start (.start host f registered limit duplication)) moves) := by
  have start := attended_start host f registered limit duplication
  have run := Run.induction (State.step ops)
    (P := fun s past => Attended s ((handedIn past).map (·.2)) ∧ Sends past s ∧ Brought past s ∧
      s.Cleared)
    (s := .start (.start host f registered limit duplication)) []
    ⟨start, sends_start _, brought_start _, cleared_start _⟩ (fun s past m h => by
      obtain ⟨attended, sends, brought, cleared⟩ := h
      refine ⟨?_, sends.step ops attended m, brought.step ops m, cleared.step ops m⟩
      rw [handedIn_concat, List.map_append]
      exact step_attended ops attended m) moves
  rw [List.nil_append] at run
  obtain ⟨⟨given, handed, tended⟩, sends, brought, cleared⟩ := run
  exact
    { closed := fun t m c d there gives => closed_once ops start moves there gives
      once := handed ▸ tended.accounted.holdings.nodup
      counted := tended.accounted.descriptors.counted
      quiet := fun nobody ended => tended.quiet (fun n ⟨c, id, waits⟩ => by
        rw [nobody c] at waits
        cases waits) ended
      brought := brought
      dropped := fun c conn request later sending there idle first =>
        serve_closes ops there idle first sending
      left := fun c conn there ended => (cleared c conn there).rightsRead ended
      origin := fun p hp => sends.received hp
      files := tended.copied.once
      received := sends.received_once
      taken := Client.step_takes
      fed := fun feed link going read => Client.poll_keeps_none going read }

end

end UsbBridge.Daemon
