import UsbBridge.Proofs.Opening.Ownership
import UsbBridge.Proofs.Session.Runs

/-!
# Connections and open descriptors

A live connection belongs to the one opening that has it (`Connections`). The descriptors that
refer to its file are the original handle and the duplicates nobody has closed (`Descriptors`).
With the owners of duplicates this accounts for every handle in every run of a manager
(`handles_accounted`).
-/

namespace UsbBridge.Opening

variable {s s' : State} {id : Identity} {n d c : Nat} {t u : Task} {x : Duplicate}
variable {given : List (Nat × Nat)}

-- ---------------------------------------------------------------------------
-- Connections
-- ---------------------------------------------------------------------------

def Task.has (t : Task) (connection : Nat) : Bool := t.stage.connection? == some connection

def State.isLive (s : State) (connection : Nat) : Bool := s.live[connection]? == some true

/-- A live connection is had by one opening, any other by none. -/
structure Connections (s : State) : Prop where
  had : ∀ c, s.tasks.countP (·.has c) = (s.isLive c).toNat
  live : s.liveCount = s.tasks.countP (·.stage.connection?.isSome)

theorem connections_start (f : DeviceFilter) : Connections (.start f) where
  had _ := rfl
  live := rfl

theorem Connections.isLive (h : Connections s) (task : s.tasks[n]? = some t)
    (has : t.stage.connection? = some c) : s.live[c]? = some true := by
  have hpos : 0 < s.tasks.countP (·.has c) :=
    List.countP_pos_iff.mpr ⟨t, List.mem_of_getElem? task, by simp [Task.has, has]⟩
  rw [h.had] at hpos
  cases hl : s.isLive c with
  | true => simpa [State.isLive] using hl
  | false => simp [hl] at hpos

theorem Connections.live_iff (h : Connections s) : s.live[c]? = some true ↔
    ∃ (n : Nat) (t : Task), s.tasks[n]? = some t ∧ t.stage.connection? = some c := by
  constructor
  · intro hc
    have hpos : 0 < s.tasks.countP (·.has c) := by
      rw [h.had]
      simp [State.isLive, hc]
    obtain ⟨t, ht, has⟩ := List.countP_pos_iff.mp hpos
    obtain ⟨n, hn⟩ := List.getElem?_of_mem ht
    exact ⟨n, t, hn, by simpa [Task.has] using has⟩
  · rintro ⟨n, t, task, has⟩
    exact h.isLive task has

theorem Connections.idle (h : Connections s) (ended : ∀ t ∈ s.tasks, t.stage.isRunning = false) :
    s.liveCount = 0 := by
  rw [h.live]
  refine List.countP_eq_zero.mpr fun t ht => ?_
  have := ended t ht
  cases hs : t.stage <;> simp_all [Stage.isRunning, Stage.connection?]

/-- What a task gains or loses, the live connections do too. -/
theorem Connections.exchange (h : Connections s) (task : s.tasks[n]? = some t)
    (tasks : s'.tasks = s.tasks.set n u)
    (had : ∀ c, (s'.isLive c).toNat + (t.has c).toNat = (s.isLive c).toNat + (u.has c).toNat)
    (live : s'.liveCount + t.stage.connection?.isSome.toNat =
      s.liveCount + u.stage.connection?.isSome.toNat) : Connections s' where
  had c := by
    have hset := countP_set_add (p := (·.has c)) task u
    have hhad := h.had c
    have hnew := had c
    rw [tasks]
    omega
  live := by
    have hset := countP_set_add (p := (·.stage.connection?.isSome)) task u
    have hlive := h.live
    rw [tasks]
    omega

theorem Connections.same (h : Connections s) (task : s.tasks[n]? = some t)
    (tasks : s'.tasks = s.tasks.set n u) (live : s'.live = s.live)
    (same : u.stage.connection? = t.stage.connection?) : Connections s' :=
  h.exchange task tasks (fun c => by rw [State.isLive, live, Task.has, Task.has, same]; rfl)
    (by rw [State.liveCount, live, same]; rfl)

theorem isLive_connect (s : State) (n c : Nat) (handle : Int) :
    ((s.connect n handle).isLive c).toNat =
      (s.isLive c).toNat + (s.live.length == c).toNat := by
  simp only [State.connect, State.isLive, State.live_setStage, List.getElem?_append]
  by_cases hc : c < s.live.length
  · have hne : (s.live.length == c) = false := beq_false_of_ne (Nat.ne_of_gt hc)
    simp [hc, hne]
  · by_cases hlen : s.live.length = c
    · simp [hlen]
    · have hlt : c - s.live.length ≠ 0 := by omega
      simp [hc, hlt, beq_false_of_ne hlen]

theorem isLive_letGo (live : s.live[c]? = some true) (k : Nat) :
    ((s.letGo c).isLive k).toNat + (c == k).toNat = (s.isLive k).toNat := by
  simp only [State.isLive, State.live_letGo, List.getElem?_set]
  by_cases hk : c = k
  · subst hk
    simp [live]
  · simp [hk, beq_false_of_ne hk]

theorem connect_connections (h : Connections s)
    (task : s.tasks[n]? = some ⟨id, .opening device, awaited⟩) (handle : Int) :
    Connections (s.connect n handle) := by
  refine h.exchange (u := ⟨id, .connected s.live.length handle, awaited⟩) task
    (State.tasks_setStage task _) (fun c => ?_) ?_
  · simp [isLive_connect, Task.has, Stage.connection?]
  · simp [State.connect, State.liveCount, Stage.connection?]

theorem release_connections (h : Connections s)
    (task : s.tasks[n]? = some ⟨id, .settled c result, awaited⟩) :
    Connections ((s.letGo c).yield n result) := by
  have hc : s.live[c]? = some true := h.isLive task rfl
  refine h.exchange task (State.tasks_yield (by exact task) _) (fun k => ?_) ?_
  · have hlive : ((s.letGo c).yield n result).isLive k = (s.letGo c).isLive k := by
      rw [State.isLive, State.live_yield]; rfl
    rw [hlive]
    simpa [Task.has, Stage.connection?] using isLive_letGo hc k
  · have hcount := countP_set_add (p := (· == true)) hc false
    simpa [State.liveCount, List.count, Stage.connection?] using hcount

theorem Change.connections (c : Change s k s') (h : Connections s) : Connections s' := by
  cases c with
  | locate task | approve task => exact h.same task (State.tasks_setStage task _) rfl rfl
  | refuse task | copy task => exact h.same task (State.tasks_setStage task _) rfl rfl
  | connect task handle => exact connect_connections h task handle
  | @fail n t e task early =>
    refine h.same task (State.tasks_yield task _) (by simp) ?_
    cases hs : t.stage <;> simp_all [Stage.isEarly, Stage.connection?]
  | release task => exact release_connections h task
  | leave task => exact h.same task (modify_eq_set task) rfl rfl
  | @clean n result id task =>
    exact h.same (u := ⟨id, .collected, false⟩) task
      (by rw [State.tasks_discard, State.tasks_setStage task]) (by simp) rfl

theorem close_connections (d : Nat) (h : Connections s) : Connections (s.closeDuplicate d) where
  had := by simpa [State.isLive] using h.had
  live := by simpa [State.liveCount] using h.live

theorem handOver_connections (h : Connections s)
    (task : s.tasks[n]? = some ⟨id, .returned result, true⟩) :
    Connections (s.handOver n result) := by
  exact h.same task (State.tasks_handOver task) (by simp) rfl

theorem enroll_connections (h : Connections s) : Connections (s.enroll id) where
  had c := by simpa [State.enroll, State.isLive, Task.has, Stage.connection?] using h.had c
  live := by simpa [State.enroll, Stage.connection?, State.liveCount] using h.live

-- ---------------------------------------------------------------------------
-- Descriptors
-- ---------------------------------------------------------------------------

def Duplicate.refersTo (x : Duplicate) (connection : Nat) : Bool :=
  x.connection == connection && x.owner != .nobody

/-- The handle a connection came with is open while it is live, a duplicate while it is owned. -/
structure Descriptors (s : State) : Prop where
  sizes : s.references.length = s.live.length
  counted : ∀ c k, s.references[c]? = some k →
    k = (s.isLive c).toNat + s.duplicates.countP (·.refersTo c)
  connection : ∀ (d : Nat) (x : Duplicate), s.duplicates[d]? = some x →
    x.connection < s.live.length

theorem descriptors_start (f : DeviceFilter) : Descriptors (.start f) where
  sizes := rfl
  counted := by simp [State.start]
  connection := by simp [State.start]

theorem Descriptors.same (h : Descriptors s) (live : s'.live = s.live)
    (references : s'.references = s.references) (duplicates : s'.duplicates = s.duplicates) :
    Descriptors s' where
  sizes := by rw [references, live, h.sizes]
  counted c k hk := by
    rw [references] at hk
    rw [State.isLive, live, duplicates]
    exact h.counted c k hk
  connection := by simpa only [live, duplicates] using h.connection

theorem Descriptors.none_refer (h : Descriptors s) :
    s.duplicates.countP (·.refersTo s.live.length) = 0 := by
  refine List.countP_eq_zero.mpr fun x hx => ?_
  obtain ⟨d, hd⟩ := List.getElem?_of_mem hx
  simp [Duplicate.refersTo, Nat.ne_of_lt (h.connection d x hd)]

theorem connect_descriptors (h : Descriptors s) (n : Nat) (handle : Int) :
    Descriptors (s.connect n handle) where
  sizes := by simp [State.connect, h.sizes]
  counted c k hk := by
    have duplicates : (s.connect n handle).duplicates = s.duplicates := rfl
    rw [isLive_connect, duplicates]
    obtain hk | ⟨rfl, rfl⟩ := getElem?_concat_cases hk
    · have hlt : c < s.live.length := h.sizes ▸ (List.getElem?_eq_some_iff.mp hk).1
      simpa [beq_false_of_ne (Nat.ne_of_gt hlt)] using h.counted c k hk
    · rw [h.sizes, h.none_refer]
      simp [State.isLive]
  connection d x hx := by
    have := h.connection d x hx
    simpa [State.connect] using Nat.lt_succ_of_lt this

theorem Descriptors.recount (h : Descriptors s) {f : Nat → Nat}
    (live : s'.live.length = s.live.length)
    (references : s'.references = s.references.modify c f)
    (counted : ∀ k, (s'.isLive k).toNat + s'.duplicates.countP (·.refersTo k) =
      if c = k then f ((s.isLive k).toNat + s.duplicates.countP (·.refersTo k))
      else (s.isLive k).toNat + s.duplicates.countP (·.refersTo k))
    (connection : ∀ (d : Nat) (x : Duplicate), s'.duplicates[d]? = some x →
      x.connection < s.live.length) : Descriptors s' where
  sizes := by rw [references, List.length_modify, live, h.sizes]
  counted k i hi := by
    rw [references, List.getElem?_modify] at hi
    obtain ⟨j, hj, rfl⟩ := Option.map_eq_some_iff.mp hi
    rw [counted, ← h.counted k j hj]
  connection d x hx := live ▸ connection d x hx

theorem copy_descriptors (h : Descriptors s) (n : Nat) (live : s.live[c]? = some true) :
    Descriptors (s.copy n c) := by
  refine h.recount (c := c) rfl rfl (fun k => ?_) fun d x hx => ?_
  · have hlive : (s.copy n c).isLive k = s.isLive k := rfl
    have duplicates : (s.copy n c).duplicates = s.duplicates ++ [⟨c, n, .opening⟩] := rfl
    rw [hlive, duplicates, List.countP_append]
    by_cases hk : c = k
    · simp [hk, Duplicate.refersTo, Nat.add_assoc]
    · simp [hk, Duplicate.refersTo]
  · obtain hx | ⟨-, rfl⟩ := getElem?_concat_cases hx
    · exact h.connection d x hx
    · exact (List.getElem?_eq_some_iff.mp live).1

theorem letGo_descriptors (h : Descriptors s) (live : s.live[c]? = some true) :
    Descriptors (s.letGo c) := by
  refine h.recount (by simp) rfl (fun k => ?_) h.connection
  have hk := isLive_letGo live k
  rw [State.duplicates_letGo]
  by_cases hc : c = k
  · simp only [hc, BEq.rfl, Bool.toNat_true, if_true] at hk ⊢
    omega
  · simp only [beq_false_of_ne hc, Bool.toNat_false, hc, if_false] at hk ⊢
    omega

theorem countP_setOwner (there : s.duplicates[d]? = some x) (isOpen : x.owner ≠ .nobody)
    (owner : Owner) (k : Nat) :
    (s.setOwner d owner).duplicates.countP (·.refersTo k) + (x.connection == k).toNat =
      s.duplicates.countP (·.refersTo k) + (x.connection == k && owner != .nobody).toNat := by
  have hset := countP_set_add (p := (·.refersTo k)) there { x with owner }
  have hx : x.refersTo k = (x.connection == k) := by simp [Duplicate.refersTo, isOpen]
  rwa [hx, ← modify_eq_set (f := fun x => { x with owner }) there] at hset

theorem connection_setOwner (h : Descriptors s) (owner : Owner)
    (hx : (s.setOwner d owner).duplicates[n]? = some x) : x.connection < s.live.length := by
  rw [State.setOwner, List.getElem?_modify] at hx
  obtain ⟨y, hy, rfl⟩ := Option.map_eq_some_iff.mp hx
  have := h.connection n y hy
  split <;> exact this

theorem closeDuplicate_descriptors (h : Descriptors s) (there : s.duplicates[d]? = some x)
    (isOpen : x.owner ≠ .nobody) : Descriptors (s.closeDuplicate d) := by
  rw [State.closeDuplicate_eq there]
  refine h.recount (c := x.connection) rfl rfl (fun k => ?_)
    fun d' y hy => connection_setOwner h .nobody hy
  have hset := countP_setOwner there isOpen .nobody k
  have hlive : ((s.setOwner d .nobody).recount x.connection (· - 1)).isLive k = s.isLive k := rfl
  rw [hlive, State.recount]
  by_cases hk : x.connection = k
  · simp only [hk, BEq.rfl, Bool.toNat_true, bne_self_eq_false, Bool.and_false, Bool.toNat_false,
      if_true] at hset ⊢
    omega
  · simp only [beq_false_of_ne hk, Bool.toNat_false, Bool.false_and, hk, if_false] at hset ⊢
    omega

theorem handOver_descriptors (h : Descriptors s) (held : Holdings s given)
    (task : s.tasks[n]? = some ⟨id, .returned result, true⟩) :
    Descriptors (s.handOver n result) := by
  cases result with
  | error e => exact h.same rfl rfl rfl
  | ok d =>
    obtain ⟨x, there, -, owner⟩ := held.made n _ d task rfl
    have taken : Descriptors (s.setStage n .collected) := h.same rfl rfl rfl
    refine ⟨h.sizes, fun c k hk => ?_, fun d' y hy => ?_⟩
    · have hset := countP_setOwner there (by simp [owner]) .caller c
      have hcaller : (x.connection == c && Owner.caller != .nobody) = (x.connection == c) := by
        cases x.connection == c <;> rfl
      rw [hcaller] at hset
      rw [h.counted c k hk, ← Nat.add_right_cancel hset]
      rfl
    · have := connection_setOwner taken .caller hy
      exact this

theorem Change.descriptors (c : Change s k s') (connections : Connections s)
    (held : Holdings s given) (h : Descriptors s) : Descriptors s' := by
  cases c with
  | locate | approve | refuse | leave => exact h.same rfl rfl rfl
  | @connect device awaited n id task handle => exact connect_descriptors h n handle
  | copy task => exact copy_descriptors h _ (connections.isLive task rfl)
  | fail => exact h.same (by simp) (by simp) (by simp)
  | release task =>
    exact (letGo_descriptors h (connections.isLive task rfl)).same (by simp) (by simp) (by simp)
  | @clean n result id task =>
    cases result with
    | error e => exact h.same rfl rfl rfl
    | ok d =>
      obtain ⟨x, there, -, owner⟩ := held.made n _ d task rfl
      exact closeDuplicate_descriptors (h.same rfl rfl rfl) there (by simp [owner])

theorem countP_refersTo_eq_zero : s.duplicates.countP (·.refersTo c) = 0 ↔
    ∀ (d : Nat) (x : Duplicate), s.duplicates[d]? = some x → x.connection = c →
      x.owner = .nobody := by
  rw [List.countP_eq_zero]
  constructor
  · intro h d x hx hc
    simpa [Duplicate.refersTo, hc] using h x (List.mem_of_getElem? hx)
  · intro h x hx
    obtain ⟨d, hd⟩ := List.getElem?_of_mem hx
    simpa [Duplicate.refersTo] using h d x hd

/-- The far end of a connection sees its end once the connection and all duplicates are closed. -/
theorem Descriptors.isReferenced (h : Descriptors s) (hc : c < s.live.length) :
    s.isReferenced c = false ↔ s.live[c]? = some false ∧
      ∀ (d : Nat) (x : Duplicate), s.duplicates[d]? = some x → x.connection = c →
        x.owner = .nobody := by
  obtain ⟨k, hr⟩ : ∃ k, s.references[c]? = some k :=
    ⟨_, List.getElem?_eq_getElem (h.sizes ▸ hc)⟩
  have hk := h.counted c k hr
  have hlive : s.live[c]? = some false ↔ (s.isLive c).toNat = 0 := by
    simp [State.isLive, hc]
  have hnone : s.isReferenced c = false ↔ k = 0 := by
    simp [State.isReferenced, hr]
  rw [← countP_refersTo_eq_zero, hlive, hnone]
  omega

theorem Descriptors.isReferenced_of_owned (h : Descriptors s) (there : s.duplicates[d]? = some x)
    (isOpen : x.owner ≠ .nobody) : s.isReferenced x.connection = true := by
  cases hr : s.isReferenced x.connection with
  | true => rfl
  | false =>
    exact absurd (((h.isReferenced (h.connection d x there)).mp hr).2 d x there rfl) isOpen

-- ---------------------------------------------------------------------------
-- Steps
-- ---------------------------------------------------------------------------

theorem step_connections (s : State) (m : Move) (h : Connections s) : Connections (step s m) :=
  step_keeps (fun _ _ => enroll_connections) Change.connections
    (fun _ task h => handOver_connections h task) (fun _ _ => close_connections _) h

theorem step_descriptors (s : State) (m : Move) (connections : Connections s)
    (held : Holdings s given) (h : Descriptors s) : Descriptors (step s m) := by
  have hs := step_cases s m
  generalize step s m = s' at hs ⊢
  cases hs with
  | enroll => exact h.same rfl rfl rfl
  | turn turn =>
    exact (turn.keeps (P := fun s => Connections s ∧ Holdings s given ∧ Descriptors s)
      (fun c h => ⟨c.connections h.1, c.holdings h.2.1, c.descriptors h.1 h.2.1 h.2.2⟩)
      ⟨connections, held, h⟩).2.2
  | handOver task => exact handOver_descriptors h held task
  | close owned => exact closeDuplicate_descriptors h owned (by simp)

structure Accounted (s : State) (given : List (Nat × Nat)) : Prop where
  connections : Connections s
  descriptors : Descriptors s
  holdings : Holdings s given
  awaited : s.Awaited

theorem accounted_start (f : DeviceFilter) : Accounted (.start f) [] :=
  ⟨connections_start f, descriptors_start f, holdings_start f, by
    simp [State.Awaited, State.AwaitedBut, State.start]⟩

theorem step_accounted (s : State) (m : Move) (h : Accounted s given) :
    Accounted (step s m) (given ++ (given? s m).toList) where
  connections := step_connections s m h.connections
  descriptors := step_descriptors s m h.connections h.holdings h.descriptors
  holdings := step_holdings s m h.holdings
  awaited := step_awaited s m h.awaited

end UsbBridge.Opening

namespace UsbBridge.Manager

variable {σ : Type} {given : List (Nat × Nat)} {d : Nat} {x : Opening.Duplicate}

def given? (m : Manager σ) : Move σ → Option (Nat × Nat)
  | .opening o => Opening.given? m.openings o
  | _ => none

/-- Of a manager, after some callers have got the duplicates of their openings: every connection
and every duplicate has somebody who is answerable for it. -/
structure HandlesAccounted (m : Manager σ) (given : List (Nat × Nat)) : Prop where
  /-- A connection is live from the host's opening of a device until it is released. -/
  live : m.openings.liveCount = m.openings.tasks.countP (·.stage.connection?.isSome)
  owner : ∀ c, m.openings.live[c]? = some true ↔ ∃ (n : Nat) (t : Opening.Task),
    m.openings.tasks[n]? = some t ∧ t.stage.connection? = some c
  idle : (∀ t ∈ m.openings.tasks, t.stage.isRunning = false) → m.openings.liveCount = 0
  fate : ∀ (d : Nat) (x : Opening.Duplicate), m.openings.duplicates[d]? = some x →
    Opening.Fate m.openings d x (Opening.callersOf given d)
  /-- An opening that is answerable for a duplicate runs, or its caller waits for the result. -/
  waiting : ∀ (n : Nat) (t : Opening.Task) d, m.openings.tasks[n]? = some t →
    t.stage.duplicate? = some d → t.stage.isRunning = true ∨ t.awaited = true
  /-- No duplicate is given twice. -/
  once : (given.map (·.2)).Nodup
  /-- What a caller gets is its own, and open. -/
  issued : ∀ n d, (m.openings.collect n).1 = some (.ok d) → ∃ x,
    (m.openings.collect n).2.duplicates[d]? = some x ∧ x.opening = n ∧ x.owner = .caller ∧
      (m.openings.collect n).2.isReferenced x.connection = true
  /-- The device's side sees the end of a connection exactly when it and every duplicate are
  closed. -/
  endOfFile : ∀ c, c < m.openings.live.length → (m.openings.isReferenced c = false ↔
    m.openings.live[c]? = some false ∧ ∀ (d : Nat) (x : Opening.Duplicate),
      m.openings.duplicates[d]? = some x → x.connection = c → x.owner = .nobody)
  /-- Nothing but its own closing touches a duplicate that a caller has got. -/
  kept : ∀ (d : Nat) (x : Opening.Duplicate) (later : List (Move σ)),
    m.openings.duplicates[d]? = some x → x.owner = .caller →
    (∀ y ∈ later, y ≠ .opening (.close d)) →
    (Run.last step m later).openings.duplicates[d]? = some x ∧
      (Run.last step m later).openings.isReferenced x.connection = true

theorem accounted_later {m : Manager σ} (h : Opening.Accounted m.openings given)
    (there : m.openings.duplicates[d]? = some x) (owned : x.owner = .caller)
    (later : List (Move σ)) (hlater : ∀ y ∈ later, y ≠ .opening (.close d)) :
    (∃ given', Opening.Accounted (Run.last step m later).openings given') ∧
      (Run.last step m later).openings.duplicates[d]? = some x := by
  induction later generalizing m given with
  | nil => exact ⟨⟨given, h⟩, there⟩
  | cons y ys ih =>
    have hys : ∀ z ∈ ys, z ≠ .opening (.close d) :=
      fun z hz => hlater z (List.mem_cons_of_mem _ hz)
    cases y with
    | opening o =>
      have ho : o ≠ .close d := by
        rintro rfl
        exact hlater _ List.mem_cons_self rfl
      exact ih (Opening.step_accounted _ o h)
        (Opening.step_keeps_issued h.holdings there (by simp [owned]) fun _ => ho) hys
    | relay | host | close => exact ih h there hys

theorem HandlesAccounted.of_accounted {m : Manager σ} (h : Opening.Accounted m.openings given) :
    HandlesAccounted m given where
  live := h.connections.live
  owner _ := h.connections.live_iff
  idle := h.connections.idle
  fate := h.holdings.fate
  waiting n t d task has := by
    cases hs : t.stage with
    | returned r =>
      cases ha : t.awaited with
      | true => exact .inr rfl
      | false => exact (h.awaited n t r task hs ha).elim
    | admitted | located | opening | connected | settled => exact .inl rfl
    | collected => simp [hs, Opening.Stage.duplicate?] at has
  once := h.holdings.nodup
  issued n d hd := by
    obtain ⟨x, hx, hxn, owned⟩ := Opening.collect_issued h.holdings hd
    have next : Opening.Accounted (m.openings.collect n).2 _ :=
      Opening.step_accounted m.openings (.collect n) h
    exact ⟨x, hx, hxn, owned, next.descriptors.isReferenced_of_owned hx (by simp [owned])⟩
  endOfFile _ hc := h.descriptors.isReferenced hc
  kept d x later there owned hlater := by
    obtain ⟨⟨given', h'⟩, hx⟩ := accounted_later h there owned later hlater
    exact ⟨hx, h'.descriptors.isReferenced_of_owned hx (by simp [owned])⟩

/-- In every run of a manager, whatever the host answers and whoever gives up waiting. -/
theorem handles_accounted (host : σ) (f : DeviceFilter) (registered : Bool) (limit : Duration)
    (duplication : Except String Unit) (moves : List (Move σ)) :
    HandlesAccounted (Run.last step (start host f registered limit duplication) moves)
      ((Run.record step (start host f registered limit duplication) moves).filterMap
        fun p => p.1.given? p.2) := by
  refine .of_accounted (Run.induction step
    (P := fun m past => Opening.Accounted m.openings (past.filterMap fun p => p.1.given? p.2))
    [] (Opening.accounted_start f) (fun m past x h => ?_) moves)
  rw [List.filterMap_append]
  cases x with
  | opening o =>
    have := Opening.step_accounted m.openings o h
    cases hg : Opening.given? m.openings o <;> simpa [given?, hg] using this
  | relay | host | close => simpa [given?] using h

end UsbBridge.Manager
