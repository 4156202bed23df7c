import UsbBridge.Proofs.Opening.Changes
import UsbBridge.Proofs.Session.Runs

/-!
# One opening of an identity at a time

The identities in flight are exactly those of the openings that run, each once (`Tracked`,
`step_tracked`), whoever still waits for them. Hence a call is refused exactly while an opening of
its identity runs, and admitted once that has returned (`step_return`, `call_admits`);
`single_opening` says so of every run of a manager.
-/

namespace UsbBridge.Opening

variable {s s' : State} {id : Identity} {n : Nat} {t u : Task}

/-- What is true of every task: the host is asked about a device of the identity only, and what
the opening comes to says nothing of another one. -/
structure Task.Sound (t : Task) : Prop where
  named : ∀ d, t.stage.device? = some d → d.identity = t.identity
  substantial : ∀ e, t.stage.result? = some (.error e) → Substantial e

structure Advance (s s' : State) (n : Nat) (t u : Task) : Prop where
  task : s.tasks[n]? = some t
  tasks : s'.tasks = s.tasks.set n u
  identity : u.identity = t.identity
  running : u.stage.isRunning = true → t.stage.isRunning = true
  sound : t.Sound → u.Sound
  inFlight : s'.inFlight =
    if t.stage.isRunning && !u.stage.isRunning then s.inFlight.erase t.identity else s.inFlight

@[simp] theorem isRunning_returned (r : Result) : (Stage.returned r).isRunning = false := rfl
@[simp] theorem isRunning_collected : Stage.collected.isRunning = false := rfl

theorem isRunning_of_isEarly {stage : Stage} (h : stage.isEarly = true) :
    stage.isRunning = true := by
  cases stage <;> simp_all [Stage.isEarly, Stage.isRunning]

theorem yield_advance (task : s.tasks[n]? = some t) (runs : t.stage.isRunning = true)
    (cause : ∀ e, r = .error e → t.Sound → Substantial e) :
    Advance s (s.yield n r) n t { t with stage := .returned r } where
  task := task
  tasks := State.tasks_yield task r
  identity := rfl
  running _ := runs
  sound h := ⟨by simp [Stage.device?], fun e he => cause e (by simpa [Stage.result?] using he) h⟩
  inFlight := by simp [State.yield_eq task, State.setStage, runs]

theorem setStage_advance (stage : Stage) (task : s.tasks[n]? = some t)
    (runs : t.stage.isRunning = true) (goes : stage.isRunning = true)
    (sound : t.Sound → Task.Sound { t with stage }) :
    Advance s (s.setStage n stage) n t { t with stage } where
  task := task
  tasks := State.tasks_setStage task stage
  identity := rfl
  running _ := runs
  sound := sound
  inFlight := by simp [goes]

theorem Change.advance (h : Change s k s') : ∃ n t u, Advance s s' n t u := by
  cases h with
  | locate task named =>
    exact ⟨_, _, _, setStage_advance _ task rfl rfl fun _ =>
      ⟨by simp [Stage.device?, named], by simp [Stage.result?]⟩⟩
  | approve task =>
    exact ⟨_, _, _, setStage_advance _ task rfl rfl fun h => ⟨h.named, by simp [Stage.result?]⟩⟩
  | connect task handle =>
    have h := setStage_advance (.connected s.live.length handle) task rfl rfl fun _ =>
      ⟨by simp [Stage.device?], by simp [Stage.result?]⟩
    exact ⟨_, _, _, h.task, h.tasks, h.identity, h.running, h.sound, h.inFlight⟩
  | refuse task cause =>
    exact ⟨_, _, _, setStage_advance _ task rfl rfl fun _ =>
      ⟨by simp [Stage.device?], by simp_all [Stage.result?]⟩⟩
  | @copy _ _ _ connection _ task =>
    have h := setStage_advance (.settled connection (.ok s.duplicates.length)) task rfl rfl
      fun _ => ⟨by simp [Stage.device?], by simp [Stage.result?]⟩
    exact ⟨_, _, _, h.task, h.tasks, h.identity, h.running, h.sound, h.inFlight⟩
  | fail task early cause =>
    exact ⟨_, _, _, yield_advance task (isRunning_of_isEarly early) fun e he _ => by simp_all⟩
  | @release _ _ connection result _ task =>
    have h := yield_advance (s := s.letGo connection) (r := result) task rfl
      fun e he h => h.substantial e (by simp [Stage.result?, he])
    exact ⟨_, _, _, h.task, h.tasks, h.identity, h.running, h.sound, h.inFlight⟩
  | @leave n t task there =>
    refine ⟨n, t, { t with awaited := false }, task, ?_, rfl, id, ?_, ?_⟩
    · simp [modify_eq_set task]
    · exact fun h => ⟨h.named, h.substantial⟩
    · simp
  | @clean n result id task =>
    refine ⟨n, _, ⟨id, .collected, false⟩, task, ?_, rfl, ?_, ?_, ?_⟩
    · simp [State.tasks_setStage task]
    · simp
    · exact fun _ => ⟨by simp [Stage.device?], by simp [Stage.result?]⟩
    · simp

theorem handOver_advance
    (task : s.tasks[n]? = some ⟨id, .returned result, true⟩) :
    Advance s (s.handOver n result) n ⟨id, .returned result, true⟩ ⟨id, .collected, true⟩ where
  task := task
  tasks := State.tasks_handOver task
  identity := rfl
  running := by simp
  sound _ := ⟨by simp [Stage.device?], by simp [Stage.result?]⟩
  inFlight := by simp

-- ---------------------------------------------------------------------------
-- The invariant
-- ---------------------------------------------------------------------------

def Task.runsFor (t : Task) (id : Identity) : Bool := t.identity == id && t.stage.isRunning

def State.running (s : State) (id : Identity) : Nat := s.tasks.countP (·.runsFor id)

structure Tracked (s : State) : Prop where
  counted : ∀ id, s.inFlight.count id = s.running id
  once : ∀ id, s.running id ≤ 1
  sound : ∀ (n : Nat) (t : Task), s.tasks[n]? = some t → t.Sound

theorem tracked_start (f : DeviceFilter) : Tracked (.start f) where
  counted _ := rfl
  once _ := Nat.zero_le _
  sound := by simp [State.start]

theorem enroll_tracked (free : s.isOpening id = false) (h : Tracked s) : Tracked (s.enroll id) := by
  have hrun (i : Identity) :
      (s.enroll id).running i = s.running i + if id = i then 1 else 0 := by
    by_cases hi : id = i <;>
      simp [State.running, State.enroll, Task.runsFor, Stage.isRunning, hi]
  have hfree : s.running id = 0 := by
    rw [← h.counted]
    exact List.count_eq_zero.mpr (by simpa [State.isOpening] using free)
  refine ⟨fun i => ?_, fun i => ?_, fun n t ht => ?_⟩
  · rw [hrun, ← h.counted]
    simp [State.enroll, List.count_cons]
  · have := h.once i
    rw [hrun]
    split
    · rename_i hi
      subst hi
      omega
    · omega
  · obtain ht | ⟨-, rfl⟩ := getElem?_concat_cases ht
    · exact h.sound n t ht
    · exact ⟨by simp [Stage.device?], by simp [Stage.result?]⟩

theorem Advance.tracked (a : Advance s s' n t u) (h : Tracked s) : Tracked s' := by
  have hrun (id : Identity) :
      s'.running id + (t.runsFor id).toNat = s.running id + (u.runsFor id).toNat := by
    rw [State.running, a.tasks]
    exact countP_set_add a.task u
  -- Both counts drop together when the opening returns; none begins to run this way.
  have hflight (id : Identity) :
      s'.inFlight.count id + (t.runsFor id).toNat = s.inFlight.count id + (u.runsFor id).toNat := by
    rw [a.inFlight, Task.runsFor, Task.runsFor, a.identity]
    cases ht : t.stage.isRunning <;> cases hu : u.stage.isRunning
    · simp
    · exact absurd (a.running hu) (by simp [ht])
    · have hpos : 0 < s.inFlight.count t.identity := by
        rw [h.counted]
        exact List.countP_pos_iff.mpr
          ⟨t, List.mem_of_getElem? a.task, by simp [Task.runsFor, ht]⟩
      by_cases hi : t.identity = id
      · subst hi
        simp
        omega
      · simp [List.count_erase_of_ne (Ne.symm hi), hi]
    · simp
  refine ⟨fun id => ?_, fun id => ?_, fun k v hk => ?_⟩
  · have h1 := hrun id
    have h2 := hflight id
    have h3 := h.counted id
    omega
  · have h1 := hrun id
    have h2 := h.once id
    have h3 : (u.runsFor id).toNat ≤ (t.runsFor id).toNat := by
      have := a.running
      have := a.identity
      cases hu : u.stage.isRunning <;> simp_all [Task.runsFor]
    omega
  · rw [a.tasks] at hk
    obtain ⟨-, rfl⟩ | ⟨-, hk⟩ := getElem?_set_cases hk
    · exact a.sound (h.sound n t a.task)
    · exact h.sound k v hk

theorem Change.tracked (c : Change s k s') (h : Tracked s) : Tracked s' := by
  obtain ⟨n, t, u, a⟩ := c.advance
  exact a.tracked h

theorem close_tracked (d : Nat) (h : Tracked s) : Tracked (s.closeDuplicate d) :=
  ⟨by simpa [State.running] using h.counted, by simpa [State.running] using h.once,
    by simpa using h.sound⟩

theorem step_tracked (s : State) (m : Move) (h : Tracked s) : Tracked (step s m) :=
  step_keeps (fun _ => enroll_tracked) Change.tracked
    (fun _ task => (handOver_advance task).tracked) (fun _ _ => close_tracked _) h

-- ---------------------------------------------------------------------------
-- What the invariant says
-- ---------------------------------------------------------------------------

theorem Tracked.mem_inFlight (h : Tracked s) :
    id ∈ s.inFlight ↔ ∃ (n : Nat) (t : Task),
      s.tasks[n]? = some t ∧ t.identity = id ∧ t.stage.isRunning = true := by
  rw [← List.count_pos_iff, h.counted, State.running, List.countP_pos_iff]
  constructor
  · rintro ⟨t, ht, hr⟩
    obtain ⟨n, hn⟩ := List.getElem?_of_mem ht
    exact ⟨n, t, hn, by simpa [Task.runsFor] using hr⟩
  · rintro ⟨n, t, hn, hi, hr⟩
    exact ⟨t, List.mem_of_getElem? hn, by simp [Task.runsFor, hi, hr]⟩

theorem Tracked.nodup (h : Tracked s) : s.inFlight.Nodup :=
  List.nodup_iff_count.mpr fun id => by rw [h.counted]; exact h.once id

theorem Tracked.unique (h : Tracked s) (hm : s.tasks[m]? = some t) (hn : s.tasks[n]? = some u)
    (ht : t.stage.isRunning = true) (hu : u.stage.isRunning = true)
    (hi : t.identity = u.identity) : m = n := by
  by_cases hne : m = n
  · exact hne
  -- Were they two, one would be left when the other is taken out.
  let gone : Task := ⟨t.identity, .collected, t.awaited⟩
  have hset := countP_set_add (p := (·.runsFor u.identity)) hm gone
  have hleft : 0 < (s.tasks.set m gone).countP (·.runsFor u.identity) := by
    have hu' : (s.tasks.set m gone)[n]? = some u := by rw [List.getElem?_set_ne hne]; exact hn
    exact List.countP_pos_iff.mpr ⟨u, List.mem_of_getElem? hu', by simp [Task.runsFor, hu]⟩
  have honce : s.tasks.countP (·.runsFor u.identity) ≤ 1 := h.once u.identity
  have hone : t.runsFor u.identity = true := by simp [Task.runsFor, ht, hi]
  have hnone : gone.runsFor u.identity = false := by simp [gone, Task.runsFor]
  simp only [hone, hnone, Bool.toNat_true, Bool.toNat_false] at hset
  omega

theorem Tracked.isOpening (h : Tracked s) : s.isOpening id = true ↔ ∃ (n : Nat) (t : Task),
    s.tasks[n]? = some t ∧ t.identity = id ∧ t.stage.isRunning = true := by
  rw [State.isOpening, List.contains_iff_mem, h.mem_inFlight]

-- ---------------------------------------------------------------------------
-- Return and the next call
-- ---------------------------------------------------------------------------

def State.RunsOnly (s : State) (id : Identity) (K : Nat → Prop) : Prop :=
  ∀ (k : Nat) (t : Task), s.tasks[k]? = some t → t.identity = id → t.stage.isRunning = true → K k

theorem Advance.runsOnly (a : Advance s s' n t u) (h : s.RunsOnly id K) : s'.RunsOnly id K := by
  intro k v hk hi hr
  rw [a.tasks] at hk
  obtain ⟨rfl, rfl⟩ | ⟨-, hk⟩ := getElem?_set_cases hk
  · exact h k t a.task (a.identity ▸ hi) (a.running hr)
  · exact h k v hk hi hr

/-- Only a call can set off another opening of an identity. -/
theorem step_runsOnly {m : Move} (hm : m ≠ .call id) (h : s.RunsOnly id K) :
    (step s m).RunsOnly id K := by
  refine step_keeps (P := (·.RunsOnly id K)) ?_ ?_
    (fun _ task => (handOver_advance task).runsOnly) ?_ h
  · rintro s i rfl - h k t hk hi hr
    obtain hk | ⟨-, rfl⟩ := getElem?_concat_cases hk
    · exact h k t hk hi hr
    · exact absurd (congrArg Move.call hi) hm
  · intro s _ s' c h
    obtain ⟨n, t, u, a⟩ := c.advance
    exact a.runsOnly h
  · intro s d connection n _ _ h
    simpa only [State.RunsOnly, State.tasks_closeDuplicate] using h

/-- A move with which an opening returns leaves none of its identity behind. -/
theorem step_return (h : Tracked s) (task : s.tasks[n]? = some t) (runs : t.stage.isRunning = true)
    {m : Move} (returned : ∀ u, (step s m).tasks[n]? = some u → u.stage.isRunning = false) :
    (step s m).RunsOnly t.identity fun _ => False := by
  have hcall : m ≠ .call t.identity := by
    rintro rfl
    have hopen := h.isOpening.mpr ⟨n, t, task, rfl, runs⟩
    have hstep : step s (.call t.identity) = s := by simp [step, State.call, hopen]
    exact absurd (returned t (by rw [hstep]; exact task)) (by simp [runs])
  have honly : s.RunsOnly t.identity (· = n) :=
    fun k u hk hi hr => h.unique hk task hr runs hi
  intro k u hk hi hr
  obtain rfl := step_runsOnly hcall honly k u hk hi hr
  exact absurd (returned u hk) (by simp [hr])

theorem call_admits (h : Tracked s) (idle : s.RunsOnly id fun _ => False) :
    s.call id = (.ok s.tasks.length, s.enroll id) := by
  obtain ⟨hopen, -⟩ | ⟨-, hc⟩ := call_cases s id
  · obtain ⟨n, t, hn, hi, hr⟩ := h.isOpening.mp hopen
    exact (idle n t hn hi hr).elim
  · exact hc

-- ---------------------------------------------------------------------------
-- Runs of a manager
-- ---------------------------------------------------------------------------

theorem Advance.identities (a : Advance s s' n t u) :
    s'.tasks.map (·.identity) = s.tasks.map (·.identity) := by
  rw [a.tasks, List.map_set, a.identity]
  refine List.ext_getElem? fun k => ?_
  rw [List.getElem?_set]
  split
  · rename_i hk
    subst hk
    obtain ⟨hlt, ht⟩ := List.getElem?_eq_some_iff.mp a.task
    simp [hlt, ht]
  · rfl

def begun? (s : State) : Move → Option Identity
  | .call id => if (s.call id).1.isOk then some id else none
  | _ => none

/-- Openings are begun by calls alone, and keep their identities. -/
theorem step_identities (s : State) (m : Move) :
    (step s m).tasks.map (·.identity) = s.tasks.map (·.identity) ++ (begun? s m).toList := by
  by_cases hcall : ∃ id, m = .call id
  · obtain ⟨id, rfl⟩ := hcall
    obtain ⟨-, hc⟩ | ⟨-, hc⟩ := call_cases s id
    · simp [step, begun?, hc, Except.isOk, Except.toBool]
    · simp [step, begun?, hc, Except.isOk, Except.toBool, State.enroll]
  · have hnone : begun? s m = none := by
      cases m <;> first | rfl | exact absurd ⟨_, rfl⟩ hcall
    simp only [hnone, Option.toList_none, List.append_nil]
    refine step_keeps (P := fun s' => s'.tasks.map (·.identity) = s.tasks.map (·.identity))
      (fun hm => absurd ⟨_, hm⟩ hcall) ?_ ?_ ?_ rfl
    · intro s' _ s'' c h
      obtain ⟨n, t, u, a⟩ := c.advance
      rw [a.identities, h]
    · intro s' n id result _ task h
      rw [(handOver_advance task).identities, h]
    · intro s' d connection n _ _ h
      rw [State.tasks_closeDuplicate, h]

end UsbBridge.Opening

namespace UsbBridge.Manager

variable {σ : Type} {id : Identity}

def begun? (m : Manager σ) : Move σ → Option Identity
  | .opening o => Opening.begun? m.openings o
  | _ => none

/-- Of a manager, after the openings begun so far: one opening of an identity runs at most, and
the identities in flight tell which. -/
structure SingleOpening (m : Manager σ) (begun : List Identity) : Prop where
  /-- The tasks are the openings begun so far, in order. -/
  tasks : m.openings.tasks.map (·.identity) = begun
  running : ∀ (i j : Nat) (t u : Opening.Task), m.openings.tasks[i]? = some t →
    m.openings.tasks[j]? = some u → t.stage.isRunning = true → u.stage.isRunning = true →
    t.identity = u.identity → i = j
  /-- So the host opens one device of an identity at most. -/
  opening : ∀ i j d e, m.openings.stage? i = some (.opening d) →
    m.openings.stage? j = some (.opening e) → d.identity = e.identity → i = j
  nodup : m.openings.inFlight.Nodup
  /-- In flight is what has begun and not returned, awaited or not. -/
  inFlight : ∀ id, id ∈ m.openings.inFlight ↔ ∃ (n : Nat) (t : Opening.Task),
    m.openings.tasks[n]? = some t ∧ t.identity = id ∧ t.stage.isRunning = true
  refused : ∀ id, (m.openings.call id).1 = .error (.alreadyOpening id) ↔ id ∈ m.openings.inFlight
  /-- A refused call changes nothing, and asks nothing of any host. -/
  untouched : ∀ id ∈ m.openings.inFlight, m.step (.opening (.call id)) = m ∧
    ∀ ops : Host σ, m.call ops id = (.error (.alreadyOpening id), m)
  /-- No opening that was begun comes to such an error, nor does a caller that runs out of time. -/
  substantial : ∀ n result id, (m.openings.collect n).1 = some result →
    result ≠ .error (.alreadyOpening id)
  patient : ∀ id limit id', Opening.State.timeoutError id limit ≠ .alreadyOpening id'
  /-- Once an opening has returned, by whatever move, the next call of its identity is admitted. -/
  freed : ∀ (n : Nat) (t : Opening.Task) (x : Move σ) (later : List (Move σ)),
    m.openings.tasks[n]? = some t →
    t.stage.isRunning = true →
    (∀ u, (m.step x).openings.tasks[n]? = some u → u.stage.isRunning = false) →
    (∀ y ∈ later, y ≠ .opening (.call t.identity)) →
    ∃ k, ((Run.last step (m.step x) later).openings.call t.identity).1 = .ok k

theorem tracked_run (host : σ) (f : DeviceFilter) (registered : Bool) (limit : Duration)
    (duplication : Except String Unit) (moves : List (Move σ)) :
    Opening.Tracked (Run.last step (start host f registered limit duplication) moves).openings :=
  openings_invariant (Opening.tracked_start f) Opening.step_tracked moves

theorem runsOnly_run {m : Manager σ} {moves : List (Move σ)} (h : m.openings.RunsOnly id K)
    (hmoves : ∀ y ∈ moves, y ≠ .opening (.call id)) :
    (Run.last step m moves).openings.RunsOnly id K := by
  induction moves generalizing m with
  | nil => exact h
  | cons y ys ih =>
    have hy : (step m y).openings.RunsOnly id K := by
      refine step_openings (P := (·.RunsOnly id K)) h fun o ho => Opening.step_runsOnly ?_ h
      rintro rfl
      exact hmoves y List.mem_cons_self ho
    exact ih hy fun z hz => hmoves z (List.mem_cons_of_mem _ hz)

theorem SingleOpening.of_tracked {m : Manager σ} (h : Opening.Tracked m.openings)
    (tasks : m.openings.tasks.map (·.identity) = begun) : SingleOpening m begun where
  tasks := tasks
  running i j t u hi hj ht hu := h.unique hi hj ht hu
  opening i j d e hi hj hd := by
    obtain ⟨t, ht, hts⟩ := Option.map_eq_some_iff.mp hi
    obtain ⟨u, hu, hus⟩ := Option.map_eq_some_iff.mp hj
    have hdt := (h.sound i t ht).named d (by simp [hts, Opening.Stage.device?])
    have heu := (h.sound j u hu).named e (by simp [hus, Opening.Stage.device?])
    exact h.unique ht hu (by simp [hts, Opening.Stage.isRunning])
      (by simp [hus, Opening.Stage.isRunning]) (by rw [← hdt, ← heu, hd])
  nodup := h.nodup
  inFlight id := h.mem_inFlight
  refused id := by
    obtain ⟨hopen, hc⟩ | ⟨hfree, hc⟩ := Opening.call_cases m.openings id
    · simpa [hc, Opening.State.isOpening] using hopen
    · simpa [hc, Opening.State.isOpening] using hfree
  untouched id hid := by
    have hc : m.openings.call id = (.error (.alreadyOpening id), m.openings) := by
      simp [Opening.State.call, Opening.State.isOpening, hid]
    exact ⟨by simp [step, Opening.step, hc], fun ops => by simp [call, hc]⟩
  substantial n result id hr := by
    obtain hc | ⟨i, r, task, hc⟩ := Opening.collect_cases m.openings n
    · simp [hc] at hr
    · obtain rfl : r = result := by simpa [hc] using hr
      rintro rfl
      exact (h.sound n _ task).substantial _ rfl id rfl
  patient _ _ _ := nofun
  freed n t x later task runs returned hlater := by
    have hidle : (m.step x).openings.RunsOnly t.identity fun _ => False := by
      cases x with
      | opening o => exact Opening.step_return h task runs returned
      | relay | host | close => exact absurd (returned t task) (by simp [runs])
    have htracked : Opening.Tracked (Run.last step (m.step x) later).openings :=
      openings_invariant (step_openings h fun o _ => Opening.step_tracked _ o h)
        Opening.step_tracked later
    exact ⟨_, by rw [Opening.call_admits htracked (runsOnly_run hidle hlater)]⟩

/-- In every run of a manager, whatever the host answers and whoever gives up waiting. -/
theorem single_opening (host : σ) (f : DeviceFilter) (registered : Bool) (limit : Duration)
    (duplication : Except String Unit) (moves : List (Move σ)) :
    SingleOpening (Run.last step (start host f registered limit duplication) moves)
      ((Run.record step (start host f registered limit duplication) moves).filterMap
        fun p => p.1.begun? p.2) := by
  refine .of_tracked (tracked_run host f registered limit duplication moves) ?_
  refine Run.induction step
    (P := fun m past => m.openings.tasks.map (·.identity) = past.filterMap fun p => p.1.begun? p.2)
    [] rfl (fun m past x h => ?_) moves
  rw [List.filterMap_append, ← h]
  cases x with
  | opening o =>
    rw [openings_opening, Opening.step_identities]
    cases hb : Opening.begun? m.openings o <;> simp [begun?, hb]
  | relay | host | close => simp [begun?]

end UsbBridge.Manager
