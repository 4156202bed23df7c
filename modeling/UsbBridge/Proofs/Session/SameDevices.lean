import UsbBridge.Proofs.Session.Attempts

/-!
# All commands see the same devices

A listing, a question for permission and an opening each ask the host anew, and each takes the
filter to what they hear. They agree all the same, whatever else happens meanwhile
(`commands_agree`): they fail together, they find the same device, and the host is asked to open
that one, once, exactly if it may be opened.
-/

namespace UsbBridge.Directory

variable {f : DeviceFilter} {devices : List Device} {id : Identity} {d : Device}

/-- The first of the devices that the filter lets through to bear an identity. -/
def First (f : DeviceFilter) (devices : List Device) (id : Identity) (d : Device) : Prop :=
  ∃ before after, visible f devices = before ++ d :: after ∧ d.identity = id ∧
    ∀ e ∈ before, e.identity ≠ id

def Absent (f : DeviceFilter) (devices : List Device) (id : Identity) : Prop :=
  ∀ x ∈ shown f devices, x.identity ≠ id

theorem resolve_first (found : resolve f devices id = .ok d) : First f devices id d := by
  unfold resolve at found
  split at found
  · rename_i e first
    obtain rfl := Except.ok.inj found
    obtain ⟨named, before, after, split, others⟩ := List.find?_eq_some_iff_append.mp first
    exact ⟨before, after, split, by simpa using named, by simpa using others⟩
  · cases found

theorem First.present (first : First f devices id d) : ¬Absent f devices id := by
  obtain ⟨before, after, split, named, -⟩ := first
  refine fun absent => absent d.describe ?_ named
  exact List.mem_map_of_mem (split ▸ List.mem_append_right _ List.mem_cons_self)

theorem resolve_lost (lost : resolve f devices id = .error e) :
    e = .deviceNotFound id ∧ Absent f devices id := by
  unfold resolve at lost
  split at lost
  · cases lost
  · rename_i none
    refine ⟨(Except.error.inj lost).symm, fun x hx => ?_⟩
    obtain ⟨e, he, rfl⟩ := List.mem_map.mp hx
    have other := List.find?_eq_none.mp none e he
    simpa [Device.describe] using other

/-- What the filter hides is not there. -/
theorem absent_hidden (hidden : ∀ d ∈ devices, d.identity = id → f.allows d = false) :
    Absent f devices id := by
  intro x hx named
  obtain ⟨d, hd, rfl⟩ := List.mem_map.mp hx
  obtain ⟨there, allowed⟩ := List.mem_filter.mp hd
  simp [hidden d there named] at allowed

end UsbBridge.Directory

namespace UsbBridge.Opening

/-- An identity stands for nothing when the host fails to tell its devices or none of them is it. -/
def Lost (id : Identity) (e : SessionError) : Prop :=
  (∃ text, e = .enumeration text) ∨ e = .deviceNotFound id

section
variable {look : Except SessionError Device} {permits : Device → HostAnswer Bool} {id : Identity}
variable {stage : Stage} {result : Result} {ds : List Device} {as : List (HostAnswer Int)}
variable {e : SessionError} {d : Device}

theorem Course.lost (course : Course look permits id (.returned result) ds as)
    (lost : look = .error e) : result = .error e := by
  cases course with
  | missing same => rw [Except.error.inj (same.symm.trans lost)]
  | denied found | returned found => cases found.symm.trans lost

theorem Course.missing_iff (course : Course look permits id (.returned result) ds as) :
    result = .error (.deviceNotFound id) ↔ look = .error (.deviceNotFound id) := by
  cases course with
  | missing lost => simp [lost]
  | denied found => simp [found]
  | returned found granted told => cases told <;> simp [found]

theorem Course.denied_iff (course : Course look permits id (.returned result) ds as)
    (regular : ∀ e, look = .error e → Lost id e) :
    result = .error (.permissionDenied id) ↔ ∃ d, look = .ok d ∧ permits d = .ok false := by
  cases course with
  | missing lost => obtain ⟨_, rfl⟩ | rfl := regular _ lost <;> simp [lost]
  | denied found refused => simp [found, refused]
  | returned found granted told => cases told <;> simp [found, granted]

theorem Course.attempted (course : Course look permits id (.returned result) ds as)
    (found : look = .ok d) (granted : permits d = .ok true) : ds = [d] := by
  cases course with
  | missing lost => cases lost.symm.trans found
  | denied same refused =>
    obtain rfl := Except.ok.inj (same.symm.trans found)
    cases refused.symm.trans granted
  | returned same => rw [Except.ok.inj (same.symm.trans found)]

theorem Course.barred (course : Course look permits id stage ds as)
    (barred : ¬Openable look permits) : ds = [] := by
  cases course with
  | admitted | located | missing | denied => rfl
  | opening found granted | connected found granted | settled found granted =>
    exact (barred ⟨_, found, granted⟩).elim
  | returned found granted => exact (barred ⟨_, found, granted⟩).elim

theorem Course.busy_iff (course : Course look permits id (.returned result) ds as)
    (regular : ∀ e, look = .error e → Lost id e) :
    (∃ i text, result = .error (.openFailed i text true)) ↔ .failed .busy ∈ as := by
  cases course with
  | missing lost => obtain ⟨_, rfl⟩ | rfl := regular _ lost <;> simp
  | denied => simp
  | returned found granted told => rw [told.busy, List.mem_singleton, eq_comm]

end

end UsbBridge.Opening

namespace UsbBridge.Manager

open Opening (Course Openable)
open Directory (First Absent)

variable {σ : Type} {ops : Host σ} {m : Manager σ} {id : Identity} {n : Nat} {d : Device}

-- ---------------------------------------------------------------------------
-- A whole opening
-- ---------------------------------------------------------------------------

def begun (m : Manager σ) (id : Identity) : Manager σ := m.step (.opening (.call id))

theorem begun_eq (free : m.openings.isOpening id = false) :
    m.begun id = { m with openings := m.openings.enroll id } := by
  obtain ⟨busy, -⟩ | ⟨-, called⟩ := Opening.call_cases m.openings id
  · simp [free] at busy
  · rw [begun, step, Opening.step, called]

/-- The host answers what an opening asks first as it did in the beginning, and the opening is left
to its caller. -/
structure Calm (ops : Host σ) (m : Manager σ) (n : Nat) (p : Manager σ × Act σ) : Prop where
  devices : ops.devices p.1.host = ops.devices m.host
  permits : ops.permits p.1.host = ops.permits m.host
  spares : p.2.spares n

/-- Where an opening is, that was begun in one manager and has come to another. -/
structure Journey (ops : Host σ) (m : Manager σ) (id : Identity) (n : Nat) (t : Manager σ)
    (past : List (Manager σ × Act σ)) : Prop where
  filter : t.filter = m.filter
  stage : ∃ stage, t.openings.tasks[n]? = some ⟨id, stage, true⟩ ∧
    Course (m.resolve ops id) (ops.permits m.host) id stage (attempts ops n past)
      (answers ops n past) ∧ stage.left ≤ 5 - freeTurns ops n past
  barred : ¬Openable (m.resolve ops id) (ops.permits m.host) →
    ∀ u ∈ turns n past, Untouched u (u.act ops (.advance n))
  alike : ∀ u ∈ turns n past, ∀ other, ops.Alike other u.host (attempts ops n past) →
    u.act other (.advance n) = u.act ops (.advance n)

theorem filter_act (m : Manager σ) (a : Act σ) : (m.act ops a).filter = m.filter := by
  cases a with
  | advance n =>
    cases h : m.advance? ops n with
    | none => simp [act, h]
    | some m' =>
      obtain ⟨moves, rfl⟩ := advance_reaches ops h
      rw [act, h]
      exact Run.invariant step (P := fun t => t.filter = m.filter) rfl
        (fun t x same => (filter_step t x).trans same) moves
  | other x => exact filter_step m x

theorem turn_cases (n : Nat) (m : Manager σ) (a : Act σ) :
    turn? n (m, a) = none ∨ a = .advance n := by
  cases a with
  | advance k => by_cases h : k = n <;> simp [turn?, h]
  | other x => exact .inl rfl

theorem turns_rest {a : Act σ} (rest : turn? n (m, a) = none) (past : List (Manager σ × Act σ)) :
    turns n (past ++ [(m, a)]) = turns n past := by
  simp [turns, rest]

theorem turns_turn (m : Manager σ) (n : Nat) (past : List (Manager σ × Act σ)) :
    turns n (past ++ [(m, .advance n)]) = turns n past ++ [m] := by
  simp [turns, turn?]

section
variable {u : Manager σ} {past : List (Manager σ × Act σ)} {a : Act σ}

theorem Calm.resolve (calm : Calm ops m n (u, a)) (filter : u.filter = m.filter) :
    u.resolve ops id = m.resolve ops id := by
  rw [Manager.resolve, filter, calm.devices]
  rfl

theorem Calm.sound (calm : Calm ops m n (u, a)) (sound : ops.Answers m.host) :
    ops.Answers u.host := by
  refine ⟨fun text => ?_, fun d => ?_⟩
  · rw [calm.devices]
    exact sound.whole text
  · rw [calm.permits]
    exact sound.decides d

theorem Journey.rest (journey : Journey ops m id n u past) (calm : Calm ops m n (u, a))
    (rest : turn? n (u, a) = none) : Journey ops m id n (u.act ops a) (past ++ [(u, a)]) := by
  obtain ⟨stage, task, course, left⟩ := journey.stage
  refine ⟨(filter_act u a).trans journey.filter, ?_, ?_, ?_⟩
  all_goals simp only [attempts, answers, freeTurns, turns_rest rest]
  · exact ⟨stage, act_spares calm.spares rest task, course, left⟩
  · exact journey.barred
  · exact journey.alike

theorem Journey.turn (journey : Journey ops m id n u past) (sound : ops.Answers m.host)
    (calm : Calm ops m n (u, .advance n)) :
    Journey ops m id n (u.act ops (.advance n)) (past ++ [(u, .advance n)]) := by
  obtain ⟨stage, task, course, left⟩ := journey.stage
  have answered := calm.sound sound
  rw [← calm.resolve journey.filter, ← calm.permits] at course
  obtain ⟨next, turned⟩ := turned task answered course.there
  have attempted : attempts ops n (past ++ [(u, .advance n)]) =
      attempts ops n past ++ (u.asked? ops n).toList := by
    rw [attempts, turns_turn, filterMap_concat, attempts]
  refine ⟨(filter_act u _).trans journey.filter, ⟨next, turned.task task, ?_, ?_⟩, ?_, ?_⟩
  · have further := turned.course course
    rw [calm.resolve journey.filter, calm.permits] at further
    rwa [attempted, answers, turns_turn, filterMap_concat]
  · obtain ⟨still, later⟩ := turned.left
    rw [freeTurns, turns_turn, List.countP_append, List.countP_singleton]
    change stage.left ≤ 5 - (turns n past).countP _ at left
    cases held : ops.isHeld u.host with
    | true => exact Nat.le_trans still left
    | false =>
      have := later held
      simp only [Bool.not_false, if_true]
      omega
  · intro barred v hv
    rw [turns_turn, List.mem_append, List.mem_singleton] at hv
    obtain before | rfl := hv
    · exact journey.barred barred v before
    · rw [← calm.resolve journey.filter, ← calm.permits] at barred
      exact turned.untouched course barred
  · intro v hv other alike
    rw [turns_turn, List.mem_append, List.mem_singleton] at hv
    rw [attempted] at alike
    obtain before | rfl := hv
    · exact journey.alike v before other (alike.mono fun d hd => List.mem_append_left _ hd)
    · exact act_alike task answered course alike

theorem Journey.step (journey : Journey ops m id n u past) (sound : ops.Answers m.host)
    (calm : Calm ops m n (u, a)) : Journey ops m id n (u.act ops a) (past ++ [(u, a)]) := by
  obtain rest | rfl := turn_cases n u a
  · exact journey.rest calm rest
  · exact journey.turn sound calm

/-- An opening that is begun while none of its identity runs makes its journey in every run. -/
theorem journey_run (free : m.openings.isOpening id = false) (sound : ops.Answers m.host)
    (acts : List (Act σ))
    (calm : ∀ p ∈ Run.record (act ops) (m.begun id) acts,
      Calm ops m m.openings.tasks.length p) :
    Journey ops m id m.openings.tasks.length
      (Run.last (act ops) (m.begun id) acts)
      (Run.record (act ops) (m.begun id) acts) := by
  have start : Journey ops m id m.openings.tasks.length (m.begun id) [] := by
    have none : turns m.openings.tasks.length ([] : List (Manager σ × Act σ)) = [] := rfl
    refine ⟨filter_step m _, ⟨.admitted, ?_, .admitted, Nat.le_refl 5⟩, ?_, ?_⟩
    · rw [begun_eq free]
      simp [Opening.State.enroll]
    · simp [none]
    · simp [none]
  refine Run.induction (act ops) (P := fun u past =>
    (∀ p ∈ past, Calm ops m m.openings.tasks.length p) →
      Journey ops m id m.openings.tasks.length u past) [] (fun _ => start) ?_ acts calm
  intro u past a journey calm
  obtain ⟨before, now⟩ := List.forall_mem_append.mp calm
  exact (journey before).step sound (now _ (List.mem_singleton_self _))

end

-- ---------------------------------------------------------------------------
-- The commands
-- ---------------------------------------------------------------------------

theorem list_ok {devices : List Device} (told : ops.devices m.host = .ok devices) :
    m.list ops = .ok (Directory.shown m.filter devices) := by
  rw [list, told, Directory.listing_ok]

theorem resolve_ok {devices : List Device} (told : ops.devices m.host = .ok devices) :
    m.resolve ops id = Directory.resolve m.filter devices id := by
  rw [resolve, told]
  rfl

theorem resolve_failed {e : HostError} (failed : ops.devices m.host = .failed e) :
    m.resolve ops id = .error (.enumeration e.message) := by
  rw [resolve, failed]
  rfl

theorem resolve_regular (sound : ops.Answers m.host) (e : SessionError)
    (lost : m.resolve ops id = .error e) : Opening.Lost id e := by
  cases told : ops.devices m.host with
  | ok devices =>
    rw [resolve_ok told] at lost
    exact .inr (Directory.resolve_lost lost).1
  | failed e =>
    rw [resolve_failed told] at lost
    exact .inl ⟨e.message, (Except.error.inj lost).symm⟩
  | broken text => exact absurd told (sound.whole text)

theorem resolve_found (sound : ops.Answers m.host) (found : m.resolve ops id = .ok d) :
    ∃ devices, ops.devices m.host = .ok devices ∧ First m.filter devices id d := by
  cases told : ops.devices m.host with
  | ok devices =>
    rw [resolve_ok told] at found
    exact ⟨devices, rfl, Directory.resolve_first found⟩
  | failed e =>
    rw [resolve_failed told] at found
    cases found
  | broken text => exact absurd told (sound.whole text)

theorem hasPermission_lost {e : SessionError} (lost : m.resolve ops id = .error e) :
    m.hasPermission ops id = .error e := by
  rw [hasPermission, Directory.permission, show Directory.located _ _ id = _ from lost]
  rfl

theorem hasPermission_found {granted : Bool} (found : m.resolve ops id = .ok d)
    (decided : ops.permits m.host d = .ok granted) : m.hasPermission ops id = .ok granted := by
  rw [hasPermission, Directory.permission, show Directory.located _ _ id = _ from found]
  simp only [bind, Except.bind, decided]

theorem hasPermission_error {e : SessionError} (sound : ops.Answers m.host) :
    m.hasPermission ops id = .error e ↔ m.resolve ops id = .error e := by
  cases look : m.resolve ops id with
  | ok d =>
    obtain ⟨granted, decided⟩ := sound.decides d
    simp [hasPermission_found look decided]
  | error e => simp [hasPermission_lost look]

theorem hasPermission_ok {granted : Bool} (sound : ops.Answers m.host) :
    m.hasPermission ops id = .ok granted ↔
      ∃ d, m.resolve ops id = .ok d ∧ ops.permits m.host d = .ok granted := by
  cases look : m.resolve ops id with
  | ok d =>
    obtain ⟨answer, decided⟩ := sound.decides d
    simp [hasPermission_found look decided, decided]
  | error e => simp [hasPermission_lost look]

theorem resolve_absent {devices : List Device} (told : ops.devices m.host = .ok devices) :
    m.resolve ops id = .error (.deviceNotFound id) ↔ Absent m.filter devices id := by
  rw [resolve_ok told]
  cases look : Directory.resolve m.filter devices id with
  | ok d => simp [(Directory.resolve_first look).present]
  | error e =>
    obtain ⟨rfl, absent⟩ := Directory.resolve_lost look
    simp [absent]

/-- How the result of an opening, and what the opening has asked of the host, agree with the listing
and with the permission of its identity. -/
structure Agreement (ops : Host σ) (m : Manager σ) (id : Identity) (n : Nat)
    (past : List (Manager σ × Act σ)) (result : Opening.Result) : Prop where
  failing : ∀ e, ops.devices m.host = .failed e →
    m.list ops = .error (.enumeration e.message) ∧
      m.hasPermission ops id = .error (.enumeration e.message) ∧
      result = .error (.enumeration e.message)
  missing : ∀ devices, ops.devices m.host = .ok devices → ∃ listed, m.list ops = .ok listed ∧
    (m.hasPermission ops id = .error (.deviceNotFound id) ↔ ∀ x ∈ listed, x.identity ≠ id) ∧
    (result = .error (.deviceNotFound id) ↔ ∀ x ∈ listed, x.identity ≠ id)
  /-- A device that the filter hides may be there all the same. -/
  hidden : ∀ devices, ops.devices m.host = .ok devices →
    (∀ d ∈ devices, d.identity = id → m.filter.allows d = false) →
    m.hasPermission ops id = .error (.deviceNotFound id) ∧ result = .error (.deviceNotFound id)
  denied : result = .error (.permissionDenied id) ↔ m.hasPermission ops id = .ok false
  granted : m.hasPermission ops id = .ok true → ∃ devices d, ops.devices m.host = .ok devices ∧
    First m.filter devices id d ∧ attempts ops n past = [d]
  /-- The host is not asked to open anything, and nothing of it changes. -/
  barred : m.hasPermission ops id ≠ .ok true → attempts ops n past = [] ∧
    ∀ t ∈ turns n past, Untouched t (t.act ops (.advance n))
  /-- It would not matter how the host opens any other device. -/
  alike : ∀ t ∈ turns n past, ∀ other, ops.Alike other t.host (attempts ops n past) →
    t.act other (.advance n) = t.act ops (.advance n)
  busy : (∃ i text, result = .error (.openFailed i text true)) ↔
    .failed .busy ∈ answers ops n past

section
variable {result : Opening.Result}

theorem Journey.agreement {t : Manager σ} {past : List (Manager σ × Act σ)}
    (journey : Journey ops m id n t past) (sound : ops.Answers m.host)
    (course : Course (m.resolve ops id) (ops.permits m.host) id (.returned result)
      (attempts ops n past) (answers ops n past)) : Agreement ops m id n past result := by
  have missing {devices : List Device} (told : ops.devices m.host = .ok devices) :
      (m.hasPermission ops id = .error (.deviceNotFound id) ↔ Absent m.filter devices id) ∧
      (result = .error (.deviceNotFound id) ↔ Absent m.filter devices id) := by
    rw [hasPermission_error sound, course.missing_iff, resolve_absent told]
    exact ⟨.rfl, .rfl⟩
  have regular : ∀ e, m.resolve ops id = .error e → Opening.Lost id e := resolve_regular sound
  exact {
    failing := fun e failed => by
      have lost : m.resolve ops id = _ := resolve_failed failed
      exact ⟨by rw [list, failed]; rfl, hasPermission_lost lost, course.lost lost⟩
    missing := fun devices told => ⟨_, list_ok told, missing told⟩
    hidden := fun devices told hidden =>
      have absent := Directory.absent_hidden hidden
      ⟨(missing told).1.mpr absent, (missing told).2.mpr absent⟩
    denied := by rw [course.denied_iff regular, hasPermission_ok sound]
    granted := fun granted => by
      obtain ⟨d, found, grants⟩ := (hasPermission_ok sound).mp granted
      obtain ⟨devices, told, first⟩ := resolve_found sound found
      exact ⟨devices, d, told, first, course.attempted found grants⟩
    barred := fun barred => by
      rw [ne_eq, hasPermission_ok sound] at barred
      exact ⟨course.barred barred, journey.barred barred⟩
    alike := journey.alike
    busy := course.busy_iff regular }

theorem Journey.finishes {t : Manager σ} {past : List (Manager σ × Act σ)}
    (journey : Journey ops m id n t past) (given : 5 ≤ freeTurns ops n past) :
    ∃ result, (t.openings.collect n).1 = some result := by
  obtain ⟨stage, task, course, left⟩ := journey.stage
  have none : stage.left = 0 := by omega
  cases stage with
  | returned result => exact ⟨result, by simp [Opening.State.collect, task]⟩
  | collected => exact absurd rfl course.there
  | _ => cases none

theorem Journey.agrees {t : Manager σ} {past : List (Manager σ × Act σ)}
    (journey : Journey ops m id n t past) (sound : ops.Answers m.host)
    (taken : (t.openings.collect n).1 = some result) : Agreement ops m id n past result := by
  obtain ⟨stage, task, course, -⟩ := journey.stage
  obtain ⟨_, now, -⟩ := Opening.collect_some (Prod.ext taken rfl)
  cases task.symm.trans now
  exact journey.agreement sound course

end

-- ---------------------------------------------------------------------------
-- Commands in a run
-- ---------------------------------------------------------------------------

/-- Five turns in a row are what an opening gets that is run as far as it gets. -/
theorem runOpening_turns (ops : Host σ) (m : Manager σ) (n : Nat) :
    m.runOpening ops n = Run.last (act ops) m (List.replicate 5 (.advance n)) := by
  suffices go : ∀ k (m : Manager σ),
      runOpening.go ops n k m = Run.last (act ops) m (List.replicate k (.advance n)) from go 5 m
  intro k
  induction k with
  | zero => exact fun _ => rfl
  | succ k ih =>
    intro m
    rw [List.replicate_succ, Run.last_cons, ← ih]
    cases h : m.advance? ops n with
    | some next => simp [runOpening.go, act, h]
    | none => cases k <;> simp [runOpening.go, act, h]

theorem call_turns (ops : Host σ) (free : m.openings.isOpening id = false) :
    m.call ops id = (.ok m.openings.tasks.length,
      Run.last (act ops) (m.begun id)
        (List.replicate 5 (.advance m.openings.tasks.length))) := by
  obtain ⟨busy, -⟩ | ⟨-, called⟩ := Opening.call_cases m.openings id
  · simp [free] at busy
  · rw [← runOpening_turns, begun_eq free, call, called]

theorem filter_run (ops : Host σ) (m : Manager σ) (acts : List (Act σ)) :
    (Run.last (act ops) m acts).filter = m.filter :=
  Run.invariant (act ops) (P := fun t => t.filter = m.filter) rfl
    (fun t a same => (filter_act t a).trans same) acts

/-- How the commands about an identity agree in a run that begins with its being opened. -/
structure SameDevices (ops : Host σ) (m : Manager σ) (id : Identity) (acts : List (Act σ)) :
    Prop where
  /-- A call by itself is such a run. -/
  called : m.call ops id = (.ok m.openings.tasks.length,
    Run.last (act ops) (m.begun id)
      (List.replicate 5 (.advance m.openings.tasks.length)))
  /-- Whenever they are asked meanwhile, the commands say the same. -/
  meanwhile : ∀ p ∈ Run.record (act ops) (m.begun id) acts,
    p.1.list ops = m.list ops ∧ p.1.hasPermission ops id = m.hasPermission ops id
  finishes : 5 ≤ freeTurns ops m.openings.tasks.length
      (Run.record (act ops) (m.begun id) acts) →
    ∃ result, ((Run.last (act ops) (m.begun id) acts).openings.collect
      m.openings.tasks.length).1 = some result
  agrees : ∀ result, ((Run.last (act ops) (m.begun id) acts).openings.collect
      m.openings.tasks.length).1 = some result →
    Agreement ops m id m.openings.tasks.length
      (Run.record (act ops) (m.begun id) acts) result

/-- A listing, a question for permission and an opening of one identity see the same devices, if
nothing that the host says of them changes meanwhile, no call breaks off, and the caller waits. -/
theorem commands_agree {acts : List (Act σ)} (free : m.openings.isOpening id = false)
    (sound : ops.Answers m.host)
    (calm : ∀ p ∈ Run.record (act ops) (m.begun id) acts,
      Calm ops m m.openings.tasks.length p) : SameDevices ops m id acts where
  called := call_turns ops free
  meanwhile p hp := by
    obtain ⟨before, after, -, there⟩ := Run.mem_record _ hp
    have filter : p.1.filter = m.filter := by
      rw [there, filter_run]
      exact filter_step m _
    have same := calm p hp
    rw [list, list, hasPermission, hasPermission, filter, same.devices, same.permits]
    exact ⟨rfl, rfl⟩
  finishes := (journey_run free sound acts calm).finishes
  agrees _ := (journey_run free sound acts calm).agrees sound

-- ---------------------------------------------------------------------------
-- Two modems in one place
-- ---------------------------------------------------------------------------

def twin (address : UInt8) : Device := { modem "1-1" with address }

/-- A keyboard, which is hidden, and two modems are all at one place; the modems may be opened, but
the host has them busy. -/
def twins : Manager ScriptedHost :=
  start { hostWith [{ keyboard with portPath := "1-1" }, twin 4, twin 9] with
    granted := [⟨"1-1"⟩], busy := [⟨"1-1"⟩] } ⟨[], true, false⟩ true (.ofMillis 1000) (.ok ())

/-- One of them is opened, and another device meanwhile, which is not there. -/
def twinsActs : List (Act ScriptedHost) :=
  [.advance 0, .other (.opening (.call ⟨"1-2"⟩)), .advance 0, .advance 1, .other (.relay .work),
    .advance 0, .advance 0, .advance 0]

theorem permits_scripted {h h' : ScriptedHost} (granted : h.granted = h'.granted)
    (fault : h.fault = h'.fault) : h.permits = h'.permits := by
  funext d
  simp only [ScriptedHost.permits, ScriptedHost.unlessBroken, granted, fault]

theorem twins_agree :
    attempts ScriptedHost.ops 0 (Run.record (act ScriptedHost.ops) (twins.begun ⟨"1-1"⟩)
      twinsActs) = [twin 4] ∧
    ((Run.last (act ScriptedHost.ops) (twins.begun ⟨"1-1"⟩) twinsActs).openings.collect 0).1 =
      some (.error (.openFailed ⟨"1-1"⟩ "device or resource busy" true)) ∧
    SameDevices ScriptedHost.ops twins ⟨"1-1"⟩ twinsActs := by
  refine ⟨by decide, rfl, commands_agree rfl ⟨nofun, fun d => ⟨_, rfl⟩⟩ fun p hp => ?_⟩
  have same : ∀ p ∈ Run.record (act ScriptedHost.ops) (twins.begun ⟨"1-1"⟩) twinsActs,
      p.1.host.enumerate = twins.host.enumerate ∧ p.1.host.granted = twins.host.granted ∧
        p.1.host.fault = twins.host.fault := by decide
  have spares : ∀ a ∈ twinsActs, a.spares 0 := by
    simp [twinsActs, Act.spares, Opening.Move.spares]
  have given : p.2 ∈ twinsActs := by
    rw [← Run.moves_record (act ScriptedHost.ops) (twins.begun ⟨"1-1"⟩) twinsActs]
    exact List.mem_map_of_mem hp
  obtain ⟨devices, granted, fault⟩ := same p hp
  exact ⟨devices, permits_scripted granted fault, spares p.2 given⟩

end UsbBridge.Manager
