import UsbBridge.Proofs.Opening.Progress
import UsbBridge.Proofs.Session.Mirror

/-!
# What an opening asks of the host

Openings take their steps over a host in any order, among whatever else happens to the manager
(`act`). As long as the host keeps its answers and the caller waits, an opening comes along one
course: it has the host open the device that its identity stands for, if that may be opened, and
asks for nothing else (`Course`, `Turned.course`, `act_alike`).
-/

namespace UsbBridge.Opening

variable {s s' : State} {id : Identity} {n k : Nat} {t : Task} {stage : Stage}

/-- A step that the caller or another one takes, and that leaves an opening to its caller. -/
def Move.spares (n : Nat) : Move → Prop
  | .call _ | .close _ => True
  | .leave k | .collect k => n ≠ k
  | _ => False

theorem Takes.others {kind : Stage → Prop} (h : Takes s k kind s') (hn : n ≠ k) :
    s'.tasks[n]? = s.tasks[n]? := by
  cases h with
  | onward h =>
    obtain ⟨t, stage, -, tasks, -⟩ := h
    rw [tasks, List.getElem?_set_ne (Ne.symm hn)]
  | rests => rfl

theorem spares_task {o : Move} (spares : o.spares n) (task : s.tasks[n]? = some t) :
    (step s o).tasks[n]? = some t := by
  cases o with
  | call id =>
    obtain ⟨-, hc⟩ | ⟨-, hc⟩ := call_cases s id
    · rwa [step, hc]
    · rw [step, hc]
      exact getElem?_concat task _
  | leave k => exact (leave_others s spares).trans task
  | collect k =>
    obtain hc | ⟨id, result, taken, hc⟩ := collect_cases s k
    · rwa [step, hc]
    · rw [step, hc, State.tasks_handOver taken, List.getElem?_set_ne (Ne.symm spares), task]
  | close d =>
    obtain hc | ⟨connection, m, -, hc⟩ := close_cases s d
    · rwa [step, hc]
    · rw [step, hc, State.tasks_closeDuplicate, task]
  | _ => exact spares.elim

theorem stage?_of_task (task : s.tasks[n]? = some t) : s.stage? n = some t.stage := by
  simp [State.stage?, task]

section
variable (awaited : s.tasks[n]? = some ⟨id, stage, true⟩)
include awaited

theorem setStage_awaited (next : Stage) :
    (s.setStage n next).tasks[n]? = some ⟨id, next, true⟩ := by
  rw [State.tasks_setStage awaited, List.getElem?_set_self (List.getElem?_eq_some_iff.mp awaited).1]

theorem yield_awaited (result : Result) :
    (s.yield n result).tasks[n]? = some ⟨id, .returned result, true⟩ := by
  rw [State.tasks_yield awaited, List.getElem?_set_self (List.getElem?_eq_some_iff.mp awaited).1]

theorem finish_awaited (result : Result) : s.finish n result = s.yield n result := by
  obtain ⟨same, -⟩ | ⟨_, _, gone, -⟩ := cleanUp_cases (s.yield n result) n
  · exact same
  · cases (yield_awaited awaited result).symm.trans gone

end

/-- What an opening can come to once the host has answered that it opened the device or did not. -/
inductive Told (id : Identity) : HostAnswer Int → Result → Prop
  | opened (handle : Int) (dup : Nat) : Told id (.ok handle) (.ok dup)
  | failed (answer : HostAnswer Int) (text : String) :
    Told id answer (.error (.openFailed id text (answer == .failed .busy)))

theorem opened_told {d : Device} (awaited : s.tasks[n]? = some ⟨id, .opening d, true⟩)
    (answer : HostAnswer Int) :
    (∃ handle, answer = .ok handle ∧ s.opened n answer = s.connect n handle) ∨
      ∃ result, Told id answer result ∧ s.opened n answer = s.yield n result := by
  simp only [State.opened, awaited, finish_awaited awaited]
  cases answer with
  | ok handle => exact .inl ⟨handle, rfl, rfl⟩
  | failed e =>
    have same : (HostAnswer.failed e == (HostAnswer.failed .busy : HostAnswer Int)) =
        (e == .busy) := by
      rw [Bool.eq_iff_iff]
      simp
    exact .inr ⟨_, .failed (.failed e) e.message, by rw [same]⟩
  | broken text => exact .inr ⟨_, .failed (.broken text) _, rfl⟩

theorem Told.busy {answer : HostAnswer Int} {result : Result} (told : Told id answer result) :
    (∃ i text, result = .error (.openFailed i text true)) ↔ answer = .failed .busy := by
  cases told <;> simp

/-- How far an opening has come, which devices it has asked the host to open, and what the host has
answered to that: `look` is what the identity stands for, and `permits` whether a device may be
opened. -/
inductive Course (look : Except SessionError Device) (permits : Device → HostAnswer Bool)
    (id : Identity) : Stage → List Device → List (HostAnswer Int) → Prop
  | admitted : Course look permits id .admitted [] []
  | located {d : Device} (found : look = .ok d) : Course look permits id (.located d) [] []
  | opening {d : Device} (found : look = .ok d) (granted : permits d = .ok true) :
    Course look permits id (.opening d) [d] []
  | connected {d : Device} (found : look = .ok d) (granted : permits d = .ok true)
      (connection : Nat) (handle : Int) :
    Course look permits id (.connected connection handle) [d] [.ok handle]
  | settled {d : Device} {answer : HostAnswer Int} {result : Result} (found : look = .ok d)
      (granted : permits d = .ok true) (connection : Nat) (told : Told id answer result) :
    Course look permits id (.settled connection result) [d] [answer]
  | missing {e : SessionError} (lost : look = .error e) :
    Course look permits id (.returned (.error e)) [] []
  | denied {d : Device} (found : look = .ok d) (refused : permits d = .ok false) :
    Course look permits id (.returned (.error (.permissionDenied id))) [] []
  | returned {d : Device} {answer : HostAnswer Int} {result : Result} (found : look = .ok d)
      (granted : permits d = .ok true) (told : Told id answer result) :
    Course look permits id (.returned result) [d] [answer]

theorem Course.there {look : Except SessionError Device} {permits : Device → HostAnswer Bool}
    {ds : List Device} {as : List (HostAnswer Int)} (course : Course look permits id stage ds as) :
    stage ≠ .collected := by
  rintro rfl
  cases course

def Openable (look : Except SessionError Device) (permits : Device → HostAnswer Bool) : Prop :=
  ∃ d, look = .ok d ∧ permits d = .ok true

end UsbBridge.Opening

namespace UsbBridge.Host

variable {σ : Type} {ops other : Host σ} {h : σ} {ds es : List Device}

/-- No call breaks off: the host tells what devices it has or fails to, and whether a device may be
opened is always told. -/
structure Answers (ops : Host σ) (h : σ) : Prop where
  whole : ∀ text, ops.devices h ≠ .broken text
  decides : ∀ d, ∃ granted, ops.permits h d = .ok granted

/-- Two hosts differ at most in how they open other devices than these. -/
structure Alike (ops other : Host σ) (h : σ) (ds : List Device) : Prop where
  devices : other.devices = ops.devices
  permits : other.permits = ops.permits
  isHeld : other.isHeld = ops.isHeld
  beginOpen : ∀ d ∈ ds, other.beginOpen h d = ops.beginOpen h d
  finishOpen : ∀ d ∈ ds, other.finishOpen h d = ops.finishOpen h d

theorem Alike.mono (alike : ops.Alike other h es) (fewer : ∀ d ∈ ds, d ∈ es) :
    ops.Alike other h ds where
  devices := alike.devices
  permits := alike.permits
  isHeld := alike.isHeld
  beginOpen d hd := alike.beginOpen d (fewer d hd)
  finishOpen d hd := alike.finishOpen d (fewer d hd)

end UsbBridge.Host

namespace UsbBridge.Manager

open Opening (Course Openable Told)

variable {σ : Type} (ops : Host σ)

-- ---------------------------------------------------------------------------
-- Turns
-- ---------------------------------------------------------------------------

/-- What happens to a manager over a host: an opening takes its next step, or something else. -/
inductive Act (σ : Type) where
  | advance (n : Nat)
  | other (x : Move σ)

def act (m : Manager σ) : Act σ → Manager σ
  | .advance n => (m.advance? ops n).getD m
  | .other x => m.step x

/-- Openings go on over the host only, and the caller of this one neither goes away nor takes its
result. -/
def Act.spares (n : Nat) : Act σ → Prop
  | .other (.opening o) => o.spares n
  | _ => True

def asked? (m : Manager σ) (n : Nat) : Option Device :=
  match m.openings.stage? n with
  | some (.located d) => if ops.permits m.host d = .ok true then some d else none
  | _ => none

/-- What the host answers in the next step of an opening to its being asked to open a device: that
this fails at once, or in the end how it went. -/
def answered? (m : Manager σ) (n : Nat) : Option (HostAnswer Int) :=
  match m.openings.stage? n with
  | some (.located d) =>
    if ops.permits m.host d = .ok true then
      match (ops.beginOpen m.host d).1 with
      | .ok () => none
      | .failed e => some (.failed e)
      | .broken text => some (.broken text)
    else none
  | some (.opening d) =>
    if ops.isHeld m.host then none
    else some (ops.finishOpen m.host d m.openings.live.length).1
  | _ => none

def turn? (n : Nat) (p : Manager σ × Act σ) : Option (Manager σ) :=
  match p.2 with
  | .advance k => if k = n then some p.1 else none
  | .other _ => none

def turns (n : Nat) (past : List (Manager σ × Act σ)) : List (Manager σ) :=
  past.filterMap (turn? n)

/-- The devices that an opening has asked the host to open, one for each time. -/
def attempts (n : Nat) (past : List (Manager σ × Act σ)) : List Device :=
  (turns n past).filterMap (·.asked? ops n)

def answers (n : Nat) (past : List (Manager σ × Act σ)) : List (HostAnswer Int) :=
  (turns n past).filterMap (·.answered? ops n)

/-- How often an opening has had its turn while the host kept nobody waiting. -/
def freeTurns (n : Nat) (past : List (Manager σ × Act σ)) : Nat :=
  (turns n past).countP fun m => !ops.isHeld m.host

structure Untouched (m m' : Manager σ) : Prop where
  host : m'.host = m.host
  live : m'.openings.live = m.openings.live
  references : m'.openings.references = m.openings.references
  duplicates : m'.openings.duplicates = m.openings.duplicates

section
variable {ops} {m m' : Manager σ} {id : Identity} {n k : Nat} {t : Opening.Task}
variable {stage : Opening.Stage} {ds : List Device} {as : List (HostAnswer Int)}

theorem advance_others (h : m.advance? ops k = some m') (hn : n ≠ k) :
    m'.openings.tasks[n]? = m.openings.tasks[n]? := by
  have asked (answer : HostAnswer Bool) := (Opening.permitted_takes m.openings k answer).others hn
  have failed (answer : HostAnswer Bool) (broken : HostAnswer Int) :=
    ((Opening.opened_takes (m.openings.permitted k answer) k broken).others hn).trans (asked answer)
  unfold advance? at h
  dsimp only at h
  split at h
  · obtain rfl := Option.some.inj h
    exact (Opening.enumerated_takes ..).others hn
  · split at h
    · split at h <;> obtain rfl := Option.some.inj h
      · exact asked _
      · exact failed _ _
      · exact failed _ _
    · obtain rfl := Option.some.inj h
      exact asked _
  · split at h
    · cases h
    · obtain rfl := Option.some.inj h
      exact (Opening.opened_takes ..).others hn
  · obtain rfl := Option.some.inj h
    exact (Opening.duplicated_takes ..).others hn
  · obtain rfl := Option.some.inj h
    exact (Opening.released_takes ..).others hn
  · cases h

theorem act_spares {a : Act σ} (spares : a.spares n) (other : turn? n (m, a) = none)
    (task : m.openings.tasks[n]? = some t) : (m.act ops a).openings.tasks[n]? = some t := by
  cases a with
  | advance k =>
    have hn : n ≠ k := by
      rintro rfl
      simp [turn?] at other
    cases h : m.advance? ops k with
    | none => simpa [act, h] using task
    | some m' => simpa [act, h, advance_others h hn] using task
  | other x =>
    cases x with
    | opening o => exact Opening.spares_task spares task
    | relay | host | close => exact task

-- ---------------------------------------------------------------------------
-- One turn
-- ---------------------------------------------------------------------------

theorem enumerated_looks {s : Opening.State} {answer : HostAnswer (List Device)}
    (task : s.tasks[n]? = some ⟨id, .admitted, true⟩) (whole : ∀ text, answer ≠ .broken text) :
    s.enumerated n answer =
      match Directory.located s.filter answer id with
      | .ok d => s.setStage n (.located d)
      | .error e => s.finish n (.error e) := by
  cases answer with
  | ok devices =>
    have same : Directory.located s.filter (.ok devices) id =
        Directory.resolve s.filter devices id := rfl
    cases found : Directory.resolve s.filter devices id <;>
      simp [Opening.State.enumerated, task, same, found]
  | failed e => simp [Opening.State.enumerated, task, Directory.located]
  | broken text => exact absurd rfl (whole text)

section
variable {d : Device} (task : m.openings.tasks[n]? = some ⟨id, .located d, true⟩)
include task

theorem act_refused (refused : ops.permits m.host d = .ok false) :
    m.act ops (.advance n) =
      { m with openings := m.openings.yield n (.error (.permissionDenied id)) } := by
  have now : m.openings.stage? n = some (.located d) := Opening.stage?_of_task task
  have ends : m.openings.permitted n (.ok false) =
      m.openings.yield n (.error (.permissionDenied id)) := by
    simp [Opening.State.permitted, task, Opening.finish_awaited task]
  have ended : (m.openings.yield n (.error (.permissionDenied id))).stage? n =
      some (.returned (.error (.permissionDenied id))) :=
    Opening.stage?_of_task (Opening.yield_awaited task _)
  simp only [act, advance?, now, refused, ends, ended, Option.getD_some]

theorem act_granted (granted : ops.permits m.host d = .ok true) :
    m.act ops (.advance n) =
      match ops.beginOpen m.host d with
      | (.ok (), host) => { m with host, openings := m.openings.setStage n (.opening d) }
      | (.failed e, host) =>
        { m with host, openings := (m.openings.setStage n (.opening d)).opened n (.failed e) }
      | (.broken text, host) =>
        { m with
          host
          openings := (m.openings.setStage n (.opening d)).opened n (.broken text) } := by
  have now : m.openings.stage? n = some (.located d) := Opening.stage?_of_task task
  have goes : m.openings.permitted n (.ok true) = m.openings.setStage n (.opening d) := by
    simp [Opening.State.permitted, task]
  have gone : (m.openings.setStage n (.opening d)).stage? n = some (.opening d) :=
    Opening.stage?_of_task (Opening.setStage_awaited task _)
  simp only [act, advance?, now, granted, goes, gone]
  generalize ops.beginOpen m.host d = begun
  obtain ⟨answer, host⟩ := begun
  cases answer <;> rfl

end

/-- All that a turn of an opening can come to whose caller waits: its stage before, the device that
the host is asked to open, what the host answers to that, the manager and the stage after. -/
inductive Turned (ops : Host σ) (m : Manager σ) (n : Nat) (id : Identity) :
    Opening.Stage → Option Device → Option (HostAnswer Int) → Manager σ → Opening.Stage → Prop
  | finds {d : Device} (found : m.resolve ops id = .ok d) :
    Turned ops m n id .admitted none none
      { m with openings := m.openings.setStage n (.located d) } (.located d)
  | misses {e : SessionError} (lost : m.resolve ops id = .error e) :
    Turned ops m n id .admitted none none
      { m with openings := m.openings.yield n (.error e) } (.returned (.error e))
  | denied {d : Device} (refused : ops.permits m.host d = .ok false) :
    Turned ops m n id (.located d) none none
      { m with openings := m.openings.yield n (.error (.permissionDenied id)) }
      (.returned (.error (.permissionDenied id)))
  | begins {d : Device} (granted : ops.permits m.host d = .ok true) (host : σ) :
    Turned ops m n id (.located d) (some d) none
      { m with host, openings := m.openings.setStage n (.opening d) } (.opening d)
  | fails {d : Device} {answer : HostAnswer Int} {result : Opening.Result}
      (granted : ops.permits m.host d = .ok true) (told : Told id answer result) (host : σ) :
    Turned ops m n id (.located d) (some d) (some answer)
      { m with host, openings := (m.openings.setStage n (.opening d)).yield n result }
      (.returned result)
  | held {d : Device} (held : ops.isHeld m.host = true) :
    Turned ops m n id (.opening d) none none m (.opening d)
  | connects {d : Device} (handle : Int) (host : σ) :
    Turned ops m n id (.opening d) none (some (.ok handle))
      { m with host, openings := m.openings.connect n handle }
      (.connected m.openings.live.length handle)
  | ends {d : Device} {answer : HostAnswer Int} {result : Opening.Result}
      (told : Told id answer result) (host : σ) :
    Turned ops m n id (.opening d) none (some answer)
      { m with host, openings := m.openings.yield n result } (.returned result)
  | copies {connection : Nat} {handle : Int} :
    Turned ops m n id (.connected connection handle) none none
      { m with openings := m.openings.copy n connection }
      (.settled connection (.ok m.openings.duplicates.length))
  | refuses {connection : Nat} {handle : Int} {text : String} :
    Turned ops m n id (.connected connection handle) none none
      { m with openings :=
          m.openings.setStage n (.settled connection (.error (.openFailed id text false))) }
      (.settled connection (.error (.openFailed id text false)))
  | releases {connection : Nat} {result : Opening.Result} :
    Turned ops m n id (.settled connection result) none none
      { m with openings := (m.openings.letGo connection).yield n result } (.returned result)
  | rests {result : Opening.Result} :
    Turned ops m n id (.returned result) none none m (.returned result)

section
variable (task : m.openings.tasks[n]? = some ⟨id, stage, true⟩)
include task

theorem turned (sound : ops.Answers m.host) (there : stage ≠ .collected) :
    ∃ next, Turned ops m n id stage (m.asked? ops n) (m.answered? ops n)
      (m.act ops (.advance n)) next := by
  have now : m.openings.stage? n = some stage := Opening.stage?_of_task task
  have ended (result : Opening.Result) := Opening.finish_awaited task result
  cases stage with
  | admitted =>
    have looks : m.openings.enumerated n (ops.devices m.host) =
      match m.resolve ops id with
      | .ok d => m.openings.setStage n (.located d)
      | .error e => m.openings.finish n (.error e) := enumerated_looks task sound.whole
    simp only [act, advance?, asked?, answered?, now, Option.getD_some, looks, ended]
    split
    · rename_i d found
      exact ⟨_, .finds found⟩
    · rename_i e lost
      exact ⟨_, .misses lost⟩
  | located d =>
    obtain ⟨granted, decided⟩ := sound.decides d
    simp only [asked?, answered?, now, decided]
    cases granted with
    | false =>
      rw [act_refused task decided]
      exact ⟨_, .denied decided⟩
    | true =>
      have opening := Opening.setStage_awaited task (.opening d)
      have fails (host : σ) (answer : HostAnswer Int) (other : ∀ handle, answer ≠ .ok handle) :
          ∃ next, Turned ops m n id (.located d) (some d) (some answer)
            { m with host, openings := (m.openings.setStage n (.opening d)).opened n answer }
            next := by
        obtain ⟨handle, ok, -⟩ | ⟨result, told, fails⟩ := Opening.opened_told opening answer
        · exact absurd ok (other handle)
        · rw [fails]
          exact ⟨_, .fails decided told host⟩
      rw [act_granted task decided]
      obtain ⟨answer, host⟩ := ops.beginOpen m.host d
      cases answer with
      | ok => exact ⟨_, .begins decided host⟩
      | failed e => exact fails host (.failed e) (by simp)
      | broken text => exact fails host (.broken text) (by simp)
  | opening d =>
    simp only [asked?, answered?, now]
    cases held : ops.isHeld m.host with
    | true =>
      have still : m.act ops (.advance n) = m := by simp [act, advance?, now, held]
      rw [still]
      exact ⟨_, .held held⟩
    | false =>
      have gone : m.act ops (.advance n) =
          { m with
            host := (ops.finishOpen m.host d m.openings.live.length).2
            openings := m.openings.opened n
              (ops.finishOpen m.host d m.openings.live.length).1 } := by
        simp [act, advance?, now, held]
      rw [gone]
      generalize ops.finishOpen m.host d m.openings.live.length = finished
      obtain ⟨answer, host⟩ := finished
      obtain ⟨handle, rfl, connects⟩ | ⟨result, told, ends⟩ := Opening.opened_told task answer
      · simp only [connects]
        exact ⟨_, .connects handle host⟩
      · simp only [ends]
        exact ⟨_, .ends told host⟩
  | connected connection handle =>
    simp only [act, advance?, asked?, answered?, now, Option.getD_some, Opening.State.duplicated,
      task]
    split
    · exact ⟨_, .refuses⟩
    · split
      · exact ⟨_, .copies⟩
      · exact ⟨_, .refuses⟩
  | settled connection result =>
    have released : m.openings.released n = (m.openings.letGo connection).yield n result := by
      simp only [Opening.State.released, task]
      exact Opening.finish_awaited (s := m.openings.letGo connection) task result
    simp only [act, advance?, asked?, answered?, now, Option.getD_some, released]
    exact ⟨_, .releases⟩
  | returned result =>
    simp only [act, advance?, asked?, answered?, now, Option.getD_none]
    exact ⟨_, .rests⟩
  | collected => exact absurd rfl there

end

/-- How the host opens any other device than the ones that it is asked to plays no part in a
turn. -/
theorem act_alike {other : Host σ} (task : m.openings.tasks[n]? = some ⟨id, stage, true⟩)
    (sound : ops.Answers m.host)
    (course : Course (m.resolve ops id) (ops.permits m.host) id stage ds as)
    (alike : ops.Alike other m.host (ds ++ (m.asked? ops n).toList)) :
    m.act other (.advance n) = m.act ops (.advance n) := by
  have now : m.openings.stage? n = some stage := Opening.stage?_of_task task
  cases course with
  | @located d found =>
    obtain ⟨granted, decided⟩ := sound.decides d
    have same : other.permits m.host d = .ok granted := by rw [alike.permits, decided]
    cases granted with
    | false => rw [act_refused task decided, act_refused task same]
    | true => rw [act_granted task decided, act_granted task same,
        alike.beginOpen d (by simp [asked?, now, decided])]
  | @opening d =>
    simp only [act, advance?, now, alike.isHeld, alike.finishOpen d (by simp)]
  | admitted => simp only [act, advance?, now, alike.devices]
  | _ => simp only [act, advance?, now]

section
variable {asked : Option Device} {answered : Option (HostAnswer Int)} {next : Opening.Stage}

theorem Turned.task (h : Turned ops m n id stage asked answered m' next)
    (task : m.openings.tasks[n]? = some ⟨id, stage, true⟩) :
    m'.openings.tasks[n]? = some ⟨id, next, true⟩ := by
  cases h with
  | finds | begins | refuses => exact Opening.setStage_awaited task _
  | misses | denied | ends => exact Opening.yield_awaited task _
  | fails => exact Opening.yield_awaited (Opening.setStage_awaited task _) _
  | held | rests => exact task
  | connects | copies => exact Opening.setStage_awaited task _
  | releases => exact Opening.yield_awaited (s := m.openings.letGo _) task _

theorem Turned.course (h : Turned ops m n id stage asked answered m' next)
    (course : Course (m.resolve ops id) (ops.permits m.host) id stage ds as) :
    Course (m.resolve ops id) (ops.permits m.host) id next (ds ++ asked.toList)
      (as ++ answered.toList) := by
  cases h with
  | finds found => cases course; exact .located found
  | misses lost => cases course; exact .missing lost
  | denied refused => cases course with | located found => exact .denied found refused
  | begins granted => cases course with | located found => exact .opening found granted
  | fails granted told => cases course with | located found => exact .returned found granted told
  | held => cases course with | opening found granted => exact .opening found granted
  | connects handle =>
    cases course with | opening found granted => exact .connected found granted _ handle
  | ends told => cases course with | opening found granted => exact .returned found granted told
  | copies =>
    cases course with | connected found granted => exact .settled found granted _ (.opened _ _)
  | @refuses _ handle =>
    cases course with
    | connected found granted => exact .settled found granted _ (.failed (.ok handle) _)
  | releases =>
    cases course with | settled found granted _ told => exact .returned found granted told
  | rests => simpa using course

theorem Turned.untouched (h : Turned ops m n id stage asked answered m' next)
    (course : Course (m.resolve ops id) (ops.permits m.host) id stage ds as)
    (barred : ¬Openable (m.resolve ops id) (ops.permits m.host)) : Untouched m m' := by
  have never {d : Device} (found : m.resolve ops id = .ok d)
      (granted : ops.permits m.host d = .ok true) : False := barred ⟨d, found, granted⟩
  cases h with
  | finds | held | rests => exact ⟨rfl, rfl, rfl, rfl⟩
  | misses | denied => exact ⟨rfl, by simp, by simp, by simp⟩
  | begins granted | fails granted =>
    cases course with | located found => exact (never found granted).elim
  | connects | ends =>
    cases course with | opening found granted => exact (never found granted).elim
  | copies | refuses =>
    cases course with | connected found granted => exact (never found granted).elim
  | releases =>
    cases course with | settled found granted => exact (never found granted).elim

theorem Turned.left (h : Turned ops m n id stage asked answered m' next) :
    next.left ≤ stage.left ∧ (ops.isHeld m.host = false → next.left ≤ stage.left - 1) := by
  cases h <;> simp_all [Opening.Stage.left]

end

end

end UsbBridge.Manager
