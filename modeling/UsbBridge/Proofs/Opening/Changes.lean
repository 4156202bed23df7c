import UsbBridge.Proofs.Lists
import UsbBridge.Session.Opening

/-!
# What a step of the openings changes

A caller begins an opening, takes a result or closes a duplicate; or a small change is made, after
which a result that nobody waits for is taken away (`step_cases`): a task goes one stage on, and a
descriptor may come or go with it. Invariants are proved change by change (`step_keeps`); no later
proof opens a step.
-/

namespace UsbBridge.Opening

-- ---------------------------------------------------------------------------
-- What an opening has at a stage
-- ---------------------------------------------------------------------------

/-- The connection of an opening, from the host's opening of the device to its release. -/
def Stage.connection? : Stage → Option Nat
  | .connected connection _ | .settled connection _ => some connection
  | _ => none

/-- The duplicate that an opening is answerable for, running or just returned. -/
def Stage.duplicate? : Stage → Option Nat
  | .settled _ (.ok dup) | .returned (.ok dup) => some dup
  | _ => none

/-- What an opening came to, from when that is known until it is taken away. -/
def Stage.result? : Stage → Option Result
  | .settled _ result | .returned result => some result
  | _ => none

def Stage.device? : Stage → Option Device
  | .located device | .opening device => some device
  | _ => none

def Stage.isEarly : Stage → Bool
  | .admitted | .located _ | .opening _ => true
  | _ => false

namespace State

-- ---------------------------------------------------------------------------
-- What the operations leave alone
-- ---------------------------------------------------------------------------

section
variable (s : State) (n c d : Nat)

@[simp] theorem tasks_update (f : Task → Task) : (s.update n f).tasks = s.tasks.modify n f := rfl
@[simp] theorem inFlight_update (f : Task → Task) : (s.update n f).inFlight = s.inFlight := rfl
@[simp] theorem live_update (f : Task → Task) : (s.update n f).live = s.live := rfl
@[simp] theorem references_update (f : Task → Task) :
    (s.update n f).references = s.references := rfl
@[simp] theorem duplicates_update (f : Task → Task) :
    (s.update n f).duplicates = s.duplicates := rfl

@[simp] theorem inFlight_setStage (stage : Stage) :
    (s.setStage n stage).inFlight = s.inFlight := rfl
@[simp] theorem live_setStage (stage : Stage) : (s.setStage n stage).live = s.live := rfl
@[simp] theorem references_setStage (stage : Stage) :
    (s.setStage n stage).references = s.references := rfl
@[simp] theorem duplicates_setStage (stage : Stage) :
    (s.setStage n stage).duplicates = s.duplicates := rfl

@[simp] theorem tasks_setOwner (o : Owner) : (s.setOwner d o).tasks = s.tasks := rfl
@[simp] theorem inFlight_setOwner (o : Owner) : (s.setOwner d o).inFlight = s.inFlight := rfl
@[simp] theorem live_setOwner (o : Owner) : (s.setOwner d o).live = s.live := rfl
@[simp] theorem references_setOwner (o : Owner) : (s.setOwner d o).references = s.references := rfl

@[simp] theorem tasks_letGo : (s.letGo c).tasks = s.tasks := rfl
@[simp] theorem inFlight_letGo : (s.letGo c).inFlight = s.inFlight := rfl
@[simp] theorem live_letGo : (s.letGo c).live = s.live.set c false := rfl
@[simp] theorem references_letGo :
    (s.letGo c).references = s.references.modify c (· - 1) := rfl
@[simp] theorem duplicates_letGo : (s.letGo c).duplicates = s.duplicates := rfl

@[simp] theorem tasks_closeDuplicate : (s.closeDuplicate d).tasks = s.tasks := by
  unfold closeDuplicate; split <;> rfl

@[simp] theorem inFlight_closeDuplicate : (s.closeDuplicate d).inFlight = s.inFlight := by
  unfold closeDuplicate; split <;> rfl

@[simp] theorem live_closeDuplicate : (s.closeDuplicate d).live = s.live := by
  unfold closeDuplicate; split <;> rfl

@[simp] theorem tasks_discard (r : Result) : (s.discard r).tasks = s.tasks := by
  cases r <;> simp [discard]

@[simp] theorem inFlight_discard (r : Result) : (s.discard r).inFlight = s.inFlight := by
  cases r <;> simp [discard]

@[simp] theorem live_discard (r : Result) : (s.discard r).live = s.live := by
  cases r <;> simp [discard]

end

theorem closeDuplicate_eq {s : State} (h : s.duplicates[d]? = some x) :
    s.closeDuplicate d = (s.setOwner d .nobody).recount x.connection (· - 1) := by
  simp [closeDuplicate, h]

@[simp] theorem live_yield (s : State) (n : Nat) (r : Result) : (s.yield n r).live = s.live := by
  unfold yield; split <;> rfl

@[simp] theorem references_yield (s : State) (n : Nat) (r : Result) :
    (s.yield n r).references = s.references := by
  unfold yield; split <;> rfl

@[simp] theorem duplicates_yield (s : State) (n : Nat) (r : Result) :
    (s.yield n r).duplicates = s.duplicates := by
  unfold yield; split <;> rfl

theorem tasks_setStage {s : State} (h : s.tasks[n]? = some t) (stage : Stage) :
    (s.setStage n stage).tasks = s.tasks.set n { t with stage } := by
  simp [setStage, modify_eq_set h]

theorem tasks_handOver {s : State} {id : Identity} {result : Result}
    (h : s.tasks[n]? = some ⟨id, .returned result, true⟩) :
    (s.handOver n result).tasks = s.tasks.set n ⟨id, .collected, true⟩ := by
  cases result <;> exact tasks_setStage h .collected

@[simp] theorem inFlight_handOver (s : State) (n : Nat) (r : Result) :
    (s.handOver n r).inFlight = s.inFlight := by
  cases r <;> rfl

@[simp] theorem live_handOver (s : State) (n : Nat) (r : Result) :
    (s.handOver n r).live = s.live := by
  cases r <;> rfl

theorem tasks_yield {s : State} (h : s.tasks[n]? = some t) (r : Result) :
    (s.yield n r).tasks = s.tasks.set n { t with stage := .returned r } := by
  simp [yield, h, setStage, modify_eq_set h]

theorem yield_eq {s : State} (h : s.tasks[n]? = some t) (r : Result) :
    s.yield n r =
      { s with inFlight := s.inFlight.erase t.identity }.setStage n (.returned r) := by
  simp [yield, h]

end State

-- ---------------------------------------------------------------------------
-- Changes
-- ---------------------------------------------------------------------------

/-- An error that says something of the device or the host, not of another opening. -/
def Substantial (e : SessionError) : Prop := ∀ id, e ≠ .alreadyOpening id

/-- One small change of the openings there are. It may name an opening whose result could be one
that nobody waits for. -/
inductive Change (s : State) : Option Nat → State → Prop
  | locate {n : Nat} {id : Identity} (task : s.tasks[n]? = some ⟨id, .admitted, awaited⟩)
      (named : device.identity = id) : Change s none (s.setStage n (.located device))
  | approve {n : Nat} {id : Identity} (task : s.tasks[n]? = some ⟨id, .located device, awaited⟩) :
      Change s none (s.setStage n (.opening device))
  | connect {n : Nat} {id : Identity} (task : s.tasks[n]? = some ⟨id, .opening device, awaited⟩)
      (handle : Int) : Change s none (s.connect n handle)
  | refuse {n connection : Nat} {id : Identity}
      (task : s.tasks[n]? = some ⟨id, .connected connection handle, awaited⟩)
      (cause : Substantial e) : Change s none (s.setStage n (.settled connection (.error e)))
  | copy {n connection : Nat} {id : Identity}
      (task : s.tasks[n]? = some ⟨id, .connected connection handle, awaited⟩) :
      Change s none (s.copy n connection)
  | fail {n : Nat} {t : Task} {e : SessionError} (task : s.tasks[n]? = some t)
      (early : t.stage.isEarly = true) (cause : Substantial e) :
      Change s (some n) (s.yield n (.error e))
  | release {n connection : Nat} {result : Result} {id : Identity}
      (task : s.tasks[n]? = some ⟨id, .settled connection result, awaited⟩) :
      Change s (some n) ((s.letGo connection).yield n result)
  | leave {n : Nat} {t : Task} (task : s.tasks[n]? = some t) (there : t.stage ≠ .collected) :
      Change s (some n) (s.update n ({ · with awaited := false }))
  | clean {n : Nat} {result : Result} {id : Identity}
      (task : s.tasks[n]? = some ⟨id, .returned result, false⟩) :
      Change s none ((s.setStage n .collected).discard result)

inductive Turn (s : State) : State → Prop
  | idle : Turn s s
  | change (c : Change s none t) : Turn s t
  | ending (c : Change s (some n) t) : Turn s (t.cleanUp n)

theorem cleanUp_cases (s : State) (n : Nat) :
    (s.cleanUp n = s ∧ ∀ id r, s.tasks[n]? ≠ some ⟨id, .returned r, false⟩) ∨
      ∃ id result, s.tasks[n]? = some ⟨id, .returned result, false⟩ ∧
        s.cleanUp n = (s.setStage n .collected).discard result := by
  unfold State.cleanUp
  split
  · rename_i id result h
    exact .inr ⟨id, result, h, rfl⟩
  · rename_i h
    exact .inl ⟨rfl, fun id r hn => h id r hn⟩

theorem Turn.keeps {P : State → Prop} (change : ∀ {s k t}, Change s k t → P s → P t)
    (turn : Turn s t) (h : P s) : P t := by
  cases turn with
  | idle => exact h
  | change c => exact change c h
  | @ending n t c =>
    obtain ⟨hc, -⟩ | ⟨id, result, task, hc⟩ := cleanUp_cases t n
    · rw [hc]
      exact change c h
    · rw [hc]
      exact change (.clean task) (change c h)

theorem enumerated_turn (s : State) (n : Nat) (answer : HostAnswer (List Device)) :
    Turn s (s.enumerated n answer) := by
  unfold State.enumerated
  split
  · rename_i id awaited h
    have failing {e} (cause : Substantial e) : Turn s (s.finish n (.error e)) :=
      .ending (.fail h rfl cause)
    cases answer with
    | ok devices =>
      simp only [Directory.resolve]
      cases hd : (Directory.visible s.filter devices).find? (·.identity = id) with
      | none => exact failing (by simp [Substantial])
      | some device => exact .change (.locate h (by simpa using List.find?_some hd))
    | failed e => exact failing (by simp [Substantial])
    | broken text => exact failing (by simp [Substantial])
  · exact .idle

theorem permitted_turn (s : State) (n : Nat) (answer : HostAnswer Bool) :
    Turn s (s.permitted n answer) := by
  unfold State.permitted
  split
  · rename_i id device awaited h
    have failing {e} (cause : Substantial e) : Turn s (s.finish n (.error e)) :=
      .ending (.fail h rfl cause)
    cases answer with
    | ok granted =>
      cases granted with
      | true => exact .change (.approve h)
      | false => exact failing (by simp [Substantial])
    | failed e => exact failing (by simp [Substantial])
    | broken text => exact failing (by simp [Substantial])
  · exact .idle

theorem opened_turn (s : State) (n : Nat) (answer : HostAnswer Int) :
    Turn s (s.opened n answer) := by
  unfold State.opened
  split
  · rename_i id device awaited h
    have failing {e} (cause : Substantial e) : Turn s (s.finish n (.error e)) :=
      .ending (.fail h rfl cause)
    cases answer with
    | ok handle => exact .change (.connect h handle)
    | failed e => exact failing (by simp [Substantial])
    | broken text => exact failing (by simp [Substantial])
  · exact .idle

theorem duplicated_turn (s : State) (n : Nat) (answer : Except String Unit) :
    Turn s (s.duplicated n answer) := by
  unfold State.duplicated
  split
  · rename_i id connection handle awaited h
    split
    · exact .change (.refuse h (by simp [Substantial]))
    · cases answer with
      | ok => exact .change (.copy h)
      | error text => exact .change (.refuse h (by simp [Substantial]))
  · exact .idle

theorem interrupted_turn (s : State) (n : Nat) (text : String) :
    Turn s (s.interrupted n text) := by
  unfold State.interrupted
  split
  · rename_i h
    exact .change (.refuse h (by simp [Substantial]))
  · exact .idle

theorem released_turn (s : State) (n : Nat) : Turn s (s.released n) := by
  unfold State.released
  split
  · rename_i h
    exact .ending (.release h)
  · exact .idle

theorem leave_turn (s : State) (n : Nat) : Turn s (s.leave n) := by
  unfold State.leave State.stage?
  cases h : s.tasks[n]? with
  | none => exact .idle
  | some t =>
    simp only [Option.map_some]
    split
    · exact .idle
    · exact .idle
    · rename_i there
      exact .ending (.leave h (by simp_all))

theorem call_cases (s : State) (id : Identity) :
    (s.isOpening id = true ∧ s.call id = (.error (.alreadyOpening id), s)) ∨
      (s.isOpening id = false ∧ s.call id = (.ok s.tasks.length, s.enroll id)) := by
  unfold State.call
  split
  · rename_i h
    exact .inl ⟨h, rfl⟩
  · rename_i h
    exact .inr ⟨by simpa using h, rfl⟩

theorem collect_cases (s : State) (n : Nat) :
    s.collect n = (none, s) ∨ ∃ id result, s.tasks[n]? = some ⟨id, .returned result, true⟩ ∧
      s.collect n = (some result, s.handOver n result) := by
  unfold State.collect
  split
  · rename_i id result h
    exact .inr ⟨id, result, h, rfl⟩
  · exact .inl rfl

theorem collect_some {s s' : State} {result : Result}
    (got : s.collect n = (some result, s')) :
    ∃ id, s.tasks[n]? = some ⟨id, .returned result, true⟩ ∧ s' = s.handOver n result := by
  obtain none | ⟨id, r, task, taken⟩ := collect_cases s n
  · rw [none] at got
    cases got
  · rw [taken] at got
    cases got
    exact ⟨id, task, rfl⟩

theorem close_cases (s : State) (d : Nat) :
    s.close d = s ∨ ∃ connection n, s.duplicates[d]? = some ⟨connection, n, .caller⟩ ∧
      s.close d = s.closeDuplicate d := by
  unfold State.close
  split
  · rename_i connection n h
    exact .inr ⟨connection, n, h, rfl⟩
  · exact .inl rfl

inductive Step (s : State) : Move → State → Prop
  | enroll {id : Identity} (free : s.isOpening id = false) : Step s (.call id) (s.enroll id)
  | turn (turn : Turn s t) : Step s m t
  | handOver {n : Nat} {id : Identity} {result : Result}
      (task : s.tasks[n]? = some ⟨id, .returned result, true⟩) :
      Step s (.collect n) (s.handOver n result)
  | close {d connection n : Nat} (owned : s.duplicates[d]? = some ⟨connection, n, .caller⟩) :
      Step s (.close d) (s.closeDuplicate d)

theorem step_cases (s : State) (m : Move) : Step s m (step s m) := by
  cases m with
  | call id =>
    obtain ⟨-, hc⟩ | ⟨free, hc⟩ := call_cases s id
    · exact .turn (by rw [step, hc]; exact .idle)
    · rw [step, hc]
      exact .enroll free
  | collect n =>
    obtain hc | ⟨id, result, task, hc⟩ := collect_cases s n
    · exact .turn (by rw [step, hc]; exact .idle)
    · rw [step, hc]
      exact .handOver task
  | close d =>
    obtain hc | ⟨connection, n, owned, hc⟩ := close_cases s d
    · exact .turn (by rw [step, hc]; exact .idle)
    · rw [step, hc]
      exact .close owned
  | enumerated n answer => exact .turn (enumerated_turn s n answer)
  | permitted n answer => exact .turn (permitted_turn s n answer)
  | opened n answer => exact .turn (opened_turn s n answer)
  | duplicated n answer => exact .turn (duplicated_turn s n answer)
  | interrupted n text => exact .turn (interrupted_turn s n text)
  | released n => exact .turn (released_turn s n)
  | leave n => exact .turn (leave_turn s n)

/-- What the callers' moves and small changes keep, every step keeps. -/
theorem step_keeps {P : State → Prop} {m : Move}
    (enroll : ∀ {s id}, m = .call id → s.isOpening id = false → P s → P (s.enroll id))
    (change : ∀ {s k t}, Change s k t → P s → P t)
    (handOver : ∀ {s n} {id : Identity} {result}, m = .collect n →
      s.tasks[n]? = some ⟨id, .returned result, true⟩ → P s → P (s.handOver n result))
    (close : ∀ {s d connection n}, m = .close d →
      s.duplicates[d]? = some ⟨connection, n, .caller⟩ → P s → P (s.closeDuplicate d))
    {s : State} (h : P s) : P (step s m) := by
  have hs := step_cases s m
  generalize step s m = s' at hs ⊢
  cases hs with
  | enroll free => exact enroll rfl free h
  | turn turn => exact turn.keeps change h
  | handOver task => exact handOver rfl task h
  | close owned => exact close rfl owned h

end UsbBridge.Opening
