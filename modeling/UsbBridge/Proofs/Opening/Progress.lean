import UsbBridge.Proofs.Opening.Callers

/-!
# Openings go on

A step that an opening takes by itself brings it to a later stage, and it does not lose its caller
(`Onward`). So somebody who waits for an opening of an identity does so until it is this caller who
leaves or takes the result (`step_awaitsFor`). An opening that has not returned can take its next
step, unless the host keeps it waiting while it opens the device (`advance_onward`).
-/

namespace UsbBridge.Opening

variable {s s' : State} {id : Identity} {n k : Nat} {t : Task} {move : Move}

def Stage.left : Stage → Nat
  | .admitted => 5
  | .located _ => 4
  | .opening _ => 3
  | .connected .. => 2
  | .settled .. => 1
  | .returned _ | .collected => 0

/-- An opening has come to a later stage. Its result is taken away only when nobody waits for it. -/
def Onward (s s' : State) (n : Nat) : Prop :=
  ∃ t stage, s.tasks[n]? = some t ∧ s'.tasks = s.tasks.set n { t with stage } ∧
    stage.left < t.stage.left ∧ (t.awaited = true → stage ≠ .collected)

theorem setStage_onward (task : s.tasks[n]? = some t) (stage : Stage)
    (later : stage.left < t.stage.left) (there : stage ≠ .collected) :
    Onward s (s.setStage n stage) n :=
  ⟨t, stage, task, State.tasks_setStage task stage, later, fun _ => there⟩

theorem finish_onward (task : s.tasks[n]? = some t) (runs : 0 < t.stage.left) (result : Result) :
    Onward s (s.finish n result) n := by
  have yielded := State.tasks_yield task result
  have now : (s.yield n result).tasks[n]? = some { t with stage := .returned result } := by
    rw [yielded, List.getElem?_set_self (List.getElem?_eq_some_iff.mp task).1]
  obtain ⟨same, -⟩ | ⟨other, r, left, cleaned⟩ := cleanUp_cases (s.yield n result) n
  · exact ⟨t, .returned result, task, by rw [State.finish, same, yielded], runs,
      fun _ => Stage.noConfusion⟩
  · obtain ⟨rfl, -, unawaited⟩ : t.identity = other ∧ _ ∧ t.awaited = false := by
      simpa using now.symm.trans left
    refine ⟨t, .collected, task, ?_, runs, fun awaited => ?_⟩
    · rw [State.finish, cleaned, State.tasks_discard, State.tasks_setStage left, yielded,
        List.set_set, unawaited]
    · rw [unawaited] at awaited
      cases awaited

-- ---------------------------------------------------------------------------
-- Steps
-- ---------------------------------------------------------------------------

/-- A step that is for openings at one kind of stage brings this one on, or it does not apply. -/
inductive Takes (s : State) (n : Nat) (kind : Stage → Prop) : State → Prop
  | onward {u : State} (h : Onward s u n) : Takes s n kind u
  | rests (other : ∀ t, s.tasks[n]? = some t → ¬kind t.stage) : Takes s n kind s

theorem Takes.applies {kind : Stage → Prop} (h : Takes s n kind s') (task : s.tasks[n]? = some t)
    (stage : kind t.stage) : Onward s s' n := by
  cases h with
  | onward h => exact h
  | rests other => exact absurd stage (other t task)

theorem enumerated_takes (s : State) (n : Nat) (answer : HostAnswer (List Device)) :
    Takes s n (· = .admitted) (s.enumerated n answer) := by
  unfold State.enumerated
  split
  · rename_i id awaited task
    refine .onward ?_
    have fails (e : SessionError) := finish_onward task (Nat.succ_pos _) (.error e)
    split
    · split
      · exact setStage_onward task _ (Nat.lt_succ_self _) Stage.noConfusion
      · exact fails _
    · exact fails _
    · exact fails _
  · rename_i other
    exact .rests fun t task stage => other t.identity t.awaited (stage ▸ task)

theorem permitted_takes (s : State) (n : Nat) (answer : HostAnswer Bool) :
    Takes s n (fun stage => ∃ device, stage = .located device) (s.permitted n answer) := by
  unfold State.permitted
  split
  · rename_i id device awaited task
    refine .onward ?_
    have fails (e : SessionError) := finish_onward task (Nat.succ_pos _) (.error e)
    split
    · exact setStage_onward task _ (Nat.lt_succ_self _) Stage.noConfusion
    · exact fails _
    · exact fails _
    · exact fails _
  · rename_i other
    exact .rests fun t task ⟨device, stage⟩ => other t.identity device t.awaited (stage ▸ task)

theorem opened_takes (s : State) (n : Nat) (answer : HostAnswer Int) :
    Takes s n (fun stage => ∃ device, stage = .opening device) (s.opened n answer) := by
  unfold State.opened
  split
  · rename_i id device awaited task
    refine .onward ?_
    have fails (e : SessionError) := finish_onward task (Nat.succ_pos _) (.error e)
    split
    · exact setStage_onward task (.connected _ _) (Nat.lt_succ_self _) Stage.noConfusion
    · exact fails _
    · exact fails _
  · rename_i other
    exact .rests fun t task ⟨device, stage⟩ => other t.identity device t.awaited (stage ▸ task)

theorem duplicated_takes (s : State) (n : Nat) (answer : Except String Unit) :
    Takes s n (fun stage => ∃ c handle, stage = .connected c handle) (s.duplicated n answer) := by
  unfold State.duplicated
  split
  · rename_i id connection handle awaited task
    refine .onward ?_
    have settles (result : Result) := setStage_onward task (.settled connection result)
      (Nat.lt_succ_self _) Stage.noConfusion
    split
    · exact settles _
    · split
      · exact settles (.ok s.duplicates.length)
      · exact settles _
  · rename_i other
    exact .rests fun t task ⟨c, handle, stage⟩ => other t.identity c handle t.awaited (stage ▸ task)

theorem interrupted_takes (s : State) (n : Nat) (text : String) :
    Takes s n (fun stage => ∃ c handle, stage = .connected c handle) (s.interrupted n text) := by
  unfold State.interrupted
  split
  · rename_i id connection handle awaited task
    exact .onward (setStage_onward task (.settled connection _) (Nat.lt_succ_self _)
      Stage.noConfusion)
  · rename_i other
    exact .rests fun t task ⟨c, handle, stage⟩ => other t.identity c handle t.awaited (stage ▸ task)

theorem released_takes (s : State) (n : Nat) :
    Takes s n (fun stage => ∃ c result, stage = .settled c result) (s.released n) := by
  unfold State.released
  split
  · rename_i id connection result awaited task
    exact .onward (finish_onward (s := s.letGo connection) task (Nat.succ_pos _) result)
  · rename_i other
    exact .rests fun t task ⟨c, result, stage⟩ => other t.identity c result t.awaited (stage ▸ task)

theorem own_onward (s : State) (own : move.isOwn) :
    step s move = s ∨ ∃ n, Onward s (step s move) n := by
  have either {n : Nat} {kind : Stage → Prop} {s' : State} (h : Takes s n kind s') :
      s' = s ∨ ∃ n, Onward s s' n := by
    cases h with
    | onward h => exact .inr ⟨n, h⟩
    | rests => exact .inl rfl
  cases move with
  | call | leave | collect | close => cases own
  | enumerated n answer => exact either (enumerated_takes s n answer)
  | permitted n answer => exact either (permitted_takes s n answer)
  | opened n answer => exact either (opened_takes s n answer)
  | duplicated n answer => exact either (duplicated_takes s n answer)
  | interrupted n text => exact either (interrupted_takes s n text)
  | released n => exact either (released_takes s n)

-- ---------------------------------------------------------------------------
-- Whoever waits
-- ---------------------------------------------------------------------------

def State.AwaitsFor (s : State) (id : Identity) (n : Nat) : Prop :=
  ∃ stage, s.tasks[n]? = some ⟨id, stage, true⟩ ∧ stage ≠ .collected

theorem Onward.now (onward : Onward s s' n) (task : s.tasks[n]? = some t) :
    ∃ stage, s'.tasks[n]? = some { t with stage } ∧ stage.left < t.stage.left := by
  obtain ⟨u, stage, now, tasks, later, -⟩ := onward
  obtain rfl := Option.some.inj (task.symm.trans now)
  exact ⟨stage, by rw [tasks, List.getElem?_set_self (List.getElem?_eq_some_iff.mp task).1], later⟩

theorem Onward.awaitsFor (onward : Onward s s' k) (h : s.AwaitsFor id n) : s'.AwaitsFor id n := by
  obtain ⟨stage, task, there⟩ := h
  obtain ⟨t, later, now, tasks, -, taken⟩ := onward
  rw [State.AwaitsFor, tasks]
  by_cases hn : n = k
  · subst hn
    obtain rfl := Option.some.inj (task.symm.trans now)
    exact ⟨later, List.getElem?_set_self (List.getElem?_eq_some_iff.mp task).1, taken rfl⟩
  · exact ⟨stage, by rwa [List.getElem?_set_ne (Ne.symm hn)], there⟩

theorem own_awaitsFor {moves : List Move} (own : ∀ m ∈ moves, m.isOwn) (h : s.AwaitsFor id n) :
    (Run.last step s moves).AwaitsFor id n := by
  induction moves generalizing s with
  | nil => exact h
  | cons m ms ih =>
    obtain ⟨first, later⟩ := List.forall_mem_cons.mp own
    refine ih later ?_
    obtain same | ⟨k, onward⟩ := own_onward s first
    · rwa [same]
    · exact onward.awaitsFor h

theorem enroll_awaitsFor (h : s.AwaitsFor id n) (other : Identity) :
    (s.enroll other).AwaitsFor id n := by
  obtain ⟨stage, task, there⟩ := h
  exact ⟨stage, getElem?_concat task _, there⟩

theorem leave_others (s : State) (hn : n ≠ k) : (s.leave k).tasks[n]? = s.tasks[n]? := by
  have update : (s.update k ({ · with awaited := false })).tasks[n]? = s.tasks[n]? := by
    simp [Ne.symm hn]
  unfold State.leave
  split
  · rfl
  · rfl
  · obtain ⟨same, -⟩ | ⟨id, result, task, cleaned⟩ :=
      cleanUp_cases (s.update k ({ · with awaited := false })) k
    · rw [same, update]
    · rw [cleaned, State.tasks_discard, State.tasks_setStage task,
        List.getElem?_set_ne (Ne.symm hn), update]

theorem Parts.others {dup : Option Nat} (ends : Parts s k dup s') (hn : n ≠ k) :
    s'.tasks[n]? = s.tasks[n]? := by
  have collected {result : Result} {o : State} (got : s.collect k = (some result, o)) :
      o.tasks[n]? = s.tasks[n]? := by
    obtain ⟨id, task, rfl⟩ := collect_some got
    rw [State.tasks_handOver task, List.getElem?_set_ne (Ne.symm hn)]
  cases ends with
  | leaves => exact leave_others s hn
  | refused got => exact collected got
  | @handed dup o got =>
    obtain same | ⟨connection, m, -, closed⟩ := close_cases o dup
    · rw [same, collected got]
    · rw [closed, State.tasks_closeDuplicate, collected got]

theorem State.AwaitsFor.runs (h : s.AwaitsFor id n) (early : (s.collect n).1 = none) :
    ∃ stage, s.tasks[n]? = some ⟨id, stage, true⟩ ∧ stage.isRunning := by
  obtain ⟨stage, task, there⟩ := h
  refine ⟨stage, task, ?_⟩
  cases stage with
  | admitted | located | opening | connected | settled => rfl
  | returned result => simp [State.collect, task] at early
  | collected => exact absurd rfl there

end UsbBridge.Opening

namespace UsbBridge.Manager

variable {σ : Type} (ops : Host σ) {m : Manager σ} {n : Nat} {t : Opening.Task}

/-- An opening that runs takes its next step, unless the host keeps it waiting. -/
theorem advance_onward (task : m.openings.tasks[n]? = some t) (runs : t.stage.isRunning)
    (going : ∀ device, t.stage = .opening device → ops.isHeld m.host = false) :
    ∃ m', m.advance? ops n = some m' ∧
      ∃ stage, m'.openings.tasks[n]? = some { t with stage } ∧ stage.left < t.stage.left := by
  have stage : m.openings.stage? n = some t.stage := by simp [Opening.State.stage?, task]
  simp only [advance?, stage]
  cases hs : t.stage with
  | returned | collected => simp [hs, Opening.Stage.isRunning] at runs
  | admitted =>
    exact ⟨_, rfl, hs ▸ ((Opening.enumerated_takes ..).applies task hs).now task⟩
  | located device =>
    have asked := ((Opening.permitted_takes m.openings n (ops.permits m.host device)).applies task
      ⟨device, hs⟩).now task
    dsimp only
    generalize m.openings.permitted n (ops.permits m.host device) = asking at asked ⊢
    obtain ⟨stage, there, later⟩ := id asked
    have now : asking.stage? n = some stage := by simp [Opening.State.stage?, there]
    have fails (answer : HostAnswer Int) (opens : ∃ device, stage = .opening device) :=
      ((Opening.opened_takes asking n answer).applies there opens).now there
    simp only [now]
    cases stage with
    | opening other =>
      dsimp only
      split
      · exact ⟨_, rfl, hs ▸ asked⟩
      · obtain ⟨last, gone, further⟩ := fails (.failed _) ⟨other, rfl⟩
        exact ⟨_, rfl, last, gone, hs ▸ Nat.lt_trans further later⟩
      · obtain ⟨last, gone, further⟩ := fails (.broken _) ⟨other, rfl⟩
        exact ⟨_, rfl, last, gone, hs ▸ Nat.lt_trans further later⟩
    | _ => exact ⟨_, rfl, hs ▸ asked⟩
  | opening device =>
    simp only [going device hs]
    exact ⟨_, rfl, hs ▸ ((Opening.opened_takes ..).applies task ⟨device, hs⟩).now task⟩
  | connected connection handle =>
    have onward := (Opening.duplicated_takes m.openings n m.duplication).applies task
      ⟨connection, handle, hs⟩
    exact ⟨_, rfl, hs ▸ onward.now task⟩
  | settled connection result =>
    have onward := (Opening.released_takes m.openings n).applies task ⟨connection, result, hs⟩
    exact ⟨_, rfl, hs ▸ onward.now task⟩

end UsbBridge.Manager
