import UsbBridge.Proofs.Opening.Changes
import UsbBridge.Proofs.Run

/-!
# Every duplicate has one owner

A duplicate belongs to the opening that made it until one caller gets it or, if that caller has
gone, it is closed (`Fate`). Each step keeps it so (`step_holdings`), and no step leaves a result
behind that nobody waits for (`step_awaited`).
-/

namespace UsbBridge.Opening

variable {s s' : State} {id : Identity} {n d c : Nat} {t u : Task} {x : Duplicate}
variable {given given' : List (Nat × Nat)} {callers : List Nat}

def callersOf (given : List (Nat × Nat)) (dup : Nat) : List Nat :=
  (given.filter (·.2 == dup)).map (·.1)

/-- Who has a duplicate, when the callers of some openings got it. -/
inductive Fate (s : State) (d : Nat) (x : Duplicate) (callers : List Nat) : Prop
  | held {t : Task} (owner : x.owner = .opening) (none : callers = [])
      (task : s.tasks[x.opening]? = some t) (has : t.stage.duplicate? = some d)
  | owned (owner : x.owner = .caller) (once : callers = [x.opening])
  | closedByCaller (owner : x.owner = .nobody) (once : callers = [x.opening])
  | closedUnseen {id : Identity} (owner : x.owner = .nobody) (none : callers = [])
      (task : s.tasks[x.opening]? = some ⟨id, .collected, false⟩)

structure Holdings (s : State) (given : List (Nat × Nat)) : Prop where
  made : ∀ (n : Nat) (t : Task) d, s.tasks[n]? = some t → t.stage.duplicate? = some d →
    ∃ x, s.duplicates[d]? = some x ∧ x.opening = n ∧ x.owner = .opening
  fate : ∀ (d : Nat) (x : Duplicate), s.duplicates[d]? = some x → Fate s d x (callersOf given d)
  exist : ∀ p ∈ given, p.2 < s.duplicates.length

theorem holdings_start (f : DeviceFilter) : Holdings (.start f) [] where
  made := by simp [State.start]
  fate := by simp [State.start]
  exist := by simp

-- ---------------------------------------------------------------------------
-- Small changes
-- ---------------------------------------------------------------------------

theorem Fate.exchange (h : Fate s d x callers) (task : s.tasks[n]? = some t)
    (tasks : s'.tasks = s.tasks.set n u) (there : t.stage ≠ .collected)
    (keeps : t.stage.duplicate? = some d → u.stage.duplicate? = some d) :
    Fate s' d x callers := by
  have hn : n < s.tasks.length := (List.getElem?_eq_some_iff.mp task).1
  cases h with
  | @held v owner none hv has =>
    by_cases hx : x.opening = n
    · obtain rfl : t = v := by simpa [hx, task] using hv
      exact .held owner none (by rw [tasks, hx, List.getElem?_set_self hn]) (keeps has)
    · exact .held owner none (by rw [tasks, List.getElem?_set_ne (Ne.symm hx)]; exact hv) has
  | owned owner once => exact .owned owner once
  | closedByCaller owner once => exact .closedByCaller owner once
  | closedUnseen owner none hv =>
    have hx : x.opening ≠ n := fun hx => by simp_all
    exact .closedUnseen owner none (by rw [tasks, List.getElem?_set_ne (Ne.symm hx)]; exact hv)

theorem Holdings.exchange (h : Holdings s given) (task : s.tasks[n]? = some t)
    (tasks : s'.tasks = s.tasks.set n u) (duplicates : s'.duplicates = s.duplicates)
    (there : t.stage ≠ .collected) (same : u.stage.duplicate? = t.stage.duplicate?) :
    Holdings s' given where
  made m v d hm hd := by
    rw [duplicates]
    rw [tasks] at hm
    obtain ⟨rfl, rfl⟩ | ⟨-, hm⟩ := getElem?_set_cases hm
    · exact h.made m t d task (same ▸ hd)
    · exact h.made m v d hm hd
  fate d x hx := by
    rw [duplicates] at hx
    exact (h.fate d x hx).exchange task tasks there fun hd => same ▸ hd
  exist := by rw [duplicates]; exact h.exist

theorem enroll_holdings (h : Holdings s given) : Holdings (s.enroll id) given where
  made n t d hn hd := by
    obtain hn | ⟨-, rfl⟩ := getElem?_concat_cases hn
    · exact h.made n t d hn hd
    · simp [Stage.duplicate?] at hd
  fate d x hx := by
    have later {k : Nat} {t : Task} (ht : s.tasks[k]? = some t) :
        (s.enroll id).tasks[k]? = some t := getElem?_concat ht _
    cases h.fate d x hx with
    | held owner none task has => exact .held owner none (later task) has
    | owned owner once => exact .owned owner once
    | closedByCaller owner once => exact .closedByCaller owner once
    | closedUnseen owner none task => exact .closedUnseen owner none (later task)
  exist := h.exist

theorem Holdings.callersOf_length (h : Holdings s given) :
    callersOf given s.duplicates.length = [] := by
  rw [callersOf, List.map_eq_nil_iff, List.filter_eq_nil_iff]
  intro p hp heq
  have := h.exist p hp
  simp only [beq_iff_eq] at heq
  omega

theorem Holdings.nodup (h : Holdings s given) : (given.map (·.2)).Nodup := by
  rw [List.nodup_iff_count]
  intro d
  have hlen : (given.map (·.2)).count d = (callersOf given d).length := by
    simp [callersOf, List.count, List.countP_eq_length_filter, List.filter_map, Function.comp_def]
  rw [hlen]
  by_cases hd : d ∈ given.map (·.2)
  · obtain ⟨p, hp, rfl⟩ := List.mem_map.mp hd
    cases h.fate p.2 _ (List.getElem?_eq_getElem (h.exist p hp)) <;> simp_all
  · rw [← hlen, List.count_eq_zero.mpr hd]
    omega

theorem copy_holdings (h : Holdings s given)
    (task : s.tasks[n]? = some ⟨id, .connected c handle, awaited⟩) :
    Holdings (s.copy n c) given := by
  have tasks : (s.copy n c).tasks =
      s.tasks.set n ⟨id, .settled c (.ok s.duplicates.length), awaited⟩ := by
    simp [State.copy, State.recount, State.setStage, modify_eq_set task]
  have duplicates : (s.copy n c).duplicates = s.duplicates ++ [⟨c, n, .opening⟩] := rfl
  refine ⟨fun m v d hm hd => ?_, fun d x hx => ?_, fun p hp => ?_⟩
  · rw [duplicates]
    rw [tasks] at hm
    obtain ⟨rfl, rfl⟩ | ⟨-, hm⟩ := getElem?_set_cases hm
    · obtain rfl : s.duplicates.length = d := by simpa [Stage.duplicate?] using hd
      exact ⟨_, List.getElem?_concat_length, rfl, rfl⟩
    · obtain ⟨x, hx, hxm⟩ := h.made m v d hm hd
      exact ⟨x, getElem?_concat hx _, hxm⟩
  · rw [duplicates] at hx
    obtain hx | ⟨rfl, rfl⟩ := getElem?_concat_cases hx
    · exact (h.fate d x hx).exchange task tasks (by simp) (by simp [Stage.duplicate?])
    · exact .held rfl h.callersOf_length
        (by rw [tasks]; exact List.getElem?_set_self (List.getElem?_eq_some_iff.mp task).1) rfl
  · have := h.exist p hp
    simp only [duplicates, List.length_append, List.length_singleton]
    omega

/-- The duplicate of a result that is taken away gets another owner. -/
theorem Holdings.reown (owner : Owner) (h : Holdings s given)
    (task : s.tasks[n]? = some ⟨id, .returned (.ok d), b⟩)
    (tasks : s'.tasks = s.tasks.set n ⟨id, .collected, b⟩)
    (duplicates : s'.duplicates = s.duplicates.modify d fun x => { x with owner })
    (others : ∀ d', d' ≠ d → callersOf given' d' = callersOf given d')
    (fate : ∀ x : Duplicate, x.opening = n → callersOf given d = [] →
      Fate s' d { x with owner } (callersOf given' d))
    (exist : ∀ p ∈ given', p ∈ given ∨ p.2 = d) : Holdings s' given' := by
  obtain ⟨y, hy, hyn, hyo⟩ := h.made n _ d task rfl
  have duplicates : s'.duplicates = s.duplicates.set d { y with owner } := by
    rw [duplicates, modify_eq_set hy]
  have fresh : callersOf given d = [] := by
    cases h.fate d y hy <;> simp_all
  refine ⟨fun m v d' hm hd' => ?_, fun d' x hx => ?_, fun p hp => ?_⟩
  · rw [tasks] at hm
    obtain ⟨rfl, rfl⟩ | ⟨hmn, hm⟩ := getElem?_set_cases hm
    · simp [Stage.duplicate?] at hd'
    · obtain ⟨x, hx, hxm, hxo⟩ := h.made m v d' hm hd'
      have hne : d ≠ d' := by
        rintro rfl
        simp_all
      exact ⟨x, by rw [duplicates, List.getElem?_set_ne hne]; exact hx, hxm, hxo⟩
  · rw [duplicates] at hx
    obtain ⟨rfl, rfl⟩ | ⟨hne, hx⟩ := getElem?_set_cases hx
    · exact fate y hyn fresh
    · rw [others d' hne]
      refine (h.fate d' x hx).exchange task tasks (by simp) fun hd => absurd ?_ hne
      simpa [Stage.duplicate?] using hd.symm
  · rw [duplicates, List.length_set]
    obtain hp | rfl := exist p hp
    · exact h.exist p hp
    · exact (List.getElem?_eq_some_iff.mp hy).1

theorem clean_holdings (h : Holdings s given)
    (task : s.tasks[n]? = some ⟨id, .returned result, false⟩) :
    Holdings ((s.setStage n .collected).discard result) given := by
  have tasks := State.tasks_setStage task .collected
  cases result with
  | error e => exact h.exchange task tasks rfl (by simp) rfl
  | ok d =>
    obtain ⟨y, hy, -⟩ := h.made n _ d task rfl
    have gone : ((s.setStage n .collected).closeDuplicate d).tasks[n]? =
        some ⟨id, .collected, false⟩ := by
      simp [tasks, (List.getElem?_eq_some_iff.mp task).1]
    refine h.reown .nobody task (by simpa [State.discard] using tasks) ?_ (fun _ _ => rfl) ?_
      fun _ => .inl
    · simp [State.discard, State.closeDuplicate, hy, State.recount, State.setOwner]
    · rintro x rfl fresh
      exact .closedUnseen rfl fresh gone

theorem close_holdings (h : Holdings s given) (owned : s.duplicates[d]? = some ⟨c, n, .caller⟩) :
    Holdings (s.closeDuplicate d) given := by
  have duplicates : (s.closeDuplicate d).duplicates = s.duplicates.set d ⟨c, n, .nobody⟩ := by
    simp [State.closeDuplicate_eq owned, State.recount, State.setOwner, modify_eq_set owned]
  refine ⟨fun m v d' hm hd' => ?_, fun d' x hx => ?_, ?_⟩
  · rw [State.tasks_closeDuplicate] at hm
    obtain ⟨x, hx, hxm, hxo⟩ := h.made m v d' hm hd'
    have hne : d ≠ d' := by
      rintro rfl
      simp_all
    exact ⟨x, by rw [duplicates, List.getElem?_set_ne hne]; exact hx, hxm, hxo⟩
  · rw [duplicates] at hx
    obtain ⟨rfl, rfl⟩ | ⟨-, hx⟩ := getElem?_set_cases hx
    · cases h.fate d' _ owned with
      | owned owner once => exact .closedByCaller rfl once
      | held owner | closedByCaller owner | closedUnseen owner => cases owner
    · have tasks : (s.closeDuplicate d).tasks = s.tasks := State.tasks_closeDuplicate s d
      cases h.fate d' x hx with
      | held owner none task has => exact .held owner none (tasks ▸ task) has
      | owned owner once => exact .owned owner once
      | closedByCaller owner once => exact .closedByCaller owner once
      | closedUnseen owner none task => exact .closedUnseen owner none (tasks ▸ task)
  · simpa [duplicates] using h.exist

theorem Change.holdings (c : Change s k s') (h : Holdings s given) : Holdings s' given := by
  cases c with
  | locate task | approve task | connect task =>
    exact h.exchange task (State.tasks_setStage task _) rfl (by simp) rfl
  | refuse task => exact h.exchange task (State.tasks_setStage task _) rfl (by simp) rfl
  | copy task => exact copy_holdings h task
  | @fail n t e task early cause =>
    refine h.exchange task (State.tasks_yield task _) (by simp) ?_ ?_ <;>
      cases hs : t.stage <;> simp_all [Stage.isEarly, Stage.duplicate?]
  | @release awaited n connection result id task =>
    refine h.exchange task (State.tasks_yield (by exact task) _) (by simp) (by simp) ?_
    cases result <;> rfl
  | leave task there => exact h.exchange task (modify_eq_set task) rfl there rfl
  | clean task => exact clean_holdings h task

-- ---------------------------------------------------------------------------
-- Steps
-- ---------------------------------------------------------------------------

def given? (s : State) : Move → Option (Nat × Nat)
  | .collect n =>
    match (s.collect n).1 with
    | some (.ok d) => some (n, d)
    | _ => none
  | _ => none

theorem handOver_holdings (h : Holdings s given)
    (task : s.tasks[n]? = some ⟨id, .returned (.ok d), true⟩) :
    Holdings (s.handOver n (.ok d)) (given ++ [(n, d)]) := by
  have tasks := State.tasks_setStage task .collected
  refine h.reown .caller task tasks rfl (fun d' hne => ?_) ?_ fun p hp => ?_
  · simp [callersOf, Ne.symm hne]
  · rintro x rfl fresh
    exact .owned rfl (by simpa [callersOf] using fresh)
  · rcases List.mem_append.mp hp with hp | hp
    · exact .inl hp
    · exact .inr (by rw [List.mem_singleton.mp hp])

theorem collect_issued (h : Holdings s given) (hc : (s.collect n).1 = some (.ok d)) :
    ∃ x, (s.collect n).2.duplicates[d]? = some x ∧ x.opening = n ∧ x.owner = .caller := by
  obtain hnone | ⟨id, result, task, htaken⟩ := collect_cases s n
  · simp [hnone] at hc
  · obtain rfl : result = .ok d := by simpa [htaken] using hc
    obtain ⟨x, hx, hxn, -⟩ := h.made n _ d task rfl
    refine ⟨{ x with owner := .caller }, ?_, hxn, rfl⟩
    rw [htaken]
    exact List.getElem?_modify_eq .. |>.trans (by simp [State.setStage, hx])

theorem step_holdings (s : State) (m : Move) (h : Holdings s given) :
    Holdings (step s m) (given ++ (given? s m).toList) := by
  by_cases hcollect : ∃ n, m = .collect n
  · obtain ⟨n, rfl⟩ := hcollect
    obtain hc | ⟨id, result, task, hc⟩ := collect_cases s n
    · simpa [step, given?, hc] using h
    · cases result with
      | ok d => simpa [step, given?, hc] using handOver_holdings h task
      | error e =>
        have : Holdings (s.handOver n (.error e)) given :=
          h.exchange task (State.tasks_setStage task .collected) rfl (by simp) rfl
        simpa [step, given?, hc] using this
  · have hnone : given? s m = none := by
      cases m <;> first | rfl | exact absurd ⟨_, rfl⟩ hcollect
    simp only [hnone, Option.toList_none, List.append_nil]
    exact step_keeps (P := (Holdings · given)) (fun _ _ => enroll_holdings) Change.holdings
      (fun hm => absurd ⟨_, hm⟩ hcollect) (fun _ owned h => close_holdings h owned) h

theorem getElem?_setOwner_ne (s : State) (owner : Owner) (hne : c ≠ d) :
    (s.setOwner c owner).duplicates[d]? = s.duplicates[d]? :=
  List.getElem?_modify_ne _ _ hne

theorem getElem?_closeDuplicate_ne (s : State) (hne : c ≠ d) :
    (s.closeDuplicate c).duplicates[d]? = s.duplicates[d]? := by
  unfold State.closeDuplicate
  split
  · rfl
  · exact getElem?_setOwner_ne s .nobody hne

/-- No duplicate that was handed over or closed is one that an opening is answerable for. -/
theorem Holdings.ne_made (h : Holdings s given) (task : s.tasks[n]? = some t)
    (has : t.stage.duplicate? = some c) (there : s.duplicates[d]? = some x)
    (issued : x.owner ≠ .opening) : c ≠ d := by
  rintro rfl
  obtain ⟨y, hy, -, owner⟩ := h.made n t c task has
  simp_all

theorem Change.keeps_issued (c : Change s k s') (h : Holdings s given)
    (there : s.duplicates[d]? = some x) (issued : x.owner ≠ .opening) :
    s'.duplicates[d]? = some x := by
  cases c with
  | locate | approve | connect | refuse | leave => exact there
  | fail | release => simpa using there
  | copy => exact getElem?_concat there _
  | @clean n result id task =>
    cases result with
    | error e => exact there
    | ok c =>
      rw [State.discard, getElem?_closeDuplicate_ne _ (h.ne_made task rfl there issued)]
      exact there

/-- What its opening is no longer answerable for stays as it is, until the caller that has got it
closes it. -/
theorem step_keeps_issued (h : Holdings s given) (there : s.duplicates[d]? = some x)
    (issued : x.owner ≠ .opening) {m : Move} (hm : x.owner = .caller → m ≠ .close d) :
    (step s m).duplicates[d]? = some x := by
  have hs := step_cases s m
  generalize step s m = s' at hs ⊢
  cases hs with
  | enroll => exact there
  | turn turn =>
    exact (turn.keeps (P := fun s => Holdings s given ∧ s.duplicates[d]? = some x)
      (fun c h => ⟨c.holdings h.1, c.keeps_issued h.1 h.2 issued⟩) ⟨h, there⟩).2
  | @handOver n id result task =>
    cases result with
    | error e => exact there
    | ok c =>
      rw [State.handOver, getElem?_setOwner_ne _ _ (h.ne_made task rfl there issued)]
      exact there
  | @close c connection n closed =>
    have hne : c ≠ d := by
      rintro rfl
      obtain rfl := Option.some.inj (closed.symm.trans there)
      exact hm rfl rfl
    rw [getElem?_closeDuplicate_ne s hne]
    exact there

-- ---------------------------------------------------------------------------
-- Results wait for someone
-- ---------------------------------------------------------------------------

/-- Whoever has returned is waited for, but for one opening perhaps. -/
def State.AwaitedBut (s : State) (K : Nat → Prop) : Prop :=
  ∀ (n : Nat) (t : Task) r, s.tasks[n]? = some t → t.stage = .returned r → t.awaited = false → K n

def State.Awaited (s : State) : Prop := s.AwaitedBut fun _ => False

theorem State.Awaited.set (h : s.Awaited) (tasks : s'.tasks = s.tasks.set n u) :
    s'.AwaitedBut fun m => m = n ∧ ∃ r, u.stage = .returned r := by
  intro m v r hm hr hv
  rw [tasks] at hm
  obtain ⟨rfl, rfl⟩ | ⟨-, hm⟩ := getElem?_set_cases hm
  · exact ⟨rfl, r, hr⟩
  · exact (h m v r hm hr hv).elim

theorem State.AwaitedBut.mono (h : s.AwaitedBut K) (hK : ∀ n, K n → L n) : s.AwaitedBut L :=
  fun n t r hn hr ht => hK n (h n t r hn hr ht)

theorem Change.awaitedBut (c : Change s k s') (h : s.Awaited) : s'.AwaitedBut (k = some ·) := by
  have set {n u} (tasks : s'.tasks = s.tasks.set n u) (runs : ∀ r, u.stage ≠ .returned r) :
      s'.AwaitedBut (k = some ·) :=
    (h.set tasks).mono fun _ ⟨_, r, hr⟩ => absurd hr (runs r)
  have named {n u} (tasks : s'.tasks = s.tasks.set n u) : s'.AwaitedBut (some n = some ·) :=
    (h.set tasks).mono fun _ ⟨hm, _⟩ => hm ▸ rfl
  cases c with
  | locate task | approve task | connect task => exact set (State.tasks_setStage task _) nofun
  | refuse task | copy task => exact set (State.tasks_setStage task _) nofun
  | fail task => exact named (State.tasks_yield task _)
  | release task => exact named (State.tasks_yield (by exact task) _)
  | leave task => exact named (modify_eq_set task)
  | @clean n result id task =>
    have tasks : ((s.setStage n .collected).discard result).tasks = _ :=
      (State.tasks_discard _ result).trans (State.tasks_setStage task .collected)
    exact set tasks (by simp)

theorem handOver_awaited (task : s.tasks[n]? = some ⟨id, .returned result, true⟩)
    (h : s.Awaited) : (s.handOver n result).Awaited := by
  have tasks : (s.handOver n result).tasks = s.tasks.set n ⟨id, .collected, true⟩ := by
    cases result <;> exact State.tasks_setStage task .collected
  exact (h.set tasks).mono nofun

theorem enroll_awaited (h : s.Awaited) : (s.enroll id).Awaited := by
  intro m v r hm hr hv
  obtain hm | ⟨-, rfl⟩ := getElem?_concat_cases hm
  · exact h m v r hm hr hv
  · cases hr

theorem Turn.awaited (turn : Turn s s') (h : s.Awaited) : s'.Awaited := by
  cases turn with
  | idle => exact h
  | change c =>
    intro m v r hm hr hv
    exact nomatch c.awaitedBut h m v r hm hr hv
  | @ending n s' c =>
    have hbut := c.awaitedBut h
    obtain ⟨hc, hnone⟩ | ⟨id, result, task, hc⟩ := cleanUp_cases s' n
    · rw [hc]
      intro m v r hm hr hv
      obtain rfl := Option.some.inj (hbut m v r hm hr hv)
      obtain ⟨id, stage, awaited⟩ := v
      subst hr hv
      exact hnone id r hm
    · rw [hc]
      intro m v r hm hr hv
      rw [State.tasks_discard, State.tasks_setStage task] at hm
      obtain ⟨-, rfl⟩ | ⟨hne, hm⟩ := getElem?_set_cases hm
      · cases hr
      · exact hne (Option.some.inj (hbut m v r hm hr hv)).symm

theorem step_awaited (s : State) (m : Move) (h : s.Awaited) : (step s m).Awaited := by
  have hs := step_cases s m
  generalize step s m = s' at hs ⊢
  cases hs with
  | enroll => exact enroll_awaited h
  | turn turn => exact turn.awaited h
  | handOver task => exact handOver_awaited task h
  | close => simpa only [State.Awaited, State.AwaitedBut, State.tasks_closeDuplicate] using h

end UsbBridge.Opening
