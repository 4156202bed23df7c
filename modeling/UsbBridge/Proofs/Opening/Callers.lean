import UsbBridge.Proofs.Opening.Descriptors

/-!
# What openings leave to their callers

A caller waits for an opening until it takes the result or goes away (`State.Awaits`). A connection
is duplicated once at most, so its file tells which duplicate a descriptor was made from
(`Copied`). Where callers close what they get at once no duplicate is ever left to one
(`State.Settled`, `Tended`), and what is closed stays so (`run_keeps_closed`).
-/

namespace UsbBridge.Opening

variable {s s' : State} {id : Identity} {n m d c : Nat} {t u : Task} {x : Duplicate}
variable {given : List (Nat × Nat)}

-- ---------------------------------------------------------------------------
-- Waiting
-- ---------------------------------------------------------------------------

def State.Awaits (s : State) (n : Nat) : Prop :=
  ∃ t, s.tasks[n]? = some t ∧ t.awaited = true ∧ t.stage ≠ .collected

theorem awaits_set (h : s'.Awaits m) (task : s.tasks[n]? = some t)
    (tasks : s'.tasks = s.tasks.set n u) (there : t.stage ≠ .collected)
    (waited : u.awaited = t.awaited) : s.Awaits m := by
  obtain ⟨v, hv, awaited, going⟩ := h
  rw [tasks] at hv
  obtain ⟨rfl, rfl⟩ | ⟨-, hv⟩ := getElem?_set_cases hv
  · exact ⟨t, task, waited ▸ awaited, there⟩
  · exact ⟨v, hv, awaited, going⟩

theorem awaits_set_ne (h : s'.Awaits m) (tasks : s'.tasks = s.tasks.set n u)
    (ends : u.awaited = false ∨ u.stage = .collected) : m ≠ n ∧ s.Awaits m := by
  obtain ⟨v, hv, awaited, going⟩ := h
  rw [tasks] at hv
  obtain ⟨-, rfl⟩ | ⟨hm, hv⟩ := getElem?_set_cases hv
  · obtain left | collected := ends
    · simp [left] at awaited
    · exact absurd collected going
  · exact ⟨hm, v, hv, awaited, going⟩

theorem Change.awaits (c : Change s k s') (h : s'.Awaits m) : s.Awaits m := by
  cases c with
  | locate task | approve task | connect task =>
    exact awaits_set h task (State.tasks_setStage task _) (by simp) rfl
  | refuse task | copy task =>
    exact awaits_set h task (State.tasks_setStage task _) (by simp) rfl
  | @fail n t e task early =>
    refine awaits_set h task (State.tasks_yield task _) ?_ rfl
    cases hs : t.stage <;> simp_all [Stage.isEarly]
  | release task =>
    exact awaits_set h task (State.tasks_yield (by exact task) _) (by simp) rfl
  | leave task => exact (awaits_set_ne h (modify_eq_set task) (.inl rfl)).2
  | @clean n result id task =>
    have tasks : ((s.setStage n .collected).discard result).tasks = _ :=
      (State.tasks_discard _ result).trans (State.tasks_setStage task .collected)
    exact (awaits_set_ne h tasks (.inr rfl)).2

theorem Turn.awaits (turn : Turn s s') (h : s'.Awaits m) : s.Awaits m :=
  turn.keeps (P := fun s' => s'.Awaits m → s.Awaits m)
    (fun change before after => before (change.awaits after)) (fun same => same) h

theorem enroll_awaits (h : (s.enroll id).Awaits m) : m = s.tasks.length ∨ s.Awaits m := by
  obtain ⟨v, hv, awaited, going⟩ := h
  obtain hv | ⟨rfl, -⟩ := getElem?_concat_cases hv
  · exact .inr ⟨v, hv, awaited, going⟩
  · exact .inl rfl

theorem handOver_awaits {result : Result} (h : (s.handOver n result).Awaits m)
    (task : s.tasks[n]? = some ⟨id, .returned result, true⟩) : m ≠ n ∧ s.Awaits m :=
  awaits_set_ne h (State.tasks_handOver task) (.inr rfl)

theorem leave_awaits (h : (s.leave n).Awaits m) : m ≠ n ∧ s.Awaits m := by
  unfold State.leave State.stage? at h
  cases hn : s.tasks[n]? with
  | none =>
    simp only [hn, Option.map_none] at h
    obtain ⟨v, hv, -⟩ := id h
    exact ⟨fun hm => by simp [← hm, hv] at hn, h⟩
  | some t =>
    simp only [hn, Option.map_some] at h
    split at h
    · rename_i absent
      cases absent
    · rename_i collected
      obtain ⟨v, hv, -, going⟩ := id h
      refine ⟨?_, h⟩
      rintro rfl
      simp_all
    · obtain ⟨same, -⟩ | ⟨id, result, task, cleaned⟩ :=
        cleanUp_cases (s.update n ({ · with awaited := false })) n
      · rw [same] at h
        exact awaits_set_ne h (modify_eq_set hn) (.inl rfl)
      · rw [cleaned] at h
        exact awaits_set_ne ((Change.clean task).awaits h) (modify_eq_set hn) (.inl rfl)

-- ---------------------------------------------------------------------------
-- Files
-- ---------------------------------------------------------------------------

def State.files (s : State) : List Nat := s.duplicates.map (·.connection)

@[simp] theorem files_setOwner (s : State) (d : Nat) (owner : Owner) :
    (s.setOwner d owner).files = s.files := by
  refine List.ext_getElem? fun n => ?_
  simp only [State.files, State.setOwner, List.getElem?_map, List.getElem?_modify]
  cases s.duplicates[n]? with
  | none => rfl
  | some x =>
    simp only [Option.map_some]
    split <;> rfl

@[simp] theorem files_closeDuplicate (s : State) (d : Nat) :
    (s.closeDuplicate d).files = s.files := by
  unfold State.closeDuplicate
  split
  · rfl
  · exact files_setOwner s d .nobody

theorem files_of_duplicates (same : s'.duplicates = s.duplicates) : s'.files = s.files :=
  congrArg (List.map _) same

@[simp] theorem files_discard (s : State) (result : Result) :
    (s.discard result).files = s.files := by
  cases result <;> simp [State.discard]

theorem files_handOver (s : State) (n : Nat) (result : Result) :
    (s.handOver n result).files = s.files := by
  cases result with
  | error e => rfl
  | ok d => exact files_setOwner _ d .caller

theorem files_copy (s : State) (n c : Nat) : (s.copy n c).files = s.files ++ [c] := by
  simp [State.copy, State.files, State.recount]

/-- A connection is duplicated once at most, by the opening that has it. -/
structure Copied (s : State) : Prop where
  once : s.files.Nodup
  fresh : ∀ (n : Nat) (t : Task) c handle, s.tasks[n]? = some t → t.stage = .connected c handle →
    c ∉ s.files

theorem copied_start (f : DeviceFilter) : Copied (.start f) where
  once := .nil
  fresh := by simp [State.start]

theorem Copied.exchange (h : Copied s) (tasks : s'.tasks = s.tasks.set n u)
    (files : s'.files = s.files) (dealt : ∀ c handle, u.stage ≠ .connected c handle) :
    Copied s' where
  once := files ▸ h.once
  fresh m v c handle hm hv := by
    rw [tasks] at hm
    obtain ⟨-, rfl⟩ | ⟨-, hm⟩ := getElem?_set_cases hm
    · exact absurd hv (dealt c handle)
    · exact files ▸ h.fresh m v c handle hm hv

theorem enroll_copied (h : Copied s) : Copied (s.enroll id) where
  once := h.once
  fresh m v c handle hm hv := by
    obtain hm | ⟨-, rfl⟩ := getElem?_concat_cases hm
    · exact h.fresh m v c handle hm hv
    · cases hv

theorem connect_copied (h : Copied s) (descriptors : Descriptors s)
    (task : s.tasks[n]? = some ⟨id, .opening device, awaited⟩) (handle : Int) :
    Copied (s.connect n handle) where
  once := h.once
  fresh m v c other hm hv := by
    have tasks : (s.connect n handle).tasks =
        s.tasks.set n ⟨id, .connected s.live.length handle, awaited⟩ :=
      State.tasks_setStage task _
    rw [tasks] at hm
    obtain ⟨-, rfl⟩ | ⟨-, hm⟩ := getElem?_set_cases hm
    · -- A connection that has just come up has not been duplicated.
      cases hv
      intro there
      obtain ⟨x, hx, same⟩ := List.mem_map.mp there
      obtain ⟨d, hd⟩ := List.getElem?_of_mem hx
      exact absurd (descriptors.connection d x hd) (same ▸ Nat.lt_irrefl _)
    · exact h.fresh m v c other hm hv

theorem Connections.only (h : Connections s) (task : s.tasks[n]? = some t)
    (other : s.tasks[m]? = some u) (has : t.has c = true) (hasToo : u.has c = true) : m = n := by
  by_cases hm : m = n
  · exact hm
  · exfalso
    -- Without the one opening there would be none that has it.
    have count := countP_set_add (p := (·.has c)) task ⟨t.identity, .admitted, t.awaited⟩
    have without : 0 < (s.tasks.set n ⟨t.identity, .admitted, t.awaited⟩).countP (·.has c) :=
      List.countP_pos_iff.mpr ⟨u, List.mem_of_getElem? (by rwa [List.getElem?_set_ne (Ne.symm hm)]),
        hasToo⟩
    have one := h.had c
    have : (s.isLive c).toNat ≤ 1 := Bool.toNat_le _
    have lost : (⟨t.identity, .admitted, t.awaited⟩ : Task).has c = false := rfl
    simp only [has, lost, Bool.toNat_true, Bool.toNat_false] at count
    omega

theorem copy_copied (h : Copied s) (connections : Connections s)
    (task : s.tasks[n]? = some ⟨id, .connected c handle, awaited⟩) : Copied (s.copy n c) where
  once := by
    rw [files_copy]
    have new := h.fresh n _ c handle task rfl
    refine List.nodup_append.mpr ⟨h.once, by simp, fun a ha b hb same => ?_⟩
    exact new (List.mem_singleton.mp hb ▸ same ▸ ha)
  fresh m v k handle' hm hv := by
    have tasks : (s.copy n c).tasks =
        s.tasks.set n ⟨id, .settled c (.ok s.duplicates.length), awaited⟩ := by
      simp [State.copy, State.recount, State.setStage, modify_eq_set task]
    rw [tasks] at hm
    obtain ⟨-, rfl⟩ | ⟨hne, hm⟩ := getElem?_set_cases hm
    · cases hv
    · rw [files_copy, List.mem_append, List.mem_singleton, not_or]
      refine ⟨h.fresh m v k handle' hm hv,
        fun same => hne (connections.only task hm (c := c) ?_ ?_)⟩
      · simp [Task.has, Stage.connection?]
      · simp [Task.has, hv, Stage.connection?, same]

theorem Change.copied (change : Change s k s') (connections : Connections s)
    (descriptors : Descriptors s) (h : Copied s) : Copied s' := by
  cases change with
  | locate task | approve task => exact h.exchange (State.tasks_setStage task _) rfl nofun
  | refuse task => exact h.exchange (State.tasks_setStage task _) rfl nofun
  | connect task handle => exact connect_copied h descriptors task handle
  | copy task => exact copy_copied h connections task
  | fail task =>
    exact h.exchange (State.tasks_yield task _) (files_of_duplicates (by simp)) nofun
  | release task =>
    exact h.exchange (State.tasks_yield (by exact task) _) (files_of_duplicates (by simp)) nofun
  | @leave n t task there =>
    exact ⟨h.once, fun m v c handle hm hv => by
      have tasks : (s.update n ({ · with awaited := false })).tasks = _ := modify_eq_set task
      rw [tasks] at hm
      obtain ⟨rfl, rfl⟩ | ⟨-, hm⟩ := getElem?_set_cases hm
      · exact h.fresh m t c handle task hv
      · exact h.fresh m v c handle hm hv⟩
  | @clean n result id task =>
    exact h.exchange (u := ⟨id, .collected, false⟩)
      ((State.tasks_discard _ result).trans (State.tasks_setStage task .collected)) (by simp; rfl)
      nofun

theorem step_copied (s : State) (move : Move) (connections : Connections s)
    (held : Holdings s given) (descriptors : Descriptors s) (h : Copied s) :
    Copied (step s move) := by
  have hs := step_cases s move
  generalize step s move = s' at hs ⊢
  cases hs with
  | enroll => exact enroll_copied h
  | turn turn =>
    exact (turn.keeps
      (P := fun s => Connections s ∧ Holdings s given ∧ Descriptors s ∧ Copied s)
      (fun c h => ⟨c.connections h.1, c.holdings h.2.1, c.descriptors h.1 h.2.1 h.2.2.1,
        c.copied h.1 h.2.2.1 h.2.2.2⟩) ⟨connections, held, descriptors, h⟩).2.2.2
  | @handOver n id result task =>
    exact h.exchange (State.tasks_handOver task) (files_handOver s n result) nofun
  | close =>
    exact ⟨by simpa using h.once, by simpa using h.fresh⟩

theorem Change.files (change : Change s k s') : s.files <+: s'.files := by
  have same (duplicates : s'.duplicates = s.duplicates) : s.files <+: s'.files :=
    files_of_duplicates duplicates ▸ List.prefix_refl _
  cases change with
  | locate | approve | connect | refuse | leave => exact same rfl
  | fail | release => exact same (by simp)
  | copy => exact files_copy .. ▸ List.prefix_append _ _
  | clean =>
    rw [files_discard]
    exact List.prefix_refl _

theorem step_files (s : State) (move : Move) : s.files <+: (step s move).files :=
  step_keeps (P := fun s' => s.files <+: s'.files) (fun _ _ h => h)
    (fun change h => h.trans change.files) (fun _ _ h => by rwa [files_handOver])
    (fun _ _ h => by rwa [files_closeDuplicate]) (List.prefix_refl _)

-- ---------------------------------------------------------------------------
-- Duplicates of callers
-- ---------------------------------------------------------------------------

def State.Settled (s : State) : Prop :=
  ∀ (d : Nat) (x : Duplicate), s.duplicates[d]? = some x → x.owner ≠ .caller

theorem settled_start (f : DeviceFilter) : (State.start f).Settled := by
  simp [State.Settled, State.start]

theorem settled_setOwner (h : s.Settled) {owner : Owner} (other : owner ≠ .caller) (d : Nat) :
    (s.setOwner d owner).Settled := by
  intro n x hx
  rw [State.setOwner, List.getElem?_modify] at hx
  obtain ⟨y, hy, rfl⟩ := Option.map_eq_some_iff.mp hx
  have := h n y hy
  split
  · exact other
  · exact this

theorem settled_of_duplicates (h : s.Settled) (same : s'.duplicates = s.duplicates) :
    s'.Settled := by
  rwa [State.Settled, same]

theorem closeDuplicate_settled (h : s.Settled) (d : Nat) : (s.closeDuplicate d).Settled := by
  unfold State.closeDuplicate
  split
  · exact h
  · have other : Owner.nobody ≠ .caller := by decide
    exact settled_setOwner h other d

theorem Change.settled (change : Change s k s') (h : s.Settled) : s'.Settled := by
  cases change with
  | locate | approve | connect | refuse | leave => exact h
  | fail | release => exact settled_of_duplicates h (by simp)
  | @copy handle awaited n c id task =>
    intro d x hx
    obtain hx | ⟨-, rfl⟩ := getElem?_concat_cases hx
    · exact h d x hx
    · simp
  | @clean n result id task =>
    cases result with
    | error e => exact h
    | ok d => exact closeDuplicate_settled (s := s.setStage n .collected) h d

theorem step_settled {move : Move} (h : s.Settled) (hm : ∀ n, move ≠ .collect n) :
    (step s move).Settled :=
  step_keeps (fun _ _ h => h) Change.settled (fun same _ _ => absurd same (hm _))
    (fun _ _ h => closeDuplicate_settled h _) h

/-- A caller takes a duplicate and closes it: one descriptor less refers to the file. -/
theorem collect_close (h : Accounted s given) (got : s.collect n = (some (.ok d), s')) :
    ∃ x, s.duplicates[d]? = some x ∧ x.owner = .opening ∧ x.opening = n ∧
      (s'.close d).duplicates = (s.setOwner d .nobody).duplicates ∧
      s.isReferenced x.connection = true ∧
      (s'.close d).references = s.references.modify x.connection (· - 1) := by
  obtain ⟨id, task, rfl⟩ := collect_some got
  obtain ⟨x, there, made, owner⟩ := h.holdings.made n _ d task rfl
  have given : (s.handOver n (.ok d)).duplicates[d]? = some { x with owner := .caller } := by
    simp [State.handOver, State.setOwner, there]
  have closed : (s.handOver n (.ok d)).close d = (s.handOver n (.ok d)).closeDuplicate d := by
    simp [State.close, given]
  rw [closed, State.closeDuplicate_eq given]
  refine ⟨x, there, owner, made, ?_,
    h.descriptors.isReferenced_of_owned there (by simp [owner]), rfl⟩
  simp [State.recount, State.handOver, State.setOwner, List.modify_modify_eq, Function.comp_def]

-- ---------------------------------------------------------------------------
-- Handles of a caller that closes them
-- ---------------------------------------------------------------------------

/-- What a caller that waited for an opening makes of it: the duplicate that it got and has closed
by then, and the openings then. -/
inductive Parts (s : State) (task : Nat) : Option Nat → State → Prop
  | refused {e o} (got : s.collect task = (some (.error e), o)) : Parts s task none o
  | leaves (got : (s.collect task).1 = none) : Parts s task none (s.leave task)
  | handed {dup o} (got : s.collect task = (some (.ok dup), o)) :
      Parts s task (some dup) (o.close dup)

/-- All handles have their place, none of them is a caller's, and the openings that somebody waits
for are among these. -/
structure Tended (s : State) (given : List (Nat × Nat)) (waits : Nat → Prop) : Prop where
  accounted : Accounted s given
  copied : Copied s
  settled : s.Settled
  waited : ∀ n, s.Awaits n → waits n

section
variable {waits waits' : Nat → Prop}

theorem tended_start (f : DeviceFilter) : Tended (.start f) [] waits where
  accounted := accounted_start f
  copied := copied_start f
  settled := settled_start f
  waited := by simp [State.Awaits, State.start]

theorem Tended.mono (h : Tended s given waits) (more : ∀ n, waits n → waits' n) :
    Tended s given waits' :=
  { h with waited := fun n hn => more n (h.waited n hn) }

theorem step_accounted_copied (accounted : Accounted s given) (copied : Copied s) (move : Move) :
    Accounted (step s move) (given ++ (given? s move).toList) ∧ Copied (step s move) :=
  ⟨step_accounted s move accounted, step_copied s move accounted.connections accounted.holdings
    accounted.descriptors copied⟩

theorem Tended.step_own (h : Tended s given waits) {move : Move} (own : move.isOwn) :
    Tended (step s move) given waits := by
  obtain ⟨accounted, copied⟩ := step_accounted_copied h.accounted h.copied move
  have nothing : given? s move = none := by cases move <;> first | rfl | cases own
  rw [nothing, Option.toList_none, List.append_nil] at accounted
  refine ⟨accounted, copied, step_settled h.settled fun n hn => ?_, fun n hn => h.waited n ?_⟩
  · subst hn
    cases own
  · have hs := step_cases s move
    generalize step s move = s' at hs hn
    cases hs with
    | turn turn => exact turn.awaits hn
    | enroll | handOver | close => cases own

theorem Tended.own {moves : List Move} (h : Tended s given waits) (own : ∀ m ∈ moves, m.isOwn) :
    Tended (Run.last step s moves) given waits := by
  induction moves generalizing s with
  | nil => exact h
  | cons m ms ih =>
    obtain ⟨first, later⟩ := List.forall_mem_cons.mp own
    exact ih (h.step_own first) later

theorem Tended.enroll (h : Tended s given waits) (id : Identity) :
    Tended (s.enroll id) given fun n => n = s.tasks.length ∨ waits n where
  accounted :=
    { connections := enroll_connections h.accounted.connections
      descriptors := h.accounted.descriptors.same rfl rfl rfl
      holdings := enroll_holdings h.accounted.holdings
      awaited := enroll_awaited h.accounted.awaited }
  copied := enroll_copied h.copied
  settled := h.settled
  waited n hn := (enroll_awaits hn).imp_right (h.waited n)

/-- Whatever a caller makes of its opening, it leaves no duplicate open and waits no more. -/
theorem Tended.parts (h : Tended s given waits) {dup : Option Nat} (ends : Parts s n dup s') :
    ∃ given', given'.map (·.2) = given.map (·.2) ++ dup.toList ∧
      Tended s' given' fun m => m ≠ n ∧ waits m := by
  have collected {result : Result} {o : State} (got : s.collect n = (some result, o)) (m : Nat)
      (hm : o.Awaits m) : m ≠ n ∧ waits m := by
    obtain ⟨id, task, rfl⟩ := collect_some got
    exact (handOver_awaits hm task).imp_right (h.waited m)
  cases ends with
  | leaves =>
    obtain ⟨accounted, copied⟩ := step_accounted_copied h.accounted h.copied (.leave n)
    have settled : (step s (.leave n)).Settled := step_settled h.settled fun _ => Move.noConfusion
    refine ⟨given, by simp, by simpa [given?, step] using accounted, copied, settled,
      fun m hm => ?_⟩
    exact (leave_awaits hm).imp_right (h.waited m)
  | @refused e _ got =>
    obtain ⟨accounted, copied⟩ := step_accounted_copied h.accounted h.copied (.collect n)
    have same : step s (.collect n) = s' := congrArg Prod.snd got
    have nothing : given? s (.collect n) = none := by simp [given?, got]
    rw [same] at accounted copied
    refine ⟨given, by simp, by simpa [nothing] using accounted, copied, ?_, collected got⟩
    obtain ⟨id, task, rfl⟩ := collect_some got
    exact h.settled
  | @handed d o got =>
    obtain ⟨accounted, copied⟩ := step_accounted_copied h.accounted h.copied (.collect n)
    have same : step s (.collect n) = o := congrArg Prod.snd got
    have gets : given? s (.collect n) = some (n, d) := by simp [given?, got]
    rw [same, gets, Option.toList_some] at accounted
    rw [same] at copied
    obtain ⟨accounted', copied'⟩ := step_accounted_copied accounted copied (.close d)
    refine ⟨given ++ [(n, d)], by simp, by simpa [given?, step] using accounted', copied', ?_, ?_⟩
    · obtain ⟨x, -, -, -, duplicates, -⟩ := collect_close h.accounted got
      exact settled_of_duplicates (settled_setOwner h.settled (by decide) d) duplicates
    · intro m hm
      refine collected got m ?_
      obtain same | ⟨connection, k, -, closed⟩ := close_cases o d
      · rwa [same] at hm
      · rw [closed] at hm
        simpa [State.Awaits] using hm

/-- When nobody waits and no opening runs, nothing refers to any connection's file. -/
theorem Tended.quiet (h : Tended s given waits) (nobody : ∀ n, ¬waits n)
    (ended : ∀ t ∈ s.tasks, t.stage.isRunning = false) (c : Nat) : s.isReferenced c = false := by
  by_cases hc : c < s.live.length
  · refine (h.accounted.descriptors.isReferenced hc).mpr ⟨?_, fun d x there _ => ?_⟩
    · have none := h.accounted.connections.idle ended
      rw [State.liveCount, List.count_eq_zero] at none
      cases hlive : s.live[c] with
      | true => exact absurd (hlive ▸ List.getElem_mem hc) none
      | false => rw [List.getElem?_eq_getElem hc, hlive]
    · cases h.accounted.holdings.fate d x there with
      | closedByCaller owner | closedUnseen owner => exact owner
      | owned owner => exact absurd owner (h.settled d x there)
      | @held t owner none task has =>
        -- The opening has returned it, and then somebody waits for it.
        have ends := ended t (List.mem_of_getElem? task)
        exfalso
        cases hs : t.stage with
        | admitted | located | opening | connected | settled => simp [hs, Stage.isRunning] at ends
        | collected => simp [hs, Stage.duplicate?] at has
        | returned r =>
          cases ha : t.awaited with
          | true => exact nobody _ (h.waited _ ⟨t, task, ha, by simp [hs]⟩)
          | false => exact h.accounted.awaited _ t r task hs ha
  · have absent : s.references[c]? = none :=
      List.getElem?_eq_none (h.accounted.descriptors.sizes ▸ Nat.le_of_not_lt hc)
    simp [State.isReferenced, absent]

end

/-- A closed duplicate stays closed. -/
theorem run_keeps_closed (h : Holdings s given) (there : s.duplicates[d]? = some x)
    (closed : x.owner = .nobody) (moves : List Move) :
    (Run.last step s moves).duplicates[d]? = some x := by
  induction moves generalizing s given with
  | nil => exact there
  | cons m ms ih =>
    have stays := step_keeps_issued (m := m) h there (by simp [closed]) (by simp [closed])
    exact ih (step_holdings s m h) stays

theorem run_files (s : State) (moves : List Move) : s.files <+: (Run.last step s moves).files :=
  Run.invariant step (P := fun s' => s.files <+: s'.files) (List.prefix_refl _)
    (fun s' m h => h.trans (step_files s' m)) moves

end UsbBridge.Opening
