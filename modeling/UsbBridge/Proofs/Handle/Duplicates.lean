import UsbBridge.Handle.Duplication

/-!
# Duplicates are made whole or not at all

A sequence of system calls is known by what holds when all of them were let through and when one was
refused (`Triple`). Both strategies come to the same (`strategies_interchangeable`): a new
descriptor of the same open file, marked to be closed on program start, with the rest of the table
as it was; or an error and the whole table as it was, even when the duplicate was there already and
could not be marked. Choosing a strategy leaves the table alone, whatever the try on a descriptor of
its own comes to.
-/

namespace UsbBridge

-- ---------------------------------------------------------------------------
-- Tables
-- ---------------------------------------------------------------------------

namespace DescriptorTable

variable {t : DescriptorTable} {fd : Nat}

theorem entry?_set (t : DescriptorTable) (fd : Nat) (entry : Option DescriptorEntry) (n : Nat) :
    DescriptorTable.entry? (t.set fd entry) n = if n = fd then entry else t.entry? n := by
  unfold DescriptorTable.set entry?
  split
  · rename_i inside
    rw [List.getElem?_set]
    split
    · rename_i same
      subst same
      simp
    · rename_i other
      rw [if_neg (Ne.symm other)]
  · rename_i outside
    -- Numbers between the end and the new entry are free before and after.
    rw [List.append_assoc, List.getElem?_append, List.getElem?_append, List.length_replicate]
    grind

theorem entry?_set_self (t : DescriptorTable) (fd : Nat) (entry : Option DescriptorEntry) :
    DescriptorTable.entry? (t.set fd entry) fd = entry := by
  rw [entry?_set, if_pos rfl]

theorem entry?_set_other {n : Nat} (other : n ≠ fd) (entry : Option DescriptorEntry) :
    DescriptorTable.entry? (t.set fd entry) n = t.entry? n := by
  rw [entry?_set, if_neg other]

/-- The number that a call takes is free. -/
theorem entry?_free (t : DescriptorTable) (least : Nat) : t.entry? (t.free least) = none := by
  unfold free entry?
  rw [← List.getElem?_drop]
  generalize t.drop least = later
  cases found : later[later.findIdx (·.isNone)]? with
  | none => rfl
  | some entry =>
    obtain ⟨inside, rfl⟩ := List.getElem?_eq_some_iff.mp found
    have none := List.findIdx_getElem (w := inside)
    simpa using none

/-- What is put at a free number and closed again leaves nothing behind. -/
theorem entry?_close (free : t.entry? fd = none) (entry : Option DescriptorEntry) :
    DescriptorTable.entry? ((t.set fd entry).set fd none) = t.entry? := by
  funext n
  rw [entry?_set, entry?_set]
  split
  · rename_i same
    rw [same, free]
  · rfl

end DescriptorTable

-- ---------------------------------------------------------------------------
-- System calls
-- ---------------------------------------------------------------------------

namespace Kernel

def run (k : Kernel) (act : Sys α) : Except OsError α × Kernel := (ExceptT.run act).run k

def refusal? (k : Kernel) : Option OsError := k.failures.head?.join

def called (k : Kernel) : Kernel := { k with failures := k.failures.tail }

/-- The next call is refused, and nothing else has happened. -/
def Refused (k : Kernel) (e : OsError) (later : Kernel) : Prop :=
  k.refusal? = some e ∧ later = k.called

/-- The next calls, so many of them, are let through. -/
def Grants (k : Kernel) (calls : Nat) : Prop := ∀ refusal ∈ k.failures.take calls, refusal = none

theorem grants_succ (k : Kernel) (n : Nat) :
    k.Grants (n + 1) ↔ k.refusal? = none ∧ k.called.Grants n := by
  rcases k with ⟨table, _ | ⟨_ | e, rest⟩⟩ <;> simp [Grants, refusal?, called]

theorem grants_one (k : Kernel) : k.Grants 1 ↔ k.refusal? = none := by
  rw [grants_succ]
  simp [Grants]

theorem not_grants {k : Kernel} {e : OsError} (refused : k.refusal? = some e) (n : Nat) :
    ¬k.Grants (n + 1) := by
  intro grants
  rw [((k.grants_succ n).mp grants).1] at refused
  cases refused

theorem refused_succ (k : Kernel) (n : Nat) (e : OsError) :
    some e ∈ k.failures.take (n + 1) ↔
      k.refusal? = some e ∨ some e ∈ k.called.failures.take n := by
  rcases k with ⟨table, _ | ⟨_ | e', rest⟩⟩ <;> simp [refusal?, called, eq_comm]

end Kernel

namespace Sys

section
variable {act : Sys α} {next : α → Sys β} {handle : OsError → Sys α} {k : Kernel}
variable {ok : α → Kernel → Prop} {ok' : β → Kernel → Prop}
variable {bad bad' : OsError → Kernel → Prop}

theorem run_bind (act : Sys α) (next : α → Sys β) (k : Kernel) :
    k.run (act >>= next) = match k.run act with
      | (.ok a, later) => later.run (next a)
      | (.error e, later) => (.error e, later) := by
  unfold Kernel.run
  rw [ExceptT.run_bind, StateT.run_bind]
  rcases (ExceptT.run act).run k with ⟨e | a, later⟩ <;> rfl

theorem run_catch (act : Sys α) (handle : OsError → Sys α) (k : Kernel) :
    k.run (tryCatch act handle) = match k.run act with
      | (.ok a, later) => (.ok a, later)
      | (.error e, later) => later.run (handle e) := by
  unfold Kernel.run
  rw [ExceptT.run_tryCatch, StateT.run_bind]
  rcases (ExceptT.run act).run k with ⟨e | a, later⟩ <;> rfl

/-- From a kernel: what holds of the result and the kernel behind it, and what of an error. -/
def Triple (act : Sys α) (k : Kernel) (ok : α → Kernel → Prop) (bad : OsError → Kernel → Prop) :
    Prop :=
  match k.run act with
  | (.ok a, later) => ok a later
  | (.error e, later) => bad e later

theorem Triple.get {next : Kernel → Sys β} (h : Triple (next k) k ok' bad) :
    Triple (get >>= next) k ok' bad := h

theorem Triple.bind (first : Triple act k ok bad)
    (then_ : ∀ a later, ok a later → Triple (next a) later ok' bad) :
    Triple (act >>= next) k ok' bad := by
  unfold Triple at first ⊢
  rw [run_bind]
  rcases hr : k.run act with ⟨e | a, later⟩
  · rw [hr] at first
    exact first
  · rw [hr] at first
    exact then_ a later first

theorem Triple.catch (first : Triple act k ok bad)
    (then_ : ∀ e later, bad e later → Triple (handle e) later ok bad') :
    Triple (tryCatch act handle) k ok bad' := by
  unfold Triple at first ⊢
  rw [run_catch]
  rcases hr : k.run act with ⟨e | a, later⟩
  · rw [hr] at first
    exact then_ e later first
  · rw [hr] at first
    exact first

theorem Triple.cases (h : Triple act k ok bad) :
    (∃ a later, k.run act = (.ok a, later) ∧ ok a later) ∨
      ∃ e later, k.run act = (.error e, later) ∧ bad e later := by
  unfold Triple at h
  rcases hr : k.run act with ⟨e | a, later⟩
  · rw [hr] at h
    exact .inr ⟨e, later, rfl, h⟩
  · rw [hr] at h
    exact .inl ⟨a, later, rfl, h⟩

theorem Triple.mono {okay : α → Kernel → Prop} (first : Triple act k ok bad)
    (good : ∀ a later, ok a later → okay a later)
    (worse : ∀ e later, bad e later → bad' e later) : Triple act k okay bad' := by
  unfold Triple at first ⊢
  rcases hr : k.run act with ⟨e | a, later⟩
  · rw [hr] at first
    exact worse e later first
  · rw [hr] at first
    exact good a later first

end

section
variable {k : Kernel} {fd : Nat} {entry : DescriptorEntry}

theorem call_triple (k : Kernel) : Triple call k
    (fun _ later => k.refusal? = none ∧ later = k.called) k.Refused := by
  rcases k with ⟨table, _ | ⟨_ | e, rest⟩⟩ <;> exact ⟨rfl, rfl⟩

theorem duplicate_triple (opened : k.table.entry? fd = some entry) (least : Nat) (mark : Bool) :
    Triple (duplicate least fd mark) k
      (fun copy later => k.refusal? = none ∧ k.table.entry? copy = none ∧
        later = ⟨k.table.set copy (some ⟨entry.file, mark⟩), k.failures.tail⟩)
      k.Refused := by
  refine (call_triple k).bind ?_
  rintro ⟨⟩ later ⟨granted, rfl⟩
  have found : k.called.table.entry? fd = some entry := opened
  refine Triple.get ?_
  simp only [found]
  exact ⟨granted, k.table.entry?_free least, rfl⟩

theorem mark_triple (opened : k.table.entry? fd = some entry) :
    Triple (markCloseOnExec fd) k
      (fun _ later => k.refusal? = none ∧
        later = ⟨k.table.set fd (some ⟨entry.file, true⟩), k.failures.tail⟩)
      k.Refused := by
  refine (call_triple k).bind ?_
  rintro ⟨⟩ later ⟨granted, rfl⟩
  have found : k.called.table.entry? fd = some entry := opened
  refine Triple.get ?_
  simp only [found]
  exact ⟨granted, rfl⟩

theorem openNull_triple (file : Nat) (k : Kernel) : Triple (openNull file) k
    (fun fd later => k.refusal? = none ∧ k.table.entry? fd = none ∧
      later = ⟨k.table.set fd (some ⟨file, true⟩), k.failures.tail⟩)
    k.Refused := by
  refine (call_triple k).bind ?_
  rintro ⟨⟩ later ⟨granted, rfl⟩
  exact ⟨granted, k.table.entry?_free 0, rfl⟩

theorem close_triple (fd : Nat) (k : Kernel) (bad : OsError → Kernel → Prop) :
    Triple (close fd) k (fun _ later => later = { k with table := k.table.set fd none }) bad :=
  rfl

end

end Sys

-- ---------------------------------------------------------------------------
-- Strategies
-- ---------------------------------------------------------------------------

namespace Strategy

open Sys

def calls : Strategy → Nat
  | .cloexec => 1
  | .legacy => 2

/-- What duplicating a descriptor with this entry comes to, and what it leaves. -/
inductive Duplicated (s : Strategy) (entry : DescriptorEntry) (k : Kernel) :
    Except OsError Nat → Kernel → Prop
  /-- All calls were let through. -/
  | made {copy later} (granted : k.Grants s.calls) (fresh : k.table.entry? copy = none)
      (marked : later.table.entry? copy = some ⟨entry.file, true⟩)
      (others : ∀ n, n ≠ copy → later.table.entry? n = k.table.entry? n) :
      Duplicated s entry k (.ok copy) later
  /-- One of the calls was refused. -/
  | refused {e later} (because : some e ∈ k.failures.take s.calls)
      (same : later.table.entry? = k.table.entry?) : Duplicated s entry k (.error e) later

structure Chosen (choice : StrategyChoice) (k : Kernel) (s : Strategy) (later : Kernel) : Prop where
  same : later.table.entry? = k.table.entry?
  cloexec : choice = .cloexec → s = .cloexec
  legacy : choice = .legacy → s = .legacy
  /-- One call opens the null device, the other duplicates it. -/
  auto : choice = .auto → (s = .cloexec ↔ k.Grants 2)

section
variable {k : Kernel} {fd : Nat} {entry : DescriptorEntry}

theorem cloexec_duplicated (opened : k.table.entry? fd = some entry) :
    Triple (Strategy.cloexec.duplicate fd) k
      (fun copy => Duplicated .cloexec entry k (.ok copy))
      (fun e => Duplicated .cloexec entry k (.error e)) := by
  refine (duplicate_triple opened 3 true).mono ?_ ?_
  · rintro copy later ⟨granted, fresh, rfl⟩
    refine .made (k.grants_one.mpr granted) fresh ?_ ?_
    · exact DescriptorTable.entry?_set_self _ copy _
    · intro n other
      exact DescriptorTable.entry?_set_other other _
  · rintro e later ⟨refused, rfl⟩
    exact .refused ((k.refused_succ 0 e).mpr (.inl refused)) rfl

/-- The copy is closed when it cannot be marked. -/
theorem legacy_duplicated (opened : k.table.entry? fd = some entry) :
    Triple (Strategy.legacy.duplicate fd) k
      (fun copy => Duplicated .legacy entry k (.ok copy))
      (fun e => Duplicated .legacy entry k (.error e)) := by
  refine Triple.bind ((duplicate_triple opened 0 false).mono (fun _ _ => id) ?_) ?_
  · rintro e later ⟨refused, rfl⟩
    exact .refused ((k.refused_succ 1 e).mpr (.inl refused)) rfl
  rintro copy later ⟨granted, fresh, rfl⟩
  have there := k.table.entry?_set_self copy (some ⟨entry.file, false⟩)
  refine Triple.bind (Triple.catch (mark_triple there) ?_) ?_
  · rintro e later ⟨refused, rfl⟩
    refine (close_triple copy _ _).bind ?_
    rintro ⟨⟩ later rfl
    have second := (Kernel.refused_succ _ 0 e).mpr (.inl refused)
    exact .refused ((k.refused_succ 1 e).mpr (.inr second)) (DescriptorTable.entry?_close fresh _)
  · rintro ⟨⟩ later ⟨again, rfl⟩
    have second := (Kernel.grants_one _).mpr again
    refine .made ((k.grants_succ 1).mpr ⟨granted, second⟩) fresh ?_ ?_
    · exact DescriptorTable.entry?_set_self _ copy _
    · intro n other
      rw [DescriptorTable.entry?_set_other other, DescriptorTable.entry?_set_other other]

theorem tryDuplicate_triple (opened : k.table.entry? fd = some entry) :
    Triple (tryDuplicate fd) k
      (fun works later => later.table.entry? = k.table.entry? ∧ (works = true ↔ k.Grants 1))
      (fun _ _ => False) := by
  refine Triple.catch (?_ : Triple _ k _ k.Refused) ?_
  · refine (duplicate_triple opened 0 true).bind ?_
    rintro copy later ⟨granted, fresh, rfl⟩
    refine (close_triple copy _ _).bind ?_
    rintro ⟨⟩ later rfl
    exact ⟨DescriptorTable.entry?_close fresh _,
      iff_of_true rfl (k.grants_one.mpr granted)⟩
  · rintro e later ⟨refused, rfl⟩
    exact ⟨rfl, iff_of_false Bool.false_ne_true (Kernel.not_grants refused 0)⟩

theorem probe_triple (file : Nat) (k : Kernel) : Triple (probe file) k
    (fun works later => later.table.entry? = k.table.entry? ∧ (works = true ↔ k.Grants 2))
    (fun _ _ => False) := by
  refine Triple.catch (?_ : Triple _ k _ k.Refused) ?_
  · refine (openNull_triple file k).bind ?_
    rintro fd later ⟨granted, fresh, rfl⟩
    have opened := k.table.entry?_set_self fd (some ⟨file, true⟩)
    refine ((tryDuplicate_triple opened).mono (fun _ _ => id) nofun).bind ?_
    rintro works later ⟨same, works_iff⟩
    refine (close_triple fd later _).bind ?_
    rintro ⟨⟩ closed rfl
    refine ⟨?_, ?_⟩
    · funext n
      rw [← DescriptorTable.entry?_close fresh (some ⟨file, true⟩), DescriptorTable.entry?_set,
        DescriptorTable.entry?_set, same]
    · rw [works_iff, k.grants_succ 1]
      exact (and_iff_right granted).symm
  · rintro e later ⟨refused, rfl⟩
    exact ⟨rfl, iff_of_false Bool.false_ne_true (Kernel.not_grants refused 1)⟩

theorem select_triple (file : Nat) (choice : StrategyChoice) (k : Kernel) :
    Triple (select file choice) k (Chosen choice k) (fun _ _ => False) := by
  cases choice with
  | cloexec => exact ⟨rfl, fun _ => rfl, nofun, nofun⟩
  | legacy => exact ⟨rfl, nofun, fun _ => rfl, nofun⟩
  | auto =>
    refine (probe_triple file k).bind ?_
    rintro works later ⟨same, works_iff⟩
    cases works with
    | false =>
      exact ⟨same, nofun, nofun, fun _ => iff_of_false nofun (mt works_iff.mpr Bool.false_ne_true)⟩
    | true => exact ⟨same, nofun, nofun, fun _ => iff_of_true rfl (works_iff.mp rfl)⟩

end

/-- Of an open descriptor and its entry. -/
structure Interchangeable (k : Kernel) (fd : Nat) (entry : DescriptorEntry) : Prop where
  /-- Whichever strategy is used, with calls that fail anywhere. -/
  duplicates : ∀ s : Strategy, ∃ result later,
    k.run (s.duplicate fd) = (result, later) ∧ s.Duplicated entry k result later
  /-- From any kernel, a strategy is chosen without a trace. -/
  choosing : ∀ (before : Kernel) (file : Nat) (choice : StrategyChoice), ∃ s later,
    before.run (select file choice) = (.ok s, later) ∧ Chosen choice before s later

theorem strategies_interchangeable {k : Kernel} {fd : Nat} {entry : DescriptorEntry}
    (opened : k.table.entry? fd = some entry) : Interchangeable k fd entry := by
  refine ⟨fun s => ?_, fun before file choice => ?_⟩
  · have triple : Triple (s.duplicate fd) k (fun copy => s.Duplicated entry k (.ok copy))
        (fun e => s.Duplicated entry k (.error e)) := by
      cases s with
      | cloexec => exact cloexec_duplicated opened
      | legacy => exact legacy_duplicated opened
    rcases triple.cases with ⟨copy, later, ran, duplicated⟩ | ⟨e, later, ran, duplicated⟩
    · exact ⟨_, _, ran, duplicated⟩
    · exact ⟨_, _, ran, duplicated⟩
  · rcases (select_triple file choice before).cases with ⟨s, later, ran, chosen⟩ | ⟨_, _, _, ⟨⟩⟩
    exact ⟨s, later, ran, chosen⟩

/-- The copy of descriptor 4 goes to the gap in front of it, and cannot be marked there. -/
theorem unmarked_interchangeable :
    Interchangeable ⟨[some ⟨0, false⟩, some ⟨1, false⟩, some ⟨1, false⟩, none, some ⟨7, true⟩],
      [none, some .badDescriptor]⟩ 4 ⟨7, true⟩ :=
  strategies_interchangeable rfl

end Strategy

end UsbBridge
