import UsbBridge.Files.Tree

/-!
# What is written is read

Writing puts a file where there is a file or nothing, so every directory on the way to it stays one,
and the same path leads to it afterwards. Whether a file can be written does not depend on what is
written.
-/

namespace UsbBridge.FileTree

variable {tree after : FileTree} {place here parts : List String} {entry : FileEntry}
variable {path : String} {bytes : List UInt8}

theorem entry?_put_self (inside : place ≠ []) :
    entry? (tree.put place entry) place = some entry := by
  simp [put, entry?, inside]

theorem lookup_filter_other (other : here ≠ place) (entries : List (List String × FileEntry)) :
    (entries.filter fun e => e.1 ≠ place).lookup here = entries.lookup here := by
  induction entries with
  | nil => rfl
  | cons e entries ih =>
    obtain ⟨there, entry⟩ := e
    by_cases gone : there = place
    · have miss : (here == there) = false := beq_eq_false_iff_ne.mpr (gone ▸ other)
      rw [List.filter_cons_of_neg (by simpa using gone), ih, List.lookup_cons, miss]
    · rw [List.filter_cons_of_pos (by simpa using gone), List.lookup_cons, List.lookup_cons, ih]

theorem entry?_put_other (other : here ≠ place) :
    entry? (tree.put place entry) here = tree.entry? here := by
  unfold entry? put
  split
  · rfl
  · rw [List.lookup_cons, beq_eq_false_iff_ne.mpr other]
    exact lookup_filter_other other tree.entries

theorem resolve_put (resolved : tree.resolve here parts = .ok found)
    (noDirectory : tree.entry? place ≠ some .directory) :
    (tree.put place entry).resolve here parts = .ok found := by
  induction parts generalizing here with
  | nil => exact resolved
  | cons part rest ih =>
    cases at_ : tree.entry? here with
    | none => simp [resolve, at_] at resolved
    | some e =>
      cases e with
      | directory =>
        have other : here ≠ place := by
          rintro rfl
          exact noDirectory at_
        simp only [resolve, at_, entry?_put_other other] at resolved ⊢
        split at resolved
        · rename_i up
          rw [if_pos up]
          exact ih resolved
        · rename_i down
          rw [if_neg down]
          exact ih resolved
      | file _ => simp [resolve, at_] at resolved
      | socket _ => simp [resolve, at_] at resolved
      | inbox => simp [resolve, at_] at resolved

/-- A file that was written is at the end of its path, where no directory was, and any other bytes
could have been written there as well. -/
theorem write_cases (h : tree.write path bytes = .ok after) :
    ∃ place, tree.resolve [] (Path.parts path) = .ok place ∧ tree.entry? place ≠ some .directory ∧
      namesDirectory path = false ∧
        ∀ other, tree.write path other = .ok (tree.put place (.file other)) := by
  cases resolved : tree.resolve [] (Path.parts path) with
  | error e => simp [write, resolved, bind, Except.bind] at h
  | ok place =>
    refine ⟨place, rfl, ?_⟩
    simp only [write, resolved, bind, Except.bind] at h ⊢
    split at h
    · cases h
    · cases h
    · cases h
    · split at h
      · cases h
      · simp_all
    · split at h
      · cases h
      split at h
      · simp_all
      · cases h

theorem write_read (h : tree.write path bytes = .ok after) (other : List UInt8) :
    ∃ after, tree.write path other = .ok after ∧ after.read path = .ok other := by
  obtain ⟨place, resolved, noDirectory, file, writes⟩ := write_cases h
  refine ⟨_, writes other, ?_⟩
  have inside : place ≠ [] := by
    rintro rfl
    exact noDirectory rfl
  simp only [read, resolve_put resolved noDirectory, entry?_put_self inside, bind, Except.bind,
    file]
  rfl

end UsbBridge.FileTree
