/-!
# Runs

A run makes one move after another; its record keeps each move with the state it was made in. What
holds before the first move and is kept by every single one holds of a run and its record
(`induction`).
-/

namespace UsbBridge.Run

section
variable {σ μ : Type} (step : σ → μ → σ)

def last (s : σ) (moves : List μ) : σ := moves.foldl step s

def record : σ → List μ → List (σ × μ)
  | _, [] => []
  | s, m :: ms => (s, m) :: record (step s m) ms

@[simp] theorem last_nil (s : σ) : last step s [] = s := rfl

@[simp] theorem last_cons (s : σ) (m : μ) (ms : List μ) :
    last step s (m :: ms) = last step (step s m) ms := rfl

@[simp] theorem last_append (s : σ) (xs ys : List μ) :
    last step s (xs ++ ys) = last step (last step s xs) ys :=
  List.foldl_append

@[simp] theorem record_nil (s : σ) : record step s [] = [] := rfl

theorem record_append (s : σ) (xs ys : List μ) :
    record step s (xs ++ ys) = record step s xs ++ record step (last step s xs) ys := by
  induction xs generalizing s with
  | nil => rfl
  | cons m ms ih => simp [record, ih]

theorem moves_record (s : σ) (moves : List μ) : (record step s moves).map (·.2) = moves := by
  induction moves generalizing s with
  | nil => rfl
  | cons m ms ih => simp [record, ih]

theorem mem_record {s t : σ} {m : μ} {moves : List μ} (h : (t, m) ∈ record step s moves) :
    ∃ before after, moves = before ++ m :: after ∧ t = last step s before := by
  induction moves generalizing s with
  | nil => simp at h
  | cons x xs ih =>
    rcases List.mem_cons.mp h with h | h
    · cases h
      exact ⟨[], xs, rfl, rfl⟩
    · obtain ⟨before, after, rfl, rfl⟩ := ih h
      exact ⟨x :: before, after, rfl, rfl⟩

/-- The invariant may speak of the record so far, so that it can tie a state to what led to it. -/
theorem induction {P : σ → List (σ × μ) → Prop} {s : σ} (past : List (σ × μ)) (start : P s past)
    (next : ∀ t past m, P t past → P (step t m) (past ++ [(t, m)])) (moves : List μ) :
    P (last step s moves) (past ++ record step s moves) := by
  induction moves generalizing s past with
  | nil => simpa using start
  | cons m ms ih => simpa [record] using ih _ (next s past m start)

/-- The same for an invariant of the state alone. -/
theorem invariant {P : σ → Prop} {s : σ} (start : P s) (next : ∀ t m, P t → P (step t m))
    (moves : List μ) : P (last step s moves) :=
  induction step (P := fun t _ => P t) [] start (fun t _ m => next t m) moves

end

end UsbBridge.Run
