import UsbBridge.Duration.Notation
import UsbBridge.Proofs.Text.Laws

/-!
# The items of a duration

Behind a run of digits a duration ends (`sumFrom_digits`) or goes on with a character that has to
begin a unit (`sumFrom_stop`). A unit is known by its name, as long as a digit or nothing follows
(`unit?_name`).
-/

namespace UsbBridge.Duration

open Text

def Unit.name : Unit → String
  | .hours => "h"
  | .minutes => "m"
  | .seconds => "s"
  | .millis => "ms"

/-- What follows an item begins with a digit, if there is anything. -/
def Begins (cs : List Char) : Prop := ∀ c ∈ cs.head?, isDigit c = true

section
variable {text : String} {cs digits after rest : List Char} {c : Char} {sum n : Nat} {u : Unit}

-- ---------------------------------------------------------------------------
-- Units
-- ---------------------------------------------------------------------------

theorem toList_millis : Unit.millis.name.toList = ['m', 's'] := by decide

theorem unit?_name (begins : Begins cs) (u : Unit) :
    unit? (u.name.toList ++ cs) = some (u, cs) := by
  cases u with
  | hours => rfl
  | minutes =>
    cases cs with
    | nil => rfl
    | cons c cs =>
      -- An s behind the m would make it milliseconds.
      have : c ≠ 's' := by
        rintro rfl
        cases begins 's' rfl
      show unit? ('m' :: c :: cs) = _
      simp [unit?, this]
  | seconds => rfl
  | millis =>
    rw [toList_millis]
    rfl

theorem eq_name_of_unit? (h : unit? cs = some (u, after)) : cs = u.name.toList ++ after := by
  unfold unit? at h
  split at h <;> cases h
  · rfl
  · rw [toList_millis]
    rfl
  · rfl
  · rfl

theorem stops_name (u : Unit) (cs : List Char) : Stops isDigit (u.name.toList ++ cs) := by
  cases u <;> exact stops_cons (by decide) _

theorem name_cons (u : Unit) (cs : List Char) :
    ∃ c rest, u.name.toList ++ cs = c :: rest ∧ isDigit c = false := by
  obtain ⟨c, rest, form⟩ : ∃ c rest, u.name.toList ++ cs = c :: rest := by
    cases u <;> exact ⟨_, _, rfl⟩
  exact ⟨c, rest, form, stops_name u cs c (by rw [form]; rfl)⟩

-- ---------------------------------------------------------------------------
-- Sums
-- ---------------------------------------------------------------------------

theorem sumFrom_digits (all : ∀ c ∈ digits, isDigit c = true) :
    sumFrom text sum digits =
      if digits.isEmpty then .ok sum
      else (number digits).bind fun n => .ok (addUnits sum n .seconds) := by
  have taken := takeWhile_append digits all stops_nil
  have left := dropWhile_append all stops_nil
  rw [List.append_nil] at taken left
  rw [sumFrom]
  simp only [taken]
  split
  · rfl
  · rename_i found
    rw [left] at found
    cases found

theorem sumFrom_stop (all : ∀ c ∈ digits, isDigit c = true) (stop : isDigit c = false) :
    sumFrom text sum (digits ++ c :: rest) =
      if digits.isEmpty then .error (.format text)
      else (number digits).bind fun n =>
        match unit? (c :: rest) with
        | none => .error (.unit c)
        | some (u, after) => sumFrom text (addUnits sum n u) after := by
  have taken := takeWhile_append digits all (stops_cons stop rest)
  have left := dropWhile_append all (stops_cons stop rest)
  rw [sumFrom]
  simp only [taken]
  split
  · rename_i none
    rw [left] at none
    cases none
  · rename_i found
    rw [left] at found
    cases found
    split
    · rfl
    · cases number digits with
      | error fault => rfl
      | ok n =>
        simp only [bind, Except.bind]
        split
        · rename_i none
          rw [none]
          rfl
        · rename_i found
          rw [found]

theorem sumFrom_item (all : ∀ c ∈ digits, isDigit c = true) (some_ : digits ≠ [])
    (small : decimal digits < wordSize) (begins : Begins after) :
    sumFrom text sum (digits ++ (u.name.toList ++ after)) =
      sumFrom text (addUnits sum (decimal digits) u) after := by
  obtain ⟨c, rest, form, stop⟩ := name_cons u after
  have unit : unit? (c :: rest) = some (u, after) := form ▸ unit?_name begins u
  rw [form, sumFrom_stop all stop, if_neg (by simpa using some_), number, if_pos small]
  simp only [Except.bind, unit]

end

end UsbBridge.Duration
