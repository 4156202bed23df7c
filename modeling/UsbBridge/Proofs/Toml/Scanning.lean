import UsbBridge.Proofs.Text.Laws
import UsbBridge.Toml.Scan

/-!
# What scanners take

A scanner stands in front of the text that it takes and whatever follows. `Goes` says that a
scanner succeeds again and again; repeating it then takes all of that, once it fails on what is
left (`Goes.many`).
-/

namespace UsbBridge.Toml.Scan

open Text

section
variable {α β : Type} (x y : Scan α) (f : α → Scan β) (cs : List Char)

-- ---------------------------------------------------------------------------
-- Running scanners
-- ---------------------------------------------------------------------------

theorem run_bind : (x >>= f) cs = (x cs).bind fun p => f p.1 p.2 := rfl

theorem run_pure (a : α) : (pure a : Scan α) cs = some (a, cs) := rfl

theorem run_failure : (failure : Scan α) cs = none := rfl

theorem run_map (f : α → β) : (f <$> x) cs = (x cs).map fun p => (f p.1, p.2) := by
  show ((x cs).bind fun p => some (f p.1, p.2)) = _
  cases x cs <;> rfl

theorem run_orElse : (x <|> y) cs = (x cs).or (y cs) := by
  show ((x cs).orElse fun _ => y cs) = _
  cases x cs <;> rfl

theorem run_discard : (discard x : Scan Unit) cs = (x cs).map fun p => ((), p.2) :=
  run_map x cs _

theorem run_get : (get : Scan (List Char)) cs = some (cs, cs) := rfl

theorem run_attempt : attempt x cs = some (((x cs).map (·.1)), ((x cs).map (·.2)).getD cs) := by
  unfold attempt
  cases x cs <;> rfl

end

attribute [simp] run_bind run_pure run_failure run_map run_orElse run_discard run_get run_attempt

@[simp] theorem run_next (c : Char) (rest : List Char) : next (c :: rest) = some (c, rest) := rfl

@[simp] theorem run_next_nil : next [] = none := rfl

@[simp] theorem run_peek (cs : List Char) : peek cs = some (cs.head?, cs) := rfl

@[simp] theorem run_isEnd (cs : List Char) : isEnd cs = some (cs.isEmpty, cs) := rfl

@[simp] theorem run_satisfy (p : Char → Bool) (c : Char) (rest : List Char) :
    satisfy p (c :: rest) = if p c then some (c, rest) else none := by
  simp only [satisfy, run_bind, run_next, Option.bind_some]
  split <;> rfl

@[simp] theorem run_satisfy_nil (p : Char → Bool) : satisfy p [] = none := rfl

@[simp] theorem run_char (c d : Char) (rest : List Char) :
    char c (d :: rest) = if d = c then some ((), rest) else none := by
  simp only [char, run_discard, run_satisfy, beq_iff_eq]
  split <;> rfl

@[simp] theorem run_char_nil (c : Char) : char c [] = none := rfl

@[simp] theorem run_literal (c : Char) (cs text : List Char) :
    literal (c :: cs) text = (char c text).bind fun p => literal cs p.2 := rfl

@[simp] theorem run_literal_nil (text : List Char) : literal [] text = some ((), text) := rfl

-- ---------------------------------------------------------------------------
-- Runs of characters
-- ---------------------------------------------------------------------------

section
variable {p : Char → Bool} {cs rest : List Char}

theorem run_chars (cs : List Char) (all : ∀ c ∈ cs, p c = true) (stops : Stops p rest) :
    chars p (cs ++ rest) = some (cs, rest) := by
  rw [chars, takeWhile_append cs all stops, dropWhile_append all stops]

theorem run_chars1 (some_ : cs ≠ []) (all : ∀ c ∈ cs, p c = true) (stops : Stops p rest) :
    chars1 p (cs ++ rest) = some (cs, rest) := by
  simp only [chars1, run_bind, run_chars cs all stops, Option.bind_some]
  rw [if_neg (by simpa using some_)]
  rfl

theorem run_blanks (rest : List Char) (stops : Stops (fun c => c == ' ' || c == '\t') rest) :
    blanks rest = some ((), rest) := by
  have none := run_chars [] (by simp) stops
  simp only [List.nil_append] at none
  simp [blanks, none]

theorem run_blanks_space (stops : Stops (fun c => c == ' ' || c == '\t') rest) :
    blanks (' ' :: rest) = some ((), rest) := by
  have one := run_chars [' '] (by simp) stops
  simp only [List.singleton_append] at one
  simp [blanks, one]

end

-- ---------------------------------------------------------------------------
-- Repetition
-- ---------------------------------------------------------------------------

/-- A scanner succeeds again and again, and takes something every time. -/
inductive Goes (scan : Scan α) : List Char → List α → List Char → Prop
  | done {cs} : Goes scan cs [] cs
  | more {cs rest left a as} (first : scan cs = some (a, rest)) (takes : rest.length < cs.length)
      (next : Goes scan rest as left) : Goes scan cs (a :: as) left

section
variable {scan : Scan α} {cs mid left : List Char} {as bs : List α}

theorem Goes.trans (first : Goes scan cs as mid) (next : Goes scan mid bs left) :
    Goes scan cs (as ++ bs) left := by
  induction first with
  | done => exact next
  | more first takes _ ih => exact .more first takes (ih next)

theorem Goes.one {a : α} (first : scan cs = some (a, left)) (takes : left.length < cs.length) :
    Goes scan cs [a] left :=
  .more first takes .done

/-- Parts that are taken one by one are taken one after the other. What follows a part has to be
fit for it. -/
theorem Goes.flatMap_of {ι : Type} (scan : Scan α) (part : ι → List Char) (value : ι → α)
    (items : List ι) (Fit : List Char → Prop)
    (takes : ∀ i ∈ items, part i ≠ [] ∧ ∀ rest, Fit rest →
      scan (part i ++ rest) = some (value i, rest) ∧ Fit (part i ++ rest)) (fit : Fit left) :
    Goes scan (items.flatMap part ++ left) (items.map value) left ∧
      Fit (items.flatMap part ++ left) := by
  induction items with
  | nil => exact ⟨.done, fit⟩
  | cons i items ih =>
    obtain ⟨some_, taken⟩ := takes i List.mem_cons_self
    obtain ⟨goes, before⟩ := ih fun j hj => takes j (List.mem_cons_of_mem _ hj)
    obtain ⟨taken, here⟩ := taken _ before
    rw [List.flatMap_cons, List.append_assoc]
    refine ⟨.more taken ?_ goes, here⟩
    have := List.length_pos_iff.mpr some_
    simp only [List.length_append]
    omega

theorem Goes.flatMap {ι : Type} (scan : Scan α) (part : ι → List Char) (value : ι → α)
    (items : List ι)
    (takes : ∀ i ∈ items, part i ≠ [] ∧ ∀ rest, scan (part i ++ rest) = some (value i, rest))
    (left : List Char) : Goes scan (items.flatMap part ++ left) (items.map value) left :=
  (Goes.flatMap_of scan part value items (fun _ => True)
    (fun i hi => ⟨(takes i hi).1, fun rest _ => ⟨(takes i hi).2 rest, trivial⟩⟩) trivial).1

theorem Goes.length (goes : Goes scan cs as left) : as.length + left.length ≤ cs.length := by
  induction goes with
  | done => simp
  | more _ takes _ ih =>
    simp only [List.length_cons]
    omega

theorem Goes.atMost (goes : Goes scan cs as left) (ends : scan left = none) {n : Nat}
    (enough : as.length ≤ n) : atMost scan n cs = some (as, left) := by
  induction goes generalizing n with
  | done =>
    cases n with
    | zero => rfl
    | succ n => simp [Scan.atMost, ends]
  | more first takes next ih =>
    cases n with
    | zero => simp at enough
    | succ n => simp [Scan.atMost, first, ih ends (Nat.le_of_succ_le_succ enough)]

theorem Goes.many (goes : Goes scan cs as left) (ends : scan left = none) :
    many scan cs = some (as, left) :=
  goes.atMost ends (by have := goes.length; omega)

theorem many_none (ends : scan cs = none) : many scan cs = some ([], cs) :=
  Goes.done.many ends

end

end UsbBridge.Toml.Scan
