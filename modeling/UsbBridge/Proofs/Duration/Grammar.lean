import UsbBridge.Proofs.Duration.Items

/-!
# Which texts are durations

A text counts milliseconds when it is a series of numbers, each with a unit behind it but for the
last one, which may go without (`Counts`). It counts one sum only (`Counts.unique`). Reading takes
exactly these texts and gives their sum, or the largest one of 64 bits when the sum is beyond it; a
sum of nothing is refused (`durations_understood`).
-/

namespace UsbBridge.Duration

open Text

structure IsNumber (digits : List Char) : Prop where
  some_ : digits ≠ []
  all : ∀ c ∈ digits, isDigit c = true
  small : decimal digits < wordSize

/-- A text as it is read, in small letters and without the blanks around it. -/
def readText (s : String) : List Char := (lowercase (trim s)).toList

inductive IsUnit : List Char → Nat → Prop
  | hours : IsUnit ['h'] 3600000
  | minutes : IsUnit ['m'] 60000
  | seconds : IsUnit ['s'] 1000
  | millis : IsUnit ['m', 's'] 1

/-- A text as it is read, with the exact sum of the milliseconds it counts. -/
inductive Counts : List Char → Nat → Prop
  | nothing : Counts [] 0
  /-- A number without a unit ends the text. -/
  | bare {digits} (number : IsNumber digits) : Counts digits (decimal digits * 1000)
  | item {digits name worth rest ms} (number : IsNumber digits) (unit : IsUnit name worth)
      (later : Counts rest ms) : Counts (digits ++ (name ++ rest)) (decimal digits * worth + ms)

section
variable {text : String} {cs digits rest : List Char} {c : Char} {sum m n ms : Nat} {u : Unit}

theorem Unit.isUnit (u : Unit) : IsUnit u.name.toList u.inMillis := by
  cases u with
  | hours => exact .hours
  | minutes => exact .minutes
  | seconds => exact .seconds
  | millis => exact toList_millis ▸ .millis

theorem IsUnit.exists_unit {name : List Char} {worth : Nat} (unit : IsUnit name worth) :
    ∃ u : Unit, name = u.name.toList ∧ worth = u.inMillis := by
  cases unit with
  | hours => exact ⟨.hours, rfl, rfl⟩
  | minutes => exact ⟨.minutes, rfl, rfl⟩
  | seconds => exact ⟨.seconds, rfl, rfl⟩
  | millis => exact ⟨.millis, toList_millis.symm, rfl⟩

theorem IsNumber.begins (number : IsNumber digits) (rest : List Char) :
    Begins (digits ++ rest) := by
  intro c hc
  cases digits with
  | nil => exact absurd rfl number.some_
  | cons d ds =>
    cases hc
    exact number.all c List.mem_cons_self

theorem Counts.begins (counts : Counts cs ms) : Begins cs := by
  cases counts with
  | nothing => nofun
  | bare number =>
    have := number.begins []
    rwa [List.append_nil] at this
  | item number unit later => exact number.begins _

-- ---------------------------------------------------------------------------
-- A text by its first run of digits
-- ---------------------------------------------------------------------------

theorem counts_digits (all : ∀ c ∈ digits, isDigit c = true) :
    Counts digits ms ↔ digits = [] ∧ ms = 0 ∨
      IsNumber digits ∧ ms = decimal digits * 1000 := by
  constructor
  · intro counts
    cases counts with
    | nothing => exact .inl ⟨rfl, rfl⟩
    | bare number => exact .inr ⟨number, rfl⟩
    | item number unit later =>
      -- A unit begins with a letter.
      rename_i rest _
      obtain ⟨u, rfl, -⟩ := unit.exists_unit
      obtain ⟨c, after, form, stop⟩ := name_cons u rest
      have digit := all c (by simp [form])
      rw [stop] at digit
      cases digit
  · rintro (⟨rfl, rfl⟩ | ⟨number, rfl⟩)
    · exact .nothing
    · exact .bare number

theorem counts_stop (all : ∀ c ∈ digits, isDigit c = true) (stop : isDigit c = false) :
    Counts (digits ++ c :: rest) ms ↔ IsNumber digits ∧ ∃ u after k,
      unit? (c :: rest) = some (u, after) ∧ Counts after k ∧
        ms = decimal digits * u.inMillis + k := by
  constructor
  · generalize whole : digits ++ c :: rest = cs
    intro counts
    cases counts with
    | nothing => simp at whole
    | bare number =>
      have digit := number.all c (by simp [← whole])
      rw [stop] at digit
      cases digit
    | item number unit later =>
      rename_i run name worth after k
      obtain ⟨u, rfl, rfl⟩ := unit.exists_unit
      -- Both end where the digits end.
      have same := takeWhile_append digits all (stops_cons stop rest)
      have left := dropWhile_append all (stops_cons stop rest)
      rw [whole, takeWhile_append run number.all (stops_name u after)] at same
      rw [whole, dropWhile_append number.all (stops_name u after)] at left
      subst same
      exact ⟨number, u, after, k, left ▸ unit?_name later.begins u, later, rfl⟩
  · rintro ⟨number, u, after, k, unit, later, rfl⟩
    rw [eq_name_of_unit? unit]
    exact .item number u.isUnit later

theorem Counts.unique (first : Counts cs m) (second : Counts cs n) : m = n := by
  induction first generalizing n with
  | nothing =>
    rcases (counts_digits (by simp)).mp second with ⟨-, rfl⟩ | ⟨number, -⟩
    · rfl
    · exact absurd rfl number.some_
  | bare number =>
    rcases (counts_digits number.all).mp second with ⟨none, -⟩ | ⟨-, rfl⟩
    · exact absurd none number.some_
    · rfl
  | item number unit later ih =>
    rename_i digits name worth after k
    obtain ⟨u, rfl, rfl⟩ := unit.exists_unit
    obtain ⟨c, rest, form, stop⟩ := name_cons u after
    have unit : unit? (c :: rest) = some (u, after) := form ▸ unit?_name later.begins u
    rw [form, counts_stop number.all stop, unit] at second
    obtain ⟨-, u', after', k', same, counts, rfl⟩ := second
    cases same
    rw [ih counts]

-- ---------------------------------------------------------------------------
-- Reading
-- ---------------------------------------------------------------------------

theorem number_ok (all : ∀ c ∈ digits, isDigit c = true) (some_ : digits ≠ []) :
    number digits = .ok n ↔ IsNumber digits ∧ n = decimal digits := by
  rw [number]
  constructor
  · intro h
    split at h
    · rename_i small
      cases h
      exact ⟨⟨some_, all, small⟩, rfl⟩
    · cases h
  · rintro ⟨fits, rfl⟩
    exact if_pos fits.small

theorem sumFrom_digits_ok (all : ∀ c ∈ digits, isDigit c = true)
    (h : sumFrom text sum digits = .ok n) : digits = [] ∨ IsNumber digits := by
  rw [sumFrom_digits all] at h
  split at h
  · rename_i none
    exact .inl (List.isEmpty_iff.mp none)
  · rename_i some_
    cases hn : number digits with
    | error fault =>
      rw [hn] at h
      cases h
    | ok k => exact .inr ((number_ok all (by simpa using some_)).mp hn).1

theorem sumFrom_stop_ok (all : ∀ c ∈ digits, isDigit c = true) (stop : isDigit c = false)
    (h : sumFrom text sum (digits ++ c :: rest) = .ok n) :
    IsNumber digits ∧ ∃ u after, unit? (c :: rest) = some (u, after) ∧
      sumFrom text (addUnits sum (decimal digits) u) after = .ok n := by
  rw [sumFrom_stop all stop] at h
  split at h
  · cases h
  rename_i some_
  cases hn : number digits with
  | error fault =>
    rw [hn] at h
    cases h
  | ok k =>
    obtain ⟨fits, rfl⟩ := (number_ok all (by simpa using some_)).mp hn
    rw [hn] at h
    simp only [Except.bind] at h
    split at h
    · cases h
    · rename_i u after unit
      exact ⟨fits, u, after, unit, h⟩

/-- The sum that is kept goes by the exact one. -/
theorem addUnits_cap (sum n : Nat) (u : Unit) :
    addUnits (cap sum) n u = cap (sum + n * u.inMillis) := by
  simp only [addUnits, cap]
  omega

theorem Counts.adds (counts : Counts cs ms) (text : String) (sum : Nat) :
    sumFrom text (cap sum) cs = .ok (cap (sum + ms)) := by
  induction counts generalizing sum with
  | nothing => rw [sumFrom_digits (by simp)]; rfl
  | bare number =>
    have some_ := (number_ok number.all number.some_).mpr ⟨number, rfl⟩
    rw [sumFrom_digits number.all, if_neg (by simpa using number.some_), some_]
    exact congrArg Except.ok (addUnits_cap sum _ .seconds)
  | item number unit later ih =>
    obtain ⟨u, rfl, rfl⟩ := unit.exists_unit
    rw [sumFrom_item number.all number.some_ number.small later.begins, addUnits_cap, ih,
      Nat.add_assoc]

theorem counts_of_sumFrom (h : sumFrom text sum cs = .ok n) : ∃ ms, Counts cs ms := by
  induction size : cs.length using Nat.strongRecOn generalizing cs sum with
  | ind k ih =>
    obtain ⟨digits, rest, rfl, all, stops⟩ := exists_run isDigit cs
    cases rest with
    | nil =>
      rw [List.append_nil] at h ⊢
      rcases sumFrom_digits_ok all h with rfl | number
      · exact ⟨0, .nothing⟩
      · exact ⟨_, .bare number⟩
    | cons c rest =>
      obtain ⟨number, u, after, unit, h⟩ := sumFrom_stop_ok all (stops c rfl) h
      have shorter : after.length < k := by
        have := unit?_length unit
        rw [List.length_append] at size
        omega
      obtain ⟨ms, later⟩ := ih after.length shorter h rfl
      rw [eq_name_of_unit? unit]
      exact ⟨_, .item number u.isUnit later⟩

theorem sumFrom_zero (text : String) :
    sumFrom text 0 cs = .ok n ↔ ∃ ms, Counts cs ms ∧ n = cap ms := by
  constructor
  · intro h
    obtain ⟨ms, counts⟩ := counts_of_sumFrom h
    have sum : sumFrom text 0 cs = .ok (cap (0 + ms)) := counts.adds text 0
    rw [h, Nat.zero_add] at sum
    exact ⟨ms, counts, Except.ok.inj sum⟩
  · rintro ⟨ms, counts, rfl⟩
    have sum : sumFrom text 0 cs = .ok (cap (0 + ms)) := counts.adds text 0
    rwa [Nat.zero_add] at sum

theorem parse_ok (s : String) (d : Duration) :
    parse s = .ok d ↔ ∃ ms, Counts (readText s) ms ∧ 0 < ms ∧ d = ofMillis (cap ms) := by
  unfold parse readText
  dsimp only
  generalize lowercase (trim s) = text
  constructor
  · intro h
    cases hn : sumFrom text 0 text.toList with
    | error fault =>
      rw [hn] at h
      cases h
    | ok n =>
      obtain ⟨ms, counts, rfl⟩ := (sumFrom_zero _).mp hn
      rw [hn] at h
      simp only [bind, Except.bind] at h
      split at h
      · cases h
      · rename_i positive
        cases h
        refine ⟨ms, counts, ?_, rfl⟩
        simp only [cap] at positive
        omega
  · rintro ⟨ms, counts, positive, rfl⟩
    have some_ : cap ms ≠ 0 := by
      have : 1 < wordSize := by decide
      simp only [cap]
      omega
    rw [(sumFrom_zero _).mpr ⟨ms, counts, rfl⟩]
    simp only [bind, Except.bind, some_, if_false]
    rfl

end

/-- Of any text: which duration it is, if it is one. -/
structure Understood (s : String) : Prop where
  /-- Durations are the texts of the grammar that count something. -/
  durations : ∀ d, parse s = .ok d ↔
    ∃ ms, Counts (readText s) ms ∧ 0 < ms ∧ d = ofMillis (min ms (wordSize - 1))
  /-- There is no other way to read the text. -/
  unambiguous : ∀ m n, Counts (readText s) m → Counts (readText s) n → m = n
  /-- An s directly behind an m belongs to it. -/
  millis : ∀ digits rest, readText s = digits ++ 'm' :: 's' :: rest →
    (∀ c ∈ digits, isDigit c = true) → ∀ ms, Counts (readText s) ms ↔
      IsNumber digits ∧ ∃ k, Counts rest k ∧ ms = decimal digits + k

theorem durations_understood (s : String) : Understood s where
  durations := parse_ok s
  unambiguous _ _ := Counts.unique
  millis digits rest form all ms := by
    rw [form, counts_stop all (by decide)]
    constructor
    · rintro ⟨number, u, after, k, unit, later, rfl⟩
      cases unit
      exact ⟨number, k, later, by rw [Unit.inMillis, Nat.mul_one]⟩
    · rintro ⟨number, k, later, rfl⟩
      exact ⟨number, .millis, rest, k, rfl, later, by rw [Unit.inMillis, Nat.mul_one]⟩

end UsbBridge.Duration
