import UsbBridge.Text.Case
import UsbBridge.Text.Digits

/-!
# Laws of texts

A run of characters of a kind ends where the text does not go on with that kind. Digits give back
the number that was written, and texts of small ASCII characters stay as they are when they are
trimmed and lower-cased.
-/

namespace UsbBridge.Text

-- ---------------------------------------------------------------------------
-- Runs
-- ---------------------------------------------------------------------------

section
variable {p : Char → Bool} {cs rest : List Char}

def Stops (p : Char → Bool) (rest : List Char) : Prop := ∀ c ∈ rest.head?, p c = false

theorem stops_nil : Stops p [] := nofun

theorem stops_cons {c : Char} (h : p c = false) (rest : List Char) : Stops p (c :: rest) := by
  intro d hd
  cases hd
  exact h

theorem takeWhile_append (cs : List Char) (all : ∀ c ∈ cs, p c = true) (stops : Stops p rest) :
    (cs ++ rest).takeWhile p = cs := by
  rw [List.takeWhile_append_of_pos all]
  cases rest with
  | nil => simp
  | cons c rest => simp [stops c rfl]

theorem dropWhile_append (all : ∀ c ∈ cs, p c = true) (stops : Stops p rest) :
    (cs ++ rest).dropWhile p = rest := by
  rw [List.dropWhile_append_of_pos all]
  cases rest with
  | nil => rfl
  | cons c rest => simp [stops c rfl]

theorem exists_run (p : Char → Bool) (cs : List Char) :
    ∃ run rest, cs = run ++ rest ∧ (∀ c ∈ run, p c = true) ∧ Stops p rest := by
  refine ⟨cs.takeWhile p, cs.dropWhile p, List.takeWhile_append_dropWhile.symm, ?_, ?_⟩
  · exact List.all_eq_true.mp List.all_takeWhile
  · intro c hc
    have stop := List.head?_dropWhile_not p cs
    rw [Option.mem_def.mp hc] at stop
    exact stop

theorem dropWhile_none (none : ∀ c ∈ cs, p c = false) : cs.dropWhile p = cs := by
  cases cs with
  | nil => rfl
  | cons c cs => simp [none c List.mem_cons_self]

end

-- ---------------------------------------------------------------------------
-- Numbers
-- ---------------------------------------------------------------------------

theorem isDigit_iff {c : Char} : isDigit c = true ↔ c.isDigit = true := by
  simp only [isDigit, Char.isDigit, Bool.and_eq_true, decide_eq_true_eq, ge_iff_le]
  rfl

theorem isDigit_range {c : Char} (h : isDigit c = true) : 48 ≤ c.toNat ∧ c.toNat ≤ 57 := by
  simp only [isDigit, Bool.and_eq_true, decide_eq_true_eq] at h
  exact h

theorem toList_toString (n : Nat) : (toString n).toList = Nat.toDigits 10 n := Nat.toList_repr

theorem isDigit_toDigits {n : Nat} {c : Char} (h : c ∈ Nat.toDigits 10 n) : isDigit c = true :=
  isDigit_iff.mpr (Nat.isDigit_of_mem_toDigits (by decide) (by decide) h)

theorem decimal_toDigits (n : Nat) : decimal (Nat.toDigits 10 n) = n :=
  Nat.ofDigitChars_toDigits (by decide) (by decide)

theorem toDigits_cons (n : Nat) : ∃ d ds, Nat.toDigits 10 n = d :: ds ∧ isDigit d = true := by
  obtain ⟨d, ds, same⟩ := List.exists_cons_of_ne_nil (Nat.toDigits_ne_nil (n := n) (b := 10))
  exact ⟨d, ds, same, isDigit_toDigits (same ▸ List.mem_cons_self)⟩

theorem toDigits_leading {n : Nat} {rest : List Char} (h : Nat.toDigits 10 n = '0' :: rest) :
    n = 0 := by
  induction n using Nat.strongRecOn generalizing rest with
  | ind n ih =>
    rw [Nat.toDigits_eq_if (by decide)] at h
    split at h
    · simp_all
    · rename_i large
      obtain ⟨d, ds, same, -⟩ := toDigits_cons (n / 10)
      rw [same, List.cons_append] at h
      have zero := ih (n / 10) (by omega) (same.trans (by rw [(List.cons.inj h).1]))
      omega

-- ---------------------------------------------------------------------------
-- Small letters
-- ---------------------------------------------------------------------------

/-- An ASCII character that is neither blank nor a capital letter. -/
def IsSmall (c : Char) : Prop := 0x5b ≤ c.toNat ∧ c.toNat < 0x80 ∨ isDigit c = true

section
variable {c : Char} {s : String}

theorem IsSmall.range (small : IsSmall c) :
    48 ≤ c.toNat ∧ c.toNat < 0x80 ∧ (c.toNat ≤ 57 ∨ 0x5b ≤ c.toNat) := by
  obtain letter | digit := small
  · omega
  · have := isDigit_range digit
    omega

theorem IsSmall.not_blank (small : IsSmall c) : isBlank c = false := by
  have bound := small.range
  have outside : ∀ range ∈ blank, range.2 < 48 ∨ 0x80 ≤ range.1 := by decide
  simp only [isBlank, Ranges.has, List.any_eq_false, Bool.and_eq_true, decide_eq_true_eq]
  intro range there
  have := outside range there
  omega

theorem IsSmall.lowerChar (small : IsSmall c) : lowerChar c = c := by
  have := small.range
  have capital : ¬('A' ≤ c ∧ c ≤ 'Z') := fun ⟨low, high⟩ => by
    have low : 65 ≤ c.toNat := low
    have high : c.toNat ≤ 90 := high
    omega
  rw [Text.lowerChar, if_pos (by omega), if_neg capital]

theorem trim_small (small : ∀ c ∈ s.toList, IsSmall c) : trim s = s := by
  have front := dropWhile_none fun c hc => (small c hc).not_blank
  have back : s.toList.reverse.dropWhile isBlank = s.toList.reverse :=
    dropWhile_none fun c hc => (small c (List.mem_reverse.mp hc)).not_blank
  rw [trim, trimChars, front, back, List.reverse_reverse, String.ofList_toList]

theorem lowerFrom_small {before cs : List Char} (small : ∀ c ∈ cs, IsSmall c) :
    lowerFrom before cs = cs := by
  induction cs generalizing before with
  | nil => rfl
  | cons c cs ih =>
    have here := small c List.mem_cons_self
    have bound := here.range
    have dotted : c ≠ 'İ' := by
      rintro rfl
      exact absurd bound (by decide)
    have sigma : c ≠ 'Σ' := by
      rintro rfl
      exact absurd bound (by decide)
    rw [lowerFrom, if_neg dotted, if_neg sigma, here.lowerChar,
      ih fun d hd => small d (List.mem_cons_of_mem _ hd)]
    rfl

theorem lowercase_small (small : ∀ c ∈ s.toList, IsSmall c) : lowercase s = s := by
  rw [lowercase, lowerFrom_small small, String.ofList_toList]

end

end UsbBridge.Text
