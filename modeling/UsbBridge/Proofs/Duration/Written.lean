import UsbBridge.Proofs.Duration.Items

/-!
# Durations are read as they were written, to the millisecond

A written duration shows whole milliseconds and counts them in 64 bits. It is read as what it shows,
without reaching the largest sum on the way; one that shows nothing is refused (`parse_format`). So
reading gives back the whole milliseconds that 64 bits can count (`parse_format_iff`).
-/

namespace UsbBridge.Duration

open Text

-- ---------------------------------------------------------------------------
-- Items
-- ---------------------------------------------------------------------------

section
variable {text : String} {cs after : List Char} {n sum ms : Nat} {u : Unit}

theorem name_small (u : Unit) : ∀ c ∈ u.name.toList, IsSmall c := by
  have letter {c : Char} (h : c = 'h' ∨ c = 'm' ∨ c = 's') : IsSmall c := by
    obtain rfl | rfl | rfl := h <;> exact .inl ⟨by decide, by decide⟩
  cases u with
  | hours => exact fun c hc => letter (.inl (List.mem_singleton.mp hc))
  | minutes => exact fun c hc => letter (.inr (.inl (List.mem_singleton.mp hc)))
  | seconds => exact fun c hc => letter (.inr (.inr (List.mem_singleton.mp hc)))
  | millis =>
    rw [toList_millis]
    intro c hc
    simp only [List.mem_cons, List.not_mem_nil, or_false] at hc
    exact letter (.inr hc)

/-- A sum that fits 64 bits is exact. -/
theorem addUnits_exact (fits : sum + n * u.inMillis < wordSize) :
    addUnits sum n u = sum + n * u.inMillis := by
  simp only [addUnits, cap]
  omega

-- ---------------------------------------------------------------------------
-- Parts
-- ---------------------------------------------------------------------------

/-- The end of a written duration: so many milliseconds, added to any sum that leaves room. -/
structure Reads (text : String) (cs : List Char) (ms : Nat) : Prop where
  begins : Begins cs
  small : ∀ c ∈ cs, IsSmall c
  adds : ∀ sum, sum + ms < wordSize → sumFrom text sum cs = .ok (sum + ms)

theorem reads_nothing (text : String) : Reads text [] 0 :=
  ⟨nofun, nofun, fun sum _ => by rw [sumFrom]; rfl⟩

theorem Reads.item (reads : Reads text cs ms) (u : Unit) (small : n < wordSize) :
    Reads text ((toString n).toList ++ (u.name.toList ++ cs)) (n * u.inMillis + ms) := by
  obtain ⟨begins, shown, adds⟩ := reads
  rw [toList_toString]
  obtain ⟨d, ds, written, digit⟩ := toDigits_cons n
  refine ⟨?_, fun c hc => ?_, fun sum fits => ?_⟩
  · rw [written]
    intro c hc
    cases hc
    exact digit
  · rcases List.mem_append.mp hc with hc | hc
    · exact .inr (isDigit_toDigits hc)
    rcases List.mem_append.mp hc with hc | hc
    · exact name_small u c hc
    · exact shown c hc
  · have some_ : Nat.toDigits 10 n ≠ [] := written ▸ List.cons_ne_nil d ds
    have count := decimal_toDigits n
    rw [sumFrom_item (fun _ => isDigit_toDigits) some_ (by rwa [count]) begins, count,
      addUnits_exact (by omega), adds _ (by omega), Nat.add_assoc]

/-- A part whose count is zero is left out, and counts nothing. -/
theorem Reads.part (reads : Reads text cs ms) (u : Unit) (small : n < wordSize) :
    Reads text ((part n u.name).toList ++ cs) (n * u.inMillis + ms) := by
  by_cases zero : n = 0
  · simpa [Duration.part, zero] using reads
  · have item := reads.item u small
    simpa [Duration.part, zero, toString] using item

end

-- ---------------------------------------------------------------------------
-- Durations
-- ---------------------------------------------------------------------------

theorem format_reads (text : String) (d : Duration) :
    Reads text d.format.toList (d.millis % wordSize) := by
  unfold format
  dsimp only
  generalize ms : d.millis % wordSize = n
  have small : n < wordSize := ms ▸ Nat.mod_lt _ (by decide)
  split
  · rename_i zero
    have written : "0ms".toList = (toString 0).toList ++ (Unit.millis.name.toList ++ []) := by
      decide
    rw [written, zero]
    exact (reads_nothing text).item .millis (by decide)
  · have millis := (reads_nothing text).part .millis (n := n % 1000) (by omega)
    have seconds := millis.part .seconds (n := n % 60000 / 1000) (by omega)
    have minutes := seconds.part .minutes (n := n % 3600000 / 60000) (by omega)
    have hours := minutes.part .hours (n := n / 3600000) (by omega)
    have sum : n / 3600000 * 3600000 + (n % 3600000 / 60000 * 60000 + (n % 60000 / 1000 * 1000 +
        (n % 1000 * 1 + 0))) = n := by omega
    simp only [Unit.inMillis, Unit.name, sum, List.append_nil] at hours
    simpa only [String.toList_append, List.append_assoc] using hours

theorem parse_format (d : Duration) :
    parse d.format = if d.millis % wordSize = 0 then .error .zero
      else .ok (ofMillis (d.millis % wordSize)) := by
  obtain ⟨-, small, adds⟩ := format_reads d.format d
  have sum := adds 0 (by rw [Nat.zero_add]; exact Nat.mod_lt _ (by decide))
  rw [parse, trim_small small, lowercase_small small, sum, Nat.zero_add]
  simp only [bind, Except.bind]
  split <;> rfl

/-- Written and read, a duration keeps its whole milliseconds when there are some and 64 bits can
count them, and only then. -/
theorem parse_format_iff (d : Duration) :
    parse d.format = .ok (ofMillis d.millis) ↔ 1 ≤ d.millis ∧ d.millis < wordSize := by
  rw [parse_format]
  have mod : d.millis % wordSize < wordSize := Nat.mod_lt _ (by decide)
  constructor
  · intro kept
    split at kept
    · cases kept
    · have same : d.millis % wordSize * 1000000 = d.millis * 1000000 :=
        congrArg Duration.nanos (Except.ok.inj kept)
      omega
  · rintro ⟨some_, fits⟩
    rw [Nat.mod_eq_of_lt fits, if_neg (by omega)]

end UsbBridge.Duration
