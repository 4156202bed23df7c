/-!
# Lists of numbered things

What tasks, duplicates and feeds have in common: elements are changed in place and added at the
end, so a number keeps its meaning.
-/

namespace UsbBridge

theorem modify_eq_set {f : α → α} {l : List α} (h : l[n]? = some a) :
    l.modify n f = l.set n (f a) := by
  induction l generalizing n with
  | nil => simp at h
  | cons x xs ih =>
    cases n with
    | zero => simp_all
    | succ n => simpa using ih (by simpa using h)

/-- What one element contributes to a count is exchanged for what its successor does. -/
theorem countP_set_add {p : α → Bool} {l : List α} (h : l[n]? = some a) (b : α) :
    (l.set n b).countP p + (p a).toNat = l.countP p + (p b).toNat := by
  induction l generalizing n with
  | nil => simp at h
  | cons x xs ih =>
    cases n with
    | zero =>
      simp only [List.getElem?_cons_zero, Option.some.injEq] at h
      subst h
      cases hx : p x <;> cases hb : p b <;> simp [hx, hb]
    | succ n =>
      have := ih (n := n) (by simpa using h)
      simp only [List.set_cons_succ, List.countP_cons]
      omega

theorem getElem?_set_cases {l : List α} {b : α} (h : (l.set n b)[m]? = some c) :
    (m = n ∧ c = b) ∨ (m ≠ n ∧ l[m]? = some c) := by
  rw [List.getElem?_set] at h
  split at h
  · rename_i hn
    split at h
    · exact .inl ⟨hn.symm, (Option.some.inj h).symm⟩
    · cases h
  · rename_i hn
    exact .inr ⟨Ne.symm hn, h⟩

theorem getElem?_concat_cases {l : List α} {b c : α} {m : Nat} (h : (l ++ [b])[m]? = some c) :
    l[m]? = some c ∨ (m = l.length ∧ c = b) := by
  rw [List.getElem?_append] at h
  split at h
  · exact .inl h
  · obtain ⟨hm, hc⟩ := List.getElem?_eq_some_iff.mp h
    simp only [List.length_singleton] at hm
    exact .inr ⟨by omega, by simpa using hc.symm⟩

theorem getElem?_of_prefix {xs ys : List α} {m : Nat} (h : xs <+: ys) (ha : xs[m]? = some c) :
    ys[m]? = some c := by
  obtain ⟨rest, rfl⟩ := h
  rw [List.getElem?_append_left (List.getElem?_eq_some_iff.mp ha).1, ha]

theorem getElem?_concat {l : List α} {m : Nat} (h : l[m]? = some c) (b : α) :
    (l ++ [b])[m]? = some c :=
  getElem?_of_prefix (List.prefix_append l [b]) h

theorem split_of_getElem? {l : List α} (h : l[n]? = some a) :
    ∃ xs ys, l = xs ++ a :: ys ∧ xs.length = n := by
  obtain ⟨hlt, rfl⟩ := List.getElem?_eq_some_iff.mp h
  refine ⟨l.take n, l.drop (n + 1), ?_, List.length_take_of_le (Nat.le_of_lt hlt)⟩
  rw [← List.drop_eq_getElem_cons hlt, List.take_append_drop]

theorem filterMap_cons_toList (f : α → Option β) (a : α) (l : List α) :
    (a :: l).filterMap f = (f a).toList ++ l.filterMap f := by
  cases h : f a <;> simp [h]

theorem split_of_getElem?_filterMap {f : α → Option β} {l : List α} {b : β}
    (h : (l.filterMap f)[n]? = some b) :
    ∃ xs a ys, l = xs ++ a :: ys ∧ (xs.filterMap f).length = n ∧ f a = some b := by
  induction l generalizing n with
  | nil => simp at h
  | cons c cs ih =>
    cases hc : f c with
    | none =>
      rw [List.filterMap_cons_none hc] at h
      obtain ⟨xs, a, ys, rfl, place, image⟩ := ih h
      exact ⟨c :: xs, a, ys, rfl, by rw [List.filterMap_cons_none hc, place], image⟩
    | some d =>
      rw [List.filterMap_cons_some hc] at h
      cases n with
      | zero => exact ⟨[], c, cs, rfl, rfl, hc.trans h⟩
      | succ n =>
        obtain ⟨xs, a, ys, rfl, place, image⟩ := ih h
        refine ⟨c :: xs, a, ys, rfl, ?_, image⟩
        rw [List.filterMap_cons_some hc, List.length_cons, place]

theorem filterMap_concat (f : α → Option β) (l : List α) (a : α) :
    (l ++ [a]).filterMap f = l.filterMap f ++ (f a).toList := by
  rw [List.filterMap_append]
  cases h : f a <;> simp [h]

end UsbBridge
