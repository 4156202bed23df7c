import UsbBridge.Frame.Basic

/-!
# What stands at the front of a byte string

A byte string that ends begins with a whole frame, with a header over the limit, or is cut short
(`front`). It begins with a whole frame exactly when it is the frame of a body and something after
it (`front_eq_whole`): a header never loses part of a length. `decode` goes by the front
(`decode_front`), and `bodies` splits a byte string into frames.
-/

namespace UsbBridge.Frame

def wrap (body : List UInt8) : List UInt8 := header body.length ++ body

def bodySize (s : List UInt8) : Nat := announced (s.take headerLength)

inductive Front where
  /-- The bytes end before the header or the body does. -/
  | short (expected : Nat)
  | oversized (size : Nat)
  | whole (body rest : List UInt8)

def front (s : List UInt8) : Front :=
  if s.length < headerLength then .short headerLength
  else
    let n := bodySize s
    if limit < n then .oversized n
    else if s.length < headerLength + n then .short (headerLength + n)
    else .whole ((s.drop headerLength).take n) (s.drop (headerLength + n))

-- ---------------------------------------------------------------------------
-- Headers
-- ---------------------------------------------------------------------------

@[simp] theorem length_header (n : Nat) : (header n).length = headerLength := rfl

@[simp] theorem length_wrap (body : List UInt8) :
    (wrap body).length = headerLength + body.length := by
  simp [wrap]

theorem announced_four (a b c d : UInt8) : announced [a, b, c, d] =
    16777216 * a.toNat + 65536 * b.toNat + 256 * c.toNat + d.toNat := by
  simp [announced]
  omega

/-- A length below `2 ^ 32` keeps all its digits in a header. -/
theorem announced_header {n : Nat} (hn : n < 4294967296) : announced (header n) = n := by
  rw [header, announced_four]
  simp only [Nat.toUInt8_eq, UInt8.toNat_ofNat']
  omega

theorem toUInt8_of_toNat {n : Nat} {b : UInt8} (h : n % 256 = b.toNat) : n.toUInt8 = b := by
  apply UInt8.toNat.inj
  simpa using h

theorem header_announced {head : List UInt8} (h : head.length = headerLength) :
    header (announced head) = head := by
  match head, h with
  | [a, b, c, d], _ =>
    have ha := a.toNat_lt
    have hb := b.toNat_lt
    have hc := c.toNat_lt
    have hd := d.toNat_lt
    rw [announced_four, header, toUInt8_of_toNat (b := a) (by omega),
      toUInt8_of_toNat (b := b) (by omega), toUInt8_of_toNat (b := c) (by omega),
      toUInt8_of_toNat (b := d) (by omega)]

theorem limit_lt : limit < 4294967296 := by decide

theorem bodyLength_eq (head : List UInt8) : bodyLength head =
    if limit < announced head then .error (.frameTooLarge (announced head) limit)
    else .ok (announced head) := rfl

theorem bodyLength_take (s : List UInt8) : bodyLength (s.take headerLength) =
    if limit < bodySize s then .error (.frameTooLarge (bodySize s) limit) else .ok (bodySize s) :=
  rfl

theorem encode_eq (m : Message) : encode m =
    if limit < m.encode.length then .error (.frameTooLarge m.encode.length limit)
    else .ok (wrap m.encode) := rfl

-- ---------------------------------------------------------------------------
-- Fronts
-- ---------------------------------------------------------------------------

section
variable {s body rest : List UInt8} {n : Nat}

theorem bodySize_header (small : n ≤ limit) (rest : List UInt8) :
    bodySize (header n ++ rest) = n := by
  rw [bodySize, List.take_left' (length_header n),
    announced_header (Nat.lt_of_le_of_lt small limit_lt)]

theorem front_wrap (small : body.length ≤ limit) (rest : List UInt8) :
    front (wrap body ++ rest) = .whole body rest := by
  have hann : bodySize (wrap body ++ rest) = body.length := by
    rw [wrap, List.append_assoc]
    exact bodySize_header small (body ++ rest)
  have hlen : (wrap body ++ rest).length = headerLength + body.length + rest.length := by simp
  have hbody : ((wrap body ++ rest).drop headerLength).take body.length = body := by
    rw [wrap, List.append_assoc, List.drop_left' (length_header _), List.take_left' rfl]
  have hrest : (wrap body ++ rest).drop (headerLength + body.length) = rest :=
    List.drop_left' (length_wrap body)
  simp only [front, hann, hlen, hbody, hrest]
  rw [if_neg (by omega), if_neg (by omega), if_neg (by omega)]

theorem front_eq_whole :
    front s = .whole body rest ↔ body.length ≤ limit ∧ s = wrap body ++ rest := by
  constructor
  · intro h
    simp only [front] at h
    split at h
    · cases h
    rename_i long
    split at h
    · cases h
    rename_i small
    split at h
    · cases h
    rename_i all
    cases h
    have hhead : (s.take headerLength).length = headerLength := by
      rw [List.length_take]
      omega
    have hbody : ((s.drop headerLength).take (bodySize s)).length = bodySize s := by
      rw [List.length_take, List.length_drop]
      omega
    refine ⟨by omega, ?_⟩
    rw [wrap, hbody, bodySize, header_announced hhead, List.append_assoc, ← List.drop_drop,
      List.take_append_drop, List.take_append_drop]
  · rintro ⟨small, rfl⟩
    exact front_wrap small rest

/-- A frame does not begin another one. -/
theorem wrap_append_eq {other : List UInt8} (small : body.length ≤ limit)
    (fits : other.length < 4294967296) (h : wrap body ++ rest = wrap other) :
    body = other ∧ rest = [] := by
  rw [wrap, wrap, List.append_assoc] at h
  obtain ⟨hhead, hrest⟩ := List.append_inj h rfl
  have hlen : body.length = other.length := by
    have := congrArg announced hhead
    rwa [announced_header (Nat.lt_of_le_of_lt small limit_lt), announced_header fits] at this
  obtain rfl : rest = [] := by
    have := congrArg List.length hrest
    rw [List.length_append] at this
    exact List.eq_nil_of_length_eq_zero (by omega)
  exact ⟨by simpa using hrest, rfl⟩

theorem front_short (h : s.length < headerLength) : front s = .short headerLength := by
  rw [front, if_pos h]

theorem front_oversized (long : headerLength ≤ s.length) (large : limit < bodySize s) :
    front s = .oversized (bodySize s) := by
  rw [front, if_neg (by omega)]
  exact if_pos large

theorem front_cut (long : headerLength ≤ s.length) (small : bodySize s ≤ limit)
    (cut : s.length < headerLength + bodySize s) :
    front s = .short (headerLength + bodySize s) := by
  rw [front, if_neg (by omega)]
  exact (if_neg (by omega)).trans (if_pos cut)

theorem front_all (small : bodySize s ≤ limit) (all : headerLength + bodySize s ≤ s.length) :
    front s = .whole ((s.drop headerLength).take (bodySize s))
      (s.drop (headerLength + bodySize s)) := by
  rw [front, if_neg (by omega)]
  exact (if_neg (by omega)).trans (if_neg (by omega))

theorem front_header (small : n ≤ limit) (cut : rest.length < n) :
    front (header n ++ rest) = .short (headerLength + n) := by
  have hann := bodySize_header small rest
  have h := front_cut (s := header n ++ rest) (by simp) (by rwa [hann]) (by simpa [hann] using cut)
  rwa [hann] at h

theorem decode_front (s : List UInt8) : decode s =
    match front s with
    | .short expected => .error (.incompleteFrame expected s.length)
    | .oversized n => .error (.frameTooLarge n limit)
    | .whole body _ => Message.decode body := by
  simp only [decode, front, bodyLength_take]
  by_cases short : s.length < headerLength
  · simp [short, throw, throwThe, MonadExceptOf.throw, bind, Except.bind]
  by_cases large : limit < bodySize s
  · simp [short, large, bind, Except.bind]
  by_cases cut : s.length < headerLength + bodySize s
  · simp [short, large, cut, throw, throwThe, MonadExceptOf.throw, bind, Except.bind]
  · simp [short, large, cut, bind, Except.bind]

end

-- ---------------------------------------------------------------------------
-- Frames one behind the other
-- ---------------------------------------------------------------------------

/-- The bodies of the frames that a byte string begins with. -/
def bodies (s : List UInt8) : List (List UInt8) :=
  match _h : front s with
  | .whole body rest => body :: bodies rest
  | _ => []
termination_by s.length
decreasing_by
  obtain ⟨-, rfl⟩ := front_eq_whole.mp _h
  simp only [List.length_append, length_wrap, headerLength]
  omega

theorem bodies_wrap {body : List UInt8} (small : body.length ≤ limit) (rest : List UInt8) :
    bodies (wrap body ++ rest) = body :: bodies rest := by
  rw [bodies]
  split
  · rename_i b r h
    rw [front_wrap small rest] at h
    cases h
    rfl
  · rename_i h
    exact absurd (front_wrap small rest) (h _ _)

theorem bodies_short {s : List UInt8} {n : Nat} (h : front s = .short n) : bodies s = [] := by
  rw [bodies]
  split
  · rename_i hw
    rw [h] at hw
    cases hw
  · rfl

/-- What begins a frame and is shorter holds no frame. -/
theorem front_of_prefix {s body : List UInt8} (small : body.length ≤ limit)
    (h : s <+: wrap body) (cut : s.length < (wrap body).length) : ∃ n, front s = .short n := by
  by_cases short : s.length < headerLength
  · exact ⟨_, front_short short⟩
  · obtain ⟨rest, rfl⟩ : header body.length <+: s :=
      List.prefix_of_prefix_length_le (List.prefix_append _ body) h (by simpa using short)
    exact ⟨_, front_header small (by simpa using cut)⟩

/-- What has come of a series of frames holds the first few of them, and all only when nothing is
missing. -/
theorem bodies_of_prefix {s : List UInt8} {all : List (List UInt8)}
    (small : ∀ body ∈ all, body.length ≤ limit) (h : s <+: all.flatMap wrap) :
    bodies s <+: all ∧ ((bodies s).length = all.length → s = all.flatMap wrap) := by
  induction all generalizing s with
  | nil =>
    obtain rfl : s = [] := by simpa using h
    rw [bodies_short (front_short (by decide))]
    simp
  | cons body later ih =>
    rw [List.flatMap_cons] at h
    have hbody := small body List.mem_cons_self
    by_cases cut : s.length < (wrap body).length
    · have hs : s <+: wrap body :=
        List.prefix_of_prefix_length_le h (List.prefix_append _ _) (Nat.le_of_lt cut)
      obtain ⟨n, hn⟩ := front_of_prefix hbody hs cut
      rw [bodies_short hn]
      simp
    · obtain ⟨rest, rfl⟩ : wrap body <+: s :=
        List.prefix_of_prefix_length_le (List.prefix_append _ _) h (by omega)
      have hrest := (List.prefix_append_right_inj (wrap body)).mp h
      obtain ⟨hpre, hall⟩ := ih (fun b hb => small b (List.mem_cons_of_mem _ hb)) hrest
      rw [bodies_wrap hbody, List.flatMap_cons]
      refine ⟨List.prefix_cons_inj body |>.mpr hpre, fun hlen => ?_⟩
      rw [hall (by simpa using hlen)]

/-- What follows never takes back a frame. -/
theorem bodies_append (s rest : List UInt8) : bodies s <+: bodies (s ++ rest) := by
  induction s using bodies.induct with
  | case1 s body later h ih =>
    obtain ⟨small, rfl⟩ := front_eq_whole.mp h
    rw [List.append_assoc, bodies_wrap small, bodies_wrap small]
    exact (List.prefix_cons_inj body).mpr ih
  | case2 s none =>
    rw [bodies]
    split
    · rename_i h
      exact absurd h (none _ _)
    · exact List.nil_prefix

theorem bodies_flatMap {all : List (List UInt8)} (small : ∀ body ∈ all, body.length ≤ limit) :
    bodies (all.flatMap wrap) = all := by
  induction all with
  | nil => exact bodies_short (front_short (by decide))
  | cons body later ih =>
    rw [List.flatMap_cons, bodies_wrap (small body List.mem_cons_self),
      ih fun b hb => small b (List.mem_cons_of_mem _ hb)]

end UsbBridge.Frame
