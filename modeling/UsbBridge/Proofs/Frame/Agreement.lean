import UsbBridge.Frame.Stream
import UsbBridge.Proofs.Socket.Receiving

/-!
# Three readers of frames

A frame is read from memory, from a blocking stream or from a socket. All three go by the front of
the bytes there are, whatever pieces these come in (`decode_front`, `next_front`,
`Receiver.under_front`), so they agree on every byte string, and reading on gives the bodies of a
series of frames in their order, whether or not they can be decoded (`readers_agree`).
-/

namespace UsbBridge

namespace Frame

-- ---------------------------------------------------------------------------
-- Blocking streams
-- ---------------------------------------------------------------------------

def endOfSource : ProtocolError := .io "failed to fill whole buffer"

theorem fill_eq (room : Nat) (taken : List (List UInt8)) (source : Source) :
    (source.fill room taken).1 = taken.reverse.flatten ++ source.flatten.take room ∧
      (source.fill room taken).2.flatten = source.flatten.drop room := by
  induction source generalizing room taken with
  | nil => simp [Source.fill]
  | cons piece rest ih =>
    rw [Source.fill]
    split
    · rename_i all
      obtain ⟨hbytes, hrest⟩ := ih (room - piece.length) (piece :: taken)
      refine ⟨?_, ?_⟩
      · rw [hbytes, List.flatten_cons, List.take_append, List.take_of_length_le all]
        simp
      · rw [hrest, List.flatten_cons, List.drop_append, List.drop_of_length_le all,
          List.nil_append]
    · rename_i part
      have hpart : room ≤ piece.length := Nat.le_of_not_le part
      refine ⟨?_, ?_⟩
      · rw [List.flatten_cons, List.take_append_of_le_length hpart]
        simp
      · rw [List.flatten_cons, List.flatten_cons, List.drop_append_of_le_length hpart]

theorem readExact_short {n : Nat} {source : Source} (h : source.flatten.length < n) :
    (source.readExact n).1 = .error endOfSource ∧ (source.readExact n).2.flatten = [] := by
  obtain ⟨hbytes, hrest⟩ := fill_eq n [] source
  have hlen : (source.fill n []).1.length ≠ n := by
    rw [hbytes, List.reverse_nil, List.flatten_nil, List.nil_append, List.length_take]
    omega
  rw [List.drop_of_length_le (Nat.le_of_lt h)] at hrest
  simp [Source.readExact, hlen, hrest, endOfSource]

theorem readExact_enough {n : Nat} {source : Source} (h : n ≤ source.flatten.length) :
    (source.readExact n).1 = .ok (source.flatten.take n) ∧
      (source.readExact n).2.flatten = source.flatten.drop n := by
  obtain ⟨hbytes, hrest⟩ := fill_eq n [] source
  rw [List.reverse_nil, List.flatten_nil, List.nil_append] at hbytes
  have hlen : (source.fill n []).1.length = n := by
    rw [hbytes, List.length_take]
    omega
  simp only [Source.readExact, hlen, if_true]
  exact ⟨congrArg Except.ok hbytes, hrest⟩

/-- What reading from a stream of these bytes comes to, and the bytes it leaves. -/
def blocking (s : List UInt8) : Except ProtocolError Message × List UInt8 :=
  match front s with
  | .short _ => (.error endOfSource, [])
  | .oversized n => (.error (.frameTooLarge n limit), s.drop headerLength)
  | .whole body rest => (Message.decode body, rest)

theorem next_front (source : Source) :
    (source.next.1, source.next.2.flatten) = blocking source.flatten := by
  generalize hs : source.flatten = s
  by_cases short : s.length < headerLength
  · obtain ⟨hresult, hrest⟩ := readExact_short (hs ▸ short)
    generalize hr : source.readExact headerLength = p at hresult hrest
    obtain ⟨result, rest⟩ := p
    obtain rfl : result = .error endOfSource := hresult
    simp [blocking, front_short short, Source.next, hr, hrest]
  have long := Nat.le_of_not_lt short
  obtain ⟨hresult, hrest⟩ := readExact_enough (hs ▸ long)
  generalize hr : source.readExact headerLength = p at hresult hrest
  obtain ⟨result, rest⟩ := p
  rw [hs] at hresult hrest
  obtain rfl : result = .ok (s.take headerLength) := hresult
  by_cases large : limit < bodySize s
  · simp [blocking, front_oversized long large, Source.next, hr, hrest, bodyLength_take, large]
  have small := Nat.le_of_not_lt large
  have hlen : rest.flatten.length = s.length - headerLength := by rw [hrest, List.length_drop]
  by_cases cut : s.length < headerLength + bodySize s
  · obtain ⟨hresult', hrest'⟩ := @readExact_short (bodySize s) rest (by omega)
    generalize hr' : rest.readExact (bodySize s) = p at hresult' hrest'
    obtain ⟨result', rest'⟩ := p
    obtain rfl : result' = .error endOfSource := hresult'
    simp [blocking, front_cut long small cut, Source.next, hr, hr', hrest', bodyLength_take, large]
  · obtain ⟨hresult', hrest'⟩ := @readExact_enough (bodySize s) rest (by omega)
    generalize hr' : rest.readExact (bodySize s) = p at hresult' hrest'
    obtain ⟨result', rest'⟩ := p
    rw [hrest] at hresult' hrest'
    obtain rfl : result' = .ok _ := hresult'
    simp [blocking, front_all small (Nat.le_of_not_lt cut), Source.next, hr, hr', hrest',
      bodyLength_take, large]

def Source.nextTimes : Nat → Source → List (Except ProtocolError Message)
  | 0, _ => []
  | n + 1, source => source.next.1 :: nextTimes n source.next.2

theorem nextTimes_empty (k : Nat) {source : Source} (h : source.flatten = []) :
    source.nextTimes k = List.replicate k (.error endOfSource) := by
  induction k generalizing source with
  | zero => rfl
  | succ k ih =>
    have hnext := next_front source
    rw [h, blocking, front_short (by decide)] at hnext
    obtain ⟨hresult, hrest⟩ := Prod.mk.inj hnext
    rw [Source.nextTimes, List.replicate_succ, hresult, ih hrest]

/-- After whole frames and what is no frame, there is nothing but the end. -/
theorem nextTimes_cut {all : List (List UInt8)} (small : ∀ body ∈ all, body.length ≤ limit)
    {tail : List UInt8} {n : Nat} (cut : front tail = .short n) (k : Nat) {source : Source}
    (h : source.flatten = all.flatMap wrap ++ tail) :
    source.nextTimes (all.length + k) =
      all.map Message.decode ++ List.replicate k (.error endOfSource) := by
  induction all generalizing source with
  | nil =>
    cases k with
    | zero => rfl
    | succ k =>
      have hnext := next_front source
      rw [h, List.flatMap_nil, List.nil_append, blocking, cut] at hnext
      obtain ⟨hresult, hrest⟩ := Prod.mk.inj hnext
      rw [List.length_nil, Nat.zero_add, Source.nextTimes, hresult, nextTimes_empty k hrest]
      rfl
  | cons body later ih =>
    have hnext := next_front source
    rw [h, List.flatMap_cons, List.append_assoc, blocking,
      front_wrap (small body List.mem_cons_self)] at hnext
    obtain ⟨hresult, hrest⟩ := Prod.mk.inj hnext
    rw [List.length_cons, Nat.succ_add, Source.nextTimes, hresult,
      ih (fun b hb => small b (List.mem_cons_of_mem _ hb)) hrest, List.map_cons, List.cons_append]

theorem nextTimes_wrap {all : List (List UInt8)} (small : ∀ body ∈ all, body.length ≤ limit)
    (k : Nat) {source : Source} (h : source.flatten = all.flatMap wrap) :
    source.nextTimes (all.length + k) =
      all.map Message.decode ++ List.replicate k (.error endOfSource) :=
  nextTimes_cut small (front_short (s := []) (by decide)) k (by rw [h, List.append_nil])

end Frame

-- ---------------------------------------------------------------------------
-- Sockets
-- ---------------------------------------------------------------------------

namespace Socket

open UsbBridge.Frame (wrap limit)

/-- Receives a message with receive calls of at most so many bytes each. -/
def Channel.receiveUnder (c : Channel α) (calls : List Nat) : Option (Outcome α) × Channel α :=
  match Receiver.start.under c calls with
  | (.done outcome _, c) => (some outcome, c)
  | (.reading _, c) => (none, c)

def Channel.receiveTimes : Nat → (Nat → List Nat) → Channel α → List (Option (Outcome α))
  | 0, _, _ => []
  | n + 1, calls, c =>
    (c.receiveUnder (calls 0)).1 ::
      receiveTimes n (fun i => calls (i + 1)) (c.receiveUnder (calls 0)).2

/-- More receive calls than there are bytes, each for a byte at least. -/
def Ample (s : List UInt8) (calls : List Nat) : Prop :=
  s.length < calls.length ∧ ∀ most ∈ calls, 0 < most

section
variable {c : Channel α}

theorem receiveUnder_expected (hc : c.Finished) {calls : List Nat} (ample : Ample c.bytes calls) :
    (c.receiveUnder calls).2.Finished ∧
      (c.receiveUnder calls).1.map Outcome.result = some (expected c.bytes).1 ∧
      (c.receiveUnder calls).2.bytes = (expected c.bytes).2 := by
  obtain ⟨outcome, closed, d, hunder, hd, h⟩ :=
    Receiver.under_front Receiver.reading_start hc ample.2 ample.1
  rw [List.nil_append] at h
  simp [Channel.receiveUnder, hunder, hd, h]

theorem Ample.mono {s t : List UInt8} {calls : List Nat} (h : Ample s calls)
    (fewer : t.length ≤ s.length) : Ample t calls :=
  ⟨Nat.lt_of_le_of_lt fewer h.1, h.2⟩

/-- `receiveMessage` is one way to make the calls. -/
theorem receiveMessage_under (c : Channel α) :
    ∃ calls, Ample c.bytes calls ∧ c.receiveMessage = c.receiveUnder calls := by
  obtain ⟨calls, hlen, hpos, hgo⟩ := Receiver.go_under (c.size + 1) .start c
  have hsize : c.size = c.bytes.length := by
    simp [Channel.size, Channel.bytes, List.length_flatten, List.sum, List.foldr_map]
  refine ⟨calls, ⟨by omega, hpos⟩, ?_⟩
  have hrun : Receiver.start.run c = Receiver.start.under c calls := hgo
  rcases hp : Receiver.start.under c calls with ⟨progress, d⟩
  cases progress <;> simp [Channel.receiveMessage, Channel.receiveUnder, hrun, hp]

theorem expected_nil : expected [] = (.ok none, []) := by
  rw [expected, Frame.front_short (by decide)]
  rfl

theorem expected_wrap {body : List UInt8} (small : body.length ≤ limit) (rest : List UInt8) :
    expected (wrap body ++ rest) = (resultOf (Message.decode body), rest) := by
  rw [expected, Frame.front_wrap small]

theorem receiveTimes_empty (k : Nat) (hc : c.Finished) (h : c.bytes = [])
    {calls : Nat → List Nat} (ample : ∀ i, Ample [] (calls i)) :
    (c.receiveTimes k calls).map (·.map Outcome.result) =
      List.replicate k (some (.ok none)) := by
  induction k generalizing c calls with
  | zero => rfl
  | succ k ih =>
    obtain ⟨hd, hresult, hbytes⟩ := receiveUnder_expected hc ((ample 0).mono (by simp [h]))
    rw [h, expected_nil] at hresult hbytes
    rw [Channel.receiveTimes, List.map_cons, List.replicate_succ, hresult,
      ih hd hbytes fun i => ample (i + 1)]

theorem receiveTimes_wrap {all : List (List UInt8)} (small : ∀ body ∈ all, body.length ≤ limit)
    (k : Nat) (hc : c.Finished) (h : c.bytes = all.flatMap wrap) {calls : Nat → List Nat}
    (ample : ∀ i, Ample (all.flatMap wrap) (calls i)) :
    (c.receiveTimes (all.length + k) calls).map (·.map Outcome.result) =
      all.map (fun body => some (resultOf (Message.decode body))) ++
        List.replicate k (some (.ok none)) := by
  induction all generalizing c calls with
  | nil => simpa using receiveTimes_empty k hc h ample
  | cons body later ih =>
    obtain ⟨hd, hresult, hbytes⟩ := receiveUnder_expected hc ((ample 0).mono (by simp [h]))
    rw [h, List.flatMap_cons, expected_wrap (small body List.mem_cons_self)] at hresult hbytes
    have fewer (i : Nat) : Ample (later.flatMap wrap) (calls (i + 1)) :=
      (ample (i + 1)).mono (by rw [List.flatMap_cons, List.length_append]; omega)
    rw [List.length_cons, Nat.succ_add, Channel.receiveTimes, List.map_cons, hresult,
      ih (fun b hb => small b (List.mem_cons_of_mem _ hb)) hd hbytes fewer, List.map_cons,
      List.cons_append]

end

end Socket

-- ---------------------------------------------------------------------------
-- The three of them
-- ---------------------------------------------------------------------------

open UsbBridge.Frame UsbBridge.Socket in
/-- Of the same bytes in memory, in the pieces of a stream and on a socket: what is read. -/
structure Agreement (s : List UInt8) (source : Source) (c : Channel α) (calls : Nat → List Nat) :
    Prop where
  /-- There is no whole header. -/
  headless : s.length < headerLength →
    decode s = .error (.incompleteFrame headerLength s.length) ∧
      source.next.1 = .error endOfSource ∧
      (c.receiveUnder (calls 0)).1.map Outcome.result =
        some (if s = [] then .ok none else .error .connectionClosed)
  /-- The header announces more than there may be. -/
  oversized : headerLength ≤ s.length → limit < bodySize s →
    decode s = .error (.frameTooLarge (bodySize s) limit) ∧
      source.next.1 = .error (.frameTooLarge (bodySize s) limit) ∧
      (c.receiveUnder (calls 0)).1.map Outcome.result =
        some (.error (.protocol (.frameTooLarge (bodySize s) limit)))
  /-- The header announces more than there is. -/
  cut : headerLength ≤ s.length → bodySize s ≤ limit → s.length < headerLength + bodySize s →
    decode s = .error (.incompleteFrame (headerLength + bodySize s) s.length) ∧
      source.next.1 = .error endOfSource ∧
      (c.receiveUnder (calls 0)).1.map Outcome.result = some (.error .connectionClosed)
  /-- The frame is read and nothing behind it, even if the body is malformed. -/
  whole : bodySize s ≤ limit → headerLength + bodySize s ≤ s.length →
    decode s = Message.decode ((s.drop headerLength).take (bodySize s)) ∧
      source.next.1 = decode s ∧
      (c.receiveUnder (calls 0)).1.map Outcome.result = some (resultOf (decode s)) ∧
      source.next.2.flatten = s.drop (headerLength + bodySize s) ∧
      (c.receiveUnder (calls 0)).2.bytes = s.drop (headerLength + bodySize s)
  /-- How many bytes a receive call asks for makes no difference. -/
  plainly : c.receiveMessage.1.map Outcome.result =
      (c.receiveUnder (calls 0)).1.map Outcome.result ∧
    c.receiveMessage.2.bytes = (c.receiveUnder (calls 0)).2.bytes
  /-- Frames in a row are read as what their bodies are, and then there is nothing but the end. -/
  series : ∀ (bodies : List (List UInt8)) (k : Nat), (∀ body ∈ bodies, body.length ≤ limit) →
    s = bodies.flatMap (fun body => header body.length ++ body) →
    source.nextTimes (bodies.length + k) =
        bodies.map Message.decode ++ List.replicate k (.error endOfSource) ∧
      (c.receiveTimes (bodies.length + k) calls).map (·.map Outcome.result) =
        bodies.map (fun body => some (resultOf (Message.decode body))) ++
          List.replicate k (some (.ok none))

open UsbBridge.Frame in
/-- A message is written exactly when its body is within the limit, and the header says how long
the body is. -/
structure Framing (m : Message) : Prop where
  within : m.encode.length ≤ limit → ∃ head, encode m = .ok (head ++ m.encode) ∧
    head.length = headerLength ∧ announced head = m.encode.length
  beyond : limit < m.encode.length → encode m = .error (.frameTooLarge m.encode.length limit)

namespace Frame

open Socket

theorem framing (m : Message) : Framing m where
  within small := ⟨header m.encode.length, by rw [encode_eq, if_neg (Nat.not_lt.mpr small), wrap],
    rfl, announced_header (Nat.lt_of_le_of_lt small limit_lt)⟩
  beyond large := by rw [encode_eq, if_pos large]

/-- Of a byte string that ends there, in any pieces and under any receive calls. -/
theorem readers_agree {s : List UInt8} {source : Source} {c : Channel α} {calls : Nat → List Nat}
    (pieces : source.flatten = s) (chunks : c.bytes = s) (finished : c.Finished)
    (ample : ∀ i, Ample s (calls i)) : Agreement s source c calls ∧ ∀ m, Framing m := by
  have memory := decode_front s
  have stream := next_front source
  obtain ⟨-, received, left⟩ := receiveUnder_expected finished (chunks ▸ ample 0)
  rw [pieces, blocking] at stream
  rw [chunks, expected] at received left
  refine ⟨⟨?_, ?_, ?_, ?_, ?_, ?_⟩, framing⟩
  · intro short
    rw [front_short short] at memory stream received
    exact ⟨memory, (Prod.mk.inj stream).1, received⟩
  · intro long large
    rw [front_oversized long large] at memory stream received
    exact ⟨memory, (Prod.mk.inj stream).1, received⟩
  · intro long small short
    have hs : s ≠ [] := List.length_pos_iff.mp (Nat.lt_of_lt_of_le (by decide) long)
    rw [front_cut long small short] at memory stream received
    exact ⟨memory, (Prod.mk.inj stream).1, by simpa [hs] using received⟩
  · intro small all
    rw [front_all small all] at memory stream received left
    obtain ⟨hresult, hrest⟩ := Prod.mk.inj stream
    rw [memory]
    exact ⟨rfl, hresult, received, hrest, left⟩
  · obtain ⟨plain, ample', hplain⟩ := receiveMessage_under c
    obtain ⟨-, received', left'⟩ := receiveUnder_expected finished ample'
    rw [chunks, expected] at received' left'
    rw [hplain, received, received', left, left']
    exact ⟨rfl, rfl⟩
  · rintro bodies k small rfl
    exact ⟨nextTimes_wrap small k pieces, receiveTimes_wrap small k finished chunks ample⟩

/-- Two frames, the first with a body that is no message. On the socket its header comes in two
pieces, and a descriptor with the second frame; each receive call asks for three bytes. -/
theorem two_frames_agree :
    Agreement [0, 0, 0, 1, 7, 0, 0, 0, 4, 1, 0, 0, 6]
      [[0, 0], [0, 1, 7, 0, 0, 0], [4, 1, 0, 0, 6]]
      (⟨[⟨[0, 0, 0], []⟩, ⟨[1, 7], []⟩, ⟨[0, 0, 0, 4, 1, 0, 0, 6], [17]⟩], false, true⟩ :
        Channel Nat)
      (fun _ => List.replicate 14 3) :=
  And.left (readers_agree rfl rfl ⟨rfl, by decide, by decide⟩ fun _ => ⟨by decide, by decide⟩)

end Frame

end UsbBridge
