import UsbBridge.Proofs.Frame.Agreement
import UsbBridge.Proofs.Wire.Sizes

/-!
# Frames in a buffer of fixed size

Messages that are written one after the other fill a buffer with their frames, as far as there is
room; one without a frame leaves no trace (`written_writeAll`). A frame that was cut off is followed
by nothing, and reads as the end. So whoever reads the buffer gets the messages whose writing went
well, and no others (`writes_reported`).
-/

namespace UsbBridge.Frame

/-- The frames of the messages that have one, one behind the other. -/
def framesOf (ms : List Message) : List UInt8 :=
  (ms.filterMap fun m => (encode m).toOption).flatten

def accepted (ms : List Message) (results : List (Except ProtocolError Unit × Nat)) :
    List Message :=
  (ms.zip results).filterMap fun (m, result, _) => result.toOption.map fun _ => m

def endOfSink : ProtocolError := .io "failed to write whole buffer"

/-- What becomes of a message behind others in a buffer with room for so many bytes. -/
def verdict (room : Nat) (before : List Message) (m : Message) : Except ProtocolError Unit :=
  if limit < m.encode.length then .error (.frameTooLarge m.encode.length limit)
  else if (framesOf (before ++ [m])).length ≤ room then .ok ()
  else .error endOfSink

section
variable {m : Message} {ms : List Message} {sink : Sink}

-- ---------------------------------------------------------------------------
-- One message
-- ---------------------------------------------------------------------------

theorem framesOf_append (xs ys : List Message) :
    framesOf (xs ++ ys) = framesOf xs ++ framesOf ys := by
  simp [framesOf]

theorem framesOf_large (large : limit < m.encode.length) (ms : List Message) :
    framesOf (m :: ms) = framesOf ms := by
  simp [framesOf, encode_eq, large, Except.toOption]

theorem framesOf_small (small : m.encode.length ≤ limit) (ms : List Message) :
    framesOf (m :: ms) = wrap m.encode ++ framesOf ms := by
  simp [framesOf, encode_eq, Nat.not_lt.mpr small, Except.toOption]

theorem write_large (large : limit < m.encode.length) (sink : Sink) :
    sink.write m = (.error (.frameTooLarge m.encode.length limit), sink) := by
  rw [Sink.write, encode_eq, if_pos large]

theorem write_small (small : m.encode.length ≤ limit) (sink : Sink) :
    sink.write m =
      if (wrap m.encode).length ≤ sink.room then
        (.ok (), ⟨sink.written ++ wrap m.encode, sink.room - (wrap m.encode).length⟩)
      else (.error endOfSink, ⟨sink.written ++ (wrap m.encode).take sink.room, 0⟩) := by
  rw [Sink.write, encode_eq, if_neg (Nat.not_lt.mpr small)]
  rfl

-- ---------------------------------------------------------------------------
-- One message after the other
-- ---------------------------------------------------------------------------

theorem writeAll_cons (sink : Sink) (m : Message) (ms : List Message) :
    sink.writeAll (m :: ms) =
      (((sink.write m).1, (sink.write m).2.written.length) :: ((sink.write m).2.writeAll ms).1,
        ((sink.write m).2.writeAll ms).2) := rfl

theorem written_writeAll (sink : Sink) (ms : List Message) :
    (sink.writeAll ms).2 =
      ⟨sink.written ++ (framesOf ms).take sink.room, sink.room - (framesOf ms).length⟩ := by
  induction ms generalizing sink with
  | nil => simp [Sink.writeAll, framesOf]
  | cons m ms ih =>
    rw [writeAll_cons, ih]
    by_cases large : limit < m.encode.length
    · rw [write_large large, framesOf_large large]
    have small := Nat.le_of_not_lt large
    rw [write_small small, framesOf_small small, List.take_append, List.length_append]
    split
    · rename_i fits
      rw [List.take_of_length_le fits, List.append_assoc, Nat.sub_sub]
    · rename_i cut
      have full : sink.room - (wrap m.encode).length = 0 := by omega
      rw [← Nat.sub_sub, full, List.take_zero, List.append_nil, Nat.zero_sub]
      simp

theorem length_writeAll (sink : Sink) (ms : List Message) :
    (sink.writeAll ms).1.length = ms.length := by
  induction ms generalizing sink with
  | nil => rfl
  | cons m ms ih => rw [writeAll_cons, List.length_cons, ih, List.length_cons]

theorem writeAll_append (sink : Sink) (xs ys : List Message) :
    sink.writeAll (xs ++ ys) = ((sink.writeAll xs).1 ++ ((sink.writeAll xs).2.writeAll ys).1,
      ((sink.writeAll xs).2.writeAll ys).2) := by
  induction xs generalizing sink with
  | nil => rfl
  | cons m xs ih => simp only [List.cons_append, writeAll_cons, ih]

theorem getElem?_writeAll (room : Nat) (before : List Message) (m : Message)
    (after : List Message) :
    ((Sink.mk [] room).writeAll (before ++ m :: after)).1[before.length]? =
      some (verdict room before m, min room (framesOf (before ++ [m])).length) := by
  have here := length_writeAll (.mk [] room) before
  rw [writeAll_append, List.getElem?_append_right (Nat.le_of_eq here), here, Nat.sub_self,
    writeAll_cons, written_writeAll, verdict, framesOf_append, List.length_append]
  simp only [List.getElem?_cons_zero, List.nil_append]
  by_cases large : limit < m.encode.length
  · rw [write_large large, framesOf_large large, if_pos large]
    simp [framesOf]
  have small := Nat.le_of_not_lt large
  have whole : (framesOf [m]).length = (wrap m.encode).length := by
    rw [framesOf_small small]
    simp [framesOf]
  have some_ : 0 < (wrap m.encode).length := by
    rw [length_wrap]
    exact Nat.lt_of_lt_of_le (by decide) (Nat.le_add_right headerLength _)
  rw [write_small small, if_neg large, whole]
  dsimp only
  by_cases fits : (framesOf before).length + (wrap m.encode).length ≤ room
  · rw [if_pos (by omega), if_pos fits]
    simp only [List.length_append, List.length_take]
    congr 2
    omega
  · rw [if_neg (by omega), if_neg fits]
    simp only [List.length_append, List.length_take]
    congr 2
    omega

-- ---------------------------------------------------------------------------
-- Reading what was written
-- ---------------------------------------------------------------------------

/-- The frames of these messages, and behind them no frame. -/
structure Holds (bytes : List UInt8) (ms : List Message) : Prop where
  small : ∀ m ∈ ms, m.encode.length ≤ limit
  form : ∃ tail n, bytes = (ms.map (·.encode)).flatMap wrap ++ tail ∧ front tail = .short n

theorem holds_none {bytes : List UInt8} {n : Nat} (cut : front bytes = .short n) :
    Holds bytes [] :=
  ⟨nofun, bytes, n, rfl, cut⟩

theorem Holds.cons {bytes : List UInt8} (holds : Holds bytes ms)
    (small : m.encode.length ≤ limit) : Holds (wrap m.encode ++ bytes) (m :: ms) := by
  obtain ⟨others, tail, n, rfl, cut⟩ := holds
  refine ⟨List.forall_mem_cons.mpr ⟨small, others⟩, tail, n, ?_, cut⟩
  rw [List.map_cons, List.flatMap_cons, List.append_assoc]

theorem Holds.eq_nil (holds : Holds [] ms) : ms = [] := by
  obtain ⟨-, tail, n, form, -⟩ := holds
  cases ms with
  | nil => rfl
  | cons m ms => simp [wrap, header] at form

theorem holds_writeAll (sink : Sink) (ms : List Message) :
    Holds ((framesOf ms).take sink.room) (accepted ms (sink.writeAll ms).1) := by
  induction ms generalizing sink with
  | nil =>
    rw [framesOf, List.filterMap_nil, List.flatten_nil, List.take_nil]
    exact holds_none (front_short (by decide))
  | cons m ms ih =>
    by_cases large : limit < m.encode.length
    · rw [framesOf_large large, writeAll_cons, write_large large]
      exact ih sink
    have small := Nat.le_of_not_lt large
    rw [framesOf_small small, writeAll_cons, write_small small, List.take_append]
    split
    · rename_i fits
      rw [List.take_of_length_le fits]
      exact (ih ⟨_, _⟩).cons small
    · rename_i cut
      -- The buffer is full now, so none of the later ones is written.
      have full : sink.room - (wrap m.encode).length = 0 := by omega
      rw [full, List.take_zero, List.append_nil]
      have later := (ih ⟨sink.written ++ (wrap m.encode).take sink.room, 0⟩).eq_nil
      have part : ((wrap m.encode).take sink.room).length < (wrap m.encode).length := by
        rw [List.length_take]
        omega
      obtain ⟨n, short⟩ := front_of_prefix small (List.take_prefix _ _) part
      have none := holds_none short
      rwa [← later] at none

theorem Holds.read {source : Source} (holds : Holds source.flatten ms) (k : Nat) :
    source.nextTimes (ms.length + k) = ms.map .ok ++ List.replicate k (.error endOfSource) := by
  obtain ⟨small, tail, n, form, cut⟩ := holds
  have bodies : ∀ body ∈ ms.map (·.encode), body.length ≤ limit := by
    rintro body there
    obtain ⟨m, hm, rfl⟩ := List.mem_map.mp there
    exact small m hm
  have decoded : (ms.map (·.encode)).map Message.decode = ms.map .ok := by
    rw [List.map_map]
    exact List.map_congr_left fun m hm => Message.decode_of_small (small m hm)
  have read := nextTimes_cut bodies cut k form
  rwa [decoded, List.length_map] at read

end

/-- Of messages written one after the other, with these results, until the buffer is as it is. -/
structure Reported (room : Nat) (ms : List Message)
    (results : List (Except ProtocolError Unit × Nat)) (buffer : Sink) : Prop where
  /-- As much of the frames as there is room for. -/
  bytes : buffer.written = (framesOf ms).take room
  /-- Each message has its verdict, and by then so much was written. -/
  verdicts : results.length = ms.length ∧ ∀ before m after, ms = before ++ m :: after →
    results[before.length]? =
      some (verdict room before m, min room (framesOf (before ++ [m])).length)
  /-- A message that is too long for a frame is refused, and the buffer left as it was. -/
  large : ∀ m, limit < m.encode.length → ∀ sink : Sink,
    sink.write m = (.error (.frameTooLarge m.encode.length limit), sink)
  /-- Whatever pieces the bytes are read in, the messages that were written come, and the end. -/
  read : ∀ source : Source, source.flatten = buffer.written → ∀ k,
    source.nextTimes ((accepted ms results).length + k) =
      (accepted ms results).map .ok ++ List.replicate k (.error endOfSource)

/-- Of an empty buffer with room for any number of bytes. -/
theorem writes_reported (room : Nat) (ms : List Message) :
    Reported room ms ((Sink.mk [] room).writeAll ms).1 ((Sink.mk [] room).writeAll ms).2 where
  bytes := by rw [written_writeAll, List.nil_append]
  verdicts := by
    refine ⟨length_writeAll _ ms, ?_⟩
    rintro before m after rfl
    exact getElem?_writeAll room before m after
  large m large sink := write_large large sink
  read source pieces k := by
    refine Holds.read ?_ k
    rw [pieces, written_writeAll, List.nil_append]
    exact holds_writeAll (.mk [] room) ms

end UsbBridge.Frame
