import UsbBridge.Proofs.Frame.Fronts
import UsbBridge.Socket.Receiver

/-!
# Receiving frames in pieces

A receive call takes the first bytes that are under way, with the descriptors that were sent along
with them; nothing is lost or comes twice (`receive_receives`). What a receiver holds is determined
by the bytes of the frame that it has taken so far (`Reading`), whatever the calls they came with
(`accept_data`, `accept_end`). So on a channel that no more is sent to, receiving comes to what the
front of the bytes under way says (`under_front`).
-/

namespace UsbBridge.Socket

-- ---------------------------------------------------------------------------
-- Receive calls
-- ---------------------------------------------------------------------------

def bytesOf (chunks : List (Chunk α)) : List UInt8 := (chunks.map (·.bytes)).flatten

def rightsOf (chunks : List (Chunk α)) : List α := (chunks.map (·.rights)).flatten

/-- Every chunk has a byte for its descriptors to come with. -/
def Solid (chunks : List (Chunk α)) : Prop := ∀ chunk ∈ chunks, chunk.bytes ≠ []

/-- No chunk has more descriptors than a receive call has room for. -/
def Light (chunks : List (Chunk α)) : Prop := ∀ chunk ∈ chunks, chunk.rights.length ≤ rightsLimit

section
variable {chunk : Chunk α} {xs ys chunks : List (Chunk α)}

@[simp] theorem bytesOf_nil : bytesOf ([] : List (Chunk α)) = [] := rfl

@[simp] theorem bytesOf_cons (chunk : Chunk α) (xs : List (Chunk α)) :
    bytesOf (chunk :: xs) = chunk.bytes ++ bytesOf xs := rfl

@[simp] theorem bytesOf_append (xs ys : List (Chunk α)) :
    bytesOf (xs ++ ys) = bytesOf xs ++ bytesOf ys := by
  simp [bytesOf]

@[simp] theorem rightsOf_nil : rightsOf ([] : List (Chunk α)) = [] := rfl

@[simp] theorem rightsOf_cons (chunk : Chunk α) (xs : List (Chunk α)) :
    rightsOf (chunk :: xs) = chunk.rights ++ rightsOf xs := rfl

@[simp] theorem rightsOf_append (xs ys : List (Chunk α)) :
    rightsOf (xs ++ ys) = rightsOf xs ++ rightsOf ys := by
  simp [rightsOf]

theorem bytes_eq (c : Channel α) : c.bytes = bytesOf c.chunks := rfl

@[simp] theorem solid_nil : Solid ([] : List (Chunk α)) := nofun

theorem solid_cons : Solid (chunk :: xs) ↔ chunk.bytes ≠ [] ∧ Solid xs := List.forall_mem_cons

theorem solid_append : Solid (xs ++ ys) ↔ Solid xs ∧ Solid ys := List.forall_mem_append

theorem light_cons : Light (chunk :: xs) ↔ chunk.rights.length ≤ rightsLimit ∧ Light xs :=
  List.forall_mem_cons

theorem light_append : Light (xs ++ ys) ↔ Light xs ∧ Light ys := List.forall_mem_append

instance (chunks : List (Chunk α)) : Decidable (Solid chunks) :=
  inferInstanceAs (Decidable (∀ chunk ∈ chunks, chunk.bytes ≠ []))

instance (chunks : List (Chunk α)) : Decidable (Light chunks) :=
  inferInstanceAs (Decidable (∀ chunk ∈ chunks, chunk.rights.length ≤ rightsLimit))

theorem Solid.eq_nil (solid : Solid chunks) (h : bytesOf chunks = []) : chunks = [] := by
  cases chunks with
  | nil => rfl
  | cons chunk rest =>
    rw [bytesOf_cons, List.append_eq_nil_iff] at h
    exact absurd h.1 (solid_cons.mp solid).1

structure Gathered (room : Nat) (chunks : List (Chunk α)) (bytes : List UInt8) (rights : List α)
    (left : List (Chunk α)) : Prop where
  allBytes : bytesOf chunks = bytes ++ bytesOf left
  allRights : rightsOf chunks = rights ++ rightsOf left
  fits : bytes.length ≤ room
  progress : 0 < room → bytes ≠ []
  solid : Solid left
  few : Light chunks → rights.length ≤ rightsLimit ∧ Light left

theorem gather_gathered (room : Nat) (solid : Solid chunks) (nonempty : chunks ≠ []) :
    Gathered room chunks (Channel.gather room chunks).1 (Channel.gather room chunks).2.1
      (Channel.gather room chunks).2.2 := by
  induction chunks generalizing room with
  | nil => exact absurd rfl nonempty
  | cons chunk rest ih =>
    obtain ⟨hchunk, hrest⟩ := solid_cons.mp solid
    simp only [Channel.gather]
    split
    · rename_i none
      subst none
      exact ⟨rfl, rfl, Nat.le_refl 0, nofun, solid, fun light => ⟨Nat.zero_le _, light⟩⟩
    rename_i hroom
    split
    · rename_i part
      refine ⟨?_, by simp, ?_, ?_, ?_, ?_⟩
      · simp [← List.append_assoc]
      · exact List.length_take_le _ _
      · intro _ hnil
        rw [List.take_eq_nil_iff] at hnil
        exact hnil.elim hroom hchunk
      · exact solid_cons.mpr ⟨by simpa using part, hrest⟩
      · intro light
        exact ⟨(light_cons.mp light).1, light_cons.mpr ⟨Nat.zero_le _, (light_cons.mp light).2⟩⟩
    rename_i all
    split
    · rename_i plain
      have hplain : chunk.rights = [] := List.isEmpty_iff.mp plain
      by_cases last : rest = []
      · subst last
        refine ⟨by simp [Channel.gather], by simp [Channel.gather, hplain], ?_, ?_, ?_, ?_⟩
        · simp [Channel.gather]
          omega
        · simp [Channel.gather, hchunk]
        · simp [Channel.gather]
        · intro _
          simp [Channel.gather, Light]
      · have h := ih (room - chunk.bytes.length) hrest last
        refine ⟨?_, ?_, ?_, ?_, h.solid, fun light => h.few (light_cons.mp light).2⟩
        · rw [bytesOf_cons, h.allBytes, List.append_assoc]
        · rw [rightsOf_cons, h.allRights, hplain, List.nil_append]
        · have := h.fits
          rw [List.length_append]
          omega
        · intro _
          simp [hchunk]
    · exact ⟨rfl, rfl, Nat.le_of_not_lt all, fun _ => hchunk, hrest, light_cons.mp⟩

inductive Receives (c : Channel α) (room : Nat) : Readiness α × Channel α → Prop
  | blocked (empty : c.chunks = []) (going : c.sending = true) : Receives c room (.blocked, c)
  | ended (empty : c.chunks = []) (shut : c.sending = false) :
      Receives c room (.ready .endOfFile, c)
  | data {bytes rights left} (h : Gathered room c.chunks bytes rights left) :
      Receives c room (.ready (.data bytes rights), { c with chunks := left })
  | overflow {bytes rights left} (h : Gathered room c.chunks bytes rights left)
      (many : rightsLimit < rights.length) :
      Receives c room (.ready (.overflow (rights.take rightsLimit)), { c with chunks := left })

theorem receive_receives (c : Channel α) (room : Nat) (solid : Solid c.chunks) :
    Receives c room (c.receive room) := by
  unfold Channel.receive
  split
  · rename_i empty
    cases going : c.sending with
    | true => exact .blocked empty going
    | false => exact .ended empty going
  · rename_i chunk rest hc
    have h := gather_gathered room solid (by simp [hc])
    simp only
    split
    · rename_i many
      exact .overflow h many
    · exact .data h

end

-- ---------------------------------------------------------------------------
-- A receiver in the middle of a frame
-- ---------------------------------------------------------------------------

open UsbBridge.Frame (wrap header headerLength limit front)

namespace Receiver

/-- The receiver has taken these bytes of a frame, and no whole part of it is left to deal with. -/
inductive Reading (r : Receiver α) : List UInt8 → Prop
  | header (phase : r.bodyLength? = none) (short : r.bytes.length < headerLength) :
      Reading r r.bytes
  | body {n : Nat} (phase : r.bodyLength? = some n) (small : n ≤ limit)
      (short : r.bytes.length < n) : Reading r (header n ++ r.bytes)

/-- What the first bytes of a frame come to once they have been taken with these descriptors. -/
inductive Accepts (taken : List UInt8) (rights : List α) : Progress α → Prop
  | reading {r : Receiver α} (h : Reading r taken) (all : r.rights = rights) :
      Accepts taken rights (.reading r)
  | message {m : Message} {body : List UInt8} (whole : taken = wrap body)
      (small : body.length ≤ limit) (ok : Message.decode body = .ok m) :
      Accepts taken rights (.done (.message m rights) [])
  | malformed {e : ProtocolError} {body : List UInt8} (whole : taken = wrap body)
      (small : body.length ≤ limit) (bad : Message.decode body = .error e) :
      Accepts taken rights (.done (.failed (.protocol e)) rights)
  | oversized (head : taken.length = headerLength) (large : limit < Frame.announced taken) :
      Accepts taken rights
        (.done (.failed (.protocol (.frameTooLarge (Frame.announced taken) limit))) rights)

section
variable {r : Receiver α} {taken bytes : List UInt8} {rights : List α} {n : Nat}

theorem reading_start : Reading (start : Receiver α) [] := .header rfl (Nat.zero_lt_succ 3)

theorem Reading.wanted_pos (h : Reading r taken) : 0 < r.wanted := by
  cases h with
  | header phase short =>
    simp only [wanted, phase, Option.getD_none]
    omega
  | body phase small short =>
    simp only [wanted, phase, Option.getD_some]
    omega

theorem Reading.front (h : Reading r taken) : ∃ expected, front taken = .short expected := by
  cases h with
  | header phase short => exact ⟨_, Frame.front_short short⟩
  | body phase small short => exact ⟨_, Frame.front_header small short⟩

theorem finish_accepts (hn : r.bytes.length = n) (small : n ≤ limit) :
    Accepts (header n ++ r.bytes) r.rights r.finish := by
  have whole : header n ++ r.bytes = wrap r.bytes := by rw [wrap, hn]
  unfold finish
  cases hd : Message.decode r.bytes with
  | ok m => exact .message whole (by omega) hd
  | error e => exact .malformed whole (by omega) hd

theorem advance_header (phase : r.bodyLength? = none) (room : r.bytes.length ≤ headerLength) :
    Accepts r.bytes r.rights r.advance := by
  have hw : r.wanted = headerLength - r.bytes.length := by simp [wanted, phase]
  unfold advance
  split
  · exact .reading (.header phase (by omega)) rfl
  · have hlen : r.bytes.length = headerLength := by omega
    have hhead := Frame.header_announced hlen
    simp only [phase, Frame.bodyLength_eq]
    by_cases large : limit < Frame.announced r.bytes
    · simp only [large, if_true]
      exact .oversized hlen large
    · have small := Nat.le_of_not_lt large
      simp only [large, if_false]
      split
      · rename_i empty
        have h := finish_accepts (r := ⟨some (Frame.announced r.bytes), [], r.rights⟩)
          (n := Frame.announced r.bytes) (by simp [empty]) small
        rwa [hhead, List.append_nil] at h
      · rename_i nonempty
        have h : Reading (⟨some (Frame.announced r.bytes), [], r.rights⟩ : Receiver α)
            (header (Frame.announced r.bytes) ++ []) :=
          .body rfl small (Nat.pos_of_ne_zero nonempty)
        rw [hhead, List.append_nil] at h
        exact .reading h rfl

theorem advance_body (phase : r.bodyLength? = some n) (small : n ≤ limit)
    (room : r.bytes.length ≤ n) : Accepts (header n ++ r.bytes) r.rights r.advance := by
  have hw : r.wanted = n - r.bytes.length := by simp [wanted, phase]
  unfold advance
  split
  · exact .reading (.body phase small (by omega)) rfl
  · simp only [phase]
    exact finish_accepts (by omega) small

/-- Bytes are as good as if they had come with the ones before. -/
theorem accept_data (h : Reading r taken) (fits : bytes.length ≤ r.wanted) (rights : List α) :
    Accepts (taken ++ bytes) (r.rights ++ rights) (r.accept (.data bytes rights)) := by
  cases h with
  | header phase short =>
    refine advance_header (r := ⟨r.bodyLength?, r.bytes ++ bytes, r.rights ++ rights⟩) phase ?_
    simp only [wanted, phase, Option.getD_none] at fits
    simp only [List.length_append]
    omega
  | body phase small short =>
    rw [List.append_assoc]
    refine advance_body (r := ⟨r.bodyLength?, r.bytes ++ bytes, r.rights ++ rights⟩) phase small ?_
    simp only [wanted, phase, Option.getD_some] at fits
    simp only [List.length_append]
    omega

/-- The end is clean only between two frames. -/
theorem accept_end (h : Reading r taken) : r.accept .endOfFile =
    .done (if taken = [] then .closed else .failed .connectionClosed) r.rights := by
  cases h with
  | header phase short => cases hb : r.bytes <;> simp [accept, phase, hb, failed]
  | body phase small short => simp [accept, phase, failed, header]

end

-- ---------------------------------------------------------------------------
-- Receiving to the end
-- ---------------------------------------------------------------------------

/-- Goes on with one receive call for each number, of at most so many bytes, until there is an
outcome. -/
def under (r : Receiver α) (c : Channel α) : List Nat → Progress α × Channel α
  | [] => (.reading r, c)
  | most :: calls =>
    match r.step? most c with
    | none => (.reading r, c)
    | some (.reading r, c) => r.under c calls
    | some (.done outcome closed, c) => (.done outcome closed, c)

/-- `run` makes calls for as much as it wants. -/
theorem go_under (n : Nat) (r : Receiver α) (c : Channel α) :
    ∃ calls, calls.length = n ∧ (∀ most ∈ calls, 0 < most) ∧ run.go n r c = r.under c calls := by
  induction n generalizing r c with
  | zero => exact ⟨[], rfl, nofun, rfl⟩
  | succ n ih =>
    have same : r.step? (max r.wanted 1) c = r.step? r.wanted c := by
      have : min (max r.wanted 1) r.wanted = min r.wanted r.wanted := by omega
      rw [step?, step?, this]
    have pos : 0 < max r.wanted 1 := by omega
    simp only [run.go]
    cases hs : r.step? r.wanted c with
    | none =>
      refine ⟨max r.wanted 1 :: List.replicate n 1, by simp, ?_, by simp [under, same, hs]⟩
      simp only [List.mem_cons, List.mem_replicate]
      omega
    | some p =>
      obtain ⟨progress, d⟩ := p
      cases progress with
      | reading q =>
        obtain ⟨calls, hlen, hpos, hgo⟩ := ih q d
        refine ⟨max r.wanted 1 :: calls, by simp [hlen], ?_, by simp [under, same, hs, hgo]⟩
        exact List.forall_mem_cons.mpr ⟨pos, hpos⟩
      | done outcome closed =>
        refine ⟨max r.wanted 1 :: List.replicate n 1, by simp, ?_, by simp [under, same, hs]⟩
        simp only [List.mem_cons, List.mem_replicate]
        omega

end Receiver

def Outcome.result : Outcome α → Except BridgeError (Option Message)
  | .message m _ => .ok (some m)
  | .closed => .ok none
  | .failed e => .error e

def resultOf : Except ProtocolError Message → Except BridgeError (Option Message)
  | .ok m => .ok (some m)
  | .error e => .error (.protocol e)

/-- What receiving comes to when these bytes are all there will be, and the bytes it leaves. -/
def expected (s : List UInt8) : Except BridgeError (Option Message) × List UInt8 :=
  match front s with
  | .short _ => (if s = [] then .ok none else .error .connectionClosed, [])
  | .oversized n => (.error (.protocol (.frameTooLarge n limit)), s.drop headerLength)
  | .whole body rest => (resultOf (Message.decode body), rest)

/-- A channel that no more is sent to, with chunks as senders make them. -/
structure Channel.Finished (c : Channel α) : Prop where
  shut : c.sending = false
  solid : Solid c.chunks
  light : Light c.chunks

namespace Receiver

section
variable {r q : Receiver α} {c d : Channel α} {taken : List UInt8} {rights closed : List α}
variable {delivery : Delivery α} {outcome : Outcome α} {most : Nat} {calls : List Nat}

theorem step?_eq (h : c.receive (min most r.wanted) = (.ready delivery, d)) :
    r.step? most c = some (r.accept delivery, d) := by
  rw [step?, h]

theorem under_reading (h : r.step? most c = some (.reading q, d)) :
    r.under c (most :: calls) = q.under d calls := by
  rw [under, h]

theorem under_done (h : r.step? most c = some (.done outcome closed, d)) :
    r.under c (most :: calls) = (.done outcome closed, d) := by
  rw [under, h]

theorem Reading.expected (h : Reading r taken) : expected taken =
    (if taken = [] then .ok none else .error .connectionClosed, []) := by
  obtain ⟨n, hn⟩ := h.front
  rw [Socket.expected, hn]

/-- An outcome is final: it does not depend on what follows, and leaves it alone. -/
theorem Accepts.expected (h : Accepts taken rights (.done outcome closed)) (rest : List UInt8) :
    expected (taken ++ rest) = (outcome.result, rest) := by
  cases h with
  | message whole small ok =>
    rw [whole, Socket.expected, Frame.front_wrap small]
    simp [Outcome.result, resultOf, ok]
  | malformed whole small bad =>
    rw [whole, Socket.expected, Frame.front_wrap small]
    simp [Outcome.result, resultOf, bad]
  | oversized head large =>
    have hsize : Frame.bodySize (taken ++ rest) = Frame.announced taken := by
      rw [Frame.bodySize, List.take_left' head]
    have hfront := Frame.front_oversized (s := taken ++ rest)
      (by rw [List.length_append]; omega) (by rwa [hsize])
    rw [Socket.expected, hfront, hsize, List.drop_left' head]
    rfl

/-- On a channel with nothing more to come a receiver has an outcome once it has made more calls
than there are bytes, and what it was given so far counts as if it were still under way. -/
theorem under_front (h : Reading r taken) (hc : c.Finished) (positive : ∀ most ∈ calls, 0 < most)
    (enough : c.bytes.length < calls.length) :
    ∃ outcome closed d, r.under c calls = (.done outcome closed, d) ∧ d.Finished ∧
      Socket.expected (taken ++ c.bytes) = (outcome.result, d.bytes) := by
  induction calls generalizing r c taken with
  | nil => simp at enough
  | cons most calls ih =>
    obtain ⟨hmost, positive⟩ := List.forall_mem_cons.mp positive
    have room : 0 < min most r.wanted := by
      have := h.wanted_pos
      omega
    have hr := receive_receives c (min most r.wanted) hc.solid
    generalize hreceive : c.receive (min most r.wanted) = p at hr
    cases hr with
    | blocked empty going => simp [hc.shut] at going
    | ended empty shut =>
      have none : c.bytes = [] := by simp [bytes_eq, empty]
      refine ⟨_, _, c, under_done (by rw [step?_eq hreceive, accept_end h]), hc, ?_⟩
      rw [none, List.append_nil, h.expected]
      split <;> rfl
    | @data bytes rights left g =>
      obtain ⟨few, light⟩ := g.few hc.light
      have hd : Channel.Finished { c with chunks := left } := ⟨hc.shut, g.solid, light⟩
      have hs : taken ++ c.bytes = (taken ++ bytes) ++ bytesOf left := by
        rw [bytes_eq, g.allBytes, List.append_assoc]
      have hstep := step?_eq hreceive
      have ha := accept_data h (Nat.le_trans g.fits (Nat.min_le_right _ _)) rights
      generalize r.accept (.data bytes rights) = progress at ha hstep
      rw [hs]
      cases progress with
      | reading q =>
        obtain ⟨hq, -⟩ := ha
        have fewer : (bytesOf left).length < calls.length := by
          have := List.length_pos_iff.mpr (g.progress room)
          rw [bytes_eq, g.allBytes, List.length_append, List.length_cons] at enough
          omega
        obtain ⟨outcome, closed, d, hunder, h⟩ := ih hq hd positive fewer
        exact ⟨outcome, closed, d, by rw [under_reading hstep, hunder], h⟩
      | done outcome closed =>
        exact ⟨outcome, closed, _, under_done hstep, hd, ha.expected (bytesOf left)⟩
    | overflow g many =>
      have := (g.few hc.light).1
      omega

end

end Receiver

end UsbBridge.Socket
