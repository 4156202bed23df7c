import UsbBridge.Proofs.Socket.Traffic

/-!
# One message on its way

Where nothing else is on a channel, a frame is in three parts: what the receiver has taken of it,
what is under way and what is not sent yet (`Arriving`). A receive call brings the receiver on, or
it has the whole message with its descriptors and the channel is empty again (`Arriving.step`).
-/

namespace UsbBridge.Socket

open UsbBridge.Frame (wrap limit)
open Receiver (Reading)

/-- A receiver has taken the first part of a frame, the next one is under way, and this is left to
send. -/
structure Arriving (p : Parcel α) (r : Receiver α) (chunks : List (Chunk α))
    (unsent : List (UInt8 × List α)) : Prop where
  small : p.message.encode.length ≤ limit
  solid : Solid chunks
  light : Light chunks
  parts : ∃ taken, taken ++ (marks chunks ++ unsent) = p.frame ∧ Reading r (markedBytes taken) ∧
    r.rights = markedRights taken

inductive Arrives (p : Parcel α) (c : Channel α) (unsent : List (UInt8 × List α)) (most : Nat) :
    Option (Receiver.Progress α × Channel α) → Prop
  | blocked (empty : c.chunks = []) : Arrives p c unsent most none
  | reading {q left} (h : Arriving p q left unsent)
      (fewer : 0 < most → (bytesOf left).length < (bytesOf c.chunks).length) :
      Arrives p c unsent most (some (.reading q, { c with chunks := left }))
  | whole {closed} (all : unsent = []) :
      Arrives p c unsent most (some (.done p.outcome closed, { c with chunks := [] }))

section
variable {p : Parcel α} {r : Receiver α} {c : Channel α} {chunks : List (Chunk α)}
variable {unsent : List (UInt8 × List α)}

theorem Arriving.step (h : Arriving p r c.chunks unsent) (going : c.sending = true) (most : Nat) :
    Arrives p c unsent most (r.step? most c) := by
  obtain ⟨small, solid, light, taken, whole, reading, rights⟩ := h
  by_cases empty : c.chunks = []
  · have same : r.step? most c = none := by simp [Receiver.step?, Channel.receive, empty, going]
    rw [same]
    exact .blocked empty
  · obtain ⟨got, left, received, split, more, fits, solidLeft, lightLeft⟩ :=
      receive_marks (min most r.wanted) solid light empty
    have fits : (markedBytes got).length ≤ r.wanted := by
      rw [length_markedBytes]
      omega
    have accepts := Receiver.accept_data reading fits (markedRights got)
    rw [rights, ← markedRights_append, ← markedBytes_append] at accepts
    rw [split, List.append_assoc, ← List.append_assoc] at whole
    rw [Receiver.step?_eq received]
    generalize r.accept (.data (markedBytes got) (markedRights got)) = progress at accepts
    cases progress with
    | reading q =>
      cases accepts with
      | reading further all =>
        refine .reading ⟨small, solidLeft, lightLeft, _, whole, further, all⟩ fun pos => ?_
        have some_ := List.length_pos_iff.mpr (more (by have := reading.wanted_pos; omega))
        rw [← markedBytes_marks, ← markedBytes_marks, length_markedBytes, length_markedBytes, split,
          List.length_append]
        omega
    | done outcome closed =>
      have stream : (taken ++ got) ++ (marks left ++ unsent) = [p].flatMap Parcel.frame ++ [] := by
        simpa using whole
      obtain ⟨q, later, one, all, same⟩ := outcome_frame (List.forall_mem_singleton.mpr small)
        (.idle (α := α)) stream accepts
      cases one
      rw [all, List.append_right_eq_self, List.append_eq_nil_iff] at whole
      have bytes : bytesOf left = [] := by rw [← markedBytes_marks, whole.1]; rfl
      rw [solidLeft.eq_nil bytes, same]
      exact .whole whole.2

theorem Arriving.under_way (h : Arriving p r chunks []) : chunks ≠ [] := by
  rintro rfl
  obtain ⟨small, -, -, taken, whole, reading, -⟩ := h
  obtain ⟨n, short⟩ := reading.front
  have all : markedBytes taken = wrap p.message.encode ++ [] := by
    rw [marks_nil, List.append_nil, List.append_nil] at whole
    rw [whole, p.bytes_frame, List.append_nil]
  rw [all, Frame.front_wrap small] at short
  cases short

theorem arriving_unsent (small : p.message.encode.length ≤ limit) (reading : Reading r [])
    (bare : r.rights = []) : Arriving p r [] p.frame :=
  ⟨small, solid_nil, nofun, [], rfl, reading, bare⟩

theorem arriving_sent (small : p.message.encode.length ≤ limit) (reading : Reading r [])
    (bare : r.rights = []) : Arriving p r [⟨wrap p.message.encode, p.rights⟩] [] where
  small := small
  solid := solid_cons.mpr ⟨wrap_ne_nil _, solid_nil⟩
  light := light_cons.mpr ⟨p.few, nofun⟩
  parts := ⟨[], by simp [Parcel.frame], reading, bare⟩

theorem Arriving.push {bytes rest : List UInt8}
    (h : Arriving p r chunks (marked (bytes ++ rest) [])) (nonempty : bytes ≠ []) :
    Arriving p r (chunks ++ [⟨bytes, []⟩]) (marked rest []) := by
  obtain ⟨small, solid, light, taken, whole, reading, rights⟩ := h
  refine ⟨small, solid_append.mpr ⟨solid, solid_cons.mpr ⟨nonempty, solid_nil⟩⟩,
    light_append.mpr ⟨light, light_cons.mpr ⟨Nat.zero_le _, nofun⟩⟩, taken, ?_, reading, rights⟩
  rw [← whole, marked_append nonempty]
  simp

end

end UsbBridge.Socket
