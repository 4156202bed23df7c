import UsbBridge.Proofs.Frame.Agreement
import UsbBridge.Proofs.Wire.Canonical

/-!
# Whatever is received can be sent on

The body that is written for a message is the shortest one that is read as it, and is read as it
again (`received_canonical`). A frame that any reader takes has a body within the limit (`Arrived`),
so the message can be put into a frame again.
-/

namespace UsbBridge

namespace Socket

theorem length_gather_le (room : Nat) (chunks : List (Chunk α)) :
    (Channel.gather room chunks).1.length ≤ room := by
  induction chunks generalizing room with
  | nil => exact Nat.zero_le room
  | cons chunk rest ih =>
    simp only [Channel.gather]
    split
    · exact Nat.zero_le room
    split
    · exact List.length_take_le _ _
    rename_i all
    split
    · have := ih (room - chunk.bytes.length)
      rw [List.length_append]
      omega
    · exact Nat.le_of_not_lt all

theorem length_receive_le {c d : Channel α} {room : Nat} {bytes : List UInt8} {rights : List α}
    (h : c.receive room = (.ready (.data bytes rights), d)) : bytes.length ≤ room := by
  unfold Channel.receive at h
  split at h
  · split at h <;> cases h
  · simp only at h
    split at h
    · cases h
    · cases h
      exact length_gather_le room _

open UsbBridge.Frame (limit) in
theorem Receiver.go_message {n : Nat} {r : Receiver α} {c d : Channel α} {taken : List UInt8}
    {m : Message} {rights closed : List α} (reading : Reading r taken)
    (h : run.go n r c = (.done (.message m rights) closed, d)) :
    ∃ body, body.length ≤ limit ∧ Message.decode body = .ok m := by
  induction n generalizing r c taken with
  | zero => cases h
  | succ n ih =>
    rw [run.go, step?] at h
    generalize hc : c.receive (min r.wanted r.wanted) = p at h
    obtain ⟨delivery | -, e⟩ := p
    · cases delivery with
      | data bytes more =>
        have fits := length_receive_le hc
        rw [Nat.min_self] at fits
        have accepts := accept_data reading fits more
        dsimp only at h
        generalize r.accept (.data bytes more) = progress at accepts h
        cases accepts with
        | reading later all => exact ih later h
        | message whole small ok =>
          cases h
          exact ⟨_, small, ok⟩
        | malformed whole small bad => cases h
        | oversized head large => cases h
      | endOfFile =>
        simp only [accept_end reading] at h
        split at h <;> cases h
      | overflow installed => cases h
    · cases h

end Socket

namespace Frame

/-- The message was read from a frame, in one of the three ways to read one. -/
inductive Arrived (m : Message) : Prop
  | memory {frame : List UInt8} (h : decode frame = .ok m)
  | stream {source rest : Source} (h : source.next = (.ok m, rest))
  | socket {α : Type} {c d : Socket.Channel α} {rights : List α}
      (h : c.receiveMessage = (some (.message m rights), d))

theorem Arrived.body {m : Message} (arrived : Arrived m) :
    ∃ body, body.length ≤ limit ∧ Message.decode body = .ok m := by
  cases arrived with
  | @memory frame h =>
    rw [decode_front] at h
    cases hf : front frame with
    | whole body rest =>
      rw [hf] at h
      exact ⟨body, (front_eq_whole.mp hf).1, h⟩
    | _ =>
      rw [hf] at h
      cases h
  | @stream source rest h =>
    have next := next_front source
    rw [h, blocking] at next
    cases hf : front source.flatten with
    | whole body rest =>
      rw [hf] at next
      exact ⟨body, (front_eq_whole.mp hf).1, (Prod.mk.inj next).1.symm⟩
    | _ =>
      rw [hf] at next
      cases next
  | socket h =>
    rw [Socket.Channel.receiveMessage] at h
    split at h
    · rename_i done
      cases h
      exact Socket.Receiver.go_message Socket.Receiver.reading_start done
    · cases h

/-- Of a message and the bytes it was read from. -/
structure Canonical (bytes : List UInt8) (m : Message) : Prop where
  /-- Redundant groups and a tail are not written again. -/
  noLonger : m.encode.length ≤ bytes.length
  again : Message.decode m.encode = .ok m
  shortest : ∀ other, Message.decode other = .ok m → m.encode.length ≤ other.length
  idempotent : ∀ m', Message.decode m.encode = .ok m' → m'.encode = m.encode
  /-- If it arrived in a frame, it is not too long for one. -/
  framed : Arrived m → ∃ frame, encode m = .ok frame ∧ decode frame = .ok m

theorem received_canonical {bytes : List UInt8} {m : Message}
    (received : Message.decode bytes = .ok m) : Canonical bytes m := by
  obtain ⟨fits, noLonger⟩ := Message.thrifty_of_decode received
  have again := Message.decode_encode fits
  refine ⟨noLonger, again, ?_, ?_, ?_⟩
  · intro other decoded
    exact (Message.thrifty_of_decode decoded).2
  · intro m' decoded
    rw [again] at decoded
    cases decoded
    rfl
  · intro arrived
    obtain ⟨body, small, decoded⟩ := arrived.body
    have short := Nat.le_trans (Message.thrifty_of_decode decoded).2 small
    refine ⟨wrap m.encode, by rw [encode_eq, if_neg (Nat.not_lt.mpr short)], ?_⟩
    have whole := front_wrap short []
    rw [List.append_nil] at whole
    rw [decode_front, whole]
    exact again

/-- Redundant groups in the tag and the length, and a tail behind the text. -/
theorem redundant_canonical : Canonical
    [1, 0, 7, 0x8b, 0x80, 0, 0x82, 0x80, 0x80, 0, 0x68, 0x69, 0xff] ⟨⟨1, 0, 7⟩, .error "hi"⟩ :=
  received_canonical rfl

end Frame

end UsbBridge
