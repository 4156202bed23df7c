import UsbBridge.Client.Exchange
import UsbBridge.Proofs.Run
import UsbBridge.Proofs.Socket.Receiving

/-!
# What a client does in one move

A move either leaves the exchange in progress where it was, brings it on by some bytes, or ends it
(`Begins`, `Sends`, `Reads`). It ends with what a response says (`reply`) or with an error of the
client's own, and the two are told apart by what the call returns (`answered`). The client's own
functions go through such moves (`request_reaches`, `poll_reaches`).
-/

namespace UsbBridge.Client

open Socket
open Receiver (Reading Accepts)

-- ---------------------------------------------------------------------------
-- What calls return
-- ---------------------------------------------------------------------------

def reply (payload : Payload) (rights : List α) : Except BridgeError (Payload × List α) :=
  match payload with
  | .error text => .error (.remote text)
  | _ => .ok (payload, rights)

/-- An error that the peer reported, not one that the client came to by itself. -/
def reported : BridgeError → Bool
  | .remote _ => true
  | _ => false

/-- A received message, or the error that one reports. -/
def isReply : Except BridgeError (Payload × List α) → Bool
  | .ok _ => true
  | .error e => reported e

theorem isReply_reply (payload : Payload) (rights : List α) :
    isReply (reply payload rights) = true := by
  cases payload <;> rfl

namespace State

section
variable {s : State α} {caller : Nat} {e : BridgeError}

def answered (s : State α) : List (Nat × Except BridgeError (Payload × List α)) :=
  s.returned.filter fun (_, result) => isReply result

theorem answered_fail (own : reported e = false) : (s.fail caller e).answered = s.answered := by
  simp [answered, fail, isReply, own]

theorem answer_eq (s : State α) (caller : Nat) (payload : Payload) (rights : List α) :
    s.answer caller payload rights =
      { s with outOfStep := false, running := none,
               returned := s.returned ++ [(caller, reply payload rights)] } := rfl

theorem answered_answer (payload : Payload) (rights : List α) :
    (s.answer caller payload rights).answered = s.answered ++ [(caller, reply payload rights)] := by
  simp [answered, answer_eq, isReply_reply]

end

-- ---------------------------------------------------------------------------
-- Moves
-- ---------------------------------------------------------------------------

/-- The exchange that a move starts, as its caller and the request. -/
def starts (s : State α) : Move → Option (Nat × Payload)
  | .begin => if s.running.isNone && !s.outOfStep then s.waiting.head? else none
  | _ => none

theorem starts_eq_none {s : State α} {m : Move} (h : m ≠ .begin) : s.starts m = none := by
  cases m <;> first | rfl | exact absurd rfl h

inductive Begins (s : State α) : State α → Prop
  | idle (quiet : s.starts .begin = none) (still : s.running ≠ none ∨ s.waiting = []) : Begins s s
  | refused {caller request later} (free : s.running = none) (out : s.outOfStep = true)
      (line : s.waiting = (caller, request) :: later) :
      Begins s ({ s with waiting := later }.fail caller .connectionClosed)
  | tooLarge {caller request later e} (free : s.running = none) (inStep : s.outOfStep = false)
      (starts : s.starts .begin = some (caller, request))
      (line : s.waiting = (caller, request) :: later)
      (own : reported e = false) :
      Begins s ({ s with waiting := later, outOfStep := true }.fail caller e)
  | begun {caller request later} (free : s.running = none) (inStep : s.outOfStep = false)
      (starts : s.starts .begin = some (caller, request))
      (line : s.waiting = (caller, request) :: later)
      (small : (Message.ofPayload request).encode.length ≤ Frame.limit) :
      Begins s { s with
        waiting := later, outOfStep := true
        running := some (caller, .sending ⟨Frame.wrap (Message.ofPayload request).encode, []⟩) }

theorem begin_begins (s : State α) : Begins s s.begin := by
  cases hr : s.running with
  | some _ =>
    simp only [begin, hr]
    exact .idle (by simp [starts, hr]) (.inl (by simp [hr]))
  | none =>
    cases hw : s.waiting with
    | nil =>
      simp only [begin, hr, hw]
      exact .idle (by simp [starts, hw]) (.inr hw)
    | cons first later =>
      obtain ⟨caller, request⟩ := first
      cases hout : s.outOfStep with
      | true =>
        have same : s.begin = { s with waiting := later }.fail caller .connectionClosed := by
          simp [begin, hr, hw, hout]
        rw [same]
        exact .refused hr hout hw
      | false =>
        have hs : s.starts .begin = some (caller, request) := by simp [starts, hr, hw, hout]
        simp only [begin, hr, hw, hout, Sender.ofMessage, Frame.encode_eq]
        by_cases large : Frame.limit < (Message.ofPayload request).encode.length
        · simp only [large, if_true]
          exact .tooLarge hr hout hs hw rfl
        · simp only [large, if_false]
          exact .begun hr hout hs hw (Nat.le_of_not_lt large)

section
variable {s : State α} {l : Link α} {caller : Nat}

inductive Sends (s : State α) (l : Link α) (caller : Nat) (left : List UInt8) :
    State α × Link α → Prop
  | waits : Sends s l caller left (s, l)
  | fails {e} (own : reported e = false) : Sends s l caller left (s.fail caller e, l)
  | sent {sent rest} (parts : left = sent ++ rest) (nonempty : sent ≠ [])
      (heard : l.outgoing.receiving = true) :
      Sends s l caller left
        ({ s with running := some (caller,
            if rest.isEmpty then .receiving .start else .sending ⟨rest, []⟩) },
          { l with outgoing.chunks := l.outgoing.chunks ++ [⟨sent, []⟩] })

theorem send_blocked {left : List UInt8} (run : s.running = some (caller, .sending ⟨left, []⟩))
    (nonempty : left ≠ []) : s.send l .wouldBlock = (s, l) := by
  simp [send, run, Sender.step, Sender.isDone, nonempty]
  rw [← run]

theorem send_bytes {left : List UInt8} (run : s.running = some (caller, .sending ⟨left, []⟩))
    (nonempty : left ≠ []) (heard : l.outgoing.receiving = true) {n : Nat} (hn : n ≠ 0) :
    s.send l (.bytes n) = ({ s with running := some (caller,
        if (left.drop n).isEmpty then .receiving .start else .sending ⟨left.drop n, []⟩) },
      { l with outgoing.chunks := l.outgoing.chunks ++ [⟨left.take n, []⟩] }) := by
  simp [send, run, Sender.step, Channel.send, heard, hn, nonempty, Sender.isDone]

theorem send_sends {left : List UInt8} (run : s.running = some (caller, .sending ⟨left, []⟩))
    (nonempty : left ≠ []) (acceptance : Acceptance) :
    Sends s l caller left (s.send l acceptance) := by
  cases acceptance with
  | wouldBlock =>
    rw [send_blocked run nonempty]
    exact .waits
  | failed e =>
    simp only [send, run, Sender.step]
    exact .fails rfl
  | bytes n =>
    cases heard : l.outgoing.receiving with
    | false =>
      simp only [send, run, Sender.step, Channel.send, heard]
      exact .fails rfl
    | true =>
      by_cases hn : n = 0
      · simp only [send, run, Sender.step, Channel.send, heard, hn, List.take_zero]
        exact .fails rfl
      · have hsent : left.take n ≠ [] := by simp [List.take_eq_nil_iff, hn, nonempty]
        rw [send_bytes run nonempty heard hn]
        exact .sent (List.take_append_drop n left).symm hsent heard

inductive Reads (s : State α) (l : Link α) (caller : Nat) (r : Receiver α) (taken : List UInt8) :
    State α × Link α → Prop
  | waits : Reads s l caller r taken (s, l)
  | fails {e incoming} (own : reported e = false) :
      Reads s l caller r taken (s.fail caller e, { l with incoming })
  | goesOn {room bytes rights left q} (g : Gathered room l.incoming.chunks bytes rights left)
      (reading : Reading q (taken ++ bytes)) (all : q.rights = r.rights ++ rights) :
      Reads s l caller r taken ({ s with running := some (caller, .receiving q) },
        { l with incoming.chunks := left })
  | answers {room bytes rights left m body}
      (g : Gathered room l.incoming.chunks bytes rights left)
      (whole : taken ++ bytes = Frame.wrap body) (small : body.length ≤ Frame.limit)
      (ok : Message.decode body = .ok m) :
      Reads s l caller r taken (s.answer caller m.payload (r.rights ++ rights),
        { l with incoming.chunks := left })

theorem receive_reads {r : Receiver α} {taken : List UInt8}
    (run : s.running = some (caller, .receiving r)) (reading : Reading r taken)
    (solid : Solid l.incoming.chunks) (most : Nat) :
    Reads s l caller r taken (s.receive l most) := by
  have h := receive_receives l.incoming (min most r.wanted) solid
  generalize hp : l.incoming.receive (min most r.wanted) = p at h
  cases h with
  | blocked empty going =>
    simp only [receive, run, Receiver.step?, hp]
    exact .waits
  | ended empty shut =>
    simp only [receive, run, Receiver.step?_eq hp, Receiver.accept_end reading]
    by_cases fresh : taken = []
    · simp only [fresh, if_true]
      exact .fails rfl
    · simp only [fresh, if_false]
      exact .fails rfl
  | overflow g many =>
    simp only [receive, run, Receiver.step?_eq hp, Receiver.accept, Receiver.failed]
    exact .fails rfl
  | @data bytes rights left g =>
    have ha := Receiver.accept_data reading (Nat.le_trans g.fits (Nat.min_le_right _ _)) rights
    simp only [receive, run, Receiver.step?_eq hp]
    generalize r.accept (.data bytes rights) = progress at ha
    cases ha with
    | reading h all => exact .goesOn g h all
    | message whole small ok => exact .answers g whole small ok
    | malformed whole small bad => exact .fails rfl
    | oversized head large => exact .fails rfl

end

-- ---------------------------------------------------------------------------
-- Whole calls
-- ---------------------------------------------------------------------------

def Reaches (s : State α) (l : Link α) (p : State α × Link α) : Prop :=
  ∃ moves, p = Run.last (fun (q : State α × Link α) m => q.1.step q.2 m) (s, l) moves

section
variable {s : State α} {l : Link α} {p : State α × Link α} {caller : Nat}

theorem Reaches.refl (s : State α) (l : Link α) : Reaches s l (s, l) := ⟨[], rfl⟩

theorem Reaches.step (m : Move) (h : Reaches (s.step l m).1 (s.step l m).2 p) : Reaches s l p := by
  obtain ⟨moves, rfl⟩ := h
  exact ⟨m :: moves, rfl⟩

theorem request_reaches (s : State α) (l : Link α) (caller : Nat) (request : Payload) :
    Reaches s l (s.request l caller request) := by
  refine .step (.call caller request) (.step .begin ?_)
  simp only [State.request, State.step]
  split
  · rename_i other sender run
    exact .step (.send (.bytes sender.bytes.length)) (.refl _ _)
  · exact .refl _ _

def settle (s : State α) (l : Link α) (caller : Nat) :
    Receiver.Progress α × Channel α → State α × Link α
  | (.reading r, incoming) =>
    ({ s with running := some (caller, .receiving r) }, { l with incoming })
  | (.done (.message m rights) _, incoming) =>
    (s.answer caller m.payload rights, { l with incoming })
  | (.done .closed _, incoming) => (s.fail caller .connectionClosed, { l with incoming })
  | (.done (.failed e) _, incoming) => (s.fail caller e, { l with incoming })

theorem settle_reading {r : Receiver α} (run : s.running = some (caller, .receiving r)) :
    s.settle l caller (.reading r, l.incoming) = (s, l) := by
  simp only [settle, ← run]

theorem receive_eq {r : Receiver α} (run : s.running = some (caller, .receiving r)) (most : Nat) :
    s.receive l most = ((r.step? most l.incoming).map (s.settle l caller)).getD (s, l) := by
  simp only [receive, run]
  cases r.step? most l.incoming with
  | none => rfl
  | some p =>
    obtain ⟨progress, incoming⟩ := p
    cases progress with
    | reading r => rfl
    | done outcome closed => cases outcome <;> rfl

theorem poll_eq {r : Receiver α} (run : s.running = some (caller, .receiving r)) :
    s.poll l = s.settle l caller (r.run l.incoming) := by
  simp only [poll, run]
  generalize r.run l.incoming = p
  obtain ⟨progress, incoming⟩ := p
  cases progress with
  | reading r => rfl
  | done outcome closed => cases outcome <;> rfl

theorem settle_reaches (n : Nat) {r : Receiver α} (run : s.running = some (caller, .receiving r)) :
    Reaches s l (s.settle l caller (Receiver.run.go n r l.incoming)) := by
  induction n generalizing s l r with
  | zero => exact settle_reading (l := l) run ▸ .refl s l
  | succ n ih =>
    have hreceive := receive_eq (l := l) run r.wanted
    simp only [Receiver.run.go]
    cases hs : r.step? r.wanted l.incoming with
    | none => exact settle_reading (l := l) run ▸ .refl s l
    | some p =>
      obtain ⟨progress, incoming⟩ := p
      rw [hs] at hreceive
      refine .step (.receive r.wanted) ?_
      rw [State.step, hreceive]
      cases progress with
      | reading q => exact ih rfl
      | done outcome closed => exact .refl _ _

theorem poll_reaches (s : State α) (l : Link α) : Reaches s l (s.poll l) := by
  cases run : s.running with
  | none => simpa only [poll, run] using .refl s l
  | some exchange =>
    obtain ⟨caller, phase⟩ := exchange
    cases phase with
    | sending sender => simpa only [poll, run] using .refl s l
    | receiving r => exact poll_eq run ▸ settle_reaches _ run

end

end State

end UsbBridge.Client
