import UsbBridge.Proofs.Frame.Agreement
import UsbBridge.Proofs.Run
import UsbBridge.Proofs.Socket.Marks
import UsbBridge.Proofs.Wire.Sizes
import UsbBridge.Socket.Sender

/-!
# Messages that carry descriptors

One end of a connection sends messages one after the other, some of them with a descriptor, while
the other end receives. Both take as many calls as the system makes them. What is on the wire is the
frames that were sent, each with its descriptor on its first byte, and the beginning of the one that
is being sent (`Outgoing`); a receiver has taken whole frames of it and the beginning of the next
one (`Incoming`). So every message arrives with its own descriptor (`descriptors_accompany`).
-/

namespace UsbBridge.Socket

open UsbBridge.Frame (wrap limit)
open Receiver (Reading Accepts)

-- ---------------------------------------------------------------------------
-- A sender and a receiver
-- ---------------------------------------------------------------------------

/-- A message to send, and the descriptor that goes along with it, if any. -/
structure Parcel (α : Type) where
  message : Message
  descriptor : Option α

namespace Parcel

def rights (p : Parcel α) : List α := p.descriptor.toList

def frame (p : Parcel α) : List (UInt8 × List α) := marked (wrap p.message.encode) p.rights

def outcome (p : Parcel α) : Outcome α := .message p.message p.rights

end Parcel

/-- What the sending end is at. After a send that failed it sends no more. -/
inductive Sending (α : Type) where
  | idle
  | busy (p : Parcel α) (s : Sender α)
  | failed (p : Parcel α)

def Sending.parcel? : Sending α → Option (Parcel α)
  | .idle => none
  | .busy p _ | .failed p => some p

structure Traffic (α : Type) where
  sending : Sending α
  /-- The messages that sending was begun of, in order. -/
  begun : List (Parcel α)
  /-- The messages that were sent as a whole, in order. -/
  sent : List (Parcel α)
  channel : Channel α
  /-- All chunks that were ever put on the channel. -/
  wire : List (Chunk α)
  receiver : Receiver α
  /-- What receiving came to, one message after the other. -/
  outcomes : List (Outcome α)

inductive Traffic.Move (α : Type) where
  /-- Begins to send a message, unless one is being sent. -/
  | post (p : Parcel α)
  /-- One send call. -/
  | send (a : Acceptance)
  /-- One receive call for so many bytes at most. -/
  | receive (most : Nat)
  /-- A receive call that is handed so many bytes, whatever the chunks that they were sent in. -/
  | deliver (n : Nat)

/-- The chunks behind the next `n` bytes. The rest of a chunk has nothing attached. -/
def behind : Nat → List (Chunk α) → List (Chunk α)
  | _, [] => []
  | n, chunk :: rest =>
    if n = 0 then chunk :: rest
    else if chunk.bytes.length ≤ n then behind (n - chunk.bytes.length) rest
    else ⟨chunk.bytes.drop n, []⟩ :: rest

namespace Traffic

def start : Traffic α := ⟨.idle, [], [], .fresh, [], .start, []⟩

def post (w : Traffic α) (p : Parcel α) : Traffic α :=
  match w.sending with
  | .idle =>
    match Sender.ofMessage p.message p.rights with
    | .ok s => { w with sending := .busy p s, begun := w.begun ++ [p] }
    | .error _ => w
  | _ => w

def carry (w : Traffic α) (channel : Channel α) : Traffic α :=
  { w with channel, wire := w.wire ++ channel.chunks.drop w.channel.chunks.length }

def send (w : Traffic α) (a : Acceptance) : Traffic α :=
  match w.sending with
  | .busy p s =>
    match s.step w.channel a with
    | (.error _, channel) => { w.carry channel with sending := .failed p }
    | (.ok s, channel) =>
      if s.isDone then { w.carry channel with sending := .idle, sent := w.sent ++ [p] }
      else { w.carry channel with sending := .busy p s }
  | _ => w

/-- Goes on with the progress that a receive call made; after an outcome with the next message. -/
def settle (w : Traffic α) (channel : Channel α) : Receiver.Progress α → Traffic α
  | .reading r => { w with channel, receiver := r }
  | .done outcome _ =>
    { w with channel, receiver := .start, outcomes := w.outcomes ++ [outcome] }

def receive (w : Traffic α) (most : Nat) : Traffic α :=
  match w.receiver.step? most w.channel with
  | none => w
  | some (progress, channel) => w.settle channel progress

def deliver (w : Traffic α) (n : Nat) : Traffic α :=
  let room := min n w.receiver.wanted
  let handed := (marks w.channel.chunks).take room
  if handed.isEmpty then w
  else
    w.settle { w.channel with chunks := behind room w.channel.chunks }
      (w.receiver.accept (.data (markedBytes handed) (markedRights handed)))

def step (w : Traffic α) : Move α → Traffic α
  | .post p => w.post p
  | .send a => w.send a
  | .receive most => w.receive most
  | .deliver n => w.deliver n

end Traffic

-- ---------------------------------------------------------------------------
-- The sending end
-- ---------------------------------------------------------------------------

inductive Started : Sending α → List (UInt8 × List α) → Prop
  | idle : Started .idle []
  | busy {p : Parcel α} {s : Sender α} {part} (small : p.message.encode.length ≤ limit)
      (whole : part ++ marked s.bytes s.rights = p.frame) (more : s.bytes ≠ []) :
      Started (.busy p s) part
  | failed {p : Parcel α} {part rest} (small : p.message.encode.length ≤ limit)
      (whole : part ++ rest = p.frame) (more : rest ≠ []) : Started (.failed p) part

structure Outgoing (w : Traffic α) (part : List (UInt8 × List α)) : Prop where
  begun : w.begun = w.sent ++ w.sending.parcel?.toList
  small : ∀ p ∈ w.sent, p.message.encode.length ≤ limit
  wire : marks w.wire = w.sent.flatMap Parcel.frame ++ part
  started : Started w.sending part

/-- The receiver has taken the frames that it has an outcome of, and some of the next one. -/
structure Incoming (w : Traffic α) (taken : List (UInt8 × List α)) : Prop where
  open_ : w.channel.sending = true ∧ w.channel.receiving = true
  solid : Solid w.channel.chunks
  light : Light w.channel.chunks
  wire : marks w.wire =
    (w.sent.take w.outcomes.length).flatMap Parcel.frame ++ taken ++ marks w.channel.chunks
  outcomes : w.outcomes = (w.sent.take w.outcomes.length).map Parcel.outcome
  reading : Reading w.receiver (markedBytes taken)
  rights : w.receiver.rights = markedRights taken

structure Kept (w : Traffic α) : Prop where
  outgoing : ∃ part, Outgoing w part
  incoming : ∃ taken, Incoming w taken

section
variable {w : Traffic α} {p : Parcel α} {s : Sender α} {part taken : List (UInt8 × List α)}

theorem Started.prefix_frame {sending : Sending α} (h : Started sending part) :
    part <+: sending.parcel?.toList.flatMap Parcel.frame := by
  cases h with
  | idle => exact List.nil_prefix
  | busy small whole more => exact ⟨_, by simpa [Sending.parcel?] using whole⟩
  | failed small whole more => exact ⟨_, by simpa [Sending.parcel?] using whole⟩

theorem Parcel.bytes_frame (p : Parcel α) : markedBytes p.frame = wrap p.message.encode :=
  markedBytes_marked _ _

theorem wrap_ne_nil (body : List UInt8) : wrap body ≠ [] := List.cons_ne_nil _ _

theorem Parcel.rights_frame (p : Parcel α) : markedRights p.frame = p.rights :=
  markedRights_marked (wrap_ne_nil _) _

theorem Parcel.few (p : Parcel α) : p.rights.length ≤ rightsLimit := by
  cases h : p.descriptor <;> simp [rights, h, rightsLimit]

theorem bytes_frames (ps : List (Parcel α)) :
    markedBytes (ps.flatMap Parcel.frame) = ps.flatMap fun p => wrap p.message.encode := by
  induction ps with
  | nil => rfl
  | cons p ps ih => simp [ih, p.bytes_frame]

theorem kept_start : Kept (Traffic.start : Traffic α) where
  outgoing := ⟨[], rfl, nofun, rfl, .idle⟩
  incoming := ⟨[], ⟨rfl, rfl⟩, solid_nil, nofun, rfl, rfl, Receiver.reading_start, rfl⟩

-- ---------------------------------------------------------------------------
-- Sending
-- ---------------------------------------------------------------------------

inductive SendCall (s : Sender α) (c : Channel α) :
    Except BridgeError (Sender α) × Channel α → Prop
  | waits : SendCall s c (.ok s, c)
  | fails {e} : SendCall s c (.error e, c)
  | sent {bytes rest} (parts : s.bytes = bytes ++ rest) (nonempty : bytes ≠ []) :
      SendCall s c (.ok ⟨rest, []⟩, { c with chunks := c.chunks ++ [⟨bytes, s.rights⟩] })

theorem step_sendCall {c : Channel α} (heard : c.receiving = true) (more : s.bytes ≠ [])
    (a : Acceptance) : SendCall s c (s.step c a) := by
  cases a with
  | wouldBlock => exact .waits
  | failed e => exact .fails
  | bytes n =>
    by_cases hn : n = 0
    · simp only [Sender.step, Channel.send, heard, hn, List.take_zero]
      exact .fails
    · have hsent : s.bytes.take n ≠ [] := by simp [List.take_eq_nil_iff, hn, more]
      have same : s.step c (.bytes n) = (.ok ⟨s.bytes.drop n, []⟩,
          { c with chunks := c.chunks ++ [⟨s.bytes.take n, s.rights⟩] }) := by
        simp [Sender.step, Channel.send, heard, hn, more]
      rw [same]
      exact .sent (List.take_append_drop n s.bytes).symm hsent

theorem carry_same (w : Traffic α) : w.carry w.channel = w := by
  simp [Traffic.carry]

theorem carry_chunk (w : Traffic α) (chunk : Chunk α) :
    w.carry { w.channel with chunks := w.channel.chunks ++ [chunk] } =
      { w with channel.chunks := w.channel.chunks ++ [chunk], wire := w.wire ++ [chunk] } := by
  simp [Traffic.carry]

theorem Incoming.within (h : Incoming w taken) : w.outcomes.length ≤ w.sent.length := by
  have := congrArg List.length h.outcomes
  rw [List.length_map, List.length_take] at this
  omega

theorem Incoming.carry (h : Incoming w taken) {chunk : Chunk α} (nonempty : chunk.bytes ≠ [])
    (few : chunk.rights.length ≤ rightsLimit) (sending : Sending α) (later : List (Parcel α)) :
    Incoming { w with
      sending, sent := w.sent ++ later
      channel.chunks := w.channel.chunks ++ [chunk], wire := w.wire ++ [chunk] } taken where
  open_ := h.open_
  solid := solid_append.mpr ⟨h.solid, solid_cons.mpr ⟨nonempty, solid_nil⟩⟩
  light := light_append.mpr ⟨h.light, light_cons.mpr ⟨few, nofun⟩⟩
  wire := by
    rw [List.take_append_of_le_length h.within, marks_append, marks_append, h.wire]
    simp
  outcomes := by
    rw [List.take_append_of_le_length h.within]
    exact h.outcomes
  reading := h.reading
  rights := h.rights

theorem Outgoing.send (out : Outgoing w part) (inc : Incoming w taken) (a : Acceptance) :
    Kept (w.send a) := by
  obtain ⟨begun, small, wire, started⟩ := out
  generalize hsending : w.sending = sending at started
  cases started with
  | idle =>
    have same : w.send a = w := by simp only [Traffic.send, hsending]
    rw [same]
    exact ⟨⟨_, begun, small, wire, hsending ▸ .idle⟩, _, inc⟩
  | failed smallToo whole more =>
    have same : w.send a = w := by simp only [Traffic.send, hsending]
    rw [same]
    exact ⟨⟨_, begun, small, wire, hsending ▸ .failed smallToo whole more⟩, _, inc⟩
  | @busy p s part smallToo whole more =>
    have left : marked s.bytes s.rights ≠ [] := by
      intro none
      have := congrArg markedBytes none
      rw [markedBytes_marked] at this
      exact more this
    have few : s.rights.length ≤ rightsLimit := by
      have := congrArg (List.length ∘ markedRights) whole
      simp only [Function.comp, markedRights_append, List.length_append,
        markedRights_marked more, p.rights_frame] at this
      have := p.few
      omega
    have hcall := step_sendCall inc.open_.2 more a
    generalize hstep : s.step w.channel a = result at hcall
    cases hcall with
    | waits =>
      have same : w.send a = w := by
        simp [Traffic.send, hsending, hstep, Sender.isDone, more, carry_same]
        rw [← hsending]
      rw [same]
      exact ⟨⟨_, begun, small, wire, hsending ▸ .busy smallToo whole more⟩, _, inc⟩
    | fails =>
      have same : w.send a = { w with sending := .failed p } := by
        simp only [Traffic.send, hsending, hstep, carry_same]
      rw [same]
      exact ⟨⟨_, by rw [begun, hsending]; rfl, small, wire, .failed smallToo whole left⟩, _,
        inc.open_, inc.solid, inc.light, inc.wire, inc.outcomes, inc.reading, inc.rights⟩
    | @sent bytes rest parts nonempty =>
      by_cases last : rest = []
      · rw [last, List.append_nil] at parts
        have same : w.send a = { w with
            sending := .idle, sent := w.sent ++ [p]
            channel.chunks := w.channel.chunks ++ [⟨bytes, s.rights⟩]
            wire := w.wire ++ [⟨bytes, s.rights⟩] } := by
          simp [Traffic.send, hsending, hstep, Sender.isDone, last, carry_chunk]
        rw [same]
        refine ⟨⟨[], ?_, ?_, ?_, .idle⟩, _, inc.carry nonempty few .idle [p]⟩
        · simp [begun, hsending, Sending.parcel?]
        · exact List.forall_mem_append.mpr ⟨small, List.forall_mem_singleton.mpr smallToo⟩
        · rw [parts] at whole
          simp [wire, ← whole]
      · have same : w.send a = { w with
            sending := .busy p ⟨rest, []⟩, sent := w.sent ++ []
            channel.chunks := w.channel.chunks ++ [⟨bytes, s.rights⟩]
            wire := w.wire ++ [⟨bytes, s.rights⟩] } := by
          simp [Traffic.send, hsending, hstep, Sender.isDone, last, carry_chunk]
        rw [same]
        refine ⟨⟨part ++ marked bytes s.rights, ?_, ?_, ?_, .busy smallToo ?_ last⟩, _,
          inc.carry nonempty few _ []⟩
        · simp [begun, hsending, Sending.parcel?]
        · simpa using small
        · simp [wire]
        · rw [List.append_assoc, ← marked_append nonempty, ← parts, whole]

theorem Outgoing.post (out : Outgoing w part) (inc : Incoming w taken) (p : Parcel α) :
    Kept (w.post p) := by
  obtain ⟨begun, small, wire, started⟩ := out
  have quiet : w.sending ≠ .idle → w.post p = w := by
    intro busy
    simp only [Traffic.post]
  cases hsending : w.sending with
  | busy q s =>
    rw [quiet (by simp [hsending])]
    exact ⟨⟨_, begun, small, wire, started⟩, _, inc⟩
  | failed q =>
    rw [quiet (by simp [hsending])]
    exact ⟨⟨_, begun, small, wire, started⟩, _, inc⟩
  | idle =>
    rw [hsending] at started
    cases started
    by_cases large : limit < p.message.encode.length
    · have same : w.post p = w := by
        simp only [Traffic.post, hsending, Sender.ofMessage, Frame.encode_eq, large, if_true]
      rw [same]
      exact ⟨⟨_, begun, small, wire, hsending ▸ .idle⟩, _, inc⟩
    · have same : w.post p = { w with
          sending := .busy p ⟨wrap p.message.encode, p.rights⟩, begun := w.begun ++ [p] } := by
        simp only [Traffic.post, hsending, Sender.ofMessage, Frame.encode_eq, large, if_false]
      rw [same]
      refine ⟨⟨[], ?_, small, wire, .busy (Nat.le_of_not_lt large) rfl (wrap_ne_nil _)⟩, _,
        inc.open_, inc.solid, inc.light, inc.wire, inc.outcomes, inc.reading, inc.rights⟩
      simp [begun, hsending, Sending.parcel?]

-- ---------------------------------------------------------------------------
-- Receiving
-- ---------------------------------------------------------------------------

theorem Started.completed {sending : Sending α} (h : Started sending part) :
    ∃ (next : Option (Parcel α)) (rest : List (UInt8 × List α)),
      part ++ rest = next.toList.flatMap Parcel.frame ∧
      (∀ p ∈ next.toList, p.message.encode.length ≤ limit) ∧ (rest = [] → next = none) := by
  cases h with
  | idle => exact ⟨none, [], rfl, nofun, fun _ => rfl⟩
  | @busy p s part small whole more =>
    refine ⟨some p, marked s.bytes s.rights, by simpa using whole, by simpa using small, ?_⟩
    intro none
    have := congrArg markedBytes none
    rw [markedBytes_marked] at this
    exact absurd this more
  | @failed p part rest small whole more =>
    exact ⟨some p, rest, by simpa using whole, by simpa using small, fun h => absurd h more⟩

theorem accepts_nonempty {bytes : List UInt8} {rights closed : List α} {outcome : Outcome α}
    (h : Accepts bytes rights (.done outcome closed)) : bytes ≠ [] := by
  cases h with
  | message whole => exact whole ▸ wrap_ne_nil _
  | malformed whole => exact whole ▸ wrap_ne_nil _
  | oversized head => exact List.ne_nil_of_length_pos (head ▸ Nat.zero_lt_succ 3)

/-- A receiver that has an outcome has taken exactly one frame, with its descriptor. -/
theorem outcome_frame {sending : Sending α} {ps : List (Parcel α)} {xs ys : List (UInt8 × List α)}
    {outcome : Outcome α} {closed : List α} (small : ∀ p ∈ ps, p.message.encode.length ≤ limit)
    (started : Started sending part) (stream : xs ++ ys = ps.flatMap Parcel.frame ++ part)
    (h : Accepts (markedBytes xs) (markedRights xs) (.done outcome closed)) :
    ∃ p later, ps = p :: later ∧ xs = p.frame ∧ outcome = p.outcome := by
  obtain ⟨next, rest, hrest, smallToo, more⟩ := started.completed
  have all : markedBytes xs ++ markedBytes (ys ++ rest) =
      (ps ++ next.toList).flatMap fun p => wrap p.message.encode := by
    rw [← markedBytes_append, ← List.append_assoc, stream, List.append_assoc, hrest,
      ← List.flatMap_append, bytes_frames]
  have fine := h.expected (markedBytes (ys ++ rest))
  rw [all] at fine
  have everySmall := List.forall_mem_append.mpr ⟨small, smallToo⟩
  generalize hqs : ps ++ next.toList = qs at all fine everySmall
  cases qs with
  | nil =>
    rw [List.flatMap_nil, List.append_eq_nil_iff] at all
    exact absurd all.1 (accepts_nonempty h)
  | cons p later =>
    have psmall := everySmall p List.mem_cons_self
    rw [List.flatMap_cons, expected_wrap psmall] at fine
    obtain ⟨hresult, hlater⟩ := Prod.mk.inj fine
    rw [List.flatMap_cons, hlater, List.append_cancel_right_eq] at all
    have hdecode := Message.decode_of_small psmall
    rw [hdecode] at hresult
    cases ps with
    | nil =>
      -- All that is on the wire would be a frame that is not complete.
      have one : next = some p ∧ later = [] := by cases next <;> simp_all
      rw [one.2, List.flatMap_nil] at hlater
      have none := congrArg List.length hlater
      simp only [List.length_nil, length_markedBytes, List.length_append] at none
      have := more (List.eq_nil_of_length_eq_zero (by omega))
      simp [one.1] at this
    | cons q others =>
      obtain ⟨rfl, -⟩ := List.cons.inj hqs
      have same : xs = q.frame := by
        rw [List.flatMap_cons, List.append_assoc] at stream
        refine List.append_inj_left stream ?_
        rw [← length_markedBytes, all, ← q.bytes_frame, length_markedBytes]
      refine ⟨q, others, rfl, same, ?_⟩
      generalize hprogress : Receiver.Progress.done outcome closed = progress at h
      cases h with
      | reading => cases hprogress
      | message =>
        cases hprogress
        cases hresult
        rw [Parcel.outcome, same, q.rights_frame]
      | malformed =>
        cases hprogress
        cases hresult
      | oversized =>
        cases hprogress
        cases hresult

theorem Incoming.stream (inc : Incoming w taken) (out : Outgoing w part) :
    taken ++ marks w.channel.chunks =
      (w.sent.drop w.outcomes.length).flatMap Parcel.frame ++ part := by
  have same := inc.wire.symm.trans out.wire
  rw [← List.take_append_drop w.outcomes.length w.sent, List.flatMap_append] at same
  simpa using same

theorem Incoming.settle (out : Outgoing w part) (inc : Incoming w taken)
    {got : List (UInt8 × List α)} {left : List (Chunk α)}
    (split : marks w.channel.chunks = got ++ marks left)
    (fits : got.length ≤ w.receiver.wanted) (solid : Solid left) (light : Light left) :
    Kept (w.settle { w.channel with chunks := left }
      (w.receiver.accept (.data (markedBytes got) (markedRights got)))) := by
  rw [← length_markedBytes] at fits
  have ha := Receiver.accept_data inc.reading fits (markedRights got)
  rw [inc.rights, ← markedRights_append, ← markedBytes_append] at ha
  have hwire := inc.wire
  rw [split, ← List.append_assoc, List.append_assoc _ taken got] at hwire
  generalize w.receiver.accept (.data (markedBytes got) (markedRights got)) = progress at ha
  cases progress with
  | reading r =>
    cases ha with
    | reading h all =>
      exact ⟨⟨_, out.begun, out.small, out.wire, out.started⟩, taken ++ got, inc.open_, solid,
        light, hwire, inc.outcomes, h, all⟩
  | done outcome closed =>
    have stream := inc.stream out
    rw [split, ← List.append_assoc] at stream
    have small : ∀ p ∈ w.sent.drop w.outcomes.length, p.message.encode.length ≤ limit :=
      fun p hp => out.small p (List.mem_of_mem_drop hp)
    obtain ⟨p, later, hdrop, hframe, houtcome⟩ :=
      outcome_frame small out.started stream ha
    have htake : w.sent.take (w.outcomes.length + 1) = w.sent.take w.outcomes.length ++ [p] := by
      have : w.sent[w.outcomes.length]? = some p := by
        rw [← List.head?_drop, hdrop, List.head?_cons]
      rw [List.take_add_one, this, Option.toList_some]
    refine ⟨⟨_, out.begun, out.small, out.wire, out.started⟩, [], inc.open_, solid, light, ?_, ?_,
      Receiver.reading_start, rfl⟩
    · simp only [Traffic.settle, List.length_append, List.length_singleton, htake]
      rw [hwire, hframe]
      simp
    · simp only [Traffic.settle, List.length_append, List.length_singleton, htake, houtcome]
      rw [List.map_append, ← inc.outcomes]
      rfl

theorem Incoming.receive (out : Outgoing w part) (inc : Incoming w taken)
    (more : w.channel.chunks ≠ []) (most : Nat) :
    Kept (w.receive most) ∧ (w.receive most).sent = w.sent ∧
      (0 < most → (w.receive most).channel.bytes.length < w.channel.bytes.length) := by
  obtain ⟨got, left, hreceive, split, nonempty, fits, solid, light⟩ :=
    receive_marks (min most w.receiver.wanted) inc.solid inc.light more
  have same : w.receive most = w.settle { w.channel with chunks := left }
      (w.receiver.accept (.data (markedBytes got) (markedRights got))) := by
    simp only [Traffic.receive, Receiver.step?_eq hreceive]
  have fewer (pos : 0 < most) : (bytesOf left).length < w.channel.bytes.length := by
    have := inc.reading.wanted_pos
    have := List.length_pos_iff.mpr (nonempty (by omega))
    rw [bytes_eq, ← markedBytes_marks, ← markedBytes_marks, length_markedBytes, length_markedBytes,
      split, List.length_append]
    omega
  rw [same]
  refine ⟨inc.settle out split (by omega) solid light, ?_⟩
  generalize w.receiver.accept (.data (markedBytes got) (markedRights got)) = progress
  cases progress <;> exact ⟨rfl, fewer⟩

theorem Incoming.receive_blocked (inc : Incoming w taken) (none : w.channel.chunks = [])
    (most : Nat) : w.receive most = w := by
  simp [Traffic.receive, Receiver.step?, Channel.receive, none, inc.open_.1]

theorem marks_behind (n : Nat) {chunks : List (Chunk α)} (solid : Solid chunks) :
    marks (behind n chunks) = (marks chunks).drop n ∧ Solid (behind n chunks) := by
  induction chunks generalizing n with
  | nil => simp [behind]
  | cons chunk rest ih =>
    obtain ⟨hchunk, hrest⟩ := solid_cons.mp solid
    have hlen : (marked chunk.bytes chunk.rights).length = chunk.bytes.length := by
      rw [← length_markedBytes, markedBytes_marked]
    rw [behind]
    split
    · rename_i none
      subst none
      exact ⟨rfl, solid⟩
    split
    · rename_i all
      obtain ⟨hmarks, hsolid⟩ := ih (n - chunk.bytes.length) hrest
      have none : (marked chunk.bytes chunk.rights).drop n = [] :=
        List.drop_of_length_le (by omega)
      refine ⟨?_, hsolid⟩
      rw [hmarks, marks_cons, List.drop_append, hlen, none, List.nil_append]
    · rename_i some_ part
      have hpart : chunk.bytes.take n ≠ [] := by simp [List.take_eq_nil_iff, some_, hchunk]
      have hcut := marked_append hpart (chunk.bytes.drop n) chunk.rights
      have hn : (marked (chunk.bytes.take n) chunk.rights).length = n := by
        rw [← length_markedBytes, markedBytes_marked, List.length_take]
        omega
      rw [List.take_append_drop] at hcut
      refine ⟨?_, solid_cons.mpr ⟨by simpa using part, hrest⟩⟩
      rw [marks_cons, marks_cons, hcut, List.append_assoc, List.drop_left' hn]

theorem light_behind (n : Nat) {chunks : List (Chunk α)} (light : Light chunks) :
    Light (behind n chunks) := by
  induction chunks generalizing n with
  | nil => exact light
  | cons chunk rest ih =>
    rw [behind]
    split
    · exact light
    split
    · exact ih _ (light_cons.mp light).2
    · exact light_cons.mpr ⟨Nat.zero_le _, (light_cons.mp light).2⟩

theorem Incoming.deliver (out : Outgoing w part) (inc : Incoming w taken) (n : Nat) :
    Kept (w.deliver n) := by
  simp only [Traffic.deliver]
  split
  · exact ⟨⟨_, out⟩, _, inc⟩
  · rename_i some_
    obtain ⟨hmarks, hsolid⟩ := marks_behind (min n w.receiver.wanted) inc.solid
    refine inc.settle out ?_ ?_ hsolid (light_behind _ inc.light)
    · rw [hmarks, List.take_append_drop]
    · exact Nat.le_trans (List.length_take_le _ _) (Nat.min_le_right _ _)

-- ---------------------------------------------------------------------------
-- Runs
-- ---------------------------------------------------------------------------

theorem Kept.step (h : Kept w) (m : Traffic.Move α) : Kept (w.step m) := by
  obtain ⟨⟨part, out⟩, taken, inc⟩ := h
  cases m with
  | post p => exact out.post inc p
  | send a => exact out.send inc a
  | deliver n => exact inc.deliver out n
  | receive most =>
    rw [Traffic.step]
    by_cases none : w.channel.chunks = []
    · rw [inc.receive_blocked none]
      exact ⟨⟨_, out⟩, _, inc⟩
    · exact (inc.receive out none most).1

theorem Kept.arrived (h : Kept w) (none : w.channel.chunks = []) :
    w.outcomes = w.sent.map Parcel.outcome := by
  obtain ⟨⟨part, out⟩, taken, inc⟩ := h
  have stream := inc.stream out
  rw [none, marks_nil, List.append_nil] at stream
  obtain ⟨n, short⟩ := inc.reading.front
  have rest : w.sent.drop w.outcomes.length = [] := by
    cases hdrop : w.sent.drop w.outcomes.length with
    | nil => rfl
    | cons p later =>
      -- The receiver would have taken a whole frame without an outcome of it.
      have small := out.small p (List.mem_of_mem_drop (hdrop ▸ List.mem_cons_self))
      rw [stream, hdrop, List.flatMap_cons, List.append_assoc, markedBytes_append, p.bytes_frame,
        Frame.front_wrap small] at short
      cases short
  rw [inc.outcomes, List.take_of_length_le (List.drop_eq_nil_iff.mp rest)]

theorem Kept.arrives (h : Kept w) {calls : List Nat} (positive : ∀ most ∈ calls, 0 < most)
    (enough : w.channel.bytes.length ≤ calls.length) :
    (Run.last Traffic.step w (calls.map .receive)).outcomes = w.sent.map Parcel.outcome := by
  induction calls generalizing w with
  | nil =>
    obtain ⟨taken, inc⟩ := h.incoming
    exact h.arrived (inc.solid.eq_nil (List.eq_nil_of_length_eq_zero (Nat.le_zero.mp enough)))
  | cons most calls ih =>
    obtain ⟨pos, positive⟩ := List.forall_mem_cons.mp positive
    rw [List.map_cons, Run.last_cons]
    by_cases none : w.channel.chunks = []
    · obtain ⟨taken, inc⟩ := h.incoming
      rw [Traffic.step, inc.receive_blocked none]
      exact ih h positive (by simp [bytes_eq, none])
    · obtain ⟨⟨part, out⟩, taken, inc⟩ := h
      obtain ⟨kept, same, fewer⟩ := inc.receive out none most
      rw [← same]
      refine ih kept positive ?_
      have := fewer pos
      rw [List.length_cons] at enough
      exact Nat.le_of_lt_succ (Nat.lt_of_lt_of_le this enough)

/-- What is known of the messages that were sent, those on the wire and those that arrived. -/
structure Conveyed (w : Traffic α) : Prop where
  /-- Every message whose sending was begun was sent, but for the latest one if that is still being
  sent or has failed. -/
  begun : w.begun = w.sent ++ w.sending.parcel?.toList
  /-- On the wire are the frames that were sent, each descriptor on the first byte of its own frame
  and nowhere else, and a beginning of the frame that is being sent or that has failed. -/
  wire : ∃ part, marks w.wire = w.sent.flatMap Parcel.frame ++ part ∧
    part <+: w.sending.parcel?.toList.flatMap Parcel.frame
  /-- What arrives is what was sent, message by message, each with its own descriptor. -/
  inOrder : w.outcomes <+: w.sent.map Parcel.outcome
  /-- Whoever goes on receiving gets all of them. -/
  arrives : ∀ calls : List Nat, (∀ most ∈ calls, 0 < most) →
    w.channel.bytes.length ≤ calls.length →
    (Run.last Traffic.step w (calls.map .receive)).outcomes = w.sent.map Parcel.outcome

/-- However sending and receiving are split into calls and take turns, a descriptor goes with the
first byte of its own frame and arrives with its own message and no other. -/
theorem descriptors_accompany (moves : List (Traffic.Move α)) :
    Conveyed (Run.last Traffic.step Traffic.start moves) := by
  have h : Kept (Run.last Traffic.step (Traffic.start : Traffic α) moves) :=
    Run.invariant Traffic.step kept_start (fun _ m h => h.step m) moves
  generalize Run.last Traffic.step (Traffic.start : Traffic α) moves = w at h
  have arrives (calls) (positive : ∀ most ∈ calls, 0 < most)
      (enough : w.channel.bytes.length ≤ calls.length) := h.arrives positive enough
  obtain ⟨⟨part, out⟩, taken, inc⟩ := h
  refine ⟨out.begun, ⟨part, out.wire, out.started.prefix_frame⟩, ?_, arrives⟩
  rw [inc.outcomes]
  exact (List.take_prefix _ _).map Parcel.outcome

end

end UsbBridge.Socket
