import UsbBridge.Proofs.Client.Moves

/-!
# A client and the peer at the far end

A peer answers each request that it has heard as a whole with one frame, in order, as late as it
likes and in any pieces, and may close between any two of them (`FarEnd`). `Stage` says where the
latest request of a client or the answer to it is, and no move of the peer gets ahead of that
(`Stage.peer`).
-/

namespace UsbBridge.Client

open Socket
open UsbBridge.Frame (wrap bodies)
open Receiver (Reading)

-- ---------------------------------------------------------------------------
-- A client and its peer
-- ---------------------------------------------------------------------------

/-- A frame that answers a request, in the pieces that it is sent in. The body may be over the limit
or not be a message at all. -/
structure Answer (α : Type) where
  body : List UInt8
  pieces : List (Chunk α)
  fits : body.length < 4294967296
  solid : Solid pieces
  framed : bytesOf pieces = wrap body

structure FarEnd (α : Type) where
  /-- The connection as the client sees it. -/
  link : Link α
  /-- All that the peer has received. -/
  heard : List UInt8
  /-- The answers that the peer has decided on. -/
  answers : List (Answer α)
  /-- The pieces of these that it has not sent yet. -/
  pending : List (Chunk α)

inductive PeerMove (α : Type) where
  /-- Receives so many bytes at most. -/
  | hear (most : Nat)
  /-- Answers the first request that has come as a whole and has no answer. -/
  | answer (a : Answer α)
  /-- Sends the next piece. -/
  | push
  | leave

namespace FarEnd

def hear (f : FarEnd α) (most : Nat) : FarEnd α :=
  match f.link.outgoing.receive most with
  | (.ready (.data bytes _), outgoing) =>
    { f with link := { f.link with outgoing }, heard := f.heard ++ bytes }
  | (_, outgoing) => { f with link := { f.link with outgoing } }

def answer (f : FarEnd α) (a : Answer α) : FarEnd α :=
  if f.link.isLeft = false ∧ f.answers.length < (bodies f.heard).length then
    { f with answers := f.answers ++ [a], pending := f.pending ++ a.pieces }
  else f

def push (f : FarEnd α) : FarEnd α :=
  match f.pending with
  | [] => f
  | chunk :: later =>
    { f with link := (f.link.flip.sendBytes chunk.bytes chunk.rights).2.flip, pending := later }

def leave (f : FarEnd α) : FarEnd α := { f with link := f.link.flip.close.flip, pending := [] }

def step (f : FarEnd α) : PeerMove α → FarEnd α
  | .hear most => f.hear most
  | .answer a => f.answer a
  | .push => f.push
  | .leave => f.leave

end FarEnd

structure World (α : Type) where
  client : State α
  far : FarEnd α

inductive Turn (α : Type) where
  | client (m : Move)
  | peer (p : PeerMove α)

namespace World

def start (timeout : Duration) : World α := ⟨.start timeout, .fresh, [], [], []⟩

def step (w : World α) : Turn α → World α
  | .client m =>
    let (client, link) := w.client.step w.far.link m
    ⟨client, { w.far with link }⟩
  | .peer p => { w with far := w.far.step p }

def starts (w : World α) : Turn α → Option (Nat × Payload)
  | .client m => w.client.starts m
  | .peer _ => none

end World

/-- The exchanges that were started, in order, each as its caller and the request. -/
def exchanges (past : List (World α × Turn α)) : List (Nat × Payload) :=
  past.filterMap fun (w, t) => w.starts t

def requestsOf (xs : List (Nat × Payload)) : List (List UInt8) :=
  xs.map fun (_, request) => (Message.ofPayload request).encode

def frames (xs : List (Nat × Payload)) : List UInt8 := (requestsOf xs).flatMap wrap

/-- One of these exchanges was this caller's, and it came to what the peer answered to the request
of just that exchange. -/
def Matched (f : FarEnd α) (xs : List (Nat × Payload)) (j caller : Nat)
    (result : Except BridgeError (Payload × List α)) : Prop :=
  ∃ request a m, xs[j]? = some (caller, request) ∧
    (bodies f.heard)[j]? = some (Message.ofPayload request).encode ∧ f.answers[j]? = some a ∧
    Message.decode a.body = .ok m ∧ result = reply m.payload (rightsOf a.pieces)

/-- The stream is between two frames, and every request on it has been answered. -/
structure Boundary (f : FarEnd α) (xs : List (Nat × Payload)) : Prop where
  outgoing : f.link.outgoing.chunks = []
  incoming : f.link.incoming.chunks = []
  pending : f.pending = []
  heard : f.heard = frames xs
  answers : f.answers.length = xs.length

-- ---------------------------------------------------------------------------
-- Stages
-- ---------------------------------------------------------------------------

structure Sound (f : FarEnd α) (xs : List (Nat × Payload)) : Prop where
  small : ∀ body ∈ requestsOf xs, body.length ≤ Frame.limit
  solid : Solid f.link.outgoing.chunks
  light : Light f.link.outgoing.chunks
  stays : f.link.incoming.receiving = true

inductive Unsent : Phase α → List UInt8 → Prop
  | part {bytes} (nonempty : bytes ≠ []) : Unsent (.sending ⟨bytes, []⟩) bytes
  | none {r} (reading : Reading r []) (bare : r.rights = []) : Unsent (.receiving r) []

/-- The peer has answered `n` requests, and all of that has been received. -/
structure Silent (f : FarEnd α) (n : Nat) : Prop where
  answers : f.answers.length = n
  incoming : f.link.incoming.chunks = []
  pending : f.pending = []

/-- All requests have been answered, and these bytes of the latest answer have been received, with
these descriptors. What a peer that has left did not send is lost. -/
structure Coming (f : FarEnd α) (xs : List (Nat × Payload)) (a : Answer α) (taken : List UInt8)
    (rights : List α) (lost : List (Chunk α)) : Prop where
  outgoing : f.link.outgoing.chunks = []
  heard : f.heard = frames xs
  answers : f.answers.length = xs.length
  latest : f.answers.getLast? = some a
  bytes : taken ++ bytesOf (f.link.incoming.chunks ++ f.pending ++ lost) = wrap a.body
  rights : rights ++ rightsOf (f.link.incoming.chunks ++ f.pending ++ lost) = rightsOf a.pieces
  solid : Solid (f.link.incoming.chunks ++ f.pending ++ lost)

/-- Where things are after these exchanges, so many of which were answered. -/
inductive Stage (s : State α) (f : FarEnd α) : List (Nat × Payload) → Nat → Prop
  | idle {xs} (sound : Sound f xs) (free : s.running = none) (inStep : s.outOfStep = false)
      (boundary : Boundary f xs) : Stage s f xs xs.length
  | asking {xs x phase unsent} (sound : Sound f (xs ++ [x]))
      (run : s.running = some (x.1, phase)) (out : s.outOfStep = true)
      (part : Unsent phase unsent) (silent : Silent f xs.length)
      (way : f.link.isLeft = false →
        f.heard ++ bytesOf f.link.outgoing.chunks ++ unsent = frames (xs ++ [x])) :
      Stage s f (xs ++ [x]) xs.length
  | answered {xs x r taken a lost} (sound : Sound f (xs ++ [x]))
      (run : s.running = some (x.1, .receiving r)) (out : s.outOfStep = true)
      (reading : Reading r taken) (coming : Coming f (xs ++ [x]) a taken r.rights lost) :
      Stage s f (xs ++ [x]) xs.length
  | spoilt {xs n} (free : s.running = none) (out : s.outOfStep = true) (more : n < xs.length) :
      Stage s f xs n

section
variable {xs : List (Nat × Payload)} {s : List UInt8}

theorem length_requestsOf (xs : List (Nat × Payload)) : (requestsOf xs).length = xs.length := by
  simp [requestsOf]

theorem frames_concat (xs : List (Nat × Payload)) (x : Nat × Payload) :
    frames (xs ++ [x]) = frames xs ++ wrap (Message.ofPayload x.2).encode := by
  simp [frames, requestsOf]

theorem small_concat {x : Nat × Payload} (small : ∀ body ∈ requestsOf xs, body.length ≤ Frame.limit)
    (last : (Message.ofPayload x.2).encode.length ≤ Frame.limit) :
    ∀ body ∈ requestsOf (xs ++ [x]), body.length ≤ Frame.limit := by
  rw [requestsOf, List.map_append]
  exact List.forall_mem_append.mpr ⟨small, List.forall_mem_singleton.mpr last⟩

/-- A request counts as heard only when all of it has come. -/
theorem heard_all (small : ∀ body ∈ requestsOf xs, body.length ≤ Frame.limit)
    (h : s <+: frames xs) (last : xs.length ≤ (bodies s).length) : s = frames xs := by
  obtain ⟨hpre, hall⟩ := Frame.bodies_of_prefix small h
  have := hpre.length_le
  rw [length_requestsOf] at hall this
  exact hall (by omega)

theorem bodies_frames (small : ∀ body ∈ requestsOf xs, body.length ≤ Frame.limit) :
    bodies (frames xs) = requestsOf xs :=
  Frame.bodies_flatMap small

end

-- ---------------------------------------------------------------------------
-- The peer's moves
-- ---------------------------------------------------------------------------

section
variable {s : State α} {f : FarEnd α} {xs : List (Nat × Payload)} {x : Nat × Payload} {n : Nat}
variable {a : Answer α} {taken : List UInt8} {rights : List α} {lost later : List (Chunk α)}
variable {chunk : Chunk α} {unsent : List UInt8}

theorem hear_cases (solid : Solid f.link.outgoing.chunks) (light : Light f.link.outgoing.chunks)
    (most : Nat) : f.hear most = f ∨ ∃ bytes left,
      bytesOf f.link.outgoing.chunks = bytes ++ bytesOf left ∧ Solid left ∧ Light left ∧
        f.hear most = { f with link.outgoing.chunks := left, heard := f.heard ++ bytes } := by
  have h := receive_receives f.link.outgoing most solid
  unfold FarEnd.hear
  generalize f.link.outgoing.receive most = p at h
  cases h with
  | blocked empty going => exact .inl rfl
  | ended empty shut => exact .inl rfl
  | data g => exact .inr ⟨_, _, g.allBytes, g.solid, (g.few light).2, rfl⟩
  | overflow g many =>
    have := (g.few light).1
    omega

theorem hear_nothing (h : f.link.outgoing.chunks = []) (most : Nat) : f.hear most = f := by
  have solid : Solid f.link.outgoing.chunks := by simp [h]
  have light : Light f.link.outgoing.chunks := by simp [h, Light]
  obtain same | ⟨bytes, left, hbytes, hleft, -, heq⟩ := hear_cases solid light most
  · exact same
  · rw [h, bytesOf_nil, eq_comm, List.append_eq_nil_iff] at hbytes
    rw [heq, hbytes.1, hleft.eq_nil hbytes.2, List.append_nil, ← h]

theorem answer_nothing (h : (bodies f.heard).length ≤ f.answers.length) (a : Answer α) :
    f.answer a = f := by
  rw [FarEnd.answer, if_neg (by omega)]

theorem push_nothing (h : f.pending = []) : f.push = f := by
  simp only [FarEnd.push, h]

theorem push_next (stays : f.link.incoming.receiving = true) (h : f.pending = chunk :: later)
    (nonempty : chunk.bytes ≠ []) : f.push =
      { f with link.incoming.chunks := f.link.incoming.chunks ++ [chunk], pending := later } := by
  simp [FarEnd.push, h, Link.flip, Link.sendBytes, Channel.sendBytes, Channel.send, stays, nonempty]

theorem Sound.leave (sound : Sound f xs) : Sound f.leave xs :=
  ⟨sound.small, solid_nil, nofun, sound.stays⟩

/-- A peer that has answered all it was asked waits for more. -/
theorem Boundary.peer (sound : Sound f xs) (boundary : Boundary f xs) (p : PeerMove α) :
    Sound (f.step p) xs ∧ Boundary (f.step p) xs := by
  cases p with
  | hear most =>
    rw [FarEnd.step, hear_nothing boundary.outgoing]
    exact ⟨sound, boundary⟩
  | answer a =>
    have none : (bodies f.heard).length ≤ f.answers.length := by
      simp [boundary.heard, bodies_frames sound.small, length_requestsOf, boundary.answers]
    rw [FarEnd.step, answer_nothing none]
    exact ⟨sound, boundary⟩
  | push =>
    rw [FarEnd.step, push_nothing boundary.pending]
    exact ⟨sound, boundary⟩
  | leave =>
    exact ⟨sound.leave, rfl, boundary.incoming, rfl, boundary.heard, boundary.answers⟩

theorem Coming.peer (sound : Sound f xs) (coming : Coming f xs a taken rights lost)
    (p : PeerMove α) : Sound (f.step p) xs ∧ ∃ lost, Coming (f.step p) xs a taken rights lost := by
  cases p with
  | hear most =>
    rw [FarEnd.step, hear_nothing coming.outgoing]
    exact ⟨sound, lost, coming⟩
  | answer a =>
    have none : (bodies f.heard).length ≤ f.answers.length := by
      simp [coming.heard, bodies_frames sound.small, length_requestsOf, coming.answers]
    rw [FarEnd.step, answer_nothing none]
    exact ⟨sound, lost, coming⟩
  | push =>
    rw [FarEnd.step]
    cases hp : f.pending with
    | nil =>
      rw [push_nothing hp]
      exact ⟨sound, lost, coming⟩
    | cons chunk later =>
      obtain ⟨outgoing, heard, answers, latest, bytes, rights, solid⟩ := coming
      rw [hp] at bytes rights solid
      have hchunk : chunk.bytes ≠ [] := solid chunk (by simp)
      rw [push_next sound.stays hp hchunk]
      refine ⟨⟨sound.small, sound.solid, sound.light, sound.stays⟩, lost,
        outgoing, heard, answers, latest, ?_, ?_, ?_⟩
      · simpa using bytes
      · simpa using rights
      · simpa using solid
  | leave =>
    have same : f.leave.link.incoming.chunks ++ f.leave.pending ++ (f.pending ++ lost) =
        f.link.incoming.chunks ++ f.pending ++ lost := by
      simp [FarEnd.leave, Link.flip, Link.close, Channel.closeSending]
    exact ⟨sound.leave, f.pending ++ lost, rfl, coming.heard, coming.answers, coming.latest,
      same ▸ coming.bytes, same ▸ coming.rights, same ▸ coming.solid⟩

/-- The first answer after the latest request is the answer to it, because by then it has been sent
and heard as a whole. -/
theorem asking_answer (sound : Sound f (xs ++ [x])) (silent : Silent f xs.length)
    (way : f.link.isLeft = false →
      f.heard ++ bytesOf f.link.outgoing.chunks ++ unsent = frames (xs ++ [x]))
    (here : f.link.isLeft = false) (nonempty : f.answers.length < (bodies f.heard).length)
    (a : Answer α) : unsent = [] ∧ Sound (f.answer a) (xs ++ [x]) ∧
      Coming (f.answer a) (xs ++ [x]) a [] [] [] := by
  have hway := way here
  have all : f.heard = frames (xs ++ [x]) := by
    refine heard_all sound.small ⟨bytesOf f.link.outgoing.chunks ++ unsent, ?_⟩ ?_
    · rw [← hway, List.append_assoc]
    · rw [silent.answers] at nonempty
      simpa [Nat.succ_le_iff] using nonempty
  rw [all, List.append_assoc, List.append_right_eq_self, List.append_eq_nil_iff] at hway
  rw [FarEnd.answer, if_pos ⟨here, nonempty⟩]
  exact ⟨hway.2, ⟨sound.small, sound.solid, sound.light, sound.stays⟩,
    { outgoing := sound.solid.eq_nil hway.1
      heard := all
      answers := by simp [silent.answers]
      latest := by simp
      bytes := by simp [silent.incoming, silent.pending, a.framed]
      rights := by simp [silent.incoming, silent.pending]
      solid := by simpa [silent.incoming, silent.pending] using a.solid }⟩

/-- Whatever the peer does, it does not get ahead of the client. -/
theorem Stage.peer (h : Stage s f xs n) (p : PeerMove α) : Stage s (f.step p) xs n := by
  cases h with
  | idle sound free inStep boundary =>
    obtain ⟨sound, boundary⟩ := boundary.peer sound p
    exact .idle sound free inStep boundary
  | answered sound run out reading coming =>
    obtain ⟨sound, lost, coming⟩ := coming.peer sound p
    exact .answered sound run out reading coming
  | spoilt free out more => exact .spoilt free out more
  | @asking xs x phase unsent sound run out part silent way =>
    cases p with
    | hear most =>
      obtain same | ⟨bytes, left, hbytes, solid, light, heq⟩ :=
        hear_cases sound.solid sound.light most
      · rw [FarEnd.step, same]
        exact .asking sound run out part silent way
      · rw [FarEnd.step, heq]
        refine .asking ⟨sound.small, solid, light, sound.stays⟩ run out part
          ⟨silent.answers, silent.incoming, silent.pending⟩ fun here => ?_
        rw [← way here, hbytes]
        simp only [List.append_assoc]
    | answer a =>
      by_cases h : f.link.isLeft = false ∧ f.answers.length < (bodies f.heard).length
      · obtain ⟨rfl, sound', coming⟩ := asking_answer sound silent way h.1 h.2 a
        cases part with
        | part nonempty => exact absurd rfl nonempty
        | none reading bare => exact .answered sound' run out reading (bare ▸ coming)
      · rw [FarEnd.step, FarEnd.answer, if_neg h]
        exact .asking sound run out part silent way
    | push =>
      rw [FarEnd.step, push_nothing silent.pending]
      exact .asking sound run out part silent way
    | leave =>
      exact .asking sound.leave run out part ⟨silent.answers, silent.incoming, rfl⟩ nofun

end

end UsbBridge.Client
