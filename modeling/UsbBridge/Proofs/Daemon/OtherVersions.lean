import UsbBridge.Proofs.Daemon.Completion

/-!
# Messages of another major version

A message of another major version is refused, and nothing else is done about it (`serve_other`).
But it has to be decoded for that, and its sender may have other rules for what follows the version.
A body that cannot be decoded ends the input without a word (`other_version_answered`).
-/

namespace UsbBridge.Daemon

open Socket
open UsbBridge.Frame (wrap limit)

-- ---------------------------------------------------------------------------
-- Refusals
-- ---------------------------------------------------------------------------

def refusal (v : Version) : Payload :=
  .error (ProtocolError.incompatibleVersion v.major v.minor Version.current.major
    Version.current.minor).message

section
variable {v : Version} {m : Message} {p : Payload}

theorem validate_other (other : v.major ≠ Version.current.major) : v.validate = .error
    (.incompatibleVersion v.major v.minor Version.current.major Version.current.minor) := by
  rw [Version.validate, if_neg other]

theorem Answers.eq_refusal (h : Answers m p) (other : m.version.major ≠ Version.current.major) :
    p = refusal m.version := by
  have refused := validate_other other
  cases h with
  | refused invalid =>
    obtain rfl := Except.error.inj (invalid.symm.trans refused)
    rfl
  | listed same | permission same | opened same | subscribed same | unexpected same =>
    rw [refused] at same
    cases same

theorem isCancel_other (other : m.version.major ≠ Version.current.major) : m.isCancel = false := by
  simp [Message.isCancel, validate_other other]

theorem size_byte (b : UInt8) : (toString b.toNat).utf8ByteSize ≤ 3 := by
  have all : ∀ n : Fin 256, (toString n.val).utf8ByteSize ≤ 3 := by decide +kernel
  exact all ⟨b.toNat, b.toNat_lt⟩

theorem size_append {s t : String} {m n : Nat} (hs : s.utf8ByteSize ≤ m)
    (ht : t.utf8ByteSize ≤ n) : (s ++ t).utf8ByteSize ≤ m + n := by
  rw [String.utf8ByteSize_append]
  omega

theorem size_incompatible (major minor expectedMajor expectedMinor : UInt8) :
    (ProtocolError.incompatibleVersion major minor expectedMajor
      expectedMinor).message.utf8ByteSize ≤ 54 := by
  have opening : "Peer uses protocol ".utf8ByteSize ≤ 19 := by decide +kernel
  have middle : ", this bridge speaks ".utf8ByteSize ≤ 21 := by decide +kernel
  have dot : ".".utf8ByteSize ≤ 1 := by decide +kernel
  have theirs := size_append (size_append (size_append opening (size_byte major)) dot)
    (size_byte minor)
  have ours := size_append (size_append theirs middle) (size_byte expectedMajor)
  exact size_append (size_append ours dot) (size_byte expectedMinor)

theorem refusal_small (v : Version) : (Message.ofPayload (refusal v)).encode.length ≤ limit := by
  have small := size_incompatible v.major v.minor Version.current.major Version.current.minor
  rw [refusal]
  generalize (ProtocolError.incompatibleVersion v.major v.minor Version.current.major
    Version.current.minor).message = s at small
  have one : (Varint.encode s.utf8ByteSize).length = 1 := Varint.length_tag (by omega)
  have tag : (Varint.encode 11).length = 1 := Varint.length_tag (by decide)
  simp only [Message.ofPayload, Message.encode, Version.write, Payload.write, Wire.writeString,
    Wire.utf8_length, List.length_append, List.length_cons, List.length_nil, one, tag, limit]
  omega

/-- The version comes first in a body. -/
theorem decode_version {a b d : UInt8} {rest : List UInt8}
    (h : Message.decode (a :: b :: d :: rest) = .ok m) : m.version = ⟨a, b, d⟩ := by
  have version : Version.read (a :: b :: d :: rest) = .ok (⟨a, b, d⟩, rest) :=
    Version.takes ⟨a, b, d⟩ rest
  rw [Message.decode, Message.read, Wire.run_bind, version] at h
  simp only [Except.bind, Wire.run_bind] at h
  cases payload : Payload.read rest with
  | error fault =>
    rw [payload] at h
    cases h
  | ok q =>
    rw [payload] at h
    cases h
    rfl

-- ---------------------------------------------------------------------------
-- Frames among others
-- ---------------------------------------------------------------------------

def Sound (body : List UInt8) : Prop := body.length ≤ limit ∧ ∃ m, Message.decode body = .ok m

theorem understood_sound {before : List (List UInt8)} (sound : ∀ body ∈ before, Sound body)
    (rest : List UInt8) : understood (before.flatMap wrap ++ rest) =
      understood (before.flatMap wrap) ++ understood rest := by
  induction before with
  | nil => simp
  | cons body later ih =>
    obtain ⟨⟨small, m, decoded⟩, sound⟩ := List.forall_mem_cons.mp sound
    rw [List.flatMap_cons, List.append_assoc, understood_wrap small, understood_wrap small, decoded]
    simp only [ih sound, List.cons_append]

theorem forall₂_split {α β : Type} {R : α → β → Prop} {xs ys : List α} {zs : List β}
    (h : List.Forall₂ R (xs ++ ys) zs) :
    ∃ us vs, zs = us ++ vs ∧ List.Forall₂ R xs us ∧ List.Forall₂ R ys vs := by
  refine ⟨zs.take xs.length, zs.drop xs.length, (List.take_append_drop _ _).symm, ?_, ?_⟩
  · simpa using List.forall₂_take xs.length h
  · simpa using List.forall₂_drop xs.length h

end

section
variable {σ : Type} (ops : Host σ) {s : State σ} {c : Nat} {conn : Connection} {m : Message}

/-- A handler says that it refuses a message, and does nothing else. -/
def RefusesOnly (s t : State σ) (c : Nat) (m : Message) : Prop :=
  ∃ conn request later, s.connections[c]? = some conn ∧ conn.requests = request :: later ∧
    request.message = m ∧ t = s.put c
      { conn with requests := later, link := told conn.link (some (refusal m.version)) [] }

theorem serve_other {request : Request} {later : List Request} (hc : s.connections[c]? = some conn)
    (idle : conn.handler = .idle) (next : conn.requests = request :: later)
    (other : request.message.version.major ≠ Version.current.major) (sending : Sending)
    (sends : ¬GivesUp ops c s (.serve c sending)) :
    RefusesOnly s (s.serve ops c sending) c request.message := by
  have served : s.serve ops c sending = (s.put c { conn with requests := later }).reply c sending
      (refusal request.message.version) [] := by
    simp only [State.serve, hc, idle, next, State.handle, validate_other other]
    rfl
  have replied := reply_replied (put_self hc { conn with requests := later }) sending
    (refusal request.message.version) []
  rw [← served] at replied
  generalize ht : s.serve ops c sending = t at replied
  cases replied with
  | whole small => exact ⟨conn, request, later, hc, next, rfl, put_put s c _ _⟩
  | failed q cause only self =>
    refine absurd ⟨?_, ?_, ?_⟩ sends
    · simp [State.serves, hc, idle]
    · simp [State.step, ht, State.serves, self, Connection.stop]
    · simp [State.runsDry, hc, next]

theorem taken_other {move : Move σ} (taken : s.taken? c move = some m)
    (other : m.version.major ≠ Version.current.major) (sends : ¬GivesUp ops c s move) :
    RefusesOnly s (s.step ops move) c m := by
  cases move with
  | serve d sending =>
    simp only [State.taken?] at taken
    split at taken
    · rename_i hd
      subst hd
      obtain ⟨conn, hc, next⟩ := Option.bind_eq_some_iff.mp taken
      unfold Connection.next? at next
      split at next
      · rename_i idle
        obtain ⟨request, head, rfl⟩ := Option.map_eq_some_iff.mp next
        obtain ⟨later, queue⟩ := List.head?_eq_some_iff.mp head
        exact serve_other ops hc idle queue other sending sends
      · cases next
    · cases taken
  | _ => cases taken

/-- What comes of a frame of another major version among others. That the sends succeed is no
condition on the refusal: it always fits a frame. -/
structure OtherVersion (c : Nat) (past : List (State σ × Move σ)) (before body after : List UInt8)
    (v : Version) : Prop where
  short : (Message.ofPayload (refusal v)).encode.length ≤ limit
  /-- Messages of another major version are refused, and nothing else is done about them. -/
  refused : ∀ p ∈ past, ∀ m, p.1.taken? c p.2 = some m → m.version.major ≠ Version.current.major →
    RefusesOnly p.1 (p.1.step ops p.2) c m
  /-- If the body can be decoded by the rules of this version, there is one refusal for it, and what
  comes after it is answered. -/
  decoded : ∀ m, Message.decode body = .ok m → ∃ earlier later,
    answering (said (history ops c past).written) = earlier ++ refusal v :: later ∧
    List.Forall₂ Answers (due (understood before)) earlier ∧
    List.Forall₂ Answers (due (understood after)) later
  /-- Otherwise neither it nor what comes after it is answered. -/
  undecoded : ∀ e, Message.decode body = .error e →
    List.Forall₂ Answers (due (understood before)) (answering (said (history ops c past).written))

/-- A message of another major version is answered with one refusal if it can be decoded. -/
theorem other_version_answered (manager : Manager σ) (c : Nat) (moves : List (Move σ))
    (sends : ∀ p ∈ Run.record (State.step ops) (State.start manager) moves,
      ¬GivesUp ops c p.1 p.2)
    (hc : (Run.last (State.step ops) (State.start manager) moves).connections[c]? = some conn)
    (quiet : conn.isQuiet) {before : List (List UInt8)} (sound : ∀ body ∈ before, Sound body)
    {major minor patch : UInt8} {rest after : List UInt8}
    (small : (major :: minor :: patch :: rest).length ≤ limit)
    (other : major ≠ Version.current.major)
    (sent : (history ops c (Run.record (State.step ops) (State.start manager) moves)).sent =
      before.flatMap wrap ++ (wrap (major :: minor :: patch :: rest) ++ after))
    (fits : ¬(history ops c (Run.record (State.step ops) (State.start manager) moves)).Overflowed) :
    OtherVersion ops c (Run.record (State.step ops) (State.start manager) moves)
      (before.flatMap wrap) (major :: minor :: patch :: rest) after ⟨major, minor, patch⟩ := by
  have serving := (tracked_run ops manager c moves sends).serving conn hc
  obtain ⟨answers, same⟩ := (serving.answering ops hc).complete quiet
  rw [same fits, sent, understood_sound sound, understood_wrap small, due_append] at answers
  refine ⟨refusal_small _, fun p hp m taken other => taken_other ops taken other (sends p hp),
    fun m decoded => ?_, fun e bad => ?_⟩
  · have version := decode_version decoded
    have otherToo : m.version.major ≠ Version.current.major := by rwa [version]
    -- First the replies to what came before the frame, then the one to it, then the others.
    simp only [decoded] at answers
    obtain ⟨earlier, others, written, first, answers⟩ := forall₂_split answers
    rw [← List.singleton_append, due_append, due_one (isCancel_other otherToo)] at answers
    cases answers with
    | cons refused later =>
      rw [refused.eq_refusal otherToo, version] at written
      exact ⟨earlier, _, written, first, later⟩
  · simpa [bad, due] using answers

end

/-- A consumer of major version 2 asks for the devices, and so does one of this version. -/
def outdated : List (Move Unit) :=
  [.accept, .consumer 0 (.send (wrap [2, 0, 0, 0] ++ wrap [1, 0, 0, 0]) []), .read 0 4, .read 0 4,
    .enqueue 0, .read 0 4, .read 0 4, .serve 0 .whole, .enqueue 0, .serve 0 .whole]

theorem outdated_answered :
    (∀ p ∈ Run.record (State.step bareHost) bareStart outdated, ¬GivesUp bareHost 0 p.1 p.2) ∧
    OtherVersion bareHost 0 (Run.record (State.step bareHost) bareStart outdated) [] [2, 0, 0, 0]
      (wrap [1, 0, 0, 0]) ⟨2, 0, 0⟩ ∧
    (history bareHost 0 (Run.record (State.step bareHost) bareStart outdated)).written =
      (refusal ⟨2, 0, 0⟩).frame ++ Payload.frame (.listDevicesResponse (.ok [])) := by
  have sends : ∀ p ∈ Run.record (State.step bareHost) bareStart outdated,
      ¬GivesUp bareHost 0 p.1 p.2 := by decide +kernel
  have there : (Run.last (State.step bareHost) bareStart outdated).connections[0]?.any
      (·.isQuiet) = true := by decide +kernel
  have sent : (history bareHost 0 (Run.record (State.step bareHost) bareStart outdated)).sent =
      [].flatMap wrap ++ (wrap [2, 0, 0, 0] ++ wrap [1, 0, 0, 0]) := by decide +kernel
  have fits : ¬(history bareHost 0
      (Run.record (State.step bareHost) bareStart outdated)).Overflowed := by decide +kernel
  obtain ⟨conn, hc, quiet⟩ := (Option.any_eq_true _ _).mp there
  have refused := other_version_answered bareHost _ 0 outdated sends hc quiet
    (List.forall_mem_nil _) (by decide) (by decide) sent fits
  exact ⟨sends, refused, by decide +kernel⟩

/-- A consumer of major version 2 sends a kind of request that this version does not know. -/
def unknown : List (Move Unit) :=
  [.accept, .consumer 0 (.send (wrap [2, 0, 0, 12]) []), .read 0 4, .read 0 4, .serve 0 .whole]

/-- It is not refused: the handler returns without a word. -/
theorem unknown_unanswered :
    (∀ p ∈ Run.record (State.step bareHost) bareStart unknown, ¬GivesUp bareHost 0 p.1 p.2) ∧
    (Run.last (State.step bareHost) bareStart unknown).connections[0]?.any
      (fun conn => conn.isQuiet ∧ conn.handler = .stopped) ∧
    (history bareHost 0 (Run.record (State.step bareHost) bareStart unknown)).sent =
      wrap [2, 0, 0, 12] ∧
    (history bareHost 0 (Run.record (State.step bareHost) bareStart unknown)).written = [] := by
  decide +kernel

end UsbBridge.Daemon
