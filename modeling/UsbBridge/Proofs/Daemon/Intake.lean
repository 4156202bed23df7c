import UsbBridge.Proofs.Daemon.Turns

/-!
# What a connection's reader makes of its input

Of a byte string a reader understands the messages up to the first bad frame (`understood`). What it
has read so far and what it will make of the rest is together what it makes of the whole, whatever
the pieces that the bytes come in (`Intake`).
-/

namespace UsbBridge.Daemon

open Socket
open UsbBridge.Frame (wrap limit front bodies)

-- ---------------------------------------------------------------------------
-- Messages in a byte string
-- ---------------------------------------------------------------------------

/-- The messages that bodies stand for, up to the first that stands for none. -/
def decodable : List (List UInt8) → List Message
  | [] => []
  | body :: later =>
    match Message.decode body with
    | .ok m => m :: decodable later
    | .error _ => []

/-- The messages of the whole frames that a byte string begins with, up to the first bad one. -/
def understood (s : List UInt8) : List Message := decodable (bodies s)

section
variable {body rest taken s : List UInt8} {m : Message} {n : Nat}

theorem understood_wrap (small : body.length ≤ limit) (rest : List UInt8) :
    understood (wrap body ++ rest) =
      match Message.decode body with
      | .ok m => m :: understood rest
      | .error _ => [] := by
  rw [understood, Frame.bodies_wrap small, decodable]
  rfl

theorem understood_short (short : front s = .short n) : understood s = [] := by
  rw [understood, Frame.bodies_short short, decodable]

@[simp] theorem understood_nil : understood [] = [] :=
  understood_short (Frame.front_short (by decide))

theorem understood_oversized (large : front s = .oversized n) : understood s = [] := by
  rw [understood, bodies]
  split
  · rename_i whole
    rw [large] at whole
    cases whole
  · rfl

theorem decodable_prefix {xs ys : List (List UInt8)} (h : xs <+: ys) :
    decodable xs <+: decodable ys := by
  obtain ⟨rest, rfl⟩ := h
  induction xs with
  | nil => exact List.nil_prefix
  | cons body later ih =>
    simp only [List.cons_append, decodable]
    split
    · exact (List.prefix_cons_inj _).mpr ih
    · exact List.prefix_refl _

/-- What follows never takes back a message. -/
theorem understood_prefix {t : List UInt8} (h : s <+: t) : understood s <+: understood t := by
  obtain ⟨rest, rfl⟩ := h
  exact decodable_prefix (Frame.bodies_append s rest)

theorem understood_expected (s : List UInt8) : understood s =
    match expected s with
    | (.ok (some m), rest) => m :: understood rest
    | _ => [] := by
  rw [expected]
  cases hfront : front s with
  | short n =>
    rw [understood_short hfront]
    by_cases empty : s = [] <;> simp [empty]
  | oversized n => rw [understood_oversized hfront]
  | whole body rest =>
    obtain ⟨small, rfl⟩ := Frame.front_eq_whole.mp hfront
    rw [understood_wrap small]
    cases hdecode : Message.decode body <;> simp [hdecode, resultOf]

end

-- ---------------------------------------------------------------------------
-- Reading
-- ---------------------------------------------------------------------------

def handedOver : Delivery Passed → List UInt8
  | .data bytes _ => bytes
  | _ => []

def isOverflow : Delivery Passed → Bool
  | .overflow _ => true
  | _ => false

namespace History

def append (h x : History) : History :=
  ⟨h.sent ++ x.sent, h.deliveries ++ x.deliveries, h.taken ++ x.taken, h.written ++ x.written⟩

instance : Append History := ⟨append⟩

def heard (h : History) : List UInt8 := h.deliveries.flatMap handedOver

/-- Whether more descriptors came than a receive call has room for. -/
def Overflowed (h : History) : Prop := ∃ installed, .overflow installed ∈ h.deliveries

instance (h : History) : Decidable h.Overflowed :=
  decidable_of_iff (h.deliveries.any isOverflow) <| by
    rw [List.any_eq_true]
    constructor
    · rintro ⟨delivery, came, many⟩
      cases delivery with
      | overflow installed => exact ⟨installed, came⟩
      | data | endOfFile => cases many
    · rintro ⟨installed, came⟩
      exact ⟨_, came, rfl⟩

section
variable (h x : History)

@[simp] theorem append_nil : h ++ (⟨[], [], [], []⟩ : History) = h := by
  show append h _ = h
  simp [append]

@[simp] theorem nil_append : (⟨[], [], [], []⟩ : History) ++ h = h := rfl

@[simp] theorem sent_append : (h ++ x).sent = h.sent ++ x.sent := rfl

@[simp] theorem taken_append : (h ++ x).taken = h.taken ++ x.taken := rfl

@[simp] theorem written_append : (h ++ x).written = h.written ++ x.written := rfl

@[simp] theorem heard_append : (h ++ x).heard = h.heard ++ x.deliveries.flatMap handedOver :=
  List.flatMap_append

end

theorem Overflowed.append {h : History} (many : h.Overflowed) (x : History) :
    (h ++ x).Overflowed :=
  many.imp fun _ => List.mem_append_left _

end History

/-- What the reader is at after it has read these messages. -/
inductive Intake (channel : Channel Passed) (h : History) (read : List Message) : Reading → Prop
  | frame {r taken} (at_ : r.Reading taken) (all : h.sent = h.heard ++ channel.bytes)
      (so : ∀ more, understood (h.heard ++ more) = read ++ understood (taken ++ more)) :
      Intake channel h read (.frame r)
  | waiting {request} (all : h.sent = h.heard ++ channel.bytes)
      (so : ∀ more, understood (h.heard ++ more) = read ++ request.message :: understood more) :
      Intake channel h read (.waiting request)
  /-- Nothing more would be understood, nothing more comes, or some of it is lost. -/
  | stopped (part : h.heard <+: h.sent) (so : understood h.heard = read)
      (final : (∀ more, understood (h.heard ++ more) = read) ∨
        h.sent = h.heard ∧ channel.sending = false ∨ h.Overflowed) :
      Intake channel h read .stopped

section
variable {channel next : Channel Passed} {h : History} {read : List Message} {reading : Reading}
variable {r : Receiver Passed} {delivery : Delivery Passed} {most : Nat}

theorem Intake.part (i : Intake channel h read reading) : h.heard <+: h.sent := by
  cases i with
  | frame at_ all so => exact all ▸ List.prefix_append _ _
  | waiting all so => exact all ▸ List.prefix_append _ _
  | stopped part so final => exact part

theorem Intake.read_prefix (i : Intake channel h read reading) : read <+: understood h.heard := by
  cases i with
  | frame at_ all so =>
    have := so []
    rw [List.append_nil] at this
    exact this ▸ List.prefix_append _ _
  | waiting all so =>
    have := so []
    rw [List.append_nil] at this
    exact this ▸ List.prefix_append _ _
  | stopped part so final => exact so ▸ List.prefix_refl _

theorem Intake.hears (i : Intake channel h read reading) (going : channel.sending = true)
    (bytes : List UInt8) (rights : List Passed) :
    Intake { channel with chunks := channel.chunks ++ [⟨bytes, rights⟩] }
      (h ++ ⟨bytes, [], [], []⟩) read reading := by
  have heard : (h ++ ⟨bytes, [], [], []⟩).heard = h.heard := by simp
  have all (same : h.sent = h.heard ++ channel.bytes) :
      (h ++ ⟨bytes, [], [], []⟩).sent = (h ++ ⟨bytes, [], [], []⟩).heard ++
        Channel.bytes { channel with chunks := channel.chunks ++ [⟨bytes, rights⟩] } := by
    simp [same, bytes_eq]
  cases i with
  | frame at_ same so => exact .frame at_ (all same) (by rwa [heard])
  | waiting same so => exact .waiting (all same) (by rwa [heard])
  | stopped part so final =>
    refine .stopped ?_ (by rwa [heard]) ?_
    · rw [heard, History.sent_append]
      exact part.trans (List.prefix_append _ _)
    · rw [heard]
      obtain bad | ⟨-, shut⟩ | many := final
      · exact .inl bad
      · rw [going] at shut
        cases shut
      · exact .inr (.inr (many.append _))

theorem Intake.far (i : Intake channel h read reading) (same : next.chunks = channel.chunks)
    (shut : channel.sending = false → next.sending = false) {x : History} (unsent : x.sent = [])
    (unheard : x.deliveries = []) : Intake next (h ++ x) read reading := by
  have heard : (h ++ x).heard = h.heard := by simp [unheard]
  have sent : (h ++ x).sent = h.sent := by simp [unsent]
  have bytes : next.bytes = channel.bytes := by rw [bytes_eq, bytes_eq, same]
  cases i with
  | frame at_ all so => exact .frame at_ (by rw [heard, sent, bytes, all]) (by rwa [heard])
  | waiting all so => exact .waiting (by rw [heard, sent, bytes, all]) (by rwa [heard])
  | stopped part so final =>
    refine .stopped (by rwa [heard, sent]) (by rwa [heard]) ?_
    rw [heard, sent]
    exact final.imp_right (.imp (.imp_right shut) (·.append x))

theorem Intake.stops (i : Intake channel h read .stopped) (x : History) (unsent : x.sent = [])
    (unheard : x.deliveries = []) : Intake channel.closeReceiving (h ++ x) read .stopped := by
  have heard : (h ++ x).heard = h.heard := by simp [unheard]
  have sent : (h ++ x).sent = h.sent := by simp [unsent]
  cases i with
  | stopped part so final =>
    refine .stopped (by rwa [heard, sent]) (by rwa [heard]) ?_
    rw [heard, sent]
    exact final.imp_right (.imp_right (·.append x))

theorem Intake.enqueues {request : Request} (i : Intake channel h read (.waiting request)) :
    Intake channel h (read ++ [request.message]) (.frame .start) := by
  cases i with
  | waiting all so => exact .frame Receiver.reading_start all (by simpa using so)

/-- An outcome is a message that is understood, or nothing more is. -/
theorem accepts_understood {taken : List UInt8} {rights closed : List Passed}
    {outcome : Outcome Passed} (h : Receiver.Accepts taken rights (.done outcome closed))
    (more : List UInt8) : understood (taken ++ more) =
      match outcome with
      | .message m _ => m :: understood more
      | _ => [] := by
  rw [understood_expected, h.expected more]
  cases outcome <;> rfl

section
variable {taken bytes : List UInt8} {rights : List Passed}

theorem Intake.reads_data (at_ : r.Reading taken) (all : h.sent = h.heard ++ channel.bytes)
    (so : ∀ more, understood (h.heard ++ more) = read ++ understood (taken ++ more))
    (took : channel.bytes = bytes ++ next.bytes) (fits : bytes.length ≤ r.wanted) :
    Intake next (h ++ ⟨[], [.data bytes rights], [], []⟩) read
      (.after (r.accept (.data bytes rights))) := by
  have allNow : (h ++ ⟨[], [.data bytes rights], [], []⟩).sent =
      (h ++ ⟨[], [.data bytes rights], [], []⟩).heard ++ next.bytes := by
    simp [all, took, handedOver]
  have soNow (more : List UInt8) :
      understood ((h ++ ⟨[], [.data bytes rights], [], []⟩).heard ++ more) =
        read ++ understood (taken ++ bytes ++ more) := by
    simp [handedOver, so]
  have ha := Receiver.accept_data at_ fits rights
  generalize r.accept (.data bytes rights) = progress at ha
  cases progress with
  | reading q =>
    cases ha with
    | reading hq _ => exact .frame hq allNow soNow
  | done outcome closed =>
    have hunderstood := accepts_understood ha
    cases outcome with
    | message m rights => exact .waiting allNow fun more => by rw [soNow, hunderstood]
    | closed | failed e =>
      have bad (more : List UInt8) :
          understood ((h ++ ⟨[], [.data bytes rights], [], []⟩).heard ++ more) = read := by
        rw [soNow, hunderstood, List.append_nil]
      exact .stopped (allNow ▸ List.prefix_append _ _) (by simpa using bad []) (.inl bad)

theorem Intake.reads (i : Intake channel h read (.frame r)) (solid : Solid channel.chunks)
    (got : channel.receive (min most r.wanted) = (.ready delivery, next)) :
    Intake next (h ++ ⟨[], [delivery], [], []⟩) read (.after (r.accept delivery)) := by
  cases i with
  | @frame r taken at_ all so =>
    have received := receive_receives channel (min most r.wanted) solid
    rw [got] at received
    -- What was taken of a frame is no message yet.
    have short : understood h.heard = read := by
      obtain ⟨n, hn⟩ := at_.front
      simpa [understood_short hn] using so []
    have heard (nothing : handedOver delivery = []) :
        (h ++ ⟨[], [delivery], [], []⟩).heard = h.heard := by
      simp [nothing]
    have part : h.heard <+: (h ++ ⟨[], [delivery], [], []⟩).sent := by simp [all]
    cases received with
    | ended empty shut =>
      have same : (h ++ ⟨[], [.endOfFile], [], []⟩).sent = h.heard := by
        simp [all, bytes_eq, empty]
      rw [Receiver.accept_end at_]
      have stopped : Intake channel (h ++ ⟨[], [.endOfFile], [], []⟩) read .stopped := by
        refine .stopped ?_ ?_ (.inr (.inl ⟨?_, shut⟩)) <;> rw [heard rfl]
        · exact part
        · exact short
        · exact same
      split <;> exact stopped
    | @overflow _ rights left g many =>
      refine .stopped ?_ ?_ (.inr (.inr ⟨_, List.mem_append_right _ List.mem_cons_self⟩))
      · rw [heard rfl]
        exact part
      · rw [heard rfl, short]
    | data g =>
      exact .reads_data at_ all so g.allBytes (Nat.le_trans g.fits (Nat.min_le_right _ _))

end

end

end UsbBridge.Daemon
