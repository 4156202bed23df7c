import UsbBridge.Proofs.Run
import UsbBridge.Proofs.Socket.Receiving

/-!
# Descriptors that come with a message

While a process receives a message, the system adds descriptors to it call by call. The receiver
holds them until there is an outcome; a message is handed over with all of them, and every other
outcome closes them, whatever arrives and whichever call fails. There is one way out of this: a call
that meets more descriptors than it has room for leaves the first few open and out of reach
(`descriptors_accounted`).
-/

namespace UsbBridge.Socket

namespace Receiver

def Progress.held : Progress α → List α
  | .reading r => r.rights
  | .done (.message _ rights) _ => rights
  | .done _ _ => []

def Progress.closed : Progress α → List α
  | .reading _ => []
  | .done _ closed => closed

end Receiver

-- ---------------------------------------------------------------------------
-- One message
-- ---------------------------------------------------------------------------

structure Receipt (α : Type) where
  channel : Channel α
  progress : Receiver.Progress α
  /-- The descriptors that receive calls have added to the process. -/
  installed : List α

inductive Receipt.Move (α : Type) where
  /-- Bytes arrive that were sent together, with any number of descriptors. -/
  | arrive (bytes : List UInt8) (rights : List α)
  /-- The peer will send no more. -/
  | shut
  /-- One receive call for so many bytes at most. -/
  | receive (most : Nat)
  /-- A receive call that fails. -/
  | fail (error : OsError)

namespace Receipt

def start : Receipt α := ⟨.fresh, .reading .start, []⟩

def installs : Readiness α → List α
  | .ready delivery => delivery.installed
  | .blocked => []

def receive (w : Receipt α) (most : Nat) : Receipt α :=
  match w.progress with
  | .reading r =>
    match r.step? most w.channel with
    | none => w
    | some (progress, channel) =>
      ⟨channel, progress, w.installed ++ installs (w.channel.receive (min most r.wanted)).1⟩
  | .done .. => w

/-- Once there is an outcome nothing more is received. -/
def step (w : Receipt α) : Move α → Receipt α
  | .arrive bytes rights => { w with channel := (w.channel.send bytes rights).2 }
  | .shut => { w with channel := w.channel.closeSending }
  | .receive most => w.receive most
  | .fail e =>
    match w.progress with
    | .reading r => { w with progress := r.failed (.io e.message) }
    | .done .. => w

end Receipt

/-- The descriptors of one arrival, which are too many for one receive call. -/
def Crowd (moves : List (Receipt.Move α)) (rights : List α) : Prop :=
  rightsLimit < rights.length ∧ ∃ bytes, .arrive bytes rights ∈ moves

/-- Where the descriptors are that were added to a process while it received a message. -/
structure Custody (moves : List (Receipt.Move α)) (w : Receipt α) : Prop where
  /-- They are in hand or closed, or the call that ended the receiving was short of room: then the
  ones that there was room for are neither. -/
  account : w.installed = w.progress.held ++ w.progress.closed ∨
    ∃ rights closed, Crowd moves rights ∧
      w.progress = .done (.failed (.io OsError.noBufferSpace.message)) closed ∧
      w.installed = closed ++ rights.take rightsLimit
  /-- Who hands over a message closes nothing. -/
  message : ∀ m rights closed, w.progress = .done (.message m rights) closed →
    w.installed = rights ∧ closed = []
  /-- If no more than a call has room for ever come together, all are in hand or closed. -/
  roomy : (∀ rights, ¬Crowd moves rights) →
    w.installed = w.progress.held ++ w.progress.closed

section
variable {r : Receiver α} {progress : Receiver.Progress α} {c : Channel α} {w : Receipt α}
variable {rights installed : List α} {moves : List (Receipt.Move α)} {room most : Nat}

-- ---------------------------------------------------------------------------
-- Receivers
-- ---------------------------------------------------------------------------

namespace Receiver

/-- All of these descriptors are in hand or closed, and none is closed that comes with a message. -/
structure Keeps (progress : Progress α) (rights : List α) : Prop where
  all : rights = progress.held ++ progress.closed
  message : ∀ m rights closed, progress = .done (.message m rights) closed → closed = []

theorem failed_keeps (r : Receiver α) (e : BridgeError) : Keeps (r.failed e) r.rights :=
  ⟨rfl, nofun⟩

theorem finish_keeps (r : Receiver α) : Keeps r.finish r.rights := by
  unfold finish
  split
  · exact ⟨(List.append_nil _).symm, fun _ _ _ same => (Progress.done.inj same).2.symm⟩
  · exact failed_keeps r _

theorem advance_keeps (r : Receiver α) : Keeps r.advance r.rights := by
  have reading (q : Receiver α) : Keeps (.reading q) q.rights :=
    ⟨(List.append_nil _).symm, nofun⟩
  unfold advance
  split
  · exact reading r
  split
  · exact finish_keeps r
  split
  · exact failed_keeps r _
  · rename_i n _
    dsimp only
    split
    · exact finish_keeps ⟨some n, [], r.rights⟩
    · exact reading ⟨some n, [], r.rights⟩

theorem accept_end_keeps (r : Receiver α) : Keeps (r.accept .endOfFile) r.rights := by
  simp only [accept]
  split
  · refine ⟨rfl, fun m rights closed same => ?_⟩
    cases same
  · exact failed_keeps r _

end Receiver

-- ---------------------------------------------------------------------------
-- Receive calls
-- ---------------------------------------------------------------------------

def Travels (c : Channel α) (rights : List α) : Prop :=
  rights = [] ∨ ∃ chunk ∈ c.chunks, chunk.rights = rights

/-- A receive call hands over the descriptors of one chunk at most. -/
theorem gather_travels (c : Channel α) (room : Nat) :
    Travels c (Channel.gather room c.chunks).2.1 ∧
      ∀ chunk ∈ (Channel.gather room c.chunks).2.2, Travels c chunk.rights := by
  obtain ⟨chunks, sending, receiving⟩ := c
  dsimp only
  induction chunks generalizing room with
  | nil => exact ⟨.inl rfl, nofun⟩
  | cons chunk rest ih =>
    have here : Travels ⟨chunk :: rest, sending, receiving⟩ chunk.rights :=
      .inr ⟨chunk, List.mem_cons_self, rfl⟩
    have there {other} (h : other ∈ rest) :
        Travels ⟨chunk :: rest, sending, receiving⟩ other.rights :=
      .inr ⟨other, List.mem_cons_of_mem _ h, rfl⟩
    have further {rights} (h : Travels ⟨rest, sending, receiving⟩ rights) :
        Travels ⟨chunk :: rest, sending, receiving⟩ rights :=
      h.imp_right fun ⟨other, hother, same⟩ => ⟨other, List.mem_cons_of_mem _ hother, same⟩
    simp only [Channel.gather]
    split
    · exact ⟨.inl rfl, List.forall_mem_cons.mpr ⟨here, fun _ => there⟩⟩
    split
    · exact ⟨here, List.forall_mem_cons.mpr ⟨.inl rfl, fun _ => there⟩⟩
    split
    · obtain ⟨taken, left⟩ := ih (room - chunk.bytes.length)
      exact ⟨further taken, fun other h => further (left other h)⟩
    · exact ⟨here, fun _ => there⟩

inductive Delivers (c : Channel α) : Readiness α × Channel α → Prop
  | blocked : Delivers c (.blocked, c)
  | ended : Delivers c (.ready .endOfFile, c)
  | data {bytes rights left} (travels : ∀ chunk ∈ left, Travels c chunk.rights) :
      Delivers c (.ready (.data bytes rights), { c with chunks := left })
  | overflow {rights left} (travels : ∀ chunk ∈ left, Travels c chunk.rights)
      (came : Travels c rights) (many : rightsLimit < rights.length) :
      Delivers c (.ready (.overflow (rights.take rightsLimit)), { c with chunks := left })

theorem receive_delivers (c : Channel α) (room : Nat) : Delivers c (c.receive room) := by
  obtain ⟨came, travels⟩ := gather_travels c room
  unfold Channel.receive
  split
  · split
    · exact .blocked
    · exact .ended
  · dsimp only
    split
    · rename_i many
      exact .overflow travels came many
    · exact .data travels

-- ---------------------------------------------------------------------------
-- Runs
-- ---------------------------------------------------------------------------

structure Tidy (moves : List (Receipt.Move α)) (w : Receipt α) : Prop where
  accounted : Custody moves w
  arrived : ∀ rights, Travels w.channel rights → rights = [] ∨ ∃ bytes, .arrive bytes rights ∈ moves

theorem Custody.of_keeps (keeps : Receiver.Keeps w.progress w.installed) : Custody moves w where
  account := .inl keeps.all
  message m rights closed same := by
    obtain rfl := keeps.message m rights closed same
    exact ⟨by simpa [same, Receiver.Progress.held, Receiver.Progress.closed] using keeps.all, rfl⟩
  roomy _ := keeps.all

theorem Custody.reading (h : Custody moves w) (reading : w.progress = .reading r) :
    w.installed = r.rights := by
  obtain same | ⟨rights, closed, -, ended, -⟩ := h.account
  · simpa [reading, Receiver.Progress.held, Receiver.Progress.closed] using same
  · rw [reading] at ended
    cases ended

theorem Custody.later (h : Custody moves w) (m : Receipt.Move α) :
    Custody (moves ++ [m]) w where
  account := h.account.imp_right fun ⟨rights, closed, ⟨many, bytes, came⟩, same⟩ =>
    ⟨rights, closed, ⟨many, bytes, List.mem_append_left _ came⟩, same⟩
  message := h.message
  roomy few := h.roomy fun rights ⟨many, bytes, came⟩ =>
    few rights ⟨many, bytes, List.mem_append_left _ came⟩

theorem Custody.congr {w' : Receipt α} (h : Custody moves w) (progress : w'.progress = w.progress)
    (installed : w'.installed = w.installed) : Custody moves w' := by
  obtain ⟨account, message, roomy⟩ := h
  rw [← progress, ← installed] at account roomy
  refine ⟨account, fun m rights closed same => ?_, roomy⟩
  rw [installed]
  exact message m rights closed (progress ▸ same)

theorem Tidy.arrives (h : Tidy moves w) (bytes : List UInt8) (rights : List α) :
    Tidy (moves ++ [.arrive bytes rights]) (w.step (.arrive bytes rights)) := by
  refine ⟨(h.accounted.later _).congr rfl rfl, fun other came => ?_⟩
  have old (came : Travels w.channel other) :
      other = [] ∨ ∃ bytes', .arrive bytes' other ∈ moves ++ [.arrive bytes rights] :=
    (h.arrived other came).imp_right fun ⟨bytes', there⟩ => ⟨bytes', List.mem_append_left _ there⟩
  simp only [Receipt.step, Channel.send] at came
  split at came
  · exact old came
  split at came
  · exact old came
  · obtain none | ⟨chunk, there, rfl⟩ := came
    · exact .inl none
    rcases List.mem_append.mp there with there | there
    · exact old (.inr ⟨chunk, there, rfl⟩)
    · obtain rfl := List.mem_singleton.mp there
      exact .inr ⟨bytes, List.mem_append_right _ List.mem_cons_self⟩

theorem Tidy.receives (h : Tidy moves w) (most : Nat) :
    Tidy (moves ++ [.receive most]) (w.step (.receive most)) := by
  have stays : Tidy (moves ++ [.receive most]) w :=
    ⟨h.accounted.later _, fun rights came => (h.arrived rights came).imp_right
      fun ⟨bytes, there⟩ => ⟨bytes, List.mem_append_left _ there⟩⟩
  simp only [Receipt.step, Receipt.receive]
  split
  · rename_i r reading
    have held := h.accounted.reading reading
    have travelled {left : List (Chunk α)}
        (travels : ∀ chunk ∈ left, Travels w.channel chunk.rights) (rights : List α)
        (came : Travels { w.channel with chunks := left } rights) : Travels w.channel rights := by
      obtain none | ⟨chunk, there, rfl⟩ := came
      · exact .inl none
      · exact travels chunk there
    have delivers := receive_delivers w.channel (min most r.wanted)
    unfold Receiver.step?
    generalize w.channel.receive (min most r.wanted) = result at delivers
    cases delivers with
    | blocked => exact stays
    | ended =>
      refine ⟨.of_keeps ?_, stays.arrived⟩
      simp only [Receipt.installs, Delivery.installed, held, List.append_nil]
      exact r.accept_end_keeps
    | @data bytes rights left travels =>
      refine ⟨.of_keeps ?_, fun rights came => stays.arrived rights (travelled travels rights came)⟩
      simp only [Receipt.installs, Delivery.installed, held]
      exact Receiver.advance_keeps ⟨r.bodyLength?, r.bytes ++ bytes, r.rights ++ rights⟩
    | @overflow rights left travels came many =>
      obtain none | crowd := stays.arrived rights came
      · simp [none] at many
      refine ⟨⟨.inr ⟨rights, r.rights, ⟨many, crowd⟩, rfl, ?_⟩, nofun, fun few => ?_⟩,
        fun rights came => stays.arrived rights (travelled travels rights came)⟩
      · simp only [Receipt.installs, Delivery.installed, held]
      · exact absurd ⟨many, crowd⟩ (few rights)
  · exact stays

theorem Tidy.step (h : Tidy moves w) (m : Receipt.Move α) : Tidy (moves ++ [m]) (w.step m) := by
  have stays (m : Receipt.Move α) : Tidy (moves ++ [m]) w :=
    ⟨h.accounted.later m, fun rights came => (h.arrived rights came).imp_right
      fun ⟨bytes, there⟩ => ⟨bytes, List.mem_append_left _ there⟩⟩
  cases m with
  | arrive bytes rights => exact h.arrives bytes rights
  | shut => exact ⟨(stays .shut).accounted.congr rfl rfl, (stays .shut).arrived⟩
  | receive most => exact h.receives most
  | fail e =>
    simp only [Receipt.step]
    split
    · rename_i r reading
      refine ⟨.of_keeps ?_, (stays (.fail e)).arrived⟩
      simp only [h.accounted.reading reading]
      exact r.failed_keeps _
    · exact stays (.fail e)

theorem tidy_start : Tidy [] (Receipt.start : Receipt α) where
  accounted := .of_keeps ⟨rfl, nofun⟩
  arrived rights came := by
    obtain none | ⟨chunk, there, -⟩ := came
    · exact .inl none
    · cases there

/-- However a message arrives and whichever call fails, what the system adds to the process is in
hand or closed, unless more descriptors come together than a call has room for. -/
theorem descriptors_accounted (moves : List (Receipt.Move α)) :
    Custody moves (Run.last Receipt.step Receipt.start moves) := by
  have kept := Run.induction Receipt.step (P := fun w past => Tidy (past.map (·.2)) w) []
    (tidy_start (α := α)) (fun w past m h => by simpa using h.step m) moves
  rw [List.nil_append, Run.moves_record] at kept
  exact kept.accounted

/-- Five descriptors come with the first bytes of a frame: the call that meets them fails, and four
of them stay open with nobody to close them. -/
theorem crowd_stranded :
    let w := Run.last Receipt.step (Receipt.start : Receipt Nat)
      [.arrive [0, 0, 0, 4, 1, 0, 0, 7] [1, 2, 3, 4, 5], .receive 4]
    w.installed = [1, 2, 3, 4] ∧ w.progress.held = [] ∧ w.progress.closed = [] := by
  decide

end

end UsbBridge.Socket
