import UsbBridge.Proofs.Daemon.Completion
import UsbBridge.Proofs.Opening.Changes

/-!
# Requests about devices that are not there

A device that is not there is refused with its identity, in a response that is two bytes longer than
the request (`NotFound.length`). So the longest requests have no answer: their connection is closed
instead (`absent_device_answered`).
-/

namespace UsbBridge.Daemon

open Socket
open UsbBridge.Frame (limit)

/-- A request about a device, and the reply if there is no such device. -/
inductive NotFound (s : Opening.State) (id : Identity) : Payload → Payload → Prop
  | permission : NotFound s id (.hasPermissionRequest id)
      (.hasPermissionResponse (.error (.deviceNotFound id)))
  | opening (free : s.isOpening id = false) : NotFound s id (.openRequest id)
      (.openResponse (.error (.deviceNotFound id)))
  /-- An opening of that identity is still under way. -/
  | repeated (busy : s.isOpening id) : NotFound s id (.openRequest id)
      (.openResponse (.error (.alreadyOpening id)))

/-- What leads from a request to its reply: the handler takes the request, an opening begun by it
goes one step on, and the handler takes its result. -/
def answerMoves {σ : Type} (s : State σ) (c : Nat) : List (Move σ) :=
  [.serve c .whole, .advance s.manager.openings.tasks.length, .conclude c .whole]

/-- A connection after a reply, which may be too long for a frame. -/
def Connection.answered (conn : Connection) (p : Payload) : Connection :=
  if (Message.ofPayload p).encode.length ≤ limit then
    { conn with link := told conn.link (some p) [] }
  else conn.stop

section
variable {openings : Opening.State} {id : Identity} {p q : Payload}

/-- The reply says that the result is an error and which; the request has neither. -/
theorem NotFound.length (about : NotFound openings id p q) (v : Version) :
    (Message.ofPayload q).encode.length = (⟨v, p⟩ : Message).encode.length + 2 := by
  have tag {n : Nat} (small : n < 128) : (Varint.encode n).length = 1 := Varint.length_tag small
  cases about <;>
    simp (disch := decide) only [Message.encode, Message.ofPayload, Version.write, Payload.write,
      Wire.writeResult, SessionError.write, List.length_append, List.length_cons, List.length_nil,
      tag] <;>
    omega

variable {σ : Type} (ops : Host σ) {s : State σ} {c : Nat} {conn : Connection}

theorem resolve_absent {f : DeviceFilter} {devices : List Device}
    (absent : ∀ d ∈ Directory.visible f devices, d.identity ≠ id) :
    Directory.resolve f devices id = .error (.deviceNotFound id) := by
  have none : (Directory.visible f devices).find? (·.identity = id) = none :=
    List.find?_eq_none.mpr fun d hd => by simpa using absent d hd
  rw [Directory.resolve, none]

theorem reply_answered (hc : s.connections[c]? = some conn)
    (heard : conn.link.outgoing.receiving = true) (p : Payload) :
    (s.reply c .whole p []).connections[c]? = some (conn.answered p) := by
  unfold Connection.answered
  split
  · rename_i small
    rw [reply_whole hc heard small, put_self hc]
  · rename_i large
    rw [reply_large hc (Nat.lt_of_not_le large), stop_self hc]

theorem conclude_free (hc : s.connections[c]? = some conn) (free : conn.handler.isOpening = false)
    (sending : Sending) : s.conclude c sending = s := by
  cases opening : conn.handler with
  | idle | stopped => simp [State.conclude, hc, opening]
  | opening id task => simp [opening, Handler.isOpening] at free

theorem tasks_enroll (openings : Opening.State) (id : Identity) :
    (openings.enroll id).tasks[openings.tasks.length]? = some ⟨id, .admitted, true⟩ := by
  simp [Opening.State.enroll]

theorem collect_finish {task : Nat} {stage : Opening.Stage}
    (awaited : openings.tasks[task]? = some ⟨id, stage, true⟩) (result : Opening.Result) :
    ((openings.finish task result).collect task).1 = some result := by
  have there := (List.getElem?_eq_some_iff.mp awaited).1
  have returned :
      (openings.yield task result).tasks[task]? = some ⟨id, .returned result, true⟩ := by
    rw [Opening.State.tasks_yield awaited, List.getElem?_set_self there]
  simp [Opening.State.finish, Opening.State.cleanUp, Opening.State.collect, returned]

/-- An opening ends with its first step if no device has the identity. -/
theorem advance_absent {m : Manager σ} {devices : List Device}
    (enumerated : ops.devices m.host = .ok devices)
    (absent : ∀ d ∈ Directory.visible m.filter devices, d.identity ≠ id) :
    Manager.advance? ops { m with openings := m.openings.enroll id } m.openings.tasks.length =
      some { m with
        openings := (m.openings.enroll id).finish m.openings.tasks.length
          (.error (.deviceNotFound id)) } := by
  have resolved : Directory.resolve (m.openings.enroll id).filter devices id =
      .error (.deviceNotFound id) := resolve_absent absent
  simp [Manager.advance?, Opening.State.stage?, Opening.State.enumerated, tasks_enroll, enumerated,
    resolved]

theorem conclude_answered (hc : s.connections[c]? = some conn) {task : Nat}
    (opening : conn.handler = .opening id task) {e : SessionError}
    (ready : (s.manager.openings.collect task).1 = some (.error e))
    (heard : conn.link.outgoing.receiving = true) :
    (s.conclude c .whole).connections[c]? =
      some ({ conn with handler := .idle }.answered (.openResponse (.error e))) := by
  cases collected : s.manager.openings.collect task with
  | mk result openings =>
    rw [collected] at ready
    obtain rfl : result = _ := ready
    simp only [State.conclude, hc, opening, collected]
    apply reply_answered
    · exact put_self hc _
    · exact heard

theorem opening_answered {m : Manager σ} {devices : List Device}
    (begun : s.manager = { m with openings := m.openings.enroll id })
    (hc : s.connections[c]? = some conn)
    (opening : conn.handler = .opening id m.openings.tasks.length)
    (heard : conn.link.outgoing.receiving = true) (enumerated : ops.devices m.host = .ok devices)
    (absent : ∀ d ∈ Directory.visible m.filter devices, d.identity ≠ id) :
    (Run.last (State.step ops) s
      [.advance m.openings.tasks.length, .conclude c .whole]).connections[c]? = some
      ({ conn with handler := .idle }.answered (.openResponse (.error (.deviceNotFound id)))) := by
  simp only [Run.last_cons, Run.last_nil, State.step, begun, advance_absent ops enumerated absent,
    Option.getD_some]
  apply conclude_answered _ opening (collect_finish (tasks_enroll _ id) _) heard
  exact hc

theorem answered_stays (hc : s.connections[c]? = some (conn.answered p))
    (idle : conn.handler = .idle) (task : Nat) :
    (Run.last (State.step ops) s [.advance task, .conclude c .whole]).connections[c]? =
      some (conn.answered p) := by
  have free : (conn.answered p).handler.isOpening = false := by
    unfold Connection.answered
    split
    · simp [idle, Handler.isOpening]
    · rfl
  have still : (s.step ops (.advance task)).connections[c]? = some (conn.answered p) := hc
  simp only [Run.last_cons, Run.last_nil]
  rw [State.step, conclude_free still free, still]

variable {request : Request} {later : List Request} {devices : List Device}

/-- A request about a device that is not there is answered, and the connection goes on, if it is at
least two bytes below the limit; otherwise the connection is closed without an answer. -/
theorem absent_device_answered (hc : s.connections[c]? = some conn) (idle : conn.handler = .idle)
    (next : conn.requests = request :: later) (same : request.message.version.validate = .ok ())
    (heard : conn.link.outgoing.receiving = true)
    (enumerated : ops.devices s.manager.host = .ok devices)
    (absent : ∀ d ∈ Directory.visible s.manager.filter devices, d.identity ≠ id)
    (about : NotFound s.manager.openings id request.message.payload q) :
    (Run.last (State.step ops) s (answerMoves s c)).connections[c]? = some
      (if request.message.encode.length + 2 ≤ limit then
        { conn with requests := later, link := told conn.link (some q) [] }
      else conn.stop) := by
  have size : (Message.ofPayload q).encode.length = request.message.encode.length + 2 :=
    about.length request.message.version
  rw [← size]
  show _ = some ({ conn with requests := later }.answered q)
  have served : s.serve ops c .whole = (s.put c { conn with requests := later }).handle ops c
      { conn with requests := later } .whole request.message := by
    simp [State.serve, hc, idle, next]
  have taken := put_self hc { conn with requests := later }
  have idle : ({ conn with requests := later } : Connection).handler = .idle := idle
  rw [answerMoves, Run.last_cons, State.step, served]
  -- Only an opening leaves anything for the other two moves.
  generalize asks : request.message.payload = p at about
  cases about with
  | permission =>
    refine answered_stays ops ?_ idle _
    have result : s.manager.hasPermission ops id = .error (.deviceNotFound id) := by
      simp [Manager.hasPermission, Directory.permission, Directory.located, enumerated,
        resolve_absent absent]
      rfl
    simp only [State.handle, same, asks, put_manager, result]
    exact reply_answered taken heard _
  | repeated busy =>
    refine answered_stays ops ?_ idle _
    have result :
        s.manager.openings.call id = (.error (.alreadyOpening id), s.manager.openings) := by
      rw [Opening.State.call, if_pos busy]
    simp only [State.handle, same, asks, put_manager, result]
    exact reply_answered taken heard _
  | opening free =>
    have result : s.manager.openings.call id =
        (.ok s.manager.openings.tasks.length, s.manager.openings.enroll id) := by
      rw [Opening.State.call, if_neg (by simp [free])]
    simp only [State.handle, same, asks, put_manager, result]
    have begun : ((s.put c { conn with requests := later }).setOpenings
        (s.manager.openings.enroll id)).connections[c]? =
          some { conn with requests := later } := taken
    have waits := put_self begun
      { conn with requests := later, handler := .opening id s.manager.openings.tasks.length }
    rw [opening_answered ops (m := s.manager) rfl waits rfl heard enumerated absent, idle]

end

def asking (p : Payload) : State Unit :=
  { bareStart with connections := [{ Connection.fresh with requests := [⟨⟨.current, p⟩, []⟩] }] }

def longIdentity (n : Nat) : Identity := ⟨.ofList (.replicate n 'x')⟩

theorem size_long (n : Nat) : (longIdentity n).text.utf8ByteSize = n := by
  have one : (String.singleton 'x').utf8ByteSize = 1 := by decide
  rw [longIdentity]
  induction n with
  | zero => rfl
  | succ n ih =>
    rw [List.replicate_succ, String.ofList_cons, String.utf8ByteSize_append, ih, one, Nat.add_comm]

theorem length_asking (n : Nat) :
    (⟨.current, .hasPermissionRequest (longIdentity n)⟩ : Message).encode.length =
      4 + (Varint.encode n).length + n := by
  have tag : (Varint.encode 2).length = 1 := Varint.length_tag (by decide)
  simp only [Message.encode, Version.write, Payload.write, Identity.write, Wire.writeString,
    Wire.utf8_length, size_long, List.length_append, List.length_cons, List.length_nil, tag]
  omega

/-- The longest request that fits a frame has no answer; one that is two bytes shorter has. -/
theorem longest_unanswered :
    (⟨.current, .hasPermissionRequest (longIdentity 1048569)⟩ : Message).encode.length = limit ∧
    (Run.last (State.step bareHost) (asking (.hasPermissionRequest (longIdentity 1048569)))
      (answerMoves (asking (.hasPermissionRequest (longIdentity 1048569))) 0)).connections[0]? =
        some Connection.fresh.stop ∧
    (Run.last (State.step bareHost) (asking (.hasPermissionRequest (longIdentity 1048567)))
      (answerMoves (asking (.hasPermissionRequest (longIdentity 1048567))) 0)).connections[0]? =
        some { Connection.fresh with
          link := told .fresh
            (some (.hasPermissionResponse (.error (.deviceNotFound (longIdentity 1048567)))))
            [] } := by
  -- The identities are too long to compute with.
  have answered (n : Nat) :=
    absent_device_answered bareHost (s := asking (.hasPermissionRequest (longIdentity n))) (c := 0)
      rfl rfl rfl rfl rfl rfl (by simp [Directory.visible]) .permission
  have closed (n : Nat) (large : limit < 4 + (Varint.encode n).length + n + 2) :=
    (answered n).trans (congrArg some (if_neg (by rw [length_asking]; omega)))
  have served (n : Nat) (small : 4 + (Varint.encode n).length + n + 2 ≤ limit) :=
    (answered n).trans (congrArg some (if_pos (by rw [length_asking]; exact small)))
  refine ⟨?_, closed _ ?_, served _ ?_⟩
  · rw [length_asking]
    simp [Varint.encode, limit]
  · simp [Varint.encode, limit]
  · simp [Varint.encode, limit]

end UsbBridge.Daemon
