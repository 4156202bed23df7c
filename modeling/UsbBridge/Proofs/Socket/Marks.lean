import UsbBridge.Proofs.Socket.Receiving

/-!
# Where descriptors are attached

A chunk's descriptors are attached to its first byte (`marked`). A receive call takes the bytes that
are under way from the front, as many as it likes, and with them exactly the descriptors that are
attached to these bytes (`receive_marks`).
-/

namespace UsbBridge.Socket

/-- Bytes, each with what is attached to it: all descriptors to the first, none to the others. -/
def marked : List UInt8 → List α → List (UInt8 × List α)
  | [], _ => []
  | b :: bytes, rights => (b, rights) :: bytes.map (·, [])

def marks (chunks : List (Chunk α)) : List (UInt8 × List α) :=
  chunks.flatMap fun chunk => marked chunk.bytes chunk.rights

def markedBytes (xs : List (UInt8 × List α)) : List UInt8 := xs.map (·.1)

def markedRights (xs : List (UInt8 × List α)) : List α := xs.flatMap (·.2)

section
variable {bytes : List UInt8} {rights : List α} {chunk : Chunk α} {chunks : List (Chunk α)}

@[simp] theorem markedBytes_append (xs ys : List (UInt8 × List α)) :
    markedBytes (xs ++ ys) = markedBytes xs ++ markedBytes ys :=
  List.map_append

@[simp] theorem length_markedBytes (xs : List (UInt8 × List α)) :
    (markedBytes xs).length = xs.length :=
  List.length_map _

@[simp] theorem markedRights_append (xs ys : List (UInt8 × List α)) :
    markedRights (xs ++ ys) = markedRights xs ++ markedRights ys :=
  List.flatMap_append

@[simp] theorem marks_nil : marks ([] : List (Chunk α)) = [] := rfl

@[simp] theorem marks_cons (chunk : Chunk α) (chunks : List (Chunk α)) :
    marks (chunk :: chunks) = marked chunk.bytes chunk.rights ++ marks chunks := rfl

@[simp] theorem marks_append (xs ys : List (Chunk α)) : marks (xs ++ ys) = marks xs ++ marks ys :=
  List.flatMap_append

theorem marked_plain (bytes : List UInt8) :
    marked bytes ([] : List α) = bytes.map (·, ([] : List α)) := by
  cases bytes <;> rfl

theorem marked_append (nonempty : bytes ≠ []) (more : List UInt8) (rights : List α) :
    marked (bytes ++ more) rights = marked bytes rights ++ marked more [] := by
  cases bytes with
  | nil => exact absurd rfl nonempty
  | cons b bytes =>
    rw [marked_plain, List.cons_append, marked, marked, List.map_append, List.cons_append]

@[simp] theorem markedBytes_marked (bytes : List UInt8) (rights : List α) :
    markedBytes (marked bytes rights) = bytes := by
  cases bytes <;> simp [markedBytes, marked, Function.comp_def]

theorem markedRights_plain (bytes : List UInt8) :
    markedRights (marked bytes ([] : List α)) = [] := by
  simp [markedRights, marked_plain, List.flatMap_map]

theorem markedRights_marked (nonempty : bytes ≠ []) (rights : List α) :
    markedRights (marked bytes rights) = rights := by
  cases bytes with
  | nil => exact absurd rfl nonempty
  | cons b bytes =>
    have none := markedRights_plain (α := α) bytes
    rw [marked_plain] at none
    show rights ++ markedRights (bytes.map (·, [])) = rights
    rw [none, List.append_nil]

theorem markedBytes_marks (chunks : List (Chunk α)) :
    markedBytes (marks chunks) = bytesOf chunks := by
  induction chunks with
  | nil => rfl
  | cons chunk chunks ih => simp [ih]

theorem gather_marks (room : Nat) (solid : Solid chunks) :
    ∃ taken, marks chunks = taken ++ marks (Channel.gather room chunks).2.2 ∧
      (Channel.gather room chunks).1 = markedBytes taken ∧
      (Channel.gather room chunks).2.1 = markedRights taken := by
  induction chunks generalizing room with
  | nil => exact ⟨[], rfl, rfl, rfl⟩
  | cons chunk rest ih =>
    obtain ⟨hchunk, hrest⟩ := solid_cons.mp solid
    simp only [Channel.gather]
    split
    · exact ⟨[], rfl, rfl, rfl⟩
    rename_i hroom
    split
    · -- The descriptors go with the part that holds the first byte.
      have hpart : chunk.bytes.take room ≠ [] := by simp [List.take_eq_nil_iff, hroom, hchunk]
      refine ⟨marked (chunk.bytes.take room) chunk.rights, ?_, by simp,
        (markedRights_marked hpart _).symm⟩
      rw [marks_cons, marks_cons, ← List.append_assoc, ← marked_append hpart,
        List.take_append_drop]
    split
    · rename_i plain
      obtain ⟨taken, hmarks, hbytes, hrights⟩ := ih (room - chunk.bytes.length) hrest
      have hplain : chunk.rights = [] := List.isEmpty_iff.mp plain
      refine ⟨marked chunk.bytes chunk.rights ++ taken, ?_, ?_, ?_⟩
      · rw [marks_cons, hmarks, List.append_assoc]
      · simp [hbytes]
      · simp [hrights, hplain, markedRights_plain]
    · exact ⟨marked chunk.bytes chunk.rights, rfl, by simp,
        (markedRights_marked hchunk _).symm⟩

theorem receive_marks {c : Channel α} (room : Nat) (solid : Solid c.chunks)
    (light : Light c.chunks) (nonempty : c.chunks ≠ []) : ∃ taken left,
      c.receive room = (.ready (.data (markedBytes taken) (markedRights taken)),
        { c with chunks := left }) ∧
      marks c.chunks = taken ++ marks left ∧ (0 < room → taken ≠ []) ∧ taken.length ≤ room ∧
      Solid left ∧ Light left := by
  have g := gather_gathered room solid nonempty
  obtain ⟨taken, hmarks, hbytes, hrights⟩ := gather_marks room solid
  rw [hbytes, hrights] at g
  obtain ⟨few, hlight⟩ := g.few light
  refine ⟨taken, _, ?_, hmarks, ?_, by simpa using g.fits, g.solid, hlight⟩
  · cases hc : c.chunks with
    | nil => exact absurd hc nonempty
    | cons chunk rest =>
      have fits : ¬rightsLimit < (Channel.gather room (chunk :: rest)).2.1.length := by
        rw [← hc, hrights]
        omega
      simp only [Channel.receive, hc, fits, if_false]
      rw [← hc, hbytes, hrights]
  · rintro pos rfl
    exact g.progress pos rfl

end

end UsbBridge.Socket
