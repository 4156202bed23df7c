import UsbBridge.Proofs.Wire.PrefixCode

/-!
# Writing is never longer than what was read

A reader takes a value from at least as many bytes as are written for it, whatever redundant groups
its numbers had (`Spends`). This goes through the steps of a reader and so holds of whole messages
(`Message.spends`), whose texts and lists can also be written again.
-/

namespace UsbBridge

namespace Varint

theorem length_encode_group {d : Nat} (small : d < 128) (n : Nat) :
    (encode (d + 128 * n)).length ≤ 1 + (encode n).length := by
  rw [encode]
  split
  · simp
  · have later : (d + 128 * n) / 128 = n := by omega
    rw [later, List.length_cons]
    omega

theorem bound_pos (groups last : Nat) : 0 < Width.bound ⟨groups + 1, last⟩ :=
  Nat.mul_pos (Nat.pow_pos (by decide)) (Nat.succ_pos last)

theorem decodeGroups_spends {last groups n : Nat} {bytes rest : List UInt8}
    (h : decodeGroups last (groups + 1) bytes = .ok (n, rest)) :
    n < Width.bound ⟨groups + 1, last⟩ ∧
      ∃ k, bytes.length = k + rest.length ∧ (encode n).length ≤ k := by
  induction bytes generalizing groups n with
  | nil => cases h
  | cons b bytes ih =>
    rw [decodeGroups] at h
    split at h
    · rename_i small
      split at h
      · cases h
      · rename_i fits
        cases h
        refine ⟨?_, 1, by rw [List.length_cons, Nat.add_comm], ?_⟩
        · cases groups with
          | zero =>
            show b.toNat < 1 * (last + 1)
            omega
          | succ groups =>
            have := bound_pos groups last
            rw [bound_succ]
            omega
        · rw [encode, if_pos small]
          exact Nat.le_refl 1
    · cases groups with
      | zero => cases h
      | succ groups =>
        cases hd : decodeGroups last (groups + 1) bytes with
        | error fault =>
          rw [hd] at h
          cases h
        | ok p =>
          obtain ⟨m, later⟩ := p
          rw [hd] at h
          cases h
          obtain ⟨bound, k, taken, written⟩ := ih hd
          have group : b.toNat - 128 < 128 := by
            have := b.toNat_lt
            omega
          refine ⟨?_, k + 1, ?_, ?_⟩
          · rw [bound_succ]
            omega
          · rw [List.length_cons, taken]
            omega
          · have := length_encode_group group m
            omega

end Varint

namespace Wire

/-- What holds of a value that a reader takes, and of the number of bytes it takes for it. -/
def Spends (read : Reader α) (Q : α → Nat → Prop) : Prop :=
  ∀ bytes a rest, read bytes = .ok (a, rest) → ∃ n, bytes.length = n + rest.length ∧ Q a n

/-- The value can be written, in no more bytes. -/
def Thrifty (write : α → List UInt8) (fits : α → Prop) (a : α) (n : Nat) : Prop :=
  fits a ∧ (write a).length ≤ n

section
variable {read : Reader α} {next : α → Reader β} {Q : α → Nat → Prop} {R : β → Nat → Prop}

theorem Spends.pure {a : α} (h : Q a 0) : Spends (pure a) Q := by
  intro bytes b rest taken
  cases taken
  exact ⟨0, (Nat.zero_add _).symm, h⟩

theorem Spends.throw (fault : Fault) : Spends (throw fault) Q := nofun

theorem Spends.bind (first : Spends read Q)
    (then_ : ∀ a n, Q a n → Spends (next a) fun b k => R b (n + k)) :
    Spends (read >>= next) R := by
  intro bytes b rest taken
  rw [run_bind] at taken
  cases hr : read bytes with
  | error fault =>
    rw [hr] at taken
    cases taken
  | ok p =>
    obtain ⟨a, left⟩ := p
    rw [hr] at taken
    obtain ⟨n, all, holds⟩ := first bytes a left hr
    obtain ⟨k, more, result⟩ := then_ a n holds left b rest taken
    exact ⟨n + k, by omega, result⟩

theorem Spends.map (first : Spends read Q) {f : α → β} (then_ : ∀ a n, Q a n → R (f a) n) :
    Spends (read >>= fun a => Pure.pure (f a)) R :=
  first.bind fun a n holds => .pure (then_ a n holds)

end

theorem length_append_le {xs ys : List UInt8} {m n : Nat} (front : xs.length ≤ m)
    (back : ys.length ≤ n) : (xs ++ ys).length ≤ m + n := by
  rw [List.length_append]
  exact Nat.add_le_add front back

-- ---------------------------------------------------------------------------
-- Primitives
-- ---------------------------------------------------------------------------

theorem spends_byte : Spends readByte (Thrifty writeByte fun _ => True) := by
  intro bytes b rest taken
  cases bytes with
  | nil => cases taken
  | cons c bytes =>
    cases taken
    exact ⟨1, by rw [List.length_cons, Nat.add_comm], trivial, Nat.le_refl 1⟩

theorem spends_nat (groups last : Nat) :
    Spends (readNat ⟨groups + 1, last⟩)
      (Thrifty Varint.encode (· < Varint.Width.bound ⟨groups + 1, last⟩)) := by
  intro bytes n rest taken
  obtain ⟨bound, k, all, written⟩ := Varint.decodeGroups_spends taken
  exact ⟨k, all, bound, written⟩

theorem spends_tag :
    Spends (readNat .tag) (Thrifty Varint.encode (· < Varint.Width.tag.bound)) :=
  spends_nat _ _

theorem spends_length :
    Spends (readNat .length) (Thrifty Varint.encode (· < Varint.Width.length.bound)) :=
  spends_nat _ _

theorem spends_short : Spends readShort (Thrifty writeShort fun _ => True) := by
  refine (spends_nat 2 3).map ?_
  rintro n k ⟨bound, written⟩
  have same : n.toUInt16.toNat = n := by
    rw [Nat.toUInt16_eq, UInt16.toNat_ofNat']
    exact Nat.mod_eq_of_lt bound
  exact ⟨trivial, by rwa [writeShort, same]⟩

theorem spends_bool : Spends readBool (Thrifty writeBool fun _ => True) := by
  refine spends_byte.bind ?_
  rintro b n ⟨-, one⟩
  split
  · exact .pure ⟨trivial, one⟩
  · exact .pure ⟨trivial, one⟩
  · exact .throw .notABool

theorem spends_bytes (n : Nat) : Spends (readBytes n) fun bytes k => bytes.length = n ∧ k = n := by
  intro bytes taken rest h
  rw [readBytes] at h
  split at h
  · rename_i enough
    cases h
    rw [List.length_take] at enough
    refine ⟨n, ?_, by rw [List.length_take, enough], rfl⟩
    rw [List.length_drop]
    omega
  · cases h

theorem utf8_of_ofUtf8? {bytes : List UInt8} {s : String} (h : ofUtf8? bytes = some s) :
    utf8 s = bytes := by
  rw [ofUtf8?, String.fromUTF8?] at h
  split at h
  · cases h
    rfl
  · cases h

theorem spends_string : Spends readString (Thrifty writeString TextFits) := by
  refine spends_length.bind ?_
  rintro n k ⟨bound, counted⟩
  refine (spends_bytes n).bind ?_
  rintro bytes _ ⟨rfl, rfl⟩
  split
  · rename_i s valid
    have same := utf8_of_ofUtf8? valid
    refine .pure ⟨?_, ?_⟩
    · rwa [TextFits, same]
    · rw [writeString, same, Nat.add_zero]
      exact length_append_le counted (Nat.le_refl _)
  · exact .throw .notUtf8

-- ---------------------------------------------------------------------------
-- Lists and results
-- ---------------------------------------------------------------------------

section
variable {read : Reader α} {write : α → List UInt8} {fits : α → Prop}

theorem spends_many (each : Spends read (Thrifty write fits)) (n : Nat) (taken : List α) :
    Spends (readMany read n taken) fun all k => ∃ xs, all = taken.reverse ++ xs ∧
      xs.length = n ∧ (∀ x ∈ xs, fits x) ∧ (xs.flatMap write).length ≤ k := by
  induction n generalizing taken with
  | zero => exact .pure ⟨[], by simp⟩
  | succ n ih =>
    refine each.bind ?_
    rintro x k ⟨fit, written⟩
    intro bytes all rest h
    obtain ⟨m, spent, xs, rfl, rfl, others, less⟩ := ih (x :: taken) bytes all rest h
    refine ⟨m, spent, x :: xs, by simp, rfl, List.forall_mem_cons.mpr ⟨fit, others⟩, ?_⟩
    exact length_append_le written less

theorem spends_list (each : Spends read (Thrifty write fits)) :
    Spends (readList read) (Thrifty (writeList write) fun xs =>
      xs.length < Varint.Width.length.bound ∧ ∀ x ∈ xs, fits x) := by
  refine spends_length.bind ?_
  rintro n k ⟨bound, counted⟩
  intro bytes all rest h
  obtain ⟨m, spent, xs, rfl, rfl, others, less⟩ := spends_many each n [] bytes all rest h
  exact ⟨m, spent, ⟨bound, others⟩, length_append_le counted less⟩

theorem spends_result (value : Spends read (Thrifty write fits))
    (error : Spends SessionError.read (Thrifty SessionError.write SessionError.Fits)) :
    Spends (readResult SessionError.read read)
      (Thrifty (writeResult SessionError.write write) (ResultFits fits)) := by
  refine spends_tag.bind ?_
  rintro tag n ⟨-, tagged⟩
  split
  · refine value.map ?_
    rintro a k ⟨fit, written⟩
    exact ⟨fit, length_append_le tagged written⟩
  · refine error.map ?_
    rintro e k ⟨fit, written⟩
    exact ⟨fit, length_append_le tagged written⟩
  · exact .throw .unknownTag

end

end Wire

-- ---------------------------------------------------------------------------
-- Messages
-- ---------------------------------------------------------------------------

open Wire

theorem Identity.spends : Spends Identity.read (Thrifty Identity.write Identity.Fits) :=
  spends_string.map fun _ _ => id

theorem Descriptor.spends :
    Spends Descriptor.read (Thrifty Descriptor.write fun d => d.identity.Fits) := by
  refine Identity.spends.bind ?_
  rintro identity n ⟨fits, named⟩
  refine spends_short.bind ?_
  rintro vendor k ⟨-, first⟩
  refine spends_short.map ?_
  rintro product m ⟨-, second⟩
  refine ⟨fits, ?_⟩
  rw [← Nat.add_assoc]
  exact length_append_le (length_append_le named first) second

theorem HotplugKind.spends :
    Spends HotplugKind.read (Thrifty HotplugKind.write fun _ => True) := by
  refine spends_tag.bind ?_
  rintro tag n ⟨-, tagged⟩
  split
  · exact .pure ⟨trivial, tagged⟩
  · exact .pure ⟨trivial, tagged⟩
  · exact .throw .unknownTag

theorem HotplugEvent.spends :
    Spends HotplugEvent.read (Thrifty HotplugEvent.write fun e => e.device.identity.Fits) := by
  refine HotplugKind.spends.bind ?_
  rintro kind n ⟨-, first⟩
  refine Descriptor.spends.map ?_
  rintro device k ⟨fits, second⟩
  exact ⟨fits, length_append_le first second⟩

theorem EndReason.spends : Spends EndReason.read (Thrifty EndReason.write fun _ => True) := by
  refine spends_tag.bind ?_
  rintro tag n ⟨-, tagged⟩
  split
  iterate 4 exact .pure ⟨trivial, tagged⟩
  exact .throw .unknownTag

theorem Wire.Thrifty.tagged {write : α → List UInt8} {fits : α → Prop} {a : α} {tag n k : Nat}
    (tagged : (Varint.encode tag).length ≤ n) (value : Thrifty write fits a k) :
    fits a ∧ (Varint.encode tag ++ write a).length ≤ n + k :=
  ⟨value.1, length_append_le tagged value.2⟩

theorem SessionError.spends :
    Spends SessionError.read (Thrifty SessionError.write SessionError.Fits) := by
  refine spends_tag.bind ?_
  rintro tag n ⟨-, tagged⟩
  split
  · exact spends_string.map fun _ _ value => value.tagged tagged
  · exact Identity.spends.map fun _ _ value => value.tagged tagged
  · exact Identity.spends.map fun _ _ value => value.tagged tagged
  · refine Identity.spends.bind ?_
    rintro identity k ⟨fits, named⟩
    refine spends_string.bind ?_
    rintro reason l ⟨short, told⟩
    refine spends_bool.map ?_
    rintro busy m ⟨-, last⟩
    refine ⟨⟨fits, short⟩, ?_⟩
    rw [← Nat.add_assoc, ← Nat.add_assoc]
    exact length_append_le (length_append_le (length_append_le tagged named) told) last
  · exact Identity.spends.map fun _ _ value => value.tagged tagged
  · exact .throw .unknownTag

theorem Payload.spends : Spends Payload.read (Thrifty Payload.write Payload.Fits) := by
  refine spends_tag.bind ?_
  rintro tag n ⟨-, tagged⟩
  split
  · exact .pure ⟨trivial, tagged⟩
  · refine (spends_result (spends_list Descriptor.spends) SessionError.spends).map ?_
    exact fun _ _ value => value.tagged tagged
  · exact Identity.spends.map fun _ _ value => value.tagged tagged
  · exact (spends_result spends_bool SessionError.spends).map fun _ _ value => value.tagged tagged
  · exact Identity.spends.map fun _ _ value => value.tagged tagged
  · refine (spends_result Identity.spends SessionError.spends).map ?_
    exact fun _ _ value => value.tagged tagged
  iterate 3 exact .pure ⟨trivial, tagged⟩
  · exact HotplugEvent.spends.map fun _ _ value => value.tagged tagged
  · exact EndReason.spends.map fun _ _ value => value.tagged tagged
  · exact spends_string.map fun _ _ value => value.tagged tagged
  · exact .throw .unknownTag

theorem Version.spends : Spends Version.read (Thrifty Version.write fun _ => True) := by
  refine spends_byte.bind ?_
  rintro major n ⟨-, first⟩
  refine spends_byte.bind ?_
  rintro minor k ⟨-, second⟩
  refine spends_byte.map ?_
  rintro patch m ⟨-, third⟩
  refine ⟨trivial, ?_⟩
  rw [← Nat.add_assoc]
  exact length_append_le (length_append_le first second) third

theorem Message.spends : Spends Message.read (Thrifty Message.encode Message.Fits) := by
  refine Version.spends.bind ?_
  rintro version n ⟨-, first⟩
  refine Payload.spends.map ?_
  rintro payload k ⟨fits, second⟩
  exact ⟨fits, length_append_le first second⟩

/-- What can be read from some bytes can be written in no more of them. -/
theorem Message.thrifty_of_decode {bytes : List UInt8} {m : Message}
    (received : Message.decode bytes = .ok m) : m.Fits ∧ m.encode.length ≤ bytes.length := by
  rw [Message.decode] at received
  split at received
  · rename_i m' rest taken
    cases received
    obtain ⟨n, all, fits, written⟩ := Message.spends bytes m rest taken
    exact ⟨fits, by omega⟩
  · cases received

end UsbBridge
