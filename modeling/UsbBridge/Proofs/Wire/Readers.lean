import UsbBridge.Wire.Primitive

/-!
# Readers take back what writers give

`Takes` says that a reader takes a value from some bytes and leaves whatever stands behind them;
`Steady` says that a reader which succeeds does not care what follows. Both go through the steps of
a reader, so a format has them when its parts do. A steady reader that takes a value from some bytes
fails on every shorter beginning of them (`Takes.cut`).
-/

namespace UsbBridge

namespace Varint

theorem bound_succ (groups last : Nat) :
    Width.bound ⟨groups + 2, last⟩ = 128 * Width.bound ⟨groups + 1, last⟩ := by
  show Nat.pow 128 groups * 128 * (last + 1) = 128 * (Nat.pow 128 groups * (last + 1))
  rw [Nat.mul_comm _ 128, Nat.mul_assoc]

/-- Every number that a width holds is read back. -/
theorem decodeGroups_encode {last groups n : Nat} (byte : last < 128)
    (hn : n < Width.bound ⟨groups + 1, last⟩) (t : List UInt8) :
    decodeGroups last (groups + 1) (encode n ++ t) = .ok (n, t) := by
  induction groups generalizing n with
  | zero =>
    have hlast : n < 1 * (last + 1) := hn
    have small : n < 128 := by omega
    have hmod : n % 256 = n := Nat.mod_eq_of_lt (by omega)
    rw [encode, if_pos small]
    simp [decodeGroups, hmod, small]
    omega
  | succ groups ih =>
    rw [encode]
    split
    · rename_i small
      have hmod : n % 256 = n := Nat.mod_eq_of_lt (by omega)
      simp [decodeGroups, hmod, small]
    · have later : n / 128 < Width.bound ⟨groups + 1, last⟩ :=
        Nat.div_lt_of_lt_mul (bound_succ groups last ▸ hn)
      have hmod : (n % 128 + 128) % 256 = n % 128 + 128 := Nat.mod_eq_of_lt (by omega)
      have large : ¬(n % 128 + 128 < 128) := by omega
      simp [decodeGroups, hmod, ih later, large, Nat.mod_add_div]

theorem decodeGroups_append {last groups n : Nat} {bytes rest : List UInt8}
    (h : decodeGroups last groups bytes = .ok (n, rest)) (t : List UInt8) :
    decodeGroups last groups (bytes ++ t) = .ok (n, rest ++ t) := by
  induction bytes generalizing groups n with
  | nil => cases groups <;> simp [decodeGroups] at h
  | cons b bytes ih =>
    cases groups with
    | zero => simp [decodeGroups] at h
    | succ groups =>
      simp only [List.cons_append, decodeGroups] at h ⊢
      split at h
      · rename_i small
        rw [if_pos small]
        split at h
        · cases h
        · rename_i fits
          cases h
          rw [if_neg fits]
      · rename_i large
        rw [if_neg large]
        cases hd : decodeGroups last groups bytes with
        | error fault => simp [hd] at h
        | ok p =>
          rw [hd] at h
          cases h
          rw [ih hd]

end Varint

namespace Wire

/-- A reader takes a value from some bytes, whatever stands behind them. -/
def Takes (read : Reader α) (bytes : List UInt8) (a : α) : Prop :=
  ∀ t, read (bytes ++ t) = .ok (a, t)

/-- What follows does not matter to a reader that has succeeded. -/
def Steady (read : Reader α) : Prop :=
  ∀ bytes a rest, read bytes = .ok (a, rest) → ∀ t, read (bytes ++ t) = .ok (a, rest ++ t)

section
variable {read : Reader α} {next : α → Reader β} {bytes more : List UInt8} {a : α} {b : β}

theorem run_bind (read : Reader α) (next : α → Reader β) (bytes : List UInt8) :
    (read >>= next) bytes = (read bytes).bind fun p => next p.1 p.2 := rfl

/-- Bytes that end too early are refused. -/
theorem Takes.cut (h : Takes read (bytes ++ more) a) (steady : Steady read) (missing : more ≠ []) :
    ∃ fault, read bytes = .error fault := by
  cases hr : read bytes with
  | error fault => exact ⟨fault, rfl⟩
  | ok p =>
    obtain ⟨b, rest⟩ := p
    -- If it read something already, all that is missing would be left over.
    have whole := h []
    rw [List.append_assoc, steady bytes b rest hr] at whole
    simp [missing] at whole

theorem Takes.pure (a : α) : Takes (pure a) [] a := fun _ => rfl

theorem Takes.bind (first : Takes read bytes a) (then_ : Takes (next a) more b) :
    Takes (read >>= next) (bytes ++ more) b := by
  intro t
  rw [run_bind, List.append_assoc, first]
  exact then_ t

/-- After the last value that is read, nothing but the result is left. -/
theorem Takes.finish (h : Takes read bytes a) (result : next a = Pure.pure b) :
    Takes (read >>= next) bytes b := by
  intro t
  rw [run_bind, h]
  exact congrFun result t

theorem Takes.map (h : Takes read bytes a) (f : α → β) :
    Takes (read >>= fun a => Pure.pure (f a)) bytes (f a) :=
  h.finish rfl

theorem Steady.pure (a : α) : Steady (Pure.pure a : Reader α) := by
  intro bytes b rest h t
  cases h
  rfl

theorem Steady.throw (fault : Fault) : Steady (throw fault : Reader α) := nofun

theorem Steady.bind (first : Steady read) (then_ : ∀ a, Steady (next a)) :
    Steady (read >>= next) := by
  intro bytes b rest h t
  rw [run_bind] at h ⊢
  cases hr : read bytes with
  | error fault => simp [hr, Except.bind] at h
  | ok p =>
    rw [hr] at h
    rw [first bytes p.1 p.2 hr]
    exact then_ p.1 p.2 b rest h t

theorem Steady.map (h : Steady read) (f : α → β) :
    Steady (read >>= fun a => Pure.pure (f a)) :=
  h.bind fun a => .pure (f a)

end

-- ---------------------------------------------------------------------------
-- Numbers
-- ---------------------------------------------------------------------------

theorem takes_byte (b : UInt8) : Takes readByte (writeByte b) b := fun _ => rfl

theorem steady_byte : Steady readByte := by
  intro bytes b rest h t
  cases bytes with
  | nil => cases h
  | cons x xs =>
    cases h
    rfl

theorem takes_tag {n : Nat} (hn : n < Varint.Width.tag.bound) :
    Takes (readNat .tag) (Varint.encode n) n :=
  Varint.decodeGroups_encode (by decide) hn

theorem takes_length {n : Nat} (hn : n < Varint.Width.length.bound) :
    Takes (readNat .length) (Varint.encode n) n :=
  Varint.decodeGroups_encode (by decide) hn

theorem steady_nat (w : Varint.Width) : Steady (readNat w) :=
  fun _ _ _ h t => Varint.decodeGroups_append h t

theorem takes_short (n : UInt16) : Takes readShort (writeShort n) n := by
  have bound : n.toNat < Varint.Width.short.bound := n.toNat_lt
  have number : Takes (readNat .short) (writeShort n) n.toNat :=
    Varint.decodeGroups_encode (by decide) bound
  have read := number.map Nat.toUInt16
  rwa [Nat.toUInt16_eq, UInt16.ofNat_toNat] at read

theorem steady_short : Steady readShort := (steady_nat .short).map Nat.toUInt16

theorem takes_bool (b : Bool) : Takes readBool (writeBool b) b := by
  intro t
  cases b <;> rfl

theorem steady_bool : Steady readBool := by
  refine steady_byte.bind fun b => ?_
  split
  · exact .pure false
  · exact .pure true
  · exact .throw .notABool

-- ---------------------------------------------------------------------------
-- Texts
-- ---------------------------------------------------------------------------

def TextFits (s : String) : Prop := (utf8 s).length < Varint.Width.length.bound

theorem takes_bytes (bytes : List UInt8) : Takes (readBytes bytes.length) bytes bytes := by
  intro t
  simp [readBytes]

theorem steady_bytes (n : Nat) : Steady (readBytes n) := by
  intro bytes taken rest h t
  simp only [readBytes] at h ⊢
  split at h
  · rename_i enough
    have hn : n ≤ bytes.length := by
      rw [← enough]
      exact List.length_take_le' _ _
    cases h
    rw [List.take_append_of_le_length hn, List.drop_append_of_le_length hn, if_pos enough]
  · cases h

theorem ofUtf8?_utf8 (s : String) : ofUtf8? (utf8 s) = some s := by
  have same : (⟨(utf8 s).toArray⟩ : ByteArray) = s.toUTF8 := by simp [utf8]
  rw [ofUtf8?, same, String.toUTF8_eq_toByteArray, String.fromUTF8?, dif_pos s.isValidUTF8]
  rfl

theorem takes_string {s : String} (fits : TextFits s) : Takes readString (writeString s) s := by
  refine (takes_length fits).bind ?_
  intro t
  rw [run_bind, takes_bytes (utf8 s) t]
  simp only [Except.bind, ofUtf8?_utf8]
  rfl

theorem steady_string : Steady readString := by
  refine (steady_nat .length).bind fun n => (steady_bytes n).bind fun bytes => ?_
  split
  · exact .pure _
  · exact .throw .notUtf8

-- ---------------------------------------------------------------------------
-- Lists and results
-- ---------------------------------------------------------------------------

section
variable {read : Reader α} {write : α → List UInt8} {xs taken : List α}
variable {readError : Reader ε} {writeError : ε → List UInt8}

theorem takes_many (each : ∀ x ∈ xs, Takes read (write x) x) (taken : List α) :
    Takes (readMany read xs.length taken) (xs.flatMap write) (taken.reverse ++ xs) := by
  induction xs generalizing taken with
  | nil => simpa [readMany] using Takes.pure taken.reverse
  | cons x xs ih =>
    have later := ih (fun y hy => each y (List.mem_cons_of_mem x hy)) (x :: taken)
    rw [List.reverse_cons, List.append_assoc, List.singleton_append] at later
    exact (each x List.mem_cons_self).bind later

theorem steady_many (each : Steady read) (n : Nat) (taken : List α) :
    Steady (readMany read n taken) := by
  induction n generalizing taken with
  | zero => exact .pure taken.reverse
  | succ n ih => exact each.bind fun x => ih (x :: taken)

theorem takes_list (fits : xs.length < Varint.Width.length.bound)
    (each : ∀ x ∈ xs, Takes read (write x) x) : Takes (readList read) (writeList write xs) xs :=
  (takes_length fits).bind (takes_many each [])

theorem steady_list (each : Steady read) : Steady (readList read) :=
  (steady_nat .length).bind fun n => steady_many each n []

theorem takes_ok {a : α} (h : Takes read (write a) a) :
    Takes (readResult readError read) (writeResult writeError write (.ok a)) (.ok a) :=
  (takes_tag (n := 0) (by decide)).bind (h.map Except.ok)

theorem takes_error {e : ε} (h : Takes readError (writeError e) e) :
    Takes (readResult readError read) (writeResult writeError write (.error e)) (.error e) :=
  (takes_tag (n := 1) (by decide)).bind (h.map Except.error)

theorem steady_result (error : Steady readError) (value : Steady read) :
    Steady (readResult readError read) := by
  refine (steady_nat .tag).bind fun tag => ?_
  split
  · exact value.map Except.ok
  · exact error.map Except.error
  · exact .throw .unknownTag

end

end Wire

end UsbBridge
