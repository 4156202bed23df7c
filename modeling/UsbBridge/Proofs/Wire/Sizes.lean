import UsbBridge.Frame.Basic
import UsbBridge.Proofs.Wire.PrefixCode

/-!
# How long bodies are

A text or a list is no longer than the body that it stands in. So a message whose body is within the
limit of a frame has no text or list that is too long to be written (`Message.fits_of_small`).
-/

namespace UsbBridge

open Wire
open UsbBridge.Frame (limit)

theorem Varint.length_tag {n : Nat} (small : n < 128) : (Varint.encode n).length = 1 := by
  rw [Varint.encode, if_pos small, List.length_singleton]

theorem Wire.utf8_length (s : String) : (utf8 s).length = s.utf8ByteSize := by
  simp [utf8]

theorem limit_lt_bound : limit < Varint.Width.length.bound := by decide

theorem textFits_of_small {s : String} (small : (writeString s).length ≤ limit) : TextFits s := by
  rw [writeString, List.length_append] at small
  have := limit_lt_bound
  unfold TextFits
  omega

theorem Identity.fits_of_small {id : Identity} (small : id.write.length ≤ limit) : id.Fits :=
  textFits_of_small small

theorem SessionError.fits_of_small {e : SessionError} (small : e.write.length ≤ limit) :
    e.Fits := by
  cases e with
  | enumeration message =>
    rw [SessionError.write, List.length_append] at small
    exact textFits_of_small (by omega)
  | deviceNotFound id | permissionDenied id | alreadyOpening id =>
    rw [SessionError.write, List.length_append] at small
    exact Identity.fits_of_small (by omega)
  | openFailed id reason busy =>
    simp only [SessionError.write, List.length_append] at small
    exact ⟨Identity.fits_of_small (by omega), textFits_of_small (by omega)⟩

theorem Wire.resultFits_of_small (write : α → List UInt8) {fits : α → Prop}
    {result : Except SessionError α} (value : ∀ a, (write a).length ≤ limit → fits a)
    (small : (writeResult SessionError.write write result).length ≤ limit) :
    ResultFits fits result := by
  cases result with
  | ok a =>
    rw [writeResult, List.length_append] at small
    exact value a (by omega)
  | error e =>
    rw [writeResult, List.length_append] at small
    exact SessionError.fits_of_small (by omega)

theorem Wire.length_le_flatMap {write : α → List UInt8} (xs : List α)
    (nonempty : ∀ x, 0 < (write x).length) :
    xs.length ≤ (xs.flatMap write).length ∧
      ∀ x ∈ xs, (write x).length ≤ (xs.flatMap write).length := by
  induction xs with
  | nil => simp
  | cons x xs ih =>
    rw [List.flatMap_cons, List.length_append, List.length_cons]
    have := nonempty x
    refine ⟨by omega, List.forall_mem_cons.mpr ⟨by omega, fun y hy => ?_⟩⟩
    have := ih.2 y hy
    omega

theorem Wire.devicesFit_of_small {devices : List Descriptor}
    (small : (writeList Descriptor.write devices).length ≤ limit) : DevicesFit devices := by
  have nonempty (d : Descriptor) : 0 < d.write.length := by
    simp only [Descriptor.write, writeShort, List.length_append]
    have : 0 < (Varint.encode d.product.toNat).length := by
      rw [Varint.encode]
      split <;> simp
    omega
  obtain ⟨count, each⟩ := length_le_flatMap devices nonempty
  rw [writeList, List.length_append] at small
  have := limit_lt_bound
  refine ⟨by omega, fun d hd => Identity.fits_of_small ?_⟩
  have := each d hd
  simp only [Descriptor.write, List.length_append] at this
  omega

theorem Payload.fits_of_small {p : Payload} (small : p.write.length ≤ limit) : p.Fits := by
  cases p with
  | listDevicesRequest | subscribeRequest | subscribed | cancelRequest => trivial
  | streamEnded reason => trivial
  | listDevicesResponse result =>
    rw [Payload.write, List.length_append] at small
    exact resultFits_of_small _ (fun _ => devicesFit_of_small) (Nat.le_of_add_left_le small)
  | hasPermissionResponse result =>
    rw [Payload.write, List.length_append] at small
    exact resultFits_of_small writeBool (fun _ _ => trivial) (by omega)
  | openResponse result =>
    rw [Payload.write, List.length_append] at small
    exact resultFits_of_small _ (fun _ => Identity.fits_of_small) (Nat.le_of_add_left_le small)
  | hasPermissionRequest id | openRequest id =>
    rw [Payload.write, List.length_append] at small
    exact Identity.fits_of_small (by omega)
  | notification event =>
    simp only [Payload.write, HotplugEvent.write, Descriptor.write, List.length_append] at small
    exact event.device.identity.fits_of_small (by omega)
  | error message =>
    rw [Payload.write, List.length_append] at small
    exact textFits_of_small (by omega)

/-- Whatever is sent in a frame can be read back from it. -/
theorem Message.fits_of_small {m : Message} (small : m.encode.length ≤ limit) : m.Fits := by
  rw [Message.encode, List.length_append] at small
  exact Payload.fits_of_small (by omega)

theorem Message.decode_of_small {m : Message} (small : m.encode.length ≤ limit) :
    Message.decode m.encode = .ok m :=
  Message.decode_encode (Message.fits_of_small small)

end UsbBridge
