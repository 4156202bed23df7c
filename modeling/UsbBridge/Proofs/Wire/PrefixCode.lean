import UsbBridge.Proofs.Wire.Readers
import UsbBridge.Protocol.Encoding

/-!
# Message bodies are a prefix code

A body is read back to its message whatever follows it, and no shorter beginning of it is read at
all (`body_prefix_code`), so no body is the beginning of another one. The only condition is that
texts and lists are short enough for their lengths to be written in 64 bits (`Message.Fits`).
-/

namespace UsbBridge

open Wire

-- ---------------------------------------------------------------------------
-- Lengths that can be written
-- ---------------------------------------------------------------------------

def Identity.Fits (id : Identity) : Prop := TextFits id.text

def SessionError.Fits : SessionError → Prop
  | .enumeration message => TextFits message
  | .deviceNotFound id => id.Fits
  | .permissionDenied id => id.Fits
  | .openFailed id reason _ => id.Fits ∧ TextFits reason
  | .alreadyOpening id => id.Fits

def Wire.ResultFits (fits : α → Prop) : Except SessionError α → Prop
  | .ok a => fits a
  | .error e => e.Fits

def Wire.DevicesFit (devices : List Descriptor) : Prop :=
  devices.length < Varint.Width.length.bound ∧ ∀ d ∈ devices, d.identity.Fits

def Payload.Fits : Payload → Prop
  | .listDevicesResponse result => ResultFits DevicesFit result
  | .hasPermissionRequest id => id.Fits
  | .hasPermissionResponse result => ResultFits (fun _ => True) result
  | .openRequest id => id.Fits
  | .openResponse result => ResultFits Identity.Fits result
  | .notification event => event.device.identity.Fits
  | .error message => TextFits message
  | .listDevicesRequest | .subscribeRequest | .subscribed | .cancelRequest | .streamEnded _ => True

/-- Every text and list in a message has a length below `2 ^ 64`, as whatever fits into memory. -/
def Message.Fits (m : Message) : Prop := m.payload.Fits

-- ---------------------------------------------------------------------------
-- Parts of messages
-- ---------------------------------------------------------------------------

theorem Identity.takes {id : Identity} (fits : id.Fits) : Takes Identity.read id.write id :=
  (takes_string fits).map Identity.mk

theorem Identity.steady : Steady Identity.read := steady_string.map Identity.mk

theorem Descriptor.takes {d : Descriptor} (fits : d.identity.Fits) :
    Takes Descriptor.read d.write d := by
  rw [Descriptor.write, List.append_assoc]
  exact (Identity.takes fits).bind ((takes_short d.vendor).bind ((takes_short d.product).map _))

theorem Descriptor.steady : Steady Descriptor.read :=
  Identity.steady.bind fun _ => steady_short.bind fun _ => steady_short.map _

theorem HotplugKind.takes (kind : HotplugKind) : Takes HotplugKind.read kind.write kind := by
  cases kind with
  | attached => exact (takes_tag (n := 0) (by decide)).finish rfl
  | detached => exact (takes_tag (n := 1) (by decide)).finish rfl

theorem HotplugKind.steady : Steady HotplugKind.read := by
  refine (steady_nat .tag).bind fun tag => ?_
  split
  · exact .pure _
  · exact .pure _
  · exact .throw .unknownTag

theorem HotplugEvent.takes {e : HotplugEvent} (fits : e.device.identity.Fits) :
    Takes HotplugEvent.read e.write e :=
  (HotplugKind.takes e.kind).bind ((Descriptor.takes fits).map _)

theorem HotplugEvent.steady : Steady HotplugEvent.read :=
  HotplugKind.steady.bind fun _ => Descriptor.steady.map _

theorem EndReason.takes (reason : EndReason) : Takes EndReason.read reason.write reason := by
  cases reason with
  | replaced => exact (takes_tag (n := 0) (by decide)).finish rfl
  | cancelled => exact (takes_tag (n := 1) (by decide)).finish rfl
  | registrationLost => exact (takes_tag (n := 2) (by decide)).finish rfl
  | shutdown => exact (takes_tag (n := 3) (by decide)).finish rfl

theorem EndReason.steady : Steady EndReason.read := by
  refine (steady_nat .tag).bind fun tag => ?_
  split
  iterate 4 exact .pure _
  exact .throw .unknownTag

theorem SessionError.takes {e : SessionError} (fits : e.Fits) :
    Takes SessionError.read e.write e := by
  cases e with
  | enumeration message =>
    exact (takes_tag (n := 0) (by decide)).bind ((takes_string fits).map _)
  | deviceNotFound id =>
    exact (takes_tag (n := 1) (by decide)).bind ((Identity.takes fits).map _)
  | permissionDenied id =>
    exact (takes_tag (n := 2) (by decide)).bind ((Identity.takes fits).map _)
  | openFailed id reason busy =>
    simp only [SessionError.write, List.append_assoc]
    exact (takes_tag (n := 3) (by decide)).bind
      ((Identity.takes fits.1).bind ((takes_string fits.2).bind ((takes_bool busy).map _)))
  | alreadyOpening id =>
    exact (takes_tag (n := 4) (by decide)).bind ((Identity.takes fits).map _)

theorem SessionError.steady : Steady SessionError.read := by
  refine (steady_nat .tag).bind fun tag => ?_
  split
  · exact steady_string.map _
  · exact Identity.steady.map _
  · exact Identity.steady.map _
  · exact Identity.steady.bind fun _ => steady_string.bind fun _ => steady_bool.map _
  · exact Identity.steady.map _
  · exact .throw .unknownTag

theorem Wire.takes_result {read : Reader α} {write : α → List UInt8} {fits : α → Prop}
    {result : Except SessionError α} (value : ∀ a, fits a → Takes read (write a) a)
    (h : ResultFits fits result) : Takes (readResult SessionError.read read)
      (writeResult SessionError.write write result) result := by
  cases result with
  | ok a => exact takes_ok (value a h)
  | error e => exact takes_error (SessionError.takes h)

theorem Wire.takes_devices (devices : List Descriptor) (fits : DevicesFit devices) :
    Takes (readList Descriptor.read) (writeList Descriptor.write devices) devices :=
  takes_list fits.1 fun d hd => Descriptor.takes (fits.2 d hd)

-- ---------------------------------------------------------------------------
-- Messages
-- ---------------------------------------------------------------------------

theorem Payload.takes {p : Payload} (fits : p.Fits) : Takes Payload.read p.write p := by
  cases p with
  | listDevicesRequest => exact (takes_tag (n := 0) (by decide)).finish rfl
  | listDevicesResponse result =>
    exact (takes_tag (n := 1) (by decide)).bind ((takes_result takes_devices fits).map _)
  | hasPermissionRequest id =>
    exact (takes_tag (n := 2) (by decide)).bind ((Identity.takes fits).map _)
  | hasPermissionResponse result =>
    exact (takes_tag (n := 3) (by decide)).bind
      ((takes_result (fun granted _ => takes_bool granted) fits).map _)
  | openRequest id =>
    exact (takes_tag (n := 4) (by decide)).bind ((Identity.takes fits).map _)
  | openResponse result =>
    exact (takes_tag (n := 5) (by decide)).bind
      ((takes_result (fun _ => Identity.takes) fits).map _)
  | subscribeRequest => exact (takes_tag (n := 6) (by decide)).finish rfl
  | subscribed => exact (takes_tag (n := 7) (by decide)).finish rfl
  | cancelRequest => exact (takes_tag (n := 8) (by decide)).finish rfl
  | notification event =>
    exact (takes_tag (n := 9) (by decide)).bind ((HotplugEvent.takes fits).map _)
  | streamEnded reason =>
    exact (takes_tag (n := 10) (by decide)).bind ((EndReason.takes reason).map _)
  | error message =>
    exact (takes_tag (n := 11) (by decide)).bind ((takes_string fits).map _)

theorem Payload.steady : Steady Payload.read := by
  refine (steady_nat .tag).bind fun tag => ?_
  split
  · exact .pure _
  · exact (steady_result SessionError.steady (steady_list Descriptor.steady)).map _
  · exact Identity.steady.map _
  · exact (steady_result SessionError.steady steady_bool).map _
  · exact Identity.steady.map _
  · exact (steady_result SessionError.steady Identity.steady).map _
  iterate 3 exact .pure _
  · exact HotplugEvent.steady.map _
  · exact EndReason.steady.map _
  · exact steady_string.map _
  · exact .throw .unknownTag

theorem Version.takes (v : Version) : Takes Version.read v.write v :=
  (takes_byte v.major).bind ((takes_byte v.minor).bind ((takes_byte v.patch).map _))

theorem Version.steady : Steady Version.read :=
  steady_byte.bind fun _ => steady_byte.bind fun _ => steady_byte.map _

theorem Message.takes {m : Message} (fits : m.Fits) : Takes Message.read m.encode m :=
  (Version.takes m.version).bind ((Payload.takes fits).map _)

theorem Message.steady : Steady Message.read :=
  Version.steady.bind fun _ => Payload.steady.map _

theorem Message.decode_encode_append {m : Message} (fits : m.Fits) (t : List UInt8) :
    Message.decode (m.encode ++ t) = .ok m := by
  rw [Message.decode, Message.takes fits t]

theorem Message.decode_encode {m : Message} (fits : m.Fits) :
    Message.decode m.encode = .ok m := by
  have whole := Message.decode_encode_append fits []
  rwa [List.append_nil] at whole

/-- Of a message: its body alone tells where it ends. -/
structure PrefixCode (m : Message) : Prop where
  /-- Whatever follows the body, the message is read. -/
  whole : ∀ t, Message.decode (m.encode ++ t) = .ok m
  /-- A body that is cut short is refused. -/
  cut : ∀ p t, m.encode = p ++ t → t ≠ [] →
    ∃ fault, Message.decode p = .error (.malformed fault)
  /-- No body of another message stands at its beginning. -/
  apart : ∀ other : Message, other.Fits → other.encode <+: m.encode → other = m

/-- For messages of any version, with any payload, texts and lists. -/
theorem body_prefix_code (m : Message) (fits : m.Fits) : PrefixCode m where
  whole := Message.decode_encode_append fits
  cut p t h missing := by
    have takes := Message.takes fits
    rw [h] at takes
    obtain ⟨fault, hr⟩ := takes.cut Message.steady missing
    exact ⟨fault, by rw [Message.decode, hr]⟩
  apart other fitsToo := by
    rintro ⟨t, ht⟩
    have same := Message.decode_encode_append fitsToo t
    rw [ht, ← List.append_nil m.encode, Message.decode_encode_append fits] at same
    exact (Except.ok.inj same).symm

theorem listing_prefix_code : PrefixCode ⟨⟨2, 255, 128⟩, .listDevicesResponse
    (.ok [⟨⟨"1-1.4"⟩, 0x1209, 0xffff⟩, ⟨⟨"gerät"⟩, 0x80, 0x7f⟩])⟩ :=
  body_prefix_code _ ⟨by decide, by
    intro d hd
    simp only [List.mem_cons, List.not_mem_nil, or_false] at hd
    obtain rfl | rfl := hd
    · show (utf8 "1-1.4").length < _
      decide
    · show (utf8 "gerät").length < _
      decide⟩

end UsbBridge
