import UsbBridge.Bus.Enumeration
import UsbBridge.Proofs.Text.Laws

/-!
# Identities name places

A device whose ports are known is named by its bus and its ports, any other one by its bus and its
address. Whatever the ports, two devices have one name only if they are in one place
(`identities_distinct`).
-/

namespace UsbBridge

namespace Device

/-- The device as it is reported when it hangs off its bus through some ports, or none that are
known. -/
def plugged (d : Device) (ports : List UInt8) : Device :=
  { d with portPath := portPathOf d.bus ports }

def portTexts (ports : List UInt8) : List String := ports.map fun p => toString p.toNat

section
variable {d e : Device} {ports ps qs : List UInt8}

theorem identity_number : (d.plugged []).identity = ⟨"usb-dev-" ++ toString d.number⟩ := rfl

theorem identity_ports (known : ports ≠ []) : (d.plugged ports).identity =
    ⟨toString d.bus.toNat ++ "-" ++ ".".intercalate (portTexts ports)⟩ := by
  have path : portPathOf d.bus ports =
      some (toString d.bus.toNat ++ "-" ++ ".".intercalate (portTexts ports)) := by
    rw [portPathOf, List.isEmpty_eq_false_iff.mpr known]
    rfl
  have some_ :
      (toString d.bus.toNat ++ "-" ++ ".".intercalate (portTexts ports)).isEmpty = false := by simp
  simp only [identity, plugged, path, some_]
  rfl

theorem portTexts_inj : portTexts ps = portTexts qs ↔ ps = qs := by
  refine List.map_inj_right fun p q same => ?_
  have digits : Nat.toDigits 10 p.toNat = Nat.toDigits 10 q.toNat := by
    rw [← Text.toList_toString, ← Text.toList_toString, same]
  have number := Text.decimal_toDigits p.toNat
  rw [digits, Text.decimal_toDigits] at number
  exact UInt8.toNat_inj.mp number.symm

/-- Digits have no points among them, so the ports can be told apart. -/
theorem intercalate_inj (hp : ps ≠ []) (hq : qs ≠ [])
    (same : ".".intercalate (portTexts ps) = ".".intercalate (portTexts qs)) : ps = qs := by
  have pointless (ports : List UInt8) : ∀ s ∈ portTexts ports, '.' ∉ s.toList := by
    intro s hs point
    obtain ⟨p, -, rfl⟩ := List.mem_map.mp hs
    rw [Text.toList_toString] at point
    exact absurd (Text.isDigit_toDigits point) (by decide)
  have apart {ports : List UInt8} (known : ports ≠ []) :
      ((".".intercalate (portTexts ports)).split '.').toList.map (·.copy) = portTexts ports :=
    (String.toList_split_intercalate (pointless ports)).trans
      (if_neg (mt List.map_eq_nil_iff.mp known))
  rw [← portTexts_inj, ← apart hp, ← apart hq, same]

/-- Digits before something else are the same digits. -/
theorem digits_inj {m n : Nat} {c : Char} {left right : List Char} (other : Text.isDigit c = false)
    (same : Nat.toDigits 10 m ++ c :: left = Nat.toDigits 10 n ++ c :: right) :
    m = n ∧ left = right := by
  have digits {k : Nat} : ∀ d ∈ Nat.toDigits 10 k, Text.isDigit d = true :=
    fun d => Text.isDigit_toDigits
  have stops (rest : List Char) := Text.stops_cons other rest
  have numbers := Text.takeWhile_append (Nat.toDigits 10 m) digits (stops left)
  have rests : (Nat.toDigits 10 m ++ c :: left).dropWhile Text.isDigit = c :: left :=
    Text.dropWhile_append digits (stops left)
  rw [same, Text.takeWhile_append _ digits (stops right)] at numbers
  rw [same, Text.dropWhile_append digits (stops right)] at rests
  refine ⟨?_, (List.cons.inj rests).2.symm⟩
  rw [← Text.decimal_toDigits m, ← numbers, Text.decimal_toDigits]

theorem number_inj : d.number = e.number ↔ d.bus = e.bus ∧ d.address = e.address := by
  have small (a : UInt8) : a.toNat < 256 := a.toNat_lt
  have := small d.address
  have := small e.address
  simp only [number, ← UInt8.toNat_inj]
  omega

theorem toString_inj {m n : Nat} : toString m = toString n ↔ m = n := by
  refine ⟨fun same => ?_, fun same => by rw [same]⟩
  have digits := congrArg String.toList same
  rw [Text.toList_toString, Text.toList_toString] at digits
  rw [← Text.decimal_toDigits m, digits, Text.decimal_toDigits]

theorem identity_number_iff :
    (d.plugged []).identity = (e.plugged []).identity ↔ d.bus = e.bus ∧ d.address = e.address := by
  rw [identity_number, identity_number, Identity.mk.injEq, String.append_right_inj, toString_inj,
    number_inj]

theorem identity_ports_iff (hp : ps ≠ []) (hq : qs ≠ []) :
    (d.plugged ps).identity = (e.plugged qs).identity ↔ d.bus = e.bus ∧ ps = qs := by
  rw [identity_ports hp, identity_ports hq, Identity.mk.injEq]
  constructor
  · intro same
    have chars := congrArg String.toList same
    simp only [String.toList_append, Text.toList_toString, List.append_assoc] at chars
    obtain ⟨bus, rest⟩ := digits_inj (c := '-') (by decide) chars
    exact ⟨UInt8.toNat_inj.mp bus, intercalate_inj hp hq (String.toList_inj.mp rest)⟩
  · rintro ⟨bus, rfl⟩
    rw [bus]

/-- A path begins with a digit, and the text of a number with a letter. -/
theorem identity_mixed (known : qs ≠ []) : (d.plugged []).identity ≠ (e.plugged qs).identity := by
  rw [identity_number, identity_ports known]
  intro same
  have chars := congrArg (fun i : Identity => i.text.toList.head?) same
  obtain ⟨c, cs, digits, digit⟩ := Text.toDigits_cons e.bus.toNat
  simp only [String.toList_append, Text.toList_toString, digits, List.cons_append,
    List.head?_cons] at chars
  obtain rfl : 'u' = c := Option.some.inj chars
  cases digit

theorem identity_plugged_iff : (d.plugged ps).identity = (e.plugged qs).identity ↔
    (ps ≠ [] ∧ qs ≠ [] ∧ d.bus = e.bus ∧ ps = qs) ∨
      (ps = [] ∧ qs = [] ∧ d.bus = e.bus ∧ d.address = e.address) := by
  by_cases hp : ps = []
  · subst hp
    by_cases hq : qs = []
    · subst hq
      simp [identity_number_iff]
    · simp [identity_mixed hq, hq]
  · by_cases hq : qs = []
    · subst hq
      simp [(identity_mixed hp).symm, hp]
    · simp [identity_ports_iff hp hq, hp, hq]

end

end Device

namespace Bus

/-- The ports that are told of a listed device: none when there are too many of them. -/
def Listed.told (l : Listed) : List UInt8 :=
  if l.ports.length ≤ Enumeration.mostPorts then l.ports else []

theorem Enumeration.describe_plugged (e : Enumeration) (l : Listed) :
    e.describe l = (e.describe l).plugged l.told := by
  have path : (e.describe l).portPath = Device.portPathOf l.bus l.told := by
    change (if l.ports.length ≤ mostPorts then Device.portPathOf l.bus l.ports else none) =
      Device.portPathOf l.bus (if l.ports.length ≤ mostPorts then l.ports else [])
    split <;> rfl
  calc e.describe l = { e.describe l with portPath := (e.describe l).portPath } := rfl
    _ = (e.describe l).plugged l.told := by rw [path]; rfl

end Bus

open Bus

/-- What it takes for two devices to have one name. -/
structure Device.NamedApart (d e : Device) (ps qs : List UInt8) : Prop where
  same : (d.plugged ps).identity = (e.plugged qs).identity ↔
    (ps ≠ [] ∧ qs ≠ [] ∧ d.bus = e.bus ∧ ps = qs) ∨
      (ps = [] ∧ qs = [] ∧ d.bus = e.bus ∧ d.address = e.address)
  /-- The number that the device has for as long as it is attached is not part of the name. -/
  stays : ps ≠ [] → ∀ address, ({ d with address }.plugged ps).identity = (d.plugged ps).identity
  /-- Other places, other names. -/
  apart : ps ≠ [] → qs ≠ [] → (d.bus, ps) ≠ (e.bus, qs) →
    (d.plugged ps).identity ≠ (e.plugged qs).identity
  /-- No path is the name of a device whose ports are not known. -/
  kinds : ps ≠ [] → (d.plugged ps).identity ≠ (e.plugged []).identity

/-- For devices with any number of ports, and for those on the list of a bus. -/
theorem identities_distinct :
    (∀ (d e : Device) (ps qs : List UInt8), d.NamedApart e ps qs) ∧
      ∀ (a b : Enumeration) (l k : Listed), (a.describe l).identity = (b.describe k).identity ↔
        (l.told ≠ [] ∧ k.told ≠ [] ∧ l.bus = k.bus ∧ l.told = k.told) ∨
          (l.told = [] ∧ k.told = [] ∧ l.bus = k.bus ∧ l.address = k.address) := by
  refine ⟨fun d e ps qs => ⟨Device.identity_plugged_iff, ?_, ?_, ?_⟩, fun a b l k => ?_⟩
  · intro known address
    exact (Device.identity_ports_iff known known).mpr ⟨rfl, rfl⟩
  · intro hp hq other same
    exact other (Prod.ext_iff.mpr ((Device.identity_ports_iff hp hq).mp same))
  · intro known
    exact (Device.identity_mixed known).symm
  · rw [a.describe_plugged, b.describe_plugged]
    exact Device.identity_plugged_iff

end UsbBridge
