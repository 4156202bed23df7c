/-!
# Variable-length numbers

A number is written in groups of seven bits, lowest first; every byte but the last has its high
bit set. A reader bounds the number of groups and the size of the last one, and takes redundant
zero groups.
-/

namespace UsbBridge

inductive Wire.Fault where
  | endOfBuffer
  | unterminatedNumber
  | notABool
  | notUtf8
  | unknownTag
  deriving DecidableEq, Repr, Inhabited

def Wire.Fault.message : Wire.Fault → String
  | .endOfBuffer => "Hit the end of buffer, expected more data"
  | .unterminatedNumber =>
    "Found a varint that didn't terminate. Is the usize too big for this platform?"
  | .notABool => "Found a bool that wasn't 0 or 1"
  | .notUtf8 => "Tried to parse invalid utf-8"
  | .unknownTag => "Serde Deserialization Error"

namespace Varint

/-- The most groups a number of some type takes, and the largest value of the last of them. -/
structure Width where
  groups : Nat
  last : Nat
  deriving DecidableEq, Repr

/-- Numbers below `2 ^ 16`. -/
def Width.short : Width := ⟨3, 0x03⟩

/-- Positions of alternatives, below `2 ^ 32`. -/
def Width.tag : Width := ⟨5, 0x0f⟩

/-- Lengths, below `2 ^ 64`. -/
def Width.length : Width := ⟨10, 0x01⟩

def Width.bound (w : Width) : Nat := Nat.pow 128 (w.groups - 1) * (w.last + 1)

def encode (n : Nat) : List UInt8 :=
  if n < 128 then [n.toUInt8] else (n % 128 + 128).toUInt8 :: encode (n / 128)
termination_by n
decreasing_by omega

/-- A number of at most `groups` groups, the last possible one at most `last`, and the bytes
after it. -/
def decodeGroups (last : Nat) : Nat → List UInt8 → Except Wire.Fault (Nat × List UInt8)
  | 0, _ => .error .unterminatedNumber
  | _ + 1, [] => .error .endOfBuffer
  | groups + 1, b :: bytes =>
    if b.toNat < 128 then
      if groups = 0 ∧ last < b.toNat then .error .unterminatedNumber else .ok (b.toNat, bytes)
    else
      match decodeGroups last groups bytes with
      | .ok (n, rest) => .ok (b.toNat - 128 + 128 * n, rest)
      | .error fault => .error fault

def decode (w : Width) (bytes : List UInt8) : Except Wire.Fault (Nat × List UInt8) :=
  decodeGroups w.last w.groups bytes

end Varint

end UsbBridge
