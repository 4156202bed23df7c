import UsbBridge.Text.Digits

/-!
# Spans of time

Error texts show a span in the largest unit of which it holds one, with a fraction that drops its
trailing zeros.
-/

namespace UsbBridge

structure Duration where
  nanos : Nat
  deriving DecidableEq, Repr, Inhabited

namespace Duration

def ofMillis (ms : Nat) : Duration := ⟨ms * 1000000⟩

def ofMicros (us : Nat) : Duration := ⟨us * 1000⟩

def ofSeconds (s : Nat) : Duration := ⟨s * 1000000000⟩

def millis (d : Duration) : Nat := d.nanos / 1000000

def micros (d : Duration) : Nat := d.nanos / 1000

/-- `n` units of `10 ^ places` parts each, with the fraction in as few digits as hold it. -/
def decimalText (places n : Nat) : String :=
  let parts := Nat.pow 10 places
  let fraction := (paddedText places (n % parts)).toList
  let kept := (fraction.reverse.dropWhile (· == '0')).reverse
  let whole := toString (n / parts)
  if n % parts = 0 then whole else s!"{whole}.{String.ofList kept}"

def display (d : Duration) : String :=
  if 1000000000 ≤ d.nanos then s!"{decimalText 9 d.nanos}s"
  else if 1000000 ≤ d.nanos then s!"{decimalText 6 d.nanos}ms"
  else if 1000 ≤ d.nanos then s!"{decimalText 3 d.nanos}µs"
  else s!"{d.nanos}ns"

end Duration

end UsbBridge
