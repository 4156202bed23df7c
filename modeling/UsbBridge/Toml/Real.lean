import UsbBridge.Text.Digits

/-!
# Floating-point numbers of a document

A number is rounded to the nearest binary fraction of 53 bits, a tie going to the even neighbour.
It is shown with the fewest digits that round back to it, never with an exponent.
-/

namespace UsbBridge.Toml

/-- A number of the form `mantissa * 2 ^ exponent`, an infinity, or no number. -/
inductive Real where
  | finite (negative : Bool) (mantissa : Nat) (exponent : Int)
  | infinite (negative : Bool)
  | nan
  deriving DecidableEq, Repr, Inhabited

namespace Real

/-- A quotient to the nearest whole number, ties to even. -/
def divNearest (num den : Nat) : Nat :=
  let q := num / den
  let r := num % den
  if 2 * r < den then q
  else if den < 2 * r then q + 1
  else if q % 2 = 0 then q else q + 1

/-- `num / den` scaled by `2 ^ (-exponent)`, as a quotient of naturals. -/
def scaled (num den : Nat) (exponent : Int) : Nat × Nat :=
  if 0 ≤ exponent then (num, den * Nat.pow 2 exponent.toNat)
  else (num * Nat.pow 2 (-exponent).toNat, den)

def leastMantissa : Nat := 4503599627370496

/-- The exponent for which the mantissa of `num / den` has 53 bits, as far as the range goes. -/
def exponentOf (num den : Nat) : Int :=
  let guess : Int := (Nat.log2 num : Int) - Nat.log2 den - 52
  let (n, d) := scaled num den guess
  let exact := if n < leastMantissa * d then guess - 1 else guess
  max exact (-1074)

/-- The binary fraction nearest to `num / den`; none when it is beyond the range. -/
def nearest (num den : Nat) : Option (Nat × Int) :=
  if num = 0 then some (0, -1074)
  else
    let e := exponentOf num den
    let (n, d) := scaled num den e
    let m := divNearest n d
    let (m, e) := if m = 2 * leastMantissa then (leastMantissa, e + 1) else (m, e)
    if 971 < e then none else some (m, e)

/-- The number `digits * 10 ^ exponent`. Exponents far beyond the range are cut short. -/
def ofDecimal (negative : Bool) (digits : Nat) (exponent : Int) : Real :=
  let size : Int := (Nat.toDigits 10 digits).length
  if digits = 0 ∨ size + exponent < -400 then .finite negative 0 (-1074)
  else if 400 < size + exponent then .infinite negative
  else
    let rounded :=
      if 0 ≤ exponent then nearest (digits * Nat.pow 10 exponent.toNat) 1
      else nearest digits (Nat.pow 10 (-exponent).toNat)
    match rounded with
    | some (m, e) => .finite negative m e
    | none => .infinite negative

def gridPoint (digits : Nat) (exponent : Int) : Nat × Nat :=
  if 0 ≤ exponent then (digits * Nat.pow 10 exponent.toNat, 1) else (digits, Nat.pow 10 (-exponent).toNat)

/-- Among the neighbours of the number on one decimal grid, the nearer one that rounds back. -/
def onGrid? (mantissa : Nat) (e exponent : Int) : Option Nat :=
  let num := if 0 ≤ e then mantissa * Nat.pow 2 e.toNat else mantissa
  let den := if 0 ≤ e then 1 else Nat.pow 2 (-e).toNat
  let (n, d) := if 0 ≤ exponent then (num, den * Nat.pow 10 exponent.toNat)
    else (num * Nat.pow 10 (-exponent).toNat, den)
  let low := n / d
  let good (k : Nat) : Bool :=
    let (a, b) := gridPoint k exponent
    decide (nearest a b = some (mantissa, e))
  match good low, good (low + 1) with
  | true, true => some (if 2 * (n % d) ≤ d then low else low + 1)
  | true, false => some low
  | false, true => some (low + 1)
  | false, false => none

/-- The coarsest of the grids, from `10 ^ exponent` down, that holds a number which rounds back. -/
def shortestFrom (mantissa : Nat) (e : Int) : Nat → Int → Nat × Int
  | 0, exponent => (0, exponent)
  | fuel + 1, exponent =>
    match onGrid? mantissa e exponent with
    | some digits => if digits = 0 then shortestFrom mantissa e fuel (exponent - 1)
      else (digits, exponent)
    | none => shortestFrom mantissa e fuel (exponent - 1)

def shortest (mantissa : Nat) (e : Int) : Nat × Int := shortestFrom mantissa e 640 309

/-- Digits and a power of ten, written out; a whole number gets one zero behind the point. -/
def positional (digits : Nat) (exponent : Int) : String :=
  if 0 ≤ exponent then toString (digits * Nat.pow 10 exponent.toNat) ++ ".0"
  else
    let places := (-exponent).toNat
    let text := (paddedText (places + 1) digits).toList
    let whole := text.take (text.length - places)
    String.ofList (whole ++ '.' :: text.drop (text.length - places))

def text : Real → String
  | .nan => "NaN"
  | .infinite negative => if negative then "-inf" else "inf"
  | .finite negative mantissa e =>
    let sign := if negative then "-" else ""
    if mantissa = 0 then sign ++ "0.0"
    else
      let (digits, exponent) := shortest mantissa e
      sign ++ positional digits exponent

end Real

end UsbBridge.Toml
