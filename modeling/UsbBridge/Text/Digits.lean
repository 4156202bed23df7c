/-!
# Numbers in text
-/

namespace UsbBridge

/-- A number in lower-case hexadecimal digits, at least `width` of them. -/
def hexText (width n : Nat) : String :=
  let digits := Nat.toDigits 16 n
  String.ofList (List.replicate (width - digits.length) '0' ++ digits)

def paddedText (width n : Nat) : String :=
  let digits := Nat.toDigits 10 n
  String.ofList (List.replicate (width - digits.length) '0' ++ digits)

namespace Text

def isDigit (c : Char) : Bool := decide ('0' ≤ c) && decide (c ≤ '9')

def digitValue (c : Char) : Nat := c.toNat - '0'.toNat

def decimal (digits : List Char) : Nat := digits.foldl (fun n c => 10 * n + digitValue c) 0

def hexValue? (c : Char) : Option Nat :=
  if isDigit c then some (digitValue c)
  else if 'a' ≤ c ∧ c ≤ 'f' then some (c.toNat - 'a'.toNat + 10)
  else if 'A' ≤ c ∧ c ≤ 'F' then some (c.toNat - 'A'.toNat + 10)
  else none

/-- The number that hexadecimal digits of either case stand for. -/
def hexadecimal? (digits : List Char) : Option Nat :=
  digits.foldlM (fun n c => (hexValue? c).map (16 * n + ·)) 0

def unsigned : List Char → List Char
  | '+' :: cs => cs
  | cs => cs

/-- How many numbers 64 bits can tell apart. -/
def wordSize : Nat := 18446744073709551616

/-- A number of 64 bits, in decimal digits with an optional plus sign. -/
def count? (s : String) : Option Nat :=
  let digits := unsigned s.toList
  if digits.isEmpty || !digits.all isDigit then none
  else if decimal digits < wordSize then some (decimal digits) else none

end Text

end UsbBridge
