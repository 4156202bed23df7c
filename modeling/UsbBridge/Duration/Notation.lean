import UsbBridge.Duration.Basic
import UsbBridge.Text.Case

/-!
# Durations in configuration files

A duration is written as numbers with units, such as `1m30s`; a number at the end without a unit
counts seconds. Case and surrounding blanks do not matter. Milliseconds are counted in 64 bits; what
goes beyond them counts as the largest number.
-/

namespace UsbBridge.Duration

inductive Fault where
  | format (text : String)
  | number (digits : String)
  | unit (c : Char)
  | zero
  deriving DecidableEq, Repr, Inhabited

def Fault.message : Fault → String
  | .format text => s!"Invalid duration format: {text}"
  | .number digits => s!"Invalid number in duration: {digits}"
  | .unit c => s!"Invalid duration unit: {c}"
  | .zero => "Duration must be greater than 0"

inductive Unit where
  | hours
  | minutes
  | seconds
  | millis
  deriving DecidableEq, Repr

def Unit.inMillis : Unit → Nat
  | .hours => 3600000
  | .minutes => 60000
  | .seconds => 1000
  | .millis => 1

def number (digits : List Char) : Except Fault Nat :=
  let n := Text.decimal digits
  if n < Text.wordSize then .ok n else .error (.number (String.ofList digits))

def unit? : List Char → Option (Unit × List Char)
  | 'h' :: cs => some (.hours, cs)
  | 'm' :: 's' :: cs => some (.millis, cs)
  | 'm' :: cs => some (.minutes, cs)
  | 's' :: cs => some (.seconds, cs)
  | _ => none

theorem unit?_length {cs rest : List Char} {u : Unit} (h : unit? cs = some (u, rest)) :
    rest.length < cs.length := by
  unfold unit? at h
  split at h <;> simp only [Option.some.injEq, Prod.mk.injEq, reduceCtorEq] at h
  all_goals
    obtain ⟨-, rfl⟩ := h
    simp only [List.length_cons]
    omega

/-- The largest number of 64 bits stands for all larger ones. -/
def cap (n : Nat) : Nat := min n (Text.wordSize - 1)

def addUnits (sum count : Nat) (u : Unit) : Nat := cap (sum + cap (count * u.inMillis))

/-- Adds what a text counts to a sum; `text` is the whole of it, for error texts. -/
def sumFrom (text : String) (sum : Nat) (cs : List Char) : Except Fault Nat := do
  let digits := cs.takeWhile Text.isDigit
  match h : cs.dropWhile Text.isDigit with
  | [] => if digits.isEmpty then return sum else return addUnits sum (← number digits) .seconds
  | c :: rest =>
    if digits.isEmpty then throw (.format text)
    let n ← number digits
    match hu : unit? (c :: rest) with
    | none => throw (.unit c)
    | some (unit, after) =>
      have : after.length < cs.length := by
        have := unit?_length hu
        have := (List.dropWhile_sublist Text.isDigit (l := cs)).length_le
        rw [h] at this
        omega
      sumFrom text (addUnits sum n unit) after
termination_by cs.length

def parse (s : String) : Except Fault Duration := do
  let text := Text.lowercase (Text.trim s)
  let sum ← sumFrom text 0 text.toList
  if sum = 0 then throw .zero
  return ofMillis sum

/-- A part of a written duration, left out when its count is zero. -/
def part (count : Nat) (unit : String) : String := if count = 0 then "" else s!"{count}{unit}"

/-- The whole milliseconds, in 64 bits, as hours, minutes, seconds and milliseconds. -/
def format (d : Duration) : String :=
  let ms := d.millis % Text.wordSize
  if ms = 0 then "0ms"
  else
    part (ms / 3600000) "h" ++ part (ms % 3600000 / 60000) "m" ++
      part (ms % 60000 / 1000) "s" ++ part (ms % 1000) "ms"

end UsbBridge.Duration
