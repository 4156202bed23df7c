import UsbBridge.Toml.Value

/-!
# The lexical part of configuration documents

Every scanner takes what it can from the front of the text, or fails without saying why: a
document that is not well-formed is refused as a whole.
-/

namespace UsbBridge.Toml

abbrev Scan := StateT (List Char) Option

namespace Scan

def peek : Scan (Option Char) := fun cs => some (cs.head?, cs)

def next : Scan Char := fun cs =>
  match cs with
  | [] => none
  | c :: rest => some (c, rest)

def satisfy (p : Char → Bool) : Scan Char := do
  let c ← next
  if p c then pure c else failure

def char (c : Char) : Scan Unit := do discard <| satisfy (· == c)

def literal : List Char → Scan Unit
  | [] => pure ()
  | c :: cs => do char c; literal cs

def chars (p : Char → Bool) : Scan (List Char) := fun cs =>
  some (cs.takeWhile p, cs.dropWhile p)

def chars1 (p : Char → Bool) : Scan (List Char) := do
  let taken ← chars p
  if taken.isEmpty then failure else pure taken

/-- Tries a scanner, and stays where it was when that fails. -/
def attempt (scan : Scan α) : Scan (Option α) := fun cs =>
  match scan cs with
  | some (a, rest) => some (some a, rest)
  | none => some (none, cs)

def atMost (scan : Scan α) : Nat → Scan (List α)
  | 0 => pure []
  | n + 1 => do
    match ← attempt scan with
    | some a => return a :: (← atMost scan n)
    | none => pure []

/-- As often as it goes; each time takes at least one character. -/
def many (scan : Scan α) : Scan (List α) := fun cs => atMost scan cs.length cs

def isEnd : Scan Bool := fun cs => some (cs.isEmpty, cs)

def blanks : Scan Unit := do discard <| chars fun c => c == ' ' || c == '\t'

def newline : Scan Unit := do
  match ← next with
  | '\n' => pure ()
  | '\r' => char '\n'
  | _ => failure

/-- Characters that text may hold as they are: no controls but the tab. -/
def isPlain (c : Char) : Bool :=
  c == '\t' || (decide (' ' ≤ c) && decide (c.toNat ≠ 0x7f))

def comment : Scan Unit := do
  char '#'
  discard <| chars isPlain

def lineEnd : Scan Unit := do
  if ← isEnd then pure () else newline

def lineRest : Scan Unit := do
  blanks
  discard <| attempt comment
  lineEnd

def gap : Scan Unit := do
  discard <| many (do
    match ← peek with
    | some ' ' | some '\t' => char ' ' <|> char '\t'
    | some '#' => comment
    | _ => newline)

-- Text

def digitsOf (n : Nat) (value? : Char → Option Nat) : Scan Nat :=
  match n with
  | 0 => pure 0
  | n + 1 => do
    let high ← next
    match value? high with
    | none => failure
    | some v => return v * Nat.pow 16 n + (← digitsOf n value?)

def codePoint (n : Nat) : Scan Char := do
  let v ← digitsOf n Text.hexValue?
  if h : v.isValidChar then pure (Char.ofNatAux v h) else failure

def escape : Scan Char := do
  match ← next with
  | 'b' => pure '\x08'
  | 't' => pure '\t'
  | 'n' => pure '\n'
  | 'f' => pure '\x0c'
  | 'r' => pure '\r'
  | '"' => pure '"'
  | '\\' => pure '\\'
  | 'u' => codePoint 4
  | 'U' => codePoint 8
  | _ => failure

def basicChar : Scan Char := do
  match ← next with
  | '\\' => escape
  | '"' => failure
  | c => if isPlain c then pure c else failure

def basicText : Scan (List Char) := do
  char '"'
  let cs ← many basicChar
  char '"'
  pure cs

def literalText : Scan (List Char) := do
  char '\''
  let cs ← chars fun c => isPlain c && c != '\''
  char '\''
  pure cs

/-- A backslash at the end of a line joins it with the next text. -/
def joinedLines : Scan (List Char) := do
  char '\\'
  blanks
  newline
  discard <| many (char ' ' <|> char '\t' <|> newline)
  pure []

def linesPiece (quote : Char) : Scan (List Char) := do
  match ← peek with
  | some '\r' | some '\n' => do newline; pure ['\n']
  | some '\\' =>
    if quote == '"' then joinedLines <|> (do char '\\'; return [← escape])
    else do char '\\'; pure ['\\']
  | some c =>
    if isPlain c && c != quote then do discard next; pure [c] else failure
  | none => failure

def innerQuotes (quote : Char) : Scan (List Char) := fun cs =>
  let run := cs.takeWhile (· == quote)
  if run.isEmpty || decide (3 ≤ run.length) then none else some (run, cs.drop run.length)

/-- The closing quotes, of which up to two may still belong to the text. -/
def closing (quote : Char) : Scan (List Char) := fun cs =>
  let run := cs.takeWhile (· == quote)
  if 3 ≤ run.length ∧ run.length ≤ 5 then some (run.drop 3, cs.drop run.length) else none

/-- Text between three quotes on each side; a line end right behind the opening is dropped. -/
def linesText (quote : Char) : Scan (List Char) := do
  literal [quote, quote, quote]
  discard <| attempt newline
  let pieces ← many (linesPiece quote <|> innerQuotes quote)
  return pieces.flatten ++ (← closing quote)

def text : Scan String := do
  String.ofList <$> (linesText '"' <|> linesText '\'' <|> basicText <|> literalText)

-- Keys

def isBare (c : Char) : Bool :=
  decide ('a' ≤ c) && decide (c ≤ 'z') || decide ('A' ≤ c) && decide (c ≤ 'Z') ||
    Text.isDigit c || c == '-' || c == '_'

def simpleKey : Scan String := do
  match ← peek with
  | some '"' => String.ofList <$> basicText
  | some '\'' => String.ofList <$> literalText
  | _ => String.ofList <$> chars1 isBare

def paddedKey : Scan String := do
  blanks
  let key ← simpleKey
  blanks
  pure key

def depthLimit : Nat := 80

def key : Scan (List String × String) := do
  let first ← paddedKey
  let more ← many (do char '.'; paddedKey)
  if depthLimit ≤ more.length + 1 then failure
  let parts := first :: more
  pure (parts.dropLast, parts.getLastD first)

-- Numbers

def groupedDigits (isDigit : Char → Bool) : Scan (List Char) := do
  let first ← satisfy isDigit
  let more ← many (satisfy isDigit <|> (do char '_'; satisfy isDigit))
  pure (first :: more)

def sign : Scan Bool := do
  match ← peek with
  | some '-' => do discard next; pure true
  | some '+' => do discard next; pure false
  | _ => pure false

/-- Decimal digits without a zero in front of others. -/
def wholeDigits : Scan (List Char) := do
  match ← peek with
  | some '0' => do discard next; pure ['0']
  | _ => groupedDigits Text.isDigit

def isHexDigit (c : Char) : Bool := (Text.hexValue? c).isSome

def basedInteger (mark : Char) (base : Nat) : Scan Int := do
  literal ['0', mark]
  let digits ← groupedDigits fun c => (Text.hexValue? c).any (· < base)
  let n := digits.foldl (fun n c => base * n + (Text.hexValue? c).getD 0) 0
  if n < signedBound then pure n else failure

def decimalInteger : Scan Int := do
  let negative ← sign
  let n := Text.decimal (← wholeDigits)
  if negative then
    if n ≤ signedBound then pure (-n) else failure
  else if n < signedBound then pure n else failure

def integer : Scan Int := do
  match (← get) with
  | '0' :: 'x' :: _ => basedInteger 'x' 16
  | '0' :: 'o' :: _ => basedInteger 'o' 8
  | '0' :: 'b' :: _ => basedInteger 'b' 2
  | _ => decimalInteger

def exponent : Scan Int := do
  discard <| satisfy fun c => c == 'e' || c == 'E'
  let negative ← sign
  let n : Int := Text.decimal (← groupedDigits Text.isDigit)
  pure (if negative then -n else n)

def specialReal : Scan Real := do
  let negative ← sign
  (do literal ['i', 'n', 'f']; pure (Real.infinite negative)) <|>
    (do literal ['n', 'a', 'n']; pure Real.nan)

/-- A number with a fraction or an exponent; one too large to hold is refused, unless negative. -/
def decimalReal : Scan Real := do
  let negative ← sign
  let whole ← wholeDigits
  let (fraction, e) ←
    (do return (([] : List Char), ← exponent)) <|> (do
      char '.'
      let fraction ← groupedDigits Text.isDigit
      return (fraction, (← attempt exponent).getD 0))
  let r := Real.ofDecimal negative (Text.decimal (whole ++ fraction)) (e - fraction.length)
  if r = .infinite false then failure
  pure r

-- Dates and times

def fixed (n : Nat) : Scan Nat := fun cs =>
  let digits := (cs.take n).takeWhile Text.isDigit
  if digits.length = n then some (Text.decimal digits, cs.drop n) else none

def fixedWithin (n low high : Nat) : Scan Nat := do
  let v ← fixed n
  if low ≤ v ∧ v ≤ high then pure v else failure

def isLeapYear (year : Nat) : Bool :=
  year % 4 == 0 && (year % 100 != 0 || year % 400 == 0)

def daysIn (year month : Nat) : Nat :=
  if month = 2 then (if isLeapYear year then 29 else 28)
  else if month ∈ [4, 6, 9, 11] then 30 else 31

def date : Scan Unit := do
  let year ← fixed 4
  char '-'
  let month ← fixedWithin 2 1 12
  char '-'
  discard <| fixedWithin 2 1 (daysIn year month)

def time : Scan Unit := do
  discard <| fixedWithin 2 0 23
  char ':'
  discard <| fixedWithin 2 0 59
  char ':'
  discard <| fixedWithin 2 0 60
  discard <| attempt (do char '.'; chars1 Text.isDigit)

def offset : Scan Unit := do
  match ← next with
  | 'Z' | 'z' => pure ()
  | '+' | '-' =>
    discard <| fixedWithin 2 0 23
    char ':'
    discard <| fixedWithin 2 0 59
  | _ => failure

def dateAndTime : Scan Unit := do
  date
  discard <| attempt (do
    discard <| satisfy fun c => c == 'T' || c == 't' || c == ' '
    time
    attempt offset)

def datetime : Scan String := fun cs =>
  match (dateAndTime <|> time) cs with
  | some (_, rest) => some (String.ofList (cs.take (cs.length - rest.length)), rest)
  | none => none

end Scan

end UsbBridge.Toml
