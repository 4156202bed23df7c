import UsbBridge.Text.Quoted

/-!
# Log filters

A filter is a list of directives between commas. A directive names a target, a span with fields,
or both, and the least level that is logged for it.
-/

namespace UsbBridge.LogFilter

inductive Level where
  | off
  | error
  | warn
  | info
  | debug
  | trace
  deriving DecidableEq, Repr, Inhabited

inductive Fault where
  | directive
  | level
  deriving DecidableEq, Repr, Inhabited

def Fault.message : Fault → String
  | .directive => "invalid filter directive"
  | .level =>
    "error parsing level filter: expected one of \"off\", \"error\", \"warn\", \"info\", \"debug\", \"trace\", or a number 0-5"

structure Directive where
  target : Option String
  level : Level
  deriving DecidableEq, Repr, Inhabited

def Level.ofNat? : Nat → Option Level
  | 0 => some .off
  | 1 => some .error
  | 2 => some .warn
  | 3 => some .info
  | 4 => some .debug
  | 5 => some .trace
  | _ => none

/-- A level is a number or a name in any case; nothing stands for errors. -/
def Level.ofText? (cs : List Char) : Option Level :=
  match (Text.count? (String.ofList cs)).bind Level.ofNat? with
  | some level => some level
  | none =>
    match String.ofList (cs.map fun c => if 'A' ≤ c ∧ c ≤ 'Z' then Char.ofNat (c.toNat + 32) else c) with
    | "" | "error" => some .error
    | "off" => some .off
    | "warn" => some .warn
    | "info" => some .info
    | "debug" => some .debug
    | "trace" => some .trace
    | _ => none

/-- Letters and digits; what lies beyond ASCII counts when it shows. -/
def isWordChar (c : Char) : Bool :=
  if c.toNat < 128 then c.isAlphanum
  else !(Text.blank.has c || Text.unprintable.has c || Text.combining.has c)

inductive Part where
  | start
  | levelOrTarget (since : Nat)
  | level (since : Nat)
  | span
  | field (since : Nat)
  | fields
  | afterSpan
  deriving DecidableEq, Repr

def Part.step? (i : Nat) (c : Char) : Part → Option Part
  | .start =>
    if c = '[' then some .span
    else if c = '-' ∨ c = ':' ∨ c = '_' ∨ isWordChar c then some (.levelOrTarget i)
    else none
  | .levelOrTarget since =>
    if c = '=' then some (.level (i + 1))
    else if c = '[' then some .span
    else some (.levelOrTarget since)
  | .level since => some (.level since)
  | .span =>
    if c = ']' then some .afterSpan
    else if c = '\x7b' then some (.field (i + 1))
    else some .span
  | .field since =>
    if c = '\x7d' then (if i = since then none else some .fields) else some (.field since)
  | .fields => if c = ']' then some .afterSpan else none
  | .afterSpan => if c = '=' then some (.level (i + 1)) else none

def scan : Nat → Part → List Char → Option Part
  | _, part, [] => some part
  | i, part, c :: cs => do scan (i + 1) (← part.step? i c) cs

/-- Blanks around a directive do not end up in it, but count towards where its parts begin. -/
def Directive.parse (cs : List Char) : Except Fault Directive :=
  match scan 0 .start (Text.trimChars cs) with
  | some (.levelOrTarget since) =>
    match Level.ofText? (cs.drop since) with
    | some level => .ok ⟨none, level⟩
    | none => .ok ⟨some (String.ofList (cs.drop since)), .trace⟩
  | some (.level since) =>
    let text := cs.drop since
    if text.isEmpty then .ok ⟨some (String.ofList (cs.take (since - 1))), .trace⟩
    else
      match Level.ofText? text with
      | some level => .ok ⟨some (String.ofList (cs.take (since - 1))), level⟩
      | none => .error .level
  | some .afterSpan => .ok ⟨none, .trace⟩
  | _ => .error .directive

def parse (s : String) : Except Fault (List Directive) :=
  ((s.splitOn ",").filter (· ≠ "")).mapM fun part => Directive.parse part.toList

/-- The filter in force: the one of the environment when that is valid, else the configured one. -/
def choose (fromEnvironment : Option String) (level : String) : Except Fault (List Directive) :=
  match fromEnvironment.map parse with
  | some (.ok directives) => .ok directives
  | _ => parse level

def Fault.configText (fault : Fault) : String := s!"Invalid log filter: {fault.message}"

end UsbBridge.LogFilter
