import UsbBridge.Toml.Scan

/-!
# Configuration documents

A document is a sequence of lines: headers, which open a table or a further table of an array, and
values under dotted keys. No key is given twice and no table is opened twice.
-/

namespace UsbBridge.Toml

structure KeyPath where
  path : List String
  key : String
  deriving DecidableEq, Repr, Inhabited

namespace Scan

def keyPath : Scan KeyPath := do
  let (path, key) ← Scan.key
  pure ⟨path, key⟩

/-- Items separated by commas, of which the last may be followed by one more. -/
def arrayItems (item : Scan Value) : Scan (List Value) := do
  gap
  match ← attempt item with
  | none => pure []
  | some first =>
    gap
    let more ← many (do
      char ','
      gap
      let v ← item
      gap
      pure v)
    discard <| attempt (do char ','; gap)
    pure (first :: more)

def array (item : Scan Value) : Scan Value := do
  char '['
  let items ← arrayItems item
  char ']'
  pure (.array items)

def assignment (value : Scan Value) : Scan (KeyPath × Value) := do
  let at_ ← keyPath
  char '='
  blanks
  return (at_, ← value)

def inlineAssignment (value : Scan Value) : Scan (KeyPath × Value) := do
  let pair ← assignment value
  blanks
  pure pair

def inlineEntries : List (KeyPath × Value) → Entries → Option Entries
  | [], entries => some entries
  | (target, v) :: rest, entries => do
    inlineEntries rest (← entries.insert? .inline .inlineDotted target.path target.key v)

def inlineTable (value : Scan Value) : Scan Value := do
  char '\x7b'
  blanks
  let pairs ← attempt (inlineAssignment value)
  let more ← match pairs with
    | none => pure []
    | some _ => many (do char ','; inlineAssignment value)
  char '\x7d'
  match inlineEntries (pairs.toList ++ more) [] with
  | some entries => pure (.table .inline entries)
  | none => failure

def number : Scan Value :=
  (Value.datetime <$> datetime) <|> (Value.real <$> decimalReal) <|>
    (Value.real <$> specialReal) <|> (Value.integer <$> integer)

/-- A value that may hold values `depth` levels deep. -/
def valueWithin : Nat → Scan Value
  | 0 => scalar
  | depth + 1 => do
    match ← peek with
    | some '[' => array (valueWithin depth)
    | some '\x7b' => inlineTable (valueWithin depth)
    | _ => scalar
where
  scalar : Scan Value := do
    match ← peek with
    | some '"' | some '\'' => Value.string <$> text
    | some 't' => do literal ['t', 'r', 'u', 'e']; pure (.boolean true)
    | some 'f' => do literal ['f', 'a', 'l', 's', 'e']; pure (.boolean false)
    | _ => number

def value : Scan Value := valueWithin (depthLimit - 1)

end Scan

inductive Line where
  | blank
  | header (target : KeyPath)
  | arrayHeader (target : KeyPath)
  | assignment (target : KeyPath) (value : Value)

namespace Scan

def line : Scan Line := do
  blanks
  match ← peek with
  | none => failure
  | some '#' => do comment; lineEnd; pure .blank
  | some '\n' | some '\r' => do newline; pure .blank
  | some '[' =>
    char '['
    match ← peek with
    | some '[' =>
      char '['
      let target ← keyPath
      literal [']', ']']
      lineRest
      pure (.arrayHeader target)
    | _ =>
      let target ← keyPath
      char ']'
      lineRest
      pure (.header target)
  | _ =>
    let (target, v) ← assignment value
    lineRest
    pure (.assignment target v)

def lines : Scan (List Line) := do
  discard <| attempt (char '\ufeff')
  let found ← many line
  blanks
  if ← isEnd then pure found else failure

end Scan

inductive Opened where
  | document
  | table (target : KeyPath)
  | element (target : KeyPath)

/-- A document as far as it has been read: what is settled, and the table that is open. -/
structure Draft where
  root : Entries
  opened : Opened
  entries : Entries

namespace Draft

def empty : Draft := ⟨[], .document, []⟩

def settle? (d : Draft) : Option Entries :=
  match d.opened with
  | .document => some d.entries
  | .table target =>
    d.root.change? .implied (fun _ inner => inner.add? target.key (.table .header d.entries))
      target.path .header
  | .element target =>
    d.root.change? .implied (fun _ inner =>
      match inner.find? target.key with
      | none => inner.add? target.key (.tables [d.entries])
      | some (.tables items) => some (inner.set target.key (.tables (items ++ [d.entries])))
      | some _ => none) target.path .header

/-- What a header finds under its key: a table that was only implied goes on, and moves behind
its neighbours. -/
def reopen? (root : Entries) (target : KeyPath) : Option Entries :=
  match lookup root target.path with
  | none => some []
  | some inner =>
    match inner.find? target.key with
    | none => some []
    | some (.table .implied entries) => some entries
    | some _ => none
where
  lookup (entries : Entries) : List String → Option Entries
    | [] => some entries
    | key :: path =>
      match entries.find? key with
      | some (.table _ inner) => lookup inner path
      | some (.tables items) => lookup (items.getLastD []) path
      | _ => none

/-- Takes the table of a header out of its place, making those on the way to it. -/
def withdraw? (root : Entries) (target : KeyPath) : Option Entries :=
  root.change? .implied (fun _ inner => some (inner.erase target.key)) target.path .header

/-- An array of tables begins empty, as soon as its header is met. -/
def reserve? (root : Entries) (target : KeyPath) : Option Entries :=
  root.change? .implied (fun _ inner =>
    match inner.find? target.key with
    | none => inner.add? target.key (.tables [])
    | some (.tables _) => some inner
    | some _ => none) target.path .header

def step? (d : Draft) : Line → Option Draft
  | .blank => some d
  | .assignment target v => do
    return { d with entries := ← d.entries.insert? .header .dotted target.path target.key v }
  | .header target => do
    let root ← d.settle?
    let emptied ← withdraw? root target
    return ⟨emptied, .table target, ← reopen? root target⟩
  | .arrayHeader target => do
    let root ← d.settle?
    return ⟨← reserve? root target, .element target, []⟩

end Draft

def parse? (text : String) : Option Entries := do
  let (lines, _) ← Scan.lines text.toList
  (← lines.foldlM Draft.step? Draft.empty).settle?

end UsbBridge.Toml
