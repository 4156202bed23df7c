import UsbBridge.Text.Quoted
import UsbBridge.Toml.Real

/-!
# Values of a configuration document

Tables keep the order in which their entries came, since the first fault in that order is the one
reported. How a table came about decides what may be added to it later.
-/

namespace UsbBridge.Toml

/-- Integers lie below this, and their negatives not above it. -/
def signedBound : Nat := 9223372036854775808

inductive Form where
  /-- By a header of its own, or as the document itself. -/
  | header
  /-- As an inner part of some header's path. -/
  | implied
  /-- As an inner part of a dotted key. -/
  | dotted
  | inline
  /-- As an inner part of a dotted key in braces. -/
  | inlineDotted
  deriving DecidableEq, Repr, Inhabited

def Form.isOpen : Form → Bool
  | .implied | .dotted | .inlineDotted => true
  | .header | .inline => false

def Form.isDotted : Form → Bool
  | .dotted | .inlineDotted => true
  | .header | .implied | .inline => false

def Form.isInline : Form → Bool
  | .inline | .inlineDotted => true
  | .header | .implied | .dotted => false

inductive Value where
  | string (text : String)
  | integer (n : Int)
  | real (r : Real)
  | boolean (b : Bool)
  | datetime (text : String)
  | array (items : List Value)
  | tables (items : List (List (String × Value)))
  | table (form : Form) (entries : List (String × Value))
  deriving Inhabited

abbrev Entries := List (String × Value)

def Value.typeName : Value → String
  | .string _ => "string"
  | .integer _ => "integer"
  | .real _ => "float"
  | .boolean _ => "boolean"
  | .datetime _ => "datetime"
  | .array _ => "array"
  | .tables _ => "array of tables"
  | .table form _ => if form.isInline then "inline table" else "table"

def Value.describe : Value → String
  | .string text => "string " ++ Text.quoted text
  | .integer n => "integer `" ++ toString n ++ "`"
  | .real r => "floating point `" ++ r.text ++ "`"
  | .boolean b => "boolean `" ++ toString b ++ "`"
  | .array _ | .tables _ => "sequence"
  | .datetime _ | .table .. => "map"

namespace Entries

def find? (entries : Entries) (key : String) : Option Value := entries.lookup key

def has (entries : Entries) (key : String) : Bool := (entries.find? key).isSome

def set (entries : Entries) (key : String) (value : Value) : Entries :=
  entries.map fun entry => if entry.1 = key then (key, value) else entry

def erase (entries : Entries) (key : String) : Entries :=
  entries.filter fun entry => entry.1 ≠ key

/-- Adds an entry at the end; a key that is there already is an error. -/
def add? (entries : Entries) (key : String) (value : Value) : Option Entries :=
  if entries.has key then none else some (entries ++ [(key, value)])

/-- Changes the table that a path leads to. Tables missing on the way are made in the form
`made`; a path leads through the last table of an array. Dotted paths, which make tables of a
dotted form, enter none that has a header or braces of its own. -/
def change? (made : Form) (f : Form → Entries → Option Entries) :
    List String → Form → Entries → Option Entries
  | [], form, entries => f form entries
  | key :: path, _, entries =>
    match entries.find? key with
    | none => do
      let inner ← change? made f path made []
      return entries ++ [(key, .table made inner)]
    | some (.table form inner) =>
      if form.isInline = made.isInline ∧ (made.isDotted → form.isOpen) then do
        let changed ← change? made f path form inner
        return entries.set key (.table form changed)
      else none
    | some (.tables items) =>
      match items.reverse with
      | [] => none
      | last :: before => do
        let changed ← change? made f path .header last
        return entries.set key (.tables (changed :: before).reverse)
    | some _ => none

def insert? (form made : Form) (entries : Entries) (path : List String) (key : String)
    (value : Value) : Option Entries :=
  change? made
    (fun reached inner => if reached.isDotted = path.isEmpty then none else inner.add? key value)
    path form entries

end Entries

end UsbBridge.Toml
