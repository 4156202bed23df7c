import UsbBridge.Config.Fault
import UsbBridge.Toml.Document

/-!
# Reading sections of a configuration

A section is a table whose keys are fields, or an array that gives the fields in their order.
Fields left out keep their defaults, keys that are no fields are ignored, and the first fault in
the document's order is reported.
-/

namespace UsbBridge.Config

open Toml

structure SectionField (σ : Type) where
  name : String
  read : Value → σ → Except Fault σ

def expected (v : Value) (what : String) : Fault := .invalidType v.describe what

def readText : Value → Except Fault String
  | .string s => .ok s
  | v => .error (expected v "a string")

def readFlag : Value → Except Fault Bool
  | .boolean b => .ok b
  | v => .error (expected v "a boolean")

def readCount : Value → Except Fault Nat
  | .integer n =>
    if n < 0 then .error (.invalidValue (Value.integer n).describe "u64") else .ok n.toNat
  | v => .error (expected v "u64")

def readTexts : Value → Except Fault (List String)
  | .array items => items.mapM readText
  | .tables items => items.mapM fun entries => readText (.table .header entries)
  | v => .error (expected v "a sequence")

def readDuration (v : Value) : Except Fault Duration := do
  match Duration.parse (← readText v) with
  | .ok d => .ok d
  | .error fault => .error (.duration fault)

/-- Reads a section called `typeName` over the values it has by default. -/
def readSection (typeName : String) (fields : List (SectionField σ)) (default : σ) :
    Value → Except Fault σ
  | .table _ entries =>
    entries.foldlM (fun s (key, v) =>
      match fields.find? (·.name == key) with
      | some field => field.read v s
      | none => .ok s) default
  | .array items => (fields.zip items).foldlM (fun s (field, v) => field.read v s) default
  | .tables items =>
    (fields.zip items).foldlM (fun s (field, entries) => field.read (.table .header entries) s)
      default
  | .datetime _ => .ok default
  | v => .error (expected v s!"struct {typeName}")

end UsbBridge.Config
