import UsbBridge.Handle.Strategy
import UsbBridge.Handle.Table

/-!
# Duplicating a descriptor

Both strategies give a descriptor of its own for the same open file, marked to be closed on program
start, or fail and leave the table as it was.
-/

namespace UsbBridge

inductive Strategy where
  | cloexec
  | legacy
  deriving DecidableEq, Repr, Inhabited

namespace Strategy

def name : Strategy → String
  | .cloexec => "cloexec"
  | .legacy => "legacy"

def orClose (fd : Nat) (act : Sys Unit) : Sys Unit := do
  try act catch e =>
    Sys.close fd
    throw e

def duplicate (s : Strategy) (fd : Nat) : Sys Nat :=
  match s with
  | .cloexec => Sys.duplicate 3 fd true
  | .legacy => do
    let copy ← Sys.duplicate 0 fd false
    orClose copy (Sys.markCloseOnExec copy)
    pure copy

def tryDuplicate (fd : Nat) : Sys Bool := do
  try
    let copy ← Sys.duplicate 0 fd true
    Sys.close copy
    pure true
  catch _ => pure false

/-- Whether the system duplicates and marks in one call, tried on a descriptor of the null
device. -/
def probeOpened (fd : Nat) : Sys Bool := do
  let supported ← tryDuplicate fd
  Sys.close fd
  pure supported

def probe (file : Nat) : Sys Bool :=
  tryCatch (do probeOpened (← Sys.openNull file)) fun _ => pure false

def select (file : Nat) : StrategyChoice → Sys Strategy
  | .cloexec => pure .cloexec
  | .legacy => pure .legacy
  | .auto => do
    if ← probe file then pure .cloexec else pure .legacy

end Strategy

end UsbBridge
