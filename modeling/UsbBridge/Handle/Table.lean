import UsbBridge.Files.OsError

/-!
# Descriptor tables

A table gives every open descriptor of a process its open file and its mark to be closed on program
start. System calls take the lowest free number, and each may fail.
-/

namespace UsbBridge

structure DescriptorEntry where
  file : Nat
  closeOnExec : Bool
  deriving DecidableEq, Repr, Inhabited

/-- The entry of each descriptor number; numbers beyond the end are free. -/
abbrev DescriptorTable := List (Option DescriptorEntry)

namespace DescriptorTable

def entry? (t : DescriptorTable) (fd : Nat) : Option DescriptorEntry := t[fd]?.join

def free (t : DescriptorTable) (least : Nat) : Nat :=
  least + (t.drop least).findIdx (·.isNone)

def set (t : DescriptorTable) (fd : Nat) (entry : Option DescriptorEntry) : DescriptorTable :=
  if fd < t.length then List.set t fd entry
  else t ++ List.replicate (fd - t.length) none ++ [entry]

end DescriptorTable

/-- A process's table, and which of the system calls to come will fail. -/
structure Kernel where
  table : DescriptorTable
  failures : List (Option OsError)
  deriving Repr, Inhabited

/-- A sequence of system calls, which leaves what was done before a failure. -/
abbrev Sys := ExceptT OsError (StateM Kernel)

namespace Sys

def call : Sys Unit := do
  let kernel ← get
  set { kernel with failures := kernel.failures.tail }
  match kernel.failures.head? with
  | some (some error) => throw error
  | _ => pure ()

def modifyTable (f : DescriptorTable → DescriptorTable) : Sys Unit :=
  modify fun kernel => { kernel with table := f kernel.table }

/-- A second descriptor for the file behind `fd`, at least `least`. -/
def duplicate (least fd : Nat) (closeOnExec : Bool) : Sys Nat := do
  call
  let table := (← get).table
  match table.entry? fd with
  | none => throw .badDescriptor
  | some entry =>
    let copy := table.free least
    modifyTable (·.set copy (some ⟨entry.file, closeOnExec⟩))
    pure copy

def markCloseOnExec (fd : Nat) : Sys Unit := do
  call
  let table := (← get).table
  match table.entry? fd with
  | none => throw .badDescriptor
  | some entry => modifyTable (·.set fd (some { entry with closeOnExec := true }))

def openNull (file : Nat) : Sys Nat := do
  call
  let fd := (← get).table.free 0
  modifyTable (·.set fd (some ⟨file, true⟩))
  pure fd

/-- Closing frees the number whatever the system answers. -/
def close (fd : Nat) : Sys Unit := modifyTable (·.set fd none)

end Sys

end UsbBridge
