import UsbBridge.Program.Arguments
import UsbBridge.Protocol.Device

/-!
# What the programs can be asked for
-/

namespace UsbBridge

open Arguments

structure CommonOptions where
  config : Option String
  saveConfig : Bool
  socket : Option String
  logLevel : Option String
  deriving DecidableEq, Repr, Inhabited

namespace CommonOptions

def switches : List Switch :=
  [⟨"config", some 'c', .path⟩, ⟨"save-config", none, .nothing⟩, ⟨"socket", some 's', .path⟩,
    ⟨"log-level", some 'l', .text⟩, helpOption, versionOption]

def ofGiven (g : Given) : CommonOptions :=
  ⟨g.value? "config", g.has "save-config", g.value? "socket", g.value? "log-level"⟩

end CommonOptions

inductive Errand where
  | list
  | permission (id : Identity)
  | openDevice (id : Identity) (hold : Bool)
  | watch
  deriving DecidableEq, Repr, Inhabited

namespace Errand

def grammars : List (String × Grammar × (Given → Option Errand)) :=
  let hold : Switch := ⟨"hold", none, .nothing⟩
  let identity (g : Given) : Option Identity := g.words.head?.map Identity.mk
  [("list", ⟨[helpOption], 0, false⟩, fun _ => some .list),
    ("permission", ⟨[helpOption], 1, false⟩, fun g => (identity g).map .permission),
    ("open", ⟨[hold, helpOption], 1, false⟩, fun g =>
      (identity g).map fun id => .openDevice id (g.has "hold")),
    ("watch", ⟨[helpOption], 0, false⟩, fun _ => some .watch)]

def parseHelp : List String → Stop
  | [] => .help
  | [command] => if command = "help" ∨ (grammars.lookup command).isSome then .help else .misused
  | _ => .misused

def parse (command : String) (args : List String) : Except Stop Errand :=
  if command = "help" then .error (parseHelp args)
  else
    match grammars.lookup command with
    | none => .error .misused
    | some (grammar, errand?) => do
      match errand? (← grammar.parse args) with
      | some errand => return errand
      | none => throw .misused

end Errand

structure ConsumerInvocation where
  common : CommonOptions
  errand : Option Errand
  deriving DecidableEq, Repr, Inhabited

def ConsumerInvocation.parse (args : List String) : Except Stop ConsumerInvocation := do
  let given ← Grammar.parse ⟨CommonOptions.switches, 0, true⟩ args
  let errand ← given.command.mapM fun (command, args) => Errand.parse command args
  return ⟨.ofGiven given, errand⟩

structure BridgeInvocation where
  common : CommonOptions
  service : Bool
  listDevices : Bool
  deriving DecidableEq, Repr, Inhabited

def BridgeInvocation.parse (args : List String) : Except Stop BridgeInvocation := do
  let own : List Switch := [⟨"service", none, .nothing⟩, ⟨"list-devices", none, .nothing⟩]
  let given ← Grammar.parse ⟨CommonOptions.switches ++ own, 0, false⟩ args
  return ⟨.ofGiven given, given.has "service", given.has "list-devices"⟩

end UsbBridge
