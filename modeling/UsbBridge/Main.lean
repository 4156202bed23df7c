import UsbBridge.Program.Bridge
import UsbBridge.Program.Consumer

/-!
# The command line

The first argument names the program, the others are its own. A program runs on the files that it
can ask for; what it has written is put out when it has ended. Sockets are out of reach here: nobody
is found to listen at one, and none can be listened at.
-/

namespace UsbBridge.CommandLine

def environment : IO Environment := do
  return ⟨← IO.getEnv "HOME", ← IO.getEnv "XDG_RUNTIME_DIR", ← IO.getEnv "XDG_CONFIG_HOME",
    ← IO.getEnv "NOTIFY_SOCKET", ← IO.getEnv "WATCHDOG_USEC", ← IO.getEnv "RUST_LOG"⟩

def entryAt (path : String) : IO (Option FileEntry) := do
  let place := (← IO.currentDir) / path
  match ← place.metadata.toBaseIO with
  | .error _ => return none
  | .ok found =>
    match found.type with
    | .dir => return some .directory
    | .file => return some (.file (← IO.FS.readBinFile path).toList)
    | _ => return some (.socket false)

def placeOf (parts : List String) : List String :=
  parts.foldl (fun here part => if part = ".." then here.dropLast else here ++ [part]) []

def look (tree : FileTree) (path : String) : IO FileTree := do
  let parts := Path.parts path
  (List.range parts.length).foldlM (fun tree n => do
    let way := parts.take (n + 1)
    match ← entryAt (Path.ofParts (Path.isAbsolute path) way) with
    | some entry => return tree.put (placeOf way) entry
    | none => return tree) tree

def configFiles (env : Environment) (role : Config.Role) (named : Option String) : IO FileTree :=
  (Config.candidates env role ++ named.toList).foldlM look ⟨[]⟩

def putOut (before : FileTree) (configPath : String) (written : Written) : IO Unit := do
  let place := placeOf (Path.parts configPath)
  if written.files.entry? place ≠ before.entry? place then
    match written.files.entry? place, Path.parent? configPath with
    | some (.file bytes), some parent => do
      IO.FS.createDirAll parent
      IO.FS.writeBinFile configPath ⟨bytes.toArray⟩
    | _, _ => pure ()
  written.output.forM fun line => IO.println line
  written.errors.forM fun line => IO.eprintln line

def exitCode (result : Except Nat α) : UInt32 :=
  match result with
  | .ok _ => 0
  | .error code => code.toUInt32

def runConsumer (args : List String) : IO UInt32 := do
  let env ← environment
  let named := (ConsumerInvocation.parse args).toOption.bind (·.common.config)
  let files ← configFiles env .client named
  let (result, written) := (Consumer.prepare env args).start files
  let (result, written) ← match result with
    | .error code => pure (.error code, written)
    | .ok plan => do
      let tree ← look written.files plan.socketPath
      pure ((Consumer.findSocket plan.socketPath).run.run { written with files := tree })
  putOut files (env.configPath "client.toml") written
  return exitCode result

def attributesAt (directory : String) : IO Bus.Attributes := do
  let bytes (name : String) : IO (Option (List UInt8)) := do
    match ← (IO.FS.readBinFile (Path.join directory name)).toBaseIO with
    | .ok bytes => return some bytes.toList
    | .error _ => return none
  let text (name : String) : IO (Option String) := return (← bytes name).bind Wire.ofUtf8?
  return ⟨← text "busnum", ← text "devnum", ← text "bConfigurationValue", ← bytes "descriptors"⟩

/-- The devices of this machine, without their nodes. -/
def busFiles : IO Bus.Files := do
  let directory := "/sys/bus/usb/devices"
  let hasNodes := (← entryAt "/dev/bus/usb").isSome
  match ← ((← IO.currentDir) / directory).readDir.toBaseIO with
  | .error _ => return ⟨hasNodes, false, [], []⟩
  | .ok entries =>
    let attributes ← entries.toList.mapM fun entry =>
      return (entry.fileName, ← attributesAt (Path.join directory entry.fileName))
    return ⟨hasNodes, true, [], attributes⟩

def runBridge (args : List String) : IO UInt32 := do
  let env ← environment
  let named := (BridgeInvocation.parse args).toOption.bind (·.common.config)
  let files ← configFiles env .server named
  let bus ← busFiles
  let program : Program Unit := do
    let plan ← Bridge.prepare env bus args
    Bridge.failToListen (.binding plan.socketPath "Operation not supported (os error 95)")
  let (result, written) := program.start files
  putOut files (env.configPath "server.toml") written
  return exitCode result

end UsbBridge.CommandLine

def main : List String → IO UInt32
  | "client" :: args => UsbBridge.CommandLine.runConsumer args
  | "bridge" :: args => UsbBridge.CommandLine.runBridge args
  | _ => do
    IO.eprintln "Usage: usb-bridge (client | bridge) ARGUMENTS"
    return 2
