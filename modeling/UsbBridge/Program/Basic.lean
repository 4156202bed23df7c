import UsbBridge.Config.File
import UsbBridge.Error
import UsbBridge.LogFilter
import UsbBridge.Program.Invocation
import UsbBridge.Service.Notice

/-!
# Programs

A program writes lines, files and notices until it ends with an exit code. A failure is reported
with everything it was caused by, outermost first.
-/

namespace UsbBridge

structure Written where
  output : List String
  errors : List String
  files : FileTree
  /-- What has reached the supervisor. -/
  notices : List String
  deriving Repr, Inhabited

abbrev Program := ExceptT Nat (StateM Written)

/-- The lines of a text, all but the first of which are indented. -/
def indented (first later : String) (text : String) : List String :=
  match text.splitOn "\n" with
  | [] => [first]
  | line :: lines => (first ++ line) :: lines.map (later ++ ·)

/-- The lines that report a failure. Causes are numbered if there are several. -/
def report : List String → List String
  | [] => []
  | [text] => indented "Error: " "" text
  | [text, cause] =>
    indented "Error: " "" text ++ ["", "Caused by:"] ++ indented "    " "    " cause
  | text :: causes =>
    indented "Error: " "" text ++ ["", "Caused by:"] ++
      (causes.zipIdx.map fun (cause, n) =>
        let number := toString n
        let gap := "".pushn ' ' (5 - number.length)
        indented s!"{gap}{number}: " "       " cause).flatten

namespace Program

def print (text : String) : Program Unit :=
  modify fun w => { w with output := w.output ++ text.splitOn "\n" }

def warn (text : String) : Program Unit :=
  modify fun w => { w with errors := w.errors ++ text.splitOn "\n" }

def finish : Program α := throw 0

def fail (chain : List String) : Program α := do
  modify fun w => { w with errors := w.errors ++ report chain }
  throw 1

def orFail (context : List String) (chain : ε → List String) : Except ε α → Program α
  | .ok a => return a
  | .error e => fail (context ++ chain e)

def start (p : Program α) (files : FileTree) : Except Nat α × Written :=
  p.run.run ⟨[], [], files, []⟩

def files : Program FileTree := return (← get).files

def invoked (name : String) (usage : String) : Except Arguments.Stop α → Program α
  | .ok invocation => return invocation
  | .error .help => do
    print usage
    finish
  | .error .version => do
    print s!"{name} 0.1.0"
    finish
  | .error .misused => throw 2

/-- Saves a configuration where it is looked for first. -/
def saveConfig (save : FileTree → String → Except Config.Error FileTree) (path : String) :
    Program α := do
  let files ← orFail ["Failed to save configuration"] Config.Error.chain (save (← files) path)
  modify fun w => { w with files }
  print s!"Configuration saved to: {path}"
  finish

def setupLogging (env : Environment) (level : String) : Program Unit := do
  let fault (f : LogFilter.Fault) : List String := (BridgeError.config f.configText).chain
  let _ ← orFail ["Failed to setup logging"] fault (LogFilter.choose env.logFilter level)

def notify (n : Notice) (socket : NoticeSocket) (context : String) : Program Unit := do
  let arrived ← orFail [context] NoticeError.chain (n.send socket)
  modify fun w => { w with notices := w.notices ++ arrived }

end Program

end UsbBridge
