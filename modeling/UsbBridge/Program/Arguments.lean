/-!
# Command-line arguments

An option has a long name after two dashes, and may have a letter after one dash. Its value is the
rest of the argument or the argument after it; an argument that starts with a dash is no value,
unless it is the dash alone. Everything after two dashes alone is a word, and so is what starts with
no dash. An option may be given once.
-/

namespace UsbBridge.Arguments

/-- What an option takes. A path must not be empty. -/
inductive Takes where
  | nothing
  | path
  | text
  deriving DecidableEq, Repr, Inhabited

structure Switch where
  long : String
  short : Option Char
  takes : Takes
  deriving DecidableEq, Repr, Inhabited

structure Grammar where
  options : List Switch
  /-- How many words there may be. -/
  words : Nat
  /-- Whether the first word is a command, to which everything after it belongs. -/
  hasCommands : Bool
  deriving Repr, Inhabited

inductive Stop where
  | misused
  | help
  | version
  deriving DecidableEq, Repr, Inhabited

/-- The options given, by their long names, and the words. -/
structure Given where
  options : List (String × String)
  words : List String
  /-- The command with its own arguments. -/
  command : Option (String × List String)
  deriving DecidableEq, Repr, Inhabited

namespace Given

def none : Given := ⟨[], [], .none⟩

def has (g : Given) (long : String) : Bool := g.options.any (·.1 = long)

def value? (g : Given) (long : String) : Option String := g.options.lookup long

end Given

def helpOption : Switch := ⟨"help", some 'h', .nothing⟩

def versionOption : Switch := ⟨"version", some 'V', .nothing⟩

inductive Reading where
  | word
  | flag (o : Switch)
  | valued (o : Switch) (value : String)
  /-- The value is the next argument. -/
  | awaiting (o : Switch)
  | unknown
  deriving DecidableEq, Repr

def readLong (options : List Switch) (cs : List Char) : Reading :=
  let name := String.ofList (cs.takeWhile (· ≠ '='))
  match options.find? (·.long = name), cs.dropWhile (· ≠ '=') with
  | some o, [] => if o.takes = .nothing then .flag o else .awaiting o
  | some o, _ :: value => if o.takes = .nothing then .unknown else .valued o (String.ofList value)
  | .none, _ => .unknown

/-- One equals sign may stand between a letter and its value. -/
def readShort (options : List Switch) (letter : Char) (rest : List Char) : Reading :=
  match options.find? (·.short = some letter) with
  | .none => .unknown
  | some o =>
    match o.takes, rest with
    | .nothing, _ => .flag o
    | _, [] => .awaiting o
    | _, '=' :: value => .valued o (String.ofList value)
    | _, value => .valued o (String.ofList value)

def read (options : List Switch) (arg : String) : Reading :=
  match arg.toList with
  | '-' :: '-' :: cs => readLong options cs
  | '-' :: letter :: rest => readShort options letter rest
  | _ => .word

def isValue (arg : String) : Bool := !arg.startsWith "-" || arg == "-"

def Given.add (g : Given) (o : Switch) (value : String) : Except Stop Given :=
  if o = helpOption then .error .help
  else if o = versionOption then .error .version
  else if g.has o.long then .error .misused
  else if o.takes = .path ∧ value.isEmpty then .error .misused
  else .ok { g with options := g.options ++ [(o.long, value)] }

def Given.addWord (g : Given) (grammar : Grammar) (word : String) : Except Stop Given :=
  if g.words.length < grammar.words then .ok { g with words := g.words ++ [word] }
  else .error .misused

def Grammar.collect (grammar : Grammar) (g : Given) : List String → Except Stop Given
  | [] => .ok g
  | arg :: rest =>
    if arg = "--" then rest.foldlM (·.addWord grammar ·) g
    else
      match Arguments.read grammar.options arg with
      | .unknown => .error .misused
      | .word =>
        if grammar.hasCommands then .ok { g with command := some (arg, rest) }
        else do grammar.collect (← g.addWord grammar arg) rest
      | .flag o => do grammar.collect (← g.add o "") rest
      | .valued o value => do grammar.collect (← g.add o value) rest
      | .awaiting o =>
        match rest with
        | value :: rest =>
          if isValue value then do grammar.collect (← g.add o value) rest else .error .misused
        | [] => .error .misused

def Grammar.parse (grammar : Grammar) (args : List String) : Except Stop Given :=
  grammar.collect .none args

end UsbBridge.Arguments
