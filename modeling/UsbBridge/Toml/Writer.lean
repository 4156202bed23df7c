import UsbBridge.Toml.Value

/-!
# Writing configuration documents

A text goes between single quotes when it holds double quotes or backslashes and can be written
without escapes, and over several lines when it holds a line end. Arrays of more than one item take
a line per item.
-/

namespace UsbBridge.Toml.Writer

def isControl (c : Char) : Bool := decide (c < ' ') || decide (c.toNat = 0x7f)

def hasQuoteRun (n : Nat) : Nat → List Char → Bool
  | run, [] => decide (n ≤ run)
  | run, c :: cs =>
    if c = '\'' then hasQuoteRun n (run + 1) cs else decide (n ≤ run) || hasQuoteRun n 0 cs

/-- Whether a text is better off, and possible, without escapes. -/
def isLiteral (cs : List Char) : Bool :=
  cs.any (fun c => c == '"' || c == '\\') &&
    cs.all (fun c => c == '\t' || c == '\n' || !isControl c) &&
    !hasQuoteRun 3 0 cs && cs.getLast? != some '\''

def escaped (overLines : Bool) (c : Char) : String :=
  match c with
  | '\x08' => "\\b"
  | '\t' => "\\t"
  | '\n' => if overLines then "\n" else "\\n"
  | '\x0c' => "\\f"
  | '\r' => "\\r"
  | '"' => "\\\""
  | '\\' => "\\\\"
  | _ =>
    if isControl c then
      "\\u" ++ String.ofList ((hexText 4 c.toNat).toList.map fun d =>
        if 'a' ≤ d ∧ d ≤ 'f' then Char.ofNat (d.toNat - 32) else d)
    else c.toString

def text (s : String) : String :=
  let cs := s.toList
  let overLines := cs.contains '\n'
  if isLiteral cs then
    let open_ := if overLines then "'''\n" else if cs.contains '\'' then "'''" else "'"
    let close := if overLines || cs.contains '\'' then "'''" else "'"
    open_ ++ s ++ close
  else
    let body := String.join (cs.map (escaped overLines))
    if overLines then "\"\"\"\n" ++ body ++ "\"\"\"" else "\"" ++ body ++ "\""

/-- A value of a simple type or an array of such. Other values are not written. -/
def value : Value → String
  | .string s => text s
  | .integer n => toString n
  | .boolean b => toString b
  | .array items =>
    match items.map scalar with
    | [] => "[]"
    | [one] => "[" ++ one ++ "]"
    | many => "[\n" ++ String.join (many.map fun item => "    " ++ item ++ ",\n") ++ "]"
  | _ => ""
where
  scalar : Value → String
    | .string s => text s
    | .integer n => toString n
    | .boolean b => toString b
    | _ => ""

def section_ (name : String) (entries : Entries) : String :=
  "[" ++ name ++ "]\n" ++ String.join (entries.map fun (key, v) => key ++ " = " ++ value v ++ "\n")

def document (sections : List (String × Entries)) : String :=
  "\n".intercalate (sections.map fun (name, entries) => section_ name entries)

end UsbBridge.Toml.Writer
