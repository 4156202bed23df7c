import UsbBridge.Proofs.Toml.Texts
import UsbBridge.Toml.Document

/-!
# Values are read as they were written

Texts, truth values, natural numbers and arrays of texts: the values that configurations are made
of. A number is read up to the end of its line.
-/

namespace UsbBridge.Toml.Scan

open Text Writer

-- ---------------------------------------------------------------------------
-- Numbers
-- ---------------------------------------------------------------------------

section
variable {ds rest : List Char} {n : Nat}

theorem char_behind_digits {c : Char} (digits : ∀ d ∈ ds, Text.isDigit d = true)
    (other : Text.isDigit c = false) (line : c ≠ '\n') : char c (ds ++ '\n' :: rest) = none := by
  cases ds with
  | nil => simp [line.symm]
  | cons d ds =>
    have : d ≠ c := by
      rintro rfl
      rw [digits d List.mem_cons_self] at other
      cases other
    simp [this]

theorem fixed_digits (digits : ∀ d ∈ ds, Text.isDigit d = true) {k v : Nat} {left : List Char}
    (h : fixed k (ds ++ '\n' :: rest) = some (v, left)) : left = ds.drop k ++ '\n' :: rest := by
  have taken : ((ds ++ '\n' :: rest).take k).takeWhile Text.isDigit = ds.take k := by
    rw [← List.take_takeWhile, takeWhile_append ds digits (stops_cons (by decide) rest)]
  simp only [fixed, taken] at h
  split at h
  · rename_i long
    cases h
    rw [List.length_take] at long
    exact List.drop_append_of_le_length (by omega)
  · cases h

theorem datetime_digits (digits : ∀ d ∈ ds, Text.isDigit d = true) :
    datetime (ds ++ '\n' :: rest) = none := by
  have behind {c : Char} (k : Nat) (other : Text.isDigit c = false) (line : c ≠ '\n') :
      char c (ds.drop k ++ '\n' :: rest) = none :=
    char_behind_digits (fun d hd => digits d (List.mem_of_mem_drop hd)) other line
  have date : date (ds ++ '\n' :: rest) = none := by
    cases h : fixed 4 (ds ++ '\n' :: rest) with
    | none => simp [date, h]
    | some p =>
      have left := fixed_digits digits h
      simp [date, h, left, behind (c := '-') 4 rfl (by decide)]
  have time : time (ds ++ '\n' :: rest) = none := by
    cases h : fixed 2 (ds ++ '\n' :: rest) with
    | none => simp [time, fixedWithin, h]
    | some p =>
      have left := fixed_digits digits h
      simp only [time, fixedWithin, run_discard, run_bind, h, Option.bind_some, left]
      split
      · simp [behind (c := ':') 2 rfl (by decide)]
      · simp
  simp [datetime, dateAndTime, date, time]

theorem run_wholeDigits (n : Nat) (rest : List Char) :
    wholeDigits (Nat.toDigits 10 n ++ '\n' :: rest) = some (Nat.toDigits 10 n, '\n' :: rest) := by
  obtain ⟨d, ds, same, -⟩ := toDigits_cons n
  by_cases zero : d = '0'
  · obtain rfl := Text.toDigits_leading (zero ▸ same)
    simp [wholeDigits]
  · have digits : ∀ c ∈ d :: ds, Text.isDigit c = true := fun c hc =>
      Text.isDigit_toDigits (same ▸ hc)
    have goes := Goes.flatMap (satisfy isDigit <|> (do char '_'; satisfy isDigit))
      (fun c => [c]) id ds (fun c hc => ⟨List.cons_ne_nil _ _, fun rest => by
        simp [digits c (List.mem_cons_of_mem _ hc)]⟩) ('\n' :: rest)
    rw [List.flatMap_singleton', List.map_id] at goes
    have more := goes.many (by simp [Text.isDigit])
    rw [same]
    simp [wholeDigits, zero, groupedDigits, digits d List.mem_cons_self, more]

theorem run_sign (digits : ∀ d ∈ ds, Text.isDigit d = true) :
    sign (ds ++ '\n' :: rest) = some (false, ds ++ '\n' :: rest) := by
  cases ds with
  | nil => simp [sign]
  | cons d ds =>
    have digit := digits d List.mem_cons_self
    have minus : d ≠ '-' := by rintro rfl; cases digit
    have plus : d ≠ '+' := by rintro rfl; cases digit
    simp [sign, minus, plus]

theorem run_integer (small : n < signedBound) :
    integer (Nat.toDigits 10 n ++ '\n' :: rest) = some ((n : Int), '\n' :: rest) := by
  have digits : ∀ d ∈ Nat.toDigits 10 n, Text.isDigit d = true := fun d => Text.isDigit_toDigits
  have decimal : decimalInteger (Nat.toDigits 10 n ++ '\n' :: rest) =
      some ((n : Int), '\n' :: rest) := by
    simp [decimalInteger, run_sign digits, run_wholeDigits, Text.decimal_toDigits, small]
  have based {mark : Char} (other : mark ≠ '\n') {more : List Char} :
      Nat.toDigits 10 n ++ '\n' :: rest ≠ '0' :: mark :: more := by
    intro same
    obtain ⟨d, ds, form, -⟩ := toDigits_cons n
    rw [form, List.cons_append] at same
    obtain ⟨leading, behind⟩ := List.cons.inj same
    obtain rfl := Text.toDigits_leading (leading ▸ form)
    obtain rfl : [] = ds := (List.cons.inj form).2
    exact other (List.cons.inj behind).1.symm
  simp only [integer, run_bind, run_get, Option.bind_some]
  generalize Nat.toDigits 10 n ++ '\n' :: rest = cs at based decimal
  split
  · exact absurd rfl (based (by decide))
  · exact absurd rfl (based (by decide))
  · exact absurd rfl (based (by decide))
  · exact decimal

theorem run_number (rest : List Char) (small : n < signedBound) :
    number ((toString n).toList ++ '\n' :: rest) = some (.integer n, '\n' :: rest) := by
  rw [Text.toList_toString]
  have digits : ∀ d ∈ Nat.toDigits 10 n, Text.isDigit d = true := fun d => Text.isDigit_toDigits
  have real : decimalReal (Nat.toDigits 10 n ++ '\n' :: rest) = none := by
    simp [decimalReal, run_sign digits, run_wholeDigits, exponent]
  have special : specialReal (Nat.toDigits 10 n ++ '\n' :: rest) = none := by
    simp [specialReal, run_sign digits, char_behind_digits digits (c := 'i') rfl (by decide),
      char_behind_digits digits (c := 'n') rfl (by decide)]
  simp [number, datetime_digits digits, real, special, run_integer small]

end

-- ---------------------------------------------------------------------------
-- Texts and arrays of texts
-- ---------------------------------------------------------------------------

theorem written_head (s : String) :
    ∃ c rest, (Writer.text s).toList = c :: rest ∧ isQuote c = true := by
  have written := written_text s
  generalize (Writer.text s).toList = w at written
  cases written with
  | literalLines => exact ⟨'\'', _, rfl, rfl⟩
  | literalLine => exact ⟨'\'', _, rfl, rfl⟩
  | literal => exact ⟨'\'', _, rfl, rfl⟩
  | basicLines => exact ⟨'"', _, rfl, rfl⟩
  | basic => exact ⟨'"', _, rfl, rfl⟩

section
variable {rest : List Char}

theorem run_valueWithin_text (depth : Nat) (s : String) (stops : Stops isQuote rest) :
    valueWithin depth ((Writer.text s).toList ++ rest) = some (.string s, rest) := by
  have read := run_text s stops
  obtain ⟨c, w, same, quote⟩ := written_head s
  rw [same, List.cons_append] at read ⊢
  have quote : c = '"' ∨ c = '\'' := by simpa [isQuote] using quote
  obtain rfl | rfl := quote <;> cases depth <;> simp [valueWithin, valueWithin.scalar, read]

def isGap (c : Char) : Bool := c == ' ' || c == '\t' || c == '\n' || c == '\r' || c == '#'

def gapPiece : Scan Unit := do
  match ← peek with
  | some ' ' | some '\t' => char ' ' <|> char '\t'
  | some '#' => comment
  | _ => newline

theorem run_gap (spaces : List Char) (white : ∀ c ∈ spaces, c = ' ' ∨ c = '\n')
    (stops : Stops isGap rest) : gap (spaces ++ rest) = some ((), rest) := by
  have goes := Goes.flatMap gapPiece (fun c => [c]) (fun _ => ()) spaces
    (fun c hc => ⟨List.cons_ne_nil _ _, fun rest => by
      obtain rfl | rfl := white c hc <;> simp [gapPiece, newline]⟩) rest
  have ends : gapPiece rest = none := by
    cases rest with
    | nil => simp [gapPiece, newline]
    | cons c rest =>
      have other := stops c rfl
      simp only [isGap, Bool.or_eq_false_iff, beq_eq_false_iff_ne] at other
      obtain ⟨⟨⟨⟨space, tab⟩, line⟩, back⟩, note⟩ := other
      simp [gapPiece, newline, space, tab, note]
  rw [List.flatMap_singleton'] at goes
  have same : gap = discard (many gapPiece) := rfl
  simp [same, goes.many ends]

theorem run_gap_none (stops : Stops isGap rest) : gap rest = some ((), rest) :=
  run_gap [] nofun stops

def laterItem (item : Scan Value) : Scan Value := do
  char ','
  gap
  let v ← item
  gap
  pure v

def ItemEnd (rest : List Char) : Prop := ∃ c after, rest = c :: after ∧ (c = ',' ∨ c = ']')

theorem ItemEnd.no_quote (h : ItemEnd rest) : Stops isQuote rest := by
  obtain ⟨c, after, rfl, rfl | rfl⟩ := h <;> exact stops_cons (by decide) _

theorem ItemEnd.no_gap (h : ItemEnd rest) : Stops isGap rest := by
  obtain ⟨c, after, rfl, rfl | rfl⟩ := h <;> exact stops_cons (by decide) _

structure Items (item : Scan Value) (part : String → List Char) : Prop where
  reads : ∀ s rest, Stops isQuote rest → item (part s ++ rest) = some (.string s, rest)
  shown : ∀ s rest, Stops isGap (part s ++ rest)
  ends : ∀ rest, item (']' :: rest) = none

section
variable {item : Scan Value} {part : String → List Char} {tail : List Char}

theorem Items.later (items : Items item part) {pad : List Char}
    (white : ∀ c ∈ pad, c = ' ' ∨ c = '\n') (s : String) (fit : ItemEnd rest) :
    laterItem item (',' :: (pad ++ part s) ++ rest) = some (.string s, rest) := by
  have read := items.reads s rest fit.no_quote
  have before := run_gap pad white (items.shown s rest)
  simp [laterItem, before, read, run_gap_none fit.no_gap]

/-- An array between brackets: a first item and further ones, `pad` in front of each, and behind the
last of them perhaps one more comma. -/
theorem Items.run_array (items : Items item part) (pad : List Char)
    (white : ∀ c ∈ pad, c = ' ' ∨ c = '\n') (last : tail = [] ∨ tail = [',', '\n'])
    (first : String) (more : List String) (rest : List Char) :
    array item ('[' :: (pad ++ (part first ++ (more.flatMap (fun s => ',' :: (pad ++ part s)) ++
      (tail ++ ']' :: rest))))) = some (.array ((first :: more).map .string), rest) := by
  have close : ItemEnd (tail ++ ']' :: rest) := by
    obtain rfl | rfl := last
    · exact ⟨']', _, rfl, .inr rfl⟩
    · exact ⟨',', _, rfl, .inl rfl⟩
  obtain ⟨goes, behind⟩ := Goes.flatMap_of (laterItem item) (fun s => ',' :: (pad ++ part s))
    Value.string more ItemEnd
    (fun s _ => ⟨List.cons_ne_nil _ _, fun rest fit =>
      ⟨items.later white s fit, ',', _, rfl, .inl rfl⟩⟩) close
  have line : gap ('\n' :: ']' :: rest) = some ((), ']' :: rest) :=
    run_gap ['\n'] (by simp) (stops_cons (by decide) rest)
  have ends : laterItem item (tail ++ ']' :: rest) = none := by
    obtain rfl | rfl := last
    · simp [laterItem]
    · simp [laterItem, line, items.ends]
  have comma : (discard (attempt (do char ','; gap)) : Scan Unit) (tail ++ ']' :: rest) =
      some ((), ']' :: rest) := by
    obtain rfl | rfl := last
    · simp
    · simp [line]
  have read := items.reads first _ behind.no_quote
  have before := run_gap pad white (items.shown first
    (more.flatMap (fun s => ',' :: (pad ++ part s)) ++ (tail ++ ']' :: rest)))
  have same : (do char ','; gap; let v ← item; gap; pure v) = laterItem item := rfl
  simp only [array, arrayItems, same, run_bind, run_char, if_true, Option.bind_some, before,
    run_attempt, read, Option.map_some, Option.getD_some, run_gap_none behind.no_gap,
    goes.many ends, comma, run_pure, List.map_cons]

end

theorem run_array_empty {item : Scan Value} (ends : item (']' :: rest) = none) :
    array item ('[' :: ']' :: rest) = some (.array [], rest) := by
  have none := run_gap_none (stops_cons (p := isGap) (c := ']') (by decide) rest)
  simp [array, arrayItems, none, ends]

theorem number_close (rest : List Char) : number (']' :: rest) = none := by
  simp [number, datetime, dateAndTime, date, fixed, time, fixedWithin, decimalReal, specialReal,
    integer, sign, wholeDigits, groupedDigits, Text.isDigit, decimalInteger]

theorem items_texts (depth : Nat) : Items (valueWithin depth) fun s => (Writer.text s).toList where
  reads s rest stops := run_valueWithin_text depth s stops
  shown s rest := by
    obtain ⟨c, w, same, quote⟩ := written_head s
    have quote : c = '"' ∨ c = '\'' := by simpa [isQuote] using quote
    rw [same]
    obtain rfl | rfl := quote <;> exact stops_cons (by decide) _
  ends rest := by
    cases depth <;> simp [valueWithin, valueWithin.scalar, number_close]

/-- What separates items may as well be taken together with the next of them. -/
theorem flatMap_separated {part : String → List Char} {pad sep : List Char} (s : String)
    (more : List String) : (s :: more).flatMap (fun s => pad ++ part s ++ sep) =
      pad ++ (part s ++ (more.flatMap (fun s => sep ++ (pad ++ part s)) ++ sep)) := by
  induction more generalizing s with
  | nil => simp
  | cons t more ih => rw [List.flatMap_cons, ih t, List.flatMap_cons]; simp

theorem toList_lines (items : List String) :
    (String.join ((items.map Writer.text).map fun item => "    " ++ item ++ ",\n")).toList =
      items.flatMap fun s => [' ', ' ', ' ', ' '] ++ (Writer.text s).toList ++ [',', '\n'] := by
  have pad : "    ".toList = [' ', ' ', ' ', ' '] := by decide
  have comma : ",\n".toList = [',', '\n'] := by decide
  simp only [String.toList_join, List.flatMap_map, String.toList_append, pad, comma]

theorem run_array_texts (depth : Nat) (items : List String) (rest : List Char) :
    array (valueWithin depth) ((Writer.value (.array (items.map .string))).toList ++ rest) =
      some (.array (items.map .string), rest) := by
  have texts : (items.map Value.string).map Writer.value.scalar = items.map Writer.text := by
    rw [List.map_map]
    rfl
  have bracket : "[".toList = ['['] := by decide
  have close : "]".toList = [']'] := by decide
  simp only [Writer.value, texts]
  match items with
  | [] =>
    have both : "[]".toList = ['[', ']'] := by decide
    simp [both, run_array_empty ((items_texts depth).ends rest)]
  | [s] =>
    have read := (items_texts depth).run_array [] nofun (.inl rfl) s [] rest
    simpa [bracket, close] using read
  | s :: t :: more =>
    have read := (items_texts depth).run_array ['\n', ' ', ' ', ' ', ' '] (by simp) (.inr rfl)
      s (t :: more) rest
    have line : "[\n".toList = ['[', '\n'] := by decide
    have body := toList_lines (s :: t :: more)
    rw [flatMap_separated] at body
    simp only [List.map_cons, String.toList_append, line, close] at body ⊢
    rw [body]
    simpa only [List.cons_append, List.nil_append, List.append_assoc, List.map_cons] using read

theorem array_head {item : Scan Value} {cs : List Char} {p : Value × List Char}
    (h : array item cs = some p) : ∃ rest, cs = '[' :: rest := by
  cases cs with
  | nil => cases h
  | cons c cs =>
    by_cases bracket : c = '['
    · exact ⟨cs, bracket ▸ rfl⟩
    · simp [array, bracket] at h

theorem run_valueWithin_array (depth : Nat) (items : List String) (rest : List Char) :
    valueWithin (depth + 1) ((Writer.value (.array (items.map .string))).toList ++ rest) =
      some (.array (items.map .string), rest) := by
  have read := run_array_texts depth items rest
  obtain ⟨cs, same⟩ := array_head read
  rw [same] at read ⊢
  simp [valueWithin, read]

end

-- ---------------------------------------------------------------------------
-- The values of configurations
-- ---------------------------------------------------------------------------

/-- The values that are written and read again. -/
inductive Plain : Value → Prop
  | string (s : String) : Plain (.string s)
  | boolean (b : Bool) : Plain (.boolean b)
  | natural {n : Nat} (small : n < signedBound) : Plain (.integer n)
  | texts (items : List String) : Plain (.array (items.map .string))

variable {v : Value}

theorem Plain.head (plain : Plain v) : ∃ c rest, (Writer.value v).toList = c :: rest ∧
    c ≠ ' ' ∧ c ≠ '\t' := by
  cases plain with
  | string s =>
    obtain ⟨c, w, same, quote⟩ := written_head s
    refine ⟨c, w, same, ?_, ?_⟩ <;> rintro rfl <;> cases quote
  | boolean b => cases b <;> exact ⟨_, _, rfl, by decide, by decide⟩
  | @natural n small =>
    obtain ⟨d, ds, same, digit⟩ := toDigits_cons n
    refine ⟨d, ds, same ▸ Text.toList_toString n, ?_, ?_⟩ <;> rintro rfl <;> cases digit
  | texts items =>
    obtain ⟨w, same⟩ := array_head (run_array_texts 0 items [])
    rw [List.append_nil] at same
    exact ⟨'[', w, same, by decide, by decide⟩

theorem valueWithin_scalar {c : Char} {depth : Nat} {rest : List Char} (bracket : c ≠ '[')
    (brace : c ≠ '\x7b') : valueWithin depth (c :: rest) = valueWithin.scalar (c :: rest) := by
  cases depth with
  | zero => rfl
  | succ depth => simp [valueWithin, bracket, brace]

/-- A value at the end of a line is read back. -/
theorem Plain.run_value (plain : Plain v) (rest : List Char) :
    value ((Writer.value v).toList ++ '\n' :: rest) = some (v, '\n' :: rest) := by
  cases plain with
  | string s => exact run_valueWithin_text 79 s (stops_cons (by decide) rest)
  | boolean b =>
    have yes : (Writer.value (.boolean true)).toList = ['t', 'r', 'u', 'e'] := by decide
    have no : (Writer.value (.boolean false)).toList = ['f', 'a', 'l', 's', 'e'] := by decide
    cases b
    · rw [no, value, List.cons_append, valueWithin_scalar (by decide) (by decide)]
      simp [valueWithin.scalar]
    · rw [yes, value, List.cons_append, valueWithin_scalar (by decide) (by decide)]
      simp [valueWithin.scalar]
  | @natural n small =>
    have read := run_number rest small
    obtain ⟨d, ds, same, digit⟩ := toDigits_cons n
    have other {c : Char} (h : Text.isDigit c = false) : d ≠ c := by
      rintro rfl
      rw [digit] at h
      cases h
    have written : (Writer.value (.integer n)).toList = d :: ds := same ▸ Text.toList_toString n
    rw [Text.toList_toString, same, List.cons_append] at read
    rw [written, value, List.cons_append, valueWithin_scalar (other rfl) (other rfl)]
    simp [valueWithin.scalar, other (c := '"') rfl, other (c := '\'') rfl, other (c := 't') rfl,
      other (c := 'f') rfl, read]
  | texts items => exact run_valueWithin_array 78 items ('\n' :: rest)

end UsbBridge.Toml.Scan
