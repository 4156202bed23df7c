import UsbBridge.Proofs.Toml.Scanning
import UsbBridge.Toml.Writer

/-!
# Texts are read as they were written

A text has four written forms: between double or single quotes, on one line or over several. Each is
read back, as long as no further quote stands behind it.
-/

namespace UsbBridge.Toml

open Text Writer

theorem isPlain_iff {c : Char} : Scan.isPlain c = true ↔ c = '\t' ∨ isControl c = false := by
  simp [Scan.isPlain, isControl]

/-- What a character may look like between double quotes. -/
inductive Escaped (overLines : Bool) (c : Char) : List Char → Prop
  | plain (plain : Scan.isPlain c = true) (quote : c ≠ '"') (slash : c ≠ '\\') :
      Escaped overLines c [c]
  | lineEnd (here : overLines = true) (same : c = '\n') : Escaped overLines c ['\n']
  | marked {mark : Char} {code : List Char} (visible : mark ∉ [' ', '\t', '\n', '\r'])
      (read : ∀ rest, Scan.escape (mark :: (code ++ rest)) = some (c, rest)) :
      Escaped overLines c ('\\' :: mark :: code)

section
variable {overLines : Bool} {c : Char} {w : List Char}

theorem Escaped.head (form : Escaped overLines c w) : ∃ d rest, w = d :: rest ∧ d ≠ '"' := by
  cases form with
  | plain plain quote slash => exact ⟨c, [], rfl, quote⟩
  | lineEnd => exact ⟨'\n', [], rfl, by decide⟩
  | marked => exact ⟨'\\', _, rfl, by decide⟩

theorem Escaped.ne_nil (form : Escaped overLines c w) : w ≠ [] := by
  obtain ⟨d, rest, rfl, -⟩ := form.head
  exact List.cons_ne_nil d rest

end

theorem digitsOf_append {value? : Char → Option Nat} {n v : Nat} {cs : List Char}
    (h : Scan.digitsOf n value? cs = some (v, [])) (rest : List Char) :
    Scan.digitsOf n value? (cs ++ rest) = some (v, rest) := by
  induction n generalizing cs v with
  | zero =>
    cases h
    rfl
  | succ n ih =>
    cases cs with
    | nil => cases h
    | cons c cs =>
      simp only [Scan.digitsOf, Scan.run_bind, Scan.run_next, Option.bind_some,
        List.cons_append] at h ⊢
      cases hc : value? c with
      | none => simp [hc] at h
      | some high =>
        simp only [hc, Scan.run_bind, Option.bind_eq_some_iff, Prod.exists] at h ⊢
        obtain ⟨low, left, hlow, same⟩ := h
        cases same
        exact ⟨low, rest, ih hlow, rfl⟩

theorem controlCode (n : Nat) (h : n < 128) :
    Scan.digitsOf 4 Text.hexValue?
      ((List.replicate (4 - (Nat.toDigits 16 n).length) '0' ++ Nat.toDigits 16 n).map fun d =>
        if 'a' ≤ d ∧ d ≤ 'f' then Char.ofNat (d.toNat - 32) else d) = some (n, []) := by
  revert n
  decide +kernel

theorem isControl_small {c : Char} (h : isControl c = true) : c.toNat < 128 := by
  simp only [isControl, Bool.or_eq_true, decide_eq_true_eq] at h
  obtain low | last := h
  · have : c.toNat < 32 := low
    omega
  · omega

theorem escaped_form (overLines : Bool) (c : Char) :
    Escaped overLines c (escaped overLines c).toList := by
  have mark {c : Char} (mark : Char) {text : String} (same : text.toList = ['\\', mark])
      (visible : mark ∉ [' ', '\t', '\n', '\r'])
      (read : ∀ rest, Scan.escape (mark :: rest) = some (c, rest)) :
      Escaped overLines c text.toList := same ▸ .marked visible read
  unfold escaped
  split
  · exact mark 'b' (by decide) (by decide) fun rest => rfl
  · exact mark 't' (by decide) (by decide) fun rest => rfl
  · split
    · exact .lineEnd ‹_› rfl
    · exact mark 'n' (by decide) (by decide) fun rest => rfl
  · exact mark 'f' (by decide) (by decide) fun rest => rfl
  · exact mark 'r' (by decide) (by decide) fun rest => rfl
  · exact mark '"' (by decide) (by decide) fun rest => rfl
  · exact mark '\\' (by decide) (by decide) fun rest => rfl
  · rename_i quote slash
    split
    · rename_i control
      have read := controlCode c.toNat (isControl_small control)
      have valid : c.toNat.isValidChar := c.valid
      have code : (hexText 4 c.toNat).toList = List.replicate (4 - (Nat.toDigits 16 c.toNat).length)
          '0' ++ Nat.toDigits 16 c.toNat := String.toList_ofList
      have front : "\\u".toList = ['\\', 'u'] := by decide
      rw [String.toList_append, front, String.toList_ofList, code, List.cons_append,
        List.cons_append, List.nil_append]
      refine .marked (by decide) fun rest => ?_
      show Scan.codePoint 4 (_ ++ rest) = _
      rw [Scan.codePoint, Scan.run_bind, digitsOf_append read, Option.bind_some, dif_pos valid]
      rfl
    · rename_i control
      have plain : Scan.isPlain c = true := isPlain_iff.mpr (.inr (by simpa using control))
      rw [Char.toString_eq_singleton, String.toList_singleton]
      exact .plain plain quote slash

namespace Scan

section
variable {c : Char} {w cs rest : List Char}

def isQuote (c : Char) : Bool := c == '"' || c == '\''

theorem stops_quote (h : Stops isQuote rest) {quote : Char} (q : isQuote quote = true) :
    Stops (· == quote) rest := by
  intro c hc
  refine beq_eq_false_iff_ne.mpr fun same => ?_
  have := h c hc
  rw [same, q] at this
  cases this

theorem run_basicChar (form : Escaped false c w) (rest : List Char) :
    basicChar (w ++ rest) = some (c, rest) := by
  cases form with
  | plain plain quote slash => simp [basicChar, plain]
  | lineEnd here => cases here
  | marked visible read => simp [basicChar, read]

-- ---------------------------------------------------------------------------
-- Text over several lines
-- ---------------------------------------------------------------------------

theorem run_linesPiece_plain {quote : Char} (plain : isPlain c = true) (other : c ≠ quote)
    (slash : c ≠ '\\') : linesPiece quote (c :: rest) = some ([c], rest) := by
  have visible : c ≠ '\r' ∧ c ≠ '\n' := by
    constructor <;> rintro rfl <;> exact absurd plain (by decide)
  unfold linesPiece
  simp [plain, other, visible]

theorem run_linesPiece_end {quote : Char} :
    linesPiece quote ('\n' :: rest) = some (['\n'], rest) := by
  simp [linesPiece, newline]

theorem linesPiece_quote {quote : Char} (q : isQuote quote = true) :
    linesPiece quote (quote :: rest) = none := by
  have : quote = '"' ∨ quote = '\'' := by simpa [isQuote] using q
  obtain rfl | rfl := this <;> simp [linesPiece]

theorem run_linesPiece (form : Escaped true c w) (rest : List Char) :
    linesPiece '"' (w ++ rest) = some ([c], rest) := by
  cases form with
  | plain plain quote slash => exact run_linesPiece_plain plain quote slash
  | lineEnd here same =>
    subst same
    exact run_linesPiece_end
  | @marked mark code visible read =>
    simp only [List.mem_cons, List.not_mem_nil, or_false, not_or] at visible
    obtain ⟨space, tab, line, back⟩ := visible
    have stops : Stops (fun c => c == ' ' || c == '\t') (mark :: (code ++ rest)) :=
      stops_cons (by simp [space, tab]) _
    have inside : joinedLines ('\\' :: mark :: (code ++ rest)) = none := by
      simp [joinedLines, run_blanks _ stops, newline]
    simp [linesPiece, inside, read]

theorem innerQuotes_three {quote : Char} :
    innerQuotes quote (quote :: quote :: quote :: rest) = none := by
  simp [innerQuotes]

theorem run_closing {quote : Char} (stops : Stops (· == quote) rest) :
    closing quote (quote :: quote :: quote :: rest) = some ([], rest) := by
  have run := takeWhile_append [quote, quote, quote] (by simp) stops
  simp only [List.cons_append, List.nil_append] at run
  simp [closing, run]

/-- Text between three quotes is all of its pieces. -/
theorem run_linesText {quote : Char} {pieces : List (List Char)} {body mid : List Char}
    (q : isQuote quote = true) (starts : ((newline body).getD ((), body)).2 = mid)
    (goes : Goes (linesPiece quote <|> innerQuotes quote) mid pieces
      (quote :: quote :: quote :: rest)) (stops : Stops isQuote rest) :
    linesText quote (quote :: quote :: quote :: body) = some (pieces.flatten, rest) := by
  have ends :
      (linesPiece quote <|> innerQuotes quote) (quote :: quote :: quote :: rest) = none := by
    simp [linesPiece_quote q, innerQuotes_three]
  simp [linesText, starts, goes.many ends, run_closing (stops_quote stops q)]

-- ---------------------------------------------------------------------------
-- Text without escapes
-- ---------------------------------------------------------------------------

theorem hasQuoteRun_replicate (n run k : Nat) :
    hasQuoteRun n run (List.replicate k '\'' ++ cs) = hasQuoteRun n (run + k) cs := by
  induction k generalizing run with
  | zero => rfl
  | succ k ih =>
    rw [List.replicate_succ, List.cons_append, hasQuoteRun, if_pos rfl, ih]
    congr 1
    omega

theorem quotes_go {k : Nat} (few : k < 3) (stops : Stops (· == '\'') cs) :
    ∃ pieces, Goes (linesPiece '\'' <|> innerQuotes '\'') (List.replicate k '\'' ++ cs) pieces cs ∧
      pieces.flatten = List.replicate k '\'' := by
  cases k with
  | zero => exact ⟨[], .done, rfl⟩
  | succ k =>
    have run := takeWhile_append (List.replicate (k + 1) '\'') (by simp) stops
    have piece : innerQuotes '\'' (List.replicate (k + 1) '\'' ++ cs) =
        some (List.replicate (k + 1) '\'', cs) := by
      have few : k < 2 := by omega
      simp only [innerQuotes, run, List.length_replicate]
      simp [few]
    have quote : linesPiece '\'' (List.replicate (k + 1) '\'' ++ cs) = none := linesPiece_quote rfl
    refine ⟨[List.replicate (k + 1) '\''], .one ?_ (by simp), by simp⟩
    simp [quote, piece]

/-- Text up to a character that is no quote: quotes, that character and what follows. -/
theorem split_quotes (some_ : cs ≠ []) (last : cs.getLast? ≠ some '\'') :
    ∃ k c rest, cs = List.replicate k '\'' ++ c :: rest ∧ c ≠ '\'' := by
  induction cs with
  | nil => exact absurd rfl some_
  | cons c cs ih =>
    by_cases quote : c = '\''
    · subst quote
      have more : cs ≠ [] := by
        rintro rfl
        exact last rfl
      rw [List.getLast?_cons_of_ne_nil more] at last
      obtain ⟨k, c, rest, rfl, other⟩ := ih more last
      exact ⟨k + 1, c, rest, rfl, other⟩
    · exact ⟨0, c, cs, rfl, quote⟩

structure Literal (cs : List Char) : Prop where
  shown : ∀ c ∈ cs, isPlain c = true ∨ c = '\n'
  runs : hasQuoteRun 3 0 cs = false
  last : cs.getLast? ≠ some '\''

theorem linesPiece_literal (shown : isPlain c = true ∨ c = '\n') (other : c ≠ '\'') :
    linesPiece '\'' (c :: rest) = some ([c], rest) := by
  obtain plain | rfl := shown
  · by_cases slash : c = '\\'
    · subst slash
      simp [linesPiece]
    · exact run_linesPiece_plain plain other slash
  · exact run_linesPiece_end

theorem Literal.goes {cs : List Char} (literal : Literal cs) (left : List Char) :
    ∃ pieces, Goes (linesPiece '\'' <|> innerQuotes '\'') (cs ++ left) pieces left ∧
      pieces.flatten = cs := by
  by_cases none : cs = []
  · exact ⟨[], none ▸ .done, none ▸ rfl⟩
  obtain ⟨shown, runs, last⟩ := literal
  obtain ⟨k, c, rest, rfl, other⟩ := split_quotes none last
  rw [hasQuoteRun_replicate, hasQuoteRun, if_neg other] at runs
  simp only [Nat.zero_add, Bool.or_eq_false_iff, decide_eq_false_iff_not, Nat.not_le] at runs
  obtain ⟨few, runs⟩ := runs
  have later : Literal rest := by
    refine ⟨fun d hd => shown d (by simp [hd]), runs, fun same => last ?_⟩
    rw [List.getLast?_append, List.getLast?_cons, same]
    rfl
  obtain ⟨quotes, before, flat⟩ := quotes_go few (stops_cons (by simpa using other) (rest ++ left))
  have piece : linesPiece '\'' (c :: (rest ++ left)) = some ([c], rest ++ left) :=
    linesPiece_literal (shown c (by simp)) other
  obtain ⟨pieces, goes, rest_flat⟩ := later.goes left
  refine ⟨quotes ++ [c] :: pieces, ?_, by simp [flat, rest_flat]⟩
  rw [List.append_assoc, List.cons_append]
  exact before.trans (.more (by simp [piece]) (by simp) goes)
termination_by cs.length

-- ---------------------------------------------------------------------------
-- The written forms
-- ---------------------------------------------------------------------------

theorem run_basicText (cs rest : List Char) :
    basicText ('"' :: (cs.flatMap (fun c => (escaped false c).toList) ++ '"' :: rest)) =
      some (cs, rest) := by
  have goes := Goes.flatMap basicChar (fun c => (escaped false c).toList) id cs
    (fun c _ => ⟨(escaped_form false c).ne_nil, run_basicChar (escaped_form false c)⟩) ('"' :: rest)
  have ends : basicChar ('"' :: rest) = none := by simp [basicChar]
  simp [basicText, goes.many ends]

theorem run_literalText (shown : ∀ c ∈ cs, isPlain c = true ∧ c ≠ '\'') (rest : List Char) :
    literalText ('\'' :: (cs ++ '\'' :: rest)) = some (cs, rest) := by
  have taken := run_chars (p := fun c => isPlain c && c != '\'') cs
    (by simpa using shown) (stops_cons (c := '\'') (by simp) rest)
  simp [literalText, taken]

theorem run_basicLines (cs : List Char) (stops : Stops isQuote rest) :
    linesText '"' ('"' :: '"' :: '"' :: '\n' ::
      (cs.flatMap (fun c => (escaped true c).toList) ++ '"' :: '"' :: '"' :: rest)) =
        some (cs, rest) := by
  have goes := Goes.flatMap (linesPiece '"' <|> innerQuotes '"') (fun c => (escaped true c).toList)
    (fun c => [c]) cs
    (fun c _ => ⟨(escaped_form true c).ne_nil, fun rest => by
      simp [run_linesPiece (escaped_form true c)]⟩) ('"' :: '"' :: '"' :: rest)
  rw [run_linesText rfl (by simp [newline]) goes stops, ← List.flatMap_def,
    List.flatMap_singleton']

theorem run_literalLines (literal : Literal cs) (stops : Stops isQuote rest) :
    linesText '\'' ('\'' :: '\'' :: '\'' :: '\n' :: (cs ++ '\'' :: '\'' :: '\'' :: rest)) =
      some (cs, rest) := by
  obtain ⟨pieces, goes, flat⟩ := literal.goes ('\'' :: '\'' :: '\'' :: rest)
  rw [run_linesText rfl (by simp [newline]) goes stops, flat]

theorem run_literalLine (literal : Literal cs) (some_ : cs ≠ []) (line : '\n' ∉ cs)
    (stops : Stops isQuote rest) :
    linesText '\'' ('\'' :: '\'' :: '\'' :: (cs ++ '\'' :: '\'' :: '\'' :: rest)) =
      some (cs, rest) := by
  obtain ⟨pieces, goes, flat⟩ := literal.goes ('\'' :: '\'' :: '\'' :: rest)
  have starts (rest : List Char) : newline (cs ++ rest) = none := by
    obtain ⟨c, cs, rfl⟩ := List.exists_cons_of_ne_nil some_
    obtain plain | rfl := literal.shown c List.mem_cons_self
    · have other : c ≠ '\r' ∧ c ≠ '\n' := by
        constructor <;> rintro rfl <;> exact absurd plain (by decide)
      simp [newline, other]
    · exact absurd List.mem_cons_self line
  rw [run_linesText rfl (by simp [starts]) goes stops, flat]

theorem literal_of_isLiteral (h : isLiteral cs = true) :
    Literal cs ∧ ∃ c ∈ cs, c = '"' ∨ c = '\\' := by
  simp only [isLiteral, Bool.and_eq_true, List.any_eq_true, List.all_eq_true, Bool.or_eq_true,
    beq_iff_eq, Bool.not_eq_true', bne_iff_ne] at h
  obtain ⟨⟨⟨any, all⟩, runs⟩, last⟩ := h
  refine ⟨⟨fun c hc => ?_, runs, last⟩, any⟩
  rw [isPlain_iff]
  exact or_right_comm.mp (all c hc)

inductive Written (cs : List Char) : List Char → Prop
  | literalLines (literal : Literal cs) :
      Written cs ('\'' :: '\'' :: '\'' :: '\n' :: (cs ++ ['\'', '\'', '\'']))
  | literalLine (literal : Literal cs) (some_ : cs ≠ []) (line : '\n' ∉ cs) :
      Written cs ('\'' :: '\'' :: '\'' :: (cs ++ ['\'', '\'', '\'']))
  | literal (some_ : cs ≠ []) (shown : ∀ c ∈ cs, isPlain c = true ∧ c ≠ '\'') :
      Written cs ('\'' :: (cs ++ ['\'']))
  | basicLines : Written cs ('"' :: '"' :: '"' :: '\n' ::
      (cs.flatMap (fun c => (escaped true c).toList) ++ ['"', '"', '"']))
  | basic : Written cs ('"' :: (cs.flatMap (fun c => (escaped false c).toList) ++ ['"']))

theorem written_text (s : String) : Written s.toList (Writer.text s).toList := by
  have lines : "'''\n".toList = ['\'', '\'', '\'', '\n'] := by decide
  have three : "'''".toList = ['\'', '\'', '\''] := by decide
  have one : "'".toList = ['\''] := by decide
  have basicLines : "\"\"\"\n".toList = ['"', '"', '"', '\n'] := by decide
  have basicThree : "\"\"\"".toList = ['"', '"', '"'] := by decide
  have basicOne : "\"".toList = ['"'] := by decide
  unfold Writer.text
  dsimp only
  split
  · rename_i plain
    obtain ⟨literal, c, there, -⟩ := literal_of_isLiteral plain
    have some_ : s.toList ≠ [] := List.ne_nil_of_mem there
    cases line : s.toList.contains '\n' with
    | true =>
      simp only [Bool.true_or, if_true, String.toList_append, lines, three, List.cons_append,
        List.nil_append]
      exact .literalLines literal
    | false =>
      have noLine : '\n' ∉ s.toList := by simpa using line
      cases quote : s.toList.contains '\'' with
      | true =>
        simp only [Bool.false_or, Bool.false_eq_true, if_true, if_false, String.toList_append,
          three, List.cons_append, List.nil_append]
        exact .literalLine literal some_ noLine
      | false =>
        have noQuote : '\'' ∉ s.toList := by simpa using quote
        simp only [Bool.or_self, Bool.false_eq_true, if_false, String.toList_append, one,
          List.cons_append, List.nil_append]
        refine .literal some_ fun c hc => ⟨(literal.shown c hc).resolve_right ?_, ?_⟩
        · rintro rfl
          exact noLine hc
        · rintro rfl
          exact noQuote hc
  · cases line : s.toList.contains '\n' with
    | true =>
      simp only [if_true, String.toList_append, String.toList_join, basicLines, basicThree,
        List.cons_append, List.nil_append, List.flatMap_map]
      exact .basicLines
    | false =>
      simp only [Bool.false_eq_true, if_false, String.toList_append, String.toList_join, basicOne,
        List.cons_append, List.nil_append, List.flatMap_map]
      exact .basic

/-- A text that is written on one line between single characters is not taken for one over several
lines. -/
theorem linesText_none {quote c : Char} (other : c ≠ quote) (after : List Char) :
    linesText quote (quote :: c :: after) = none := by
  simp [linesText, other]

theorem linesText_empty {quote : Char} (stops : Stops (· == quote) rest) :
    linesText quote (quote :: quote :: rest) = none := by
  cases rest with
  | nil => simp [linesText]
  | cons c rest =>
    have other : c ≠ quote := by simpa using stops c rfl
    simp [linesText, other]

theorem linesText_other {quote c : Char} (other : c ≠ quote) (after : List Char) :
    linesText quote (c :: after) = none := by
  simp [linesText, other]

end

theorem run_text (s : String) {rest : List Char} (stops : Stops isQuote rest) :
    text ((Writer.text s).toList ++ rest) = some (s, rest) := by
  suffices h : (linesText '"' <|> linesText '\'' <|> basicText <|> literalText)
      ((Writer.text s).toList ++ rest) = some (s.toList, rest) by
    rw [text, run_map, h]
    simp
  simp only [run_orElse]
  have written := written_text s
  generalize (Writer.text s).toList = w at written
  cases written with
  | literalLines literal =>
    have read := run_literalLines literal stops
    simp [linesText_other, read]
  | literalLine literal some_ line =>
    have read := run_literalLine literal some_ line stops
    simp [linesText_other, read]
  | literal some_ shown =>
    have read := run_literalText shown rest
    obtain ⟨c, cs, same⟩ := List.exists_cons_of_ne_nil some_
    rw [same] at read shown ⊢
    have other := (shown c List.mem_cons_self).2
    simp only [List.cons_append, List.append_assoc, List.nil_append] at read ⊢
    simp [linesText_other, linesText_none other, basicText, read]
  | basicLines =>
    have read := run_basicLines s.toList stops
    simp [read]
  | basic =>
    have read := run_basicText s.toList rest
    have single : linesText '"' ('"' :: (s.toList.flatMap (fun c => (escaped false c).toList) ++
        '"' :: rest)) = none := by
      cases s.toList with
      | nil => exact linesText_empty (stops_quote stops rfl)
      | cons c cs =>
        obtain ⟨d, w, same, other⟩ := (escaped_form false c).head
        rw [List.flatMap_cons, same]
        exact linesText_none other _
    simp [linesText_other, single, read]

end Scan

end UsbBridge.Toml
