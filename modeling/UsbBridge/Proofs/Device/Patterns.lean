import Mathlib.Data.List.Forall2
import Mathlib.Data.List.TakeDrop
import Mathlib.Data.Nat.Digits.Defs
import UsbBridge.Config.Server
import UsbBridge.Proofs.Text.Laws

/-!
# The texts of filters

A filter text is two halves with one colon between them. A half is a star, which any number fits, or
a mark with hexadecimal digits; a plus sign in front of the digits is let pass and counts among the
four characters that there is room for (`parse_iff`). A list of such texts is taken alike wherever
it is read, and lets through what one of its texts asks for (`filters_understood`).
-/

namespace UsbBridge

namespace Pattern

def hexDigits : List (Char × Nat) :=
  "0123456789abcdef".toList.zipIdx ++ "ABCDEF".toList.zipIdx 10

/-- Hexadecimal digits spell a number, the last of them counting ones. -/
def Spells (digits : List Char) (n : Nat) : Prop :=
  ∃ values, List.Forall₂ (fun c v => (c, v) ∈ hexDigits) digits values ∧
    n = Nat.ofDigits 16 values.reverse

/-- Half of a filter text, with the number it asks for if it does not leave that open. The sign
stands in front of the digits. -/
inductive Half.Written (sign : List Char) : List Char → Option UInt16 → Prop
  | any : Written sign ['*'] none
  | number {x : Char} {digits : List Char} {v : UInt16} (mark : x = 'x' ∨ x = 'X')
      (some_ : digits ≠ []) (short : (sign ++ digits).length ≤ 4) (spells : Spells digits v.toNat) :
      Written sign ('0' :: x :: (sign ++ digits)) (some v)

/-- Half of a filter text as it is read. -/
def Half.Taken (cs : List Char) (v : Option UInt16) : Prop :=
  Written [] cs v ∨ Written ['+'] cs v

def Half.Asks (n : UInt16) (cs : List Char) : Prop := cs = ['*'] ∨ Taken cs (some n)

def Joined (vendor product : List Char → Prop) (text : String) : Prop :=
  ∃ left right, text.toList = left ++ ':' :: right ∧ vendor left ∧ product right

def Plain (text : String) (p : Pattern) : Prop :=
  Joined (Half.Written [] · p.vendor) (Half.Written [] · p.product) text

def Taken (text : String) (p : Pattern) : Prop :=
  Joined (Half.Taken · p.vendor) (Half.Taken · p.product) text

def Asks (vendor product : UInt16) : String → Prop := Joined (Half.Asks vendor) (Half.Asks product)

-- ---------------------------------------------------------------------------
-- Digits
-- ---------------------------------------------------------------------------

section
variable {c : Char} {v n : Nat} {digits cs : List Char}

theorem hexValue?_iff : Text.hexValue? c = some v ↔ (c, v) ∈ hexDigits := by
  constructor
  · intro h
    -- Digits of either case are among the first characters, which are looked through.
    have low : c.toNat < 128 := by
      have range {first last : Char} (h : first ≤ c ∧ c ≤ last) (small : last.toNat < 128) :
          c.toNat < 128 := Nat.lt_of_le_of_lt (show c.toNat ≤ last.toNat from h.2) small
      unfold Text.hexValue? at h
      split at h
      · rename_i digit
        exact range (by simpa [Text.isDigit] using digit) (by decide)
      split at h
      · rename_i small
        exact range small (by decide)
      split at h
      · rename_i capital
        exact range capital (by decide)
      · cases h
    have all : ∀ n : Fin 128, ∀ v ∈ Text.hexValue? (Char.ofNat n),
        (Char.ofNat n, v) ∈ hexDigits := by decide +kernel
    simpa using all ⟨c.toNat, low⟩ v (by simpa using h)
  · intro h
    have all : ∀ d ∈ hexDigits, Text.hexValue? d.1 = some d.2 := by decide +kernel
    exact all (c, v) h

theorem hexadecimal?_from (acc : Nat) :
    digits.foldlM (fun n c => (Text.hexValue? c).map (16 * n + ·)) acc = some n ↔
      ∃ values, List.Forall₂ (fun c v => (c, v) ∈ hexDigits) digits values ∧
        n = 16 ^ values.length * acc + Nat.ofDigits 16 values.reverse := by
  induction digits generalizing acc with
  | nil => simp [eq_comm]
  | cons c digits ih =>
    have next (v : Nat) (values : List Nat) :
        16 ^ values.length * (16 * acc + v) + Nat.ofDigits 16 values.reverse =
          16 ^ (v :: values).length * acc + Nat.ofDigits 16 (v :: values).reverse := by
      simp only [List.reverse_cons, Nat.ofDigits_append, Nat.ofDigits_singleton,
        List.length_reverse, List.length_cons]
      ring
    simp only [List.foldlM_cons, Option.bind_eq_bind, Option.bind_eq_some_iff,
      Option.map_eq_some_iff, hexValue?_iff, ih, List.forall₂_cons_left_iff]
    constructor
    · rintro ⟨_, ⟨v, digit, rfl⟩, values, spelt, rfl⟩
      exact ⟨v :: values, ⟨v, values, digit, spelt, rfl⟩, next v values⟩
    · rintro ⟨_, ⟨v, values, digit, spelt, rfl⟩, rfl⟩
      exact ⟨_, ⟨v, digit, rfl⟩, values, spelt, (next v values).symm⟩

theorem hexadecimal?_iff : Text.hexadecimal? digits = some n ↔ Spells digits n := by
  simp [Text.hexadecimal?, hexadecimal?_from, Spells]

theorem Spells.digit (spells : Spells digits n) (h : c ∈ digits) : ∃ v, (c, v) ∈ hexDigits := by
  obtain ⟨values, spelt, -⟩ := spells
  induction spelt with
  | nil => cases h
  | cons digit _ ih =>
    obtain rfl | later := List.mem_cons.mp h
    · exact ⟨_, digit⟩
    · exact ih later

theorem Spells.small (spells : Spells digits n) (short : digits.length ≤ 4) : n < 65536 := by
  obtain ⟨values, spelt, rfl⟩ := spells
  have length : values.length = digits.length := spelt.length_eq.symm
  have below : ∀ v ∈ values, v < 16 := by
    clear length short
    induction spelt with
    | nil => nofun
    | cons digit _ ih =>
      have all : ∀ d ∈ hexDigits, d.2 < 16 := by decide +kernel
      exact List.forall_mem_cons.mpr ⟨all _ digit, ih⟩
  calc Nat.ofDigits 16 values.reverse
      < 16 ^ values.reverse.length :=
        Nat.ofDigits_lt_base_pow_length (by decide) fun v hv => below v (List.mem_reverse.mp hv)
    _ ≤ 16 ^ 4 := Nat.pow_le_pow_right (by decide) (by rw [List.length_reverse]; omega)

/-- No sign, colon or star is a digit, and every digit takes one byte. -/
theorem hexDigits_plain {d : Char × Nat} (h : d ∈ hexDigits) :
    d.1 ≠ '+' ∧ d.1 ≠ ':' ∧ d.1.utf8Size = 1 := by
  have all : ∀ d ∈ hexDigits, d.1 ≠ '+' ∧ d.1 ≠ ':' ∧ d.1.utf8Size = 1 := by decide +kernel
  exact all d h

theorem size_ofList (narrow : ∀ c ∈ cs, c.utf8Size = 1) :
    (String.ofList cs).utf8ByteSize = cs.length := by
  induction cs with
  | nil => rfl
  | cons c cs ih =>
    obtain ⟨here, there⟩ := List.forall_mem_cons.mp narrow
    rw [String.ofList_cons, String.utf8ByteSize_append, String.utf8ByteSize_singleton, here,
      ih there, List.length_cons, Nat.add_comm]

end

-- ---------------------------------------------------------------------------
-- Halves
-- ---------------------------------------------------------------------------

section
variable {half : Half} {sign digits cs : List Char} {v : Option UInt16} {n : Nat}

/-- The signs that are let pass in front of digits. -/
def signs : List (List Char) := [[], ['+']]

theorem Half.taken_iff : Taken cs v ↔ ∃ sign ∈ signs, Written sign cs v := by
  simp [Taken, signs]

theorem hexNumber?_iff : hexNumber? cs = some n ↔
    ∃ sign ∈ signs, ∃ digits, cs = sign ++ digits ∧ digits ≠ [] ∧ Spells digits n := by
  have digits_iff {ds : List Char} : (if ds.isEmpty then none else Text.hexadecimal? ds) = some n ↔
      ds ≠ [] ∧ Spells ds n := by
    cases ds with
    | nil => simp
    | cons d ds => simp [hexadecimal?_iff]
  simp only [hexNumber?, digits_iff, signs, List.mem_cons, List.not_mem_nil, or_false,
    exists_eq_or_imp, exists_eq_left, List.nil_append, List.cons_append]
  cases cs with
  | nil => simp [Text.unsigned]
  | cons c cs =>
    by_cases plus : c = '+'
    · subst plus
      -- A plus sign is not a digit, so what is spelt stands behind it.
      have none {ds : List Char} : ¬Spells ('+' :: ds) n := fun spells => by
        obtain ⟨v, digit⟩ := spells.digit List.mem_cons_self
        exact (hexDigits_plain digit).1 rfl
      simp [Text.unsigned, none]
    · simp [Text.unsigned, plus]

theorem hexPart?_iff : hexPart? cs = some digits ↔
    ∃ x, (x = 'x' ∨ x = 'X') ∧ cs = '0' :: x :: digits := by
  constructor
  · intro h
    unfold hexPart? at h
    split at h <;> simp_all
  · rintro ⟨x, rfl | rfl, rfl⟩ <;> rfl

theorem size_signed (there : sign ∈ signs) (spells : Spells digits n) :
    (String.ofList (sign ++ digits)).utf8ByteSize = (sign ++ digits).length := by
  have sized : ∀ sign ∈ signs, ∀ c ∈ sign, c.utf8Size = 1 := by
    have plus : '+'.utf8Size = 1 := by decide
    simp [signs, plus]
  refine size_ofList fun c hc => ?_
  rcases List.mem_append.mp hc with hc | hc
  · exact sized sign there c hc
  · obtain ⟨v, digit⟩ := spells.digit hc
    exact (hexDigits_plain digit).2.2

theorem parseHalf_iff : parseHalf half cs = .ok v ↔ Half.Taken cs v := by
  rw [Half.taken_iff]
  constructor
  · intro h
    unfold parseHalf at h
    dsimp only at h
    split at h
    · rename_i star
      obtain rfl := Except.ok.inj h
      exact star ▸ ⟨[], by simp [signs], .any⟩
    split at h
    · cases h
    rename_i rest marked
    split at h
    · cases h
    rename_i short
    split at h
    · rename_i n number
      obtain rfl := Except.ok.inj h
      obtain ⟨x, mark, rfl⟩ := hexPart?_iff.mp marked
      obtain ⟨sign, there, digits, rfl, some_, spells⟩ := hexNumber?_iff.mp number
      rw [size_signed there spells] at short
      have short : (sign ++ digits).length ≤ 4 := by omega
      have fits : n.toUInt16.toNat = n := by
        have := spells.small (by rw [List.length_append] at short; omega)
        simpa using Nat.mod_eq_of_lt this
      exact ⟨sign, there, .number mark some_ short (by rwa [fits])⟩
    · cases h
  · rintro ⟨sign, there, any | @⟨x, digits, v, mark, some_, short, spells⟩⟩
    · rfl
    · have marked : hexPart? ('0' :: x :: (sign ++ digits)) = some (sign ++ digits) :=
        hexPart?_iff.mpr ⟨x, mark, rfl⟩
      have number : hexNumber? (sign ++ digits) = some v.toNat :=
        hexNumber?_iff.mpr ⟨sign, there, digits, rfl, some_, spells⟩
      have positive : 0 < digits.length := List.length_pos_iff.mpr some_
      have room : ¬((sign ++ digits).length = 0 ∨ 4 < (sign ++ digits).length) := by
        simp only [List.length_append] at short ⊢
        omega
      have back : v.toNat.toUInt16 = v := UInt16.ofNat_toNat
      simp only [parseHalf, marked, number, size_signed there spells, if_neg room, back]
      rfl

theorem Half.Written.chars {c : Char} (written : Written sign cs v) (h : c ∈ cs) :
    c ∈ sign ∨ c ≠ '+' ∧ c ≠ ':' := by
  cases written with
  | any =>
    obtain rfl := List.mem_singleton.mp h
    exact .inr (by decide)
  | number mark some_ short spells =>
    simp only [List.mem_cons, List.mem_append] at h
    obtain rfl | rfl | there | digit := h
    · exact .inr (by decide)
    · exact .inr (by obtain rfl | rfl := mark <;> decide)
    · exact .inl there
    · obtain ⟨v, listed⟩ := spells.digit digit
      exact .inr ⟨(hexDigits_plain listed).1, (hexDigits_plain listed).2.1⟩

theorem Half.Taken.colonless (taken : Taken cs v) : ':' ∉ cs := by
  intro h
  obtain written | written := taken
  · obtain there | ⟨-, other⟩ := written.chars h
    · cases there
    · exact other rfl
  · obtain there | ⟨-, other⟩ := written.chars h
    · exact absurd there (by decide)
    · exact other rfl

theorem Half.written_iff : Written [] cs v ↔ Taken cs v ∧ '+' ∉ cs := by
  constructor
  · refine fun written => ⟨.inl written, fun h => ?_⟩
    obtain there | ⟨other, -⟩ := written.chars h
    · cases there
    · exact other rfl
  · rintro ⟨written | signed, plusless⟩
    · exact written
    · cases signed with
      | any => exact .any
      | number mark some_ short spells => simp at plusless

/-- What a half leaves open or asks for. -/
theorem Half.asks_iff {n : UInt16} :
    Asks n cs ↔ ∃ v, Taken cs v ∧ v.all (· == n) = true := by
  constructor
  · rintro (rfl | taken)
    · exact ⟨none, .inl .any, rfl⟩
    · exact ⟨some n, taken, by simp⟩
  · rintro ⟨v, taken, fits⟩
    cases v with
    | none =>
      obtain written | written := taken <;> cases written <;> exact .inl rfl
    | some v =>
      obtain rfl : v = n := by simpa using fits
      exact .inr taken

end

-- ---------------------------------------------------------------------------
-- Texts
-- ---------------------------------------------------------------------------

section
variable {text : String} {p : Pattern}

theorem bind_ok {x : Except ε α} {f : α → Except ε β} {b : β} :
    x >>= f = .ok b ↔ ∃ a, x = .ok a ∧ f a = .ok b := by
  cases x <;> simp [bind, Except.bind]

theorem parse_iff : parse text = .ok p ↔ Taken text p := by
  unfold parse
  rw [List.span_eq_takeWhile_dropWhile]
  constructor
  · intro h
    have parts := List.takeWhile_append_dropWhile (p := (· != ':')) (l := text.toList)
    cases rest : text.toList.dropWhile (· != ':') with
    | nil => simp [rest] at h
    | cons c product =>
      obtain rfl : c = ':' := by
        have head := List.head_dropWhile_not (· != ':') (l := text.toList) (by simp [rest])
        simpa [rest] using head
      simp only [rest] at h
      split at h
      · cases h
      · obtain ⟨vendor, left, h⟩ := bind_ok.mp h
        obtain ⟨number, right, h⟩ := bind_ok.mp h
        obtain rfl := Except.ok.inj h
        exact ⟨_, product, by rw [← rest, parts], parseHalf_iff.mp left, parseHalf_iff.mp right⟩
  · rintro ⟨vendor, product, joined, left, right⟩
    have before : ∀ c ∈ vendor, (c != ':') = true := fun c hc => by
      rw [bne_iff_ne]
      rintro rfl
      exact left.colonless hc
    have stops : Text.Stops (· != ':') (':' :: product) := Text.stops_cons (by simp) product
    have single : product.contains ':' = false := by simpa using right.colonless
    rw [joined, Text.takeWhile_append vendor before stops, Text.dropWhile_append before stops]
    simp only [single, Bool.false_eq_true, if_false, parseHalf_iff.mpr left,
      parseHalf_iff.mpr right]
    rfl

theorem plain_iff : Plain text p ↔ Taken text p ∧ '+' ∉ text.toList := by
  constructor
  · rintro ⟨vendor, product, joined, left, right⟩
    obtain ⟨left, leftless⟩ := Half.written_iff.mp left
    obtain ⟨right, rightless⟩ := Half.written_iff.mp right
    exact ⟨⟨vendor, product, joined, left, right⟩, by simp [joined, leftless, rightless]⟩
  · rintro ⟨⟨vendor, product, joined, left, right⟩, plusless⟩
    simp only [joined, List.mem_append, List.mem_cons, not_or] at plusless
    exact ⟨vendor, product, joined, Half.written_iff.mpr ⟨left, plusless.1⟩,
      Half.written_iff.mpr ⟨right, plusless.2.2⟩⟩

theorem asks_iff {vendor product : UInt16} :
    Asks vendor product text ↔ ∃ p, parse text = .ok p ∧ p.isMatch vendor product = true := by
  simp only [parse_iff, isMatch, Bool.and_eq_true]
  constructor
  · rintro ⟨l, r, joined, left, right⟩
    obtain ⟨v, left, hv⟩ := Half.asks_iff.mp left
    obtain ⟨n, right, hn⟩ := Half.asks_iff.mp right
    exact ⟨⟨v, n⟩, ⟨l, r, joined, left, right⟩, hv, hn⟩
  · rintro ⟨p, ⟨l, r, joined, left, right⟩, hv, hn⟩
    exact ⟨l, r, joined, Half.asks_iff.mpr ⟨_, left, hv⟩, Half.asks_iff.mpr ⟨_, right, hn⟩⟩

end

end Pattern

open Pattern Config

-- ---------------------------------------------------------------------------
-- Lists of texts
-- ---------------------------------------------------------------------------

section
variable {texts : List String} {patterns : List Pattern}

theorem Pattern.mapM_iff : texts.mapM parse = .ok patterns ↔
    List.Forall₂ (fun text p => parse text = .ok p) texts patterns := by
  induction texts generalizing patterns with
  | nil => simp [pure, Except.pure, eq_comm]
  | cons text texts ih =>
    simp only [List.mapM_cons, bind_ok, ih, List.forall₂_cons_left_iff]
    constructor
    · rintro ⟨p, here, ps, there, made⟩
      exact ⟨p, ps, here, there, (Except.ok.inj made).symm⟩
    · rintro ⟨p, ps, here, there, rfl⟩
      exact ⟨p, here, ps, there, rfl⟩

theorem Pattern.mapM_ok : (∃ patterns, texts.mapM parse = .ok patterns) ↔
    ∀ text ∈ texts, ∃ p, parse text = .ok p := by
  simp only [mapM_iff]
  induction texts with
  | nil => simp
  | cons text texts ih =>
    rw [List.forall_mem_cons, ← ih]
    constructor
    · rintro ⟨_, here | @⟨p, here, ps, there⟩⟩
      exact ⟨⟨_, ‹_›⟩, ⟨_, ‹_›⟩⟩
    · rintro ⟨⟨p, here⟩, ps, there⟩
      exact ⟨p :: ps, .cons here there⟩

theorem Pattern.any_isMatch {vendor product : UInt16} (read : texts.mapM parse = .ok patterns) :
    patterns.any (·.isMatch vendor product) = true ↔ ∃ text ∈ texts, Asks vendor product text := by
  have parts := mapM_iff.mp read
  clear read
  induction parts with
  | nil => simp
  | @cons text p texts ps here _ ih =>
    have asks : Asks vendor product text ↔ p.isMatch vendor product = true := by
      simp [asks_iff, here]
    simp [ih, asks]

/-- Checking texts one after the other stops where reading them together does. -/
theorem Pattern.forIn_parse (texts : List String) : (forIn texts PUnit.unit fun text _ =>
      match parse text with
      | .ok _ => pure (.yield PUnit.unit)
      | .error fault => do
        throw (.filter fault)
        pure (.yield PUnit.unit) : Except Violation PUnit) =
    match texts.mapM parse with
    | .ok _ => .ok ()
    | .error fault => .error (.filter fault) := by
  induction texts with
  | nil => rfl
  | cons text texts ih =>
    rw [List.forIn_cons, List.mapM_cons]
    cases here : parse text with
    | error fault => rfl
    | ok p =>
      refine ih.trans ?_
      cases texts.mapM parse <;> rfl

end

namespace ServerConfig

variable (c : ServerConfig)

def unfiltered : ServerConfig := { c with usb := { c.usb with filters := [] } }

theorem filter_ok : (∃ f, c.filter = .ok f) ↔ ∀ text ∈ c.usb.filters, ∃ p, parse text = .ok p := by
  rw [← mapM_ok]
  simp only [filter, DeviceFilter.ofTexts, bind_ok]
  constructor
  · rintro ⟨f, patterns, read, -⟩
    exact ⟨patterns, read⟩
  · rintro ⟨patterns, read⟩
    exact ⟨_, patterns, read, rfl⟩

/-- The filters of a configuration are checked by making a filter of them. -/
theorem validate_eq : c.validate =
    if c.server.logLevel ∉ logLevels then .error (.logLevel c.server.logLevel)
    else if (Text.trim c.server.socketPath).isEmpty then .error (.emptySocketPath .server)
    else
      match c.filter with
      | .error fault => .error (.filter fault)
      | .ok _ => if c.handoff.openTimeout.nanos = 0 then .error .zeroOpenTimeout else .ok () := by
  have loop := forIn_parse c.usb.filters
  simp only [validate, filter, DeviceFilter.ofTexts]
  split
  · rfl
  split
  · rfl
  refine (congrArg (· >>= _) loop).trans ?_
  cases c.usb.filters.mapM parse with
  | error fault => rfl
  | ok patterns =>
    by_cases zero : c.handoff.openTimeout.nanos = 0
    · simp only [if_pos zero]
      rfl
    · simp only [if_neg zero]
      rfl

theorem unfiltered_valid : c.unfiltered.validate = .ok () ↔ c.server.logLevel ∈ logLevels ∧
    (Text.trim c.server.socketPath).isEmpty = false ∧ c.handoff.openTimeout.nanos ≠ 0 := by
  obtain ⟨f, made⟩ : ∃ f, c.unfiltered.filter = .ok f := ⟨_, rfl⟩
  rw [validate_eq, made]
  by_cases level : c.server.logLevel ∈ logLevels
  · cases path : (Text.trim c.server.socketPath).isEmpty with
    | true => simp [unfiltered, level, path]
    | false =>
      by_cases zero : c.handoff.openTimeout.nanos = 0 <;> simp [unfiltered, level, path, zero]
  · simp [unfiltered, level]

theorem validate_valid (valid : c.unfiltered.validate = .ok ()) : c.validate =
    match c.filter with
    | .error fault => .error (.filter fault)
    | .ok _ => .ok () := by
  obtain ⟨level, path, zero⟩ := c.unfiltered_valid.mp valid
  rw [validate_eq, if_neg (not_not_intro level), path, if_neg Bool.false_ne_true]
  simp only [if_neg zero]

theorem validate_ok : c.validate = .ok () ↔
    c.unfiltered.validate = .ok () ∧ ∃ f, c.filter = .ok f := by
  constructor
  · intro valid
    have unfiltered : c.unfiltered.validate = .ok () := by
      rw [unfiltered_valid]
      rw [validate_eq] at valid
      split at valid
      · cases valid
      split at valid
      · cases valid
      split at valid
      · cases valid
      split at valid
      · cases valid
      simp_all
    rw [c.validate_valid unfiltered] at valid
    refine ⟨unfiltered, ?_⟩
    split at valid
    · cases valid
    · exact ⟨_, ‹_›⟩
  · rintro ⟨unfiltered, f, made⟩
    rw [c.validate_valid unfiltered, made]

end ServerConfig

/-- What the filter texts of a configuration mean. -/
structure ServerConfig.Understood (c : ServerConfig) : Prop where
  /-- A text is accepted for what its halves ask for, and for nothing else. -/
  parsed : ∀ text p, Pattern.parse text = .ok p ↔ Taken text p
  /-- But for the sign that is let pass, these are stars and marked digits. -/
  plain : ∀ text p, Plain text p ↔ Taken text p ∧ '+' ∉ text.toList
  /-- Each text is accepted for one meaning at most. -/
  single : ∀ text p q, Taken text p → Taken text q → p = q
  validated : c.validate = .ok () ↔
    c.unfiltered.validate = .ok () ∧ ∀ text ∈ c.usb.filters, ∃ p, Taken text p
  made : (∃ f, c.filter = .ok f) ↔ ∀ text ∈ c.usb.filters, ∃ p, Taken text p
  /-- The configuration is refused for the text that keeps a filter from being made. -/
  alike : c.unfiltered.validate = .ok () → ∀ fault,
    c.validate = .error (.filter fault) ↔ c.filter = .error fault
  /-- Some text asks for the model, or there is none. -/
  lets : ∀ f, c.filter = .ok f → ∀ d, f.allowsModel d = true ↔
    c.usb.filters = [] ∨ ∃ text ∈ c.usb.filters, Asks d.vendor d.product text

/-- For all texts that a configuration may hold. -/
theorem filters_understood (c : ServerConfig) : c.Understood where
  parsed _ _ := parse_iff
  plain _ _ := plain_iff
  single text p q hp hq := Except.ok.inj ((parse_iff.mpr hp).symm.trans (parse_iff.mpr hq))
  validated := by simp only [c.validate_ok, c.filter_ok, parse_iff]
  made := by simp only [c.filter_ok, parse_iff]
  alike valid fault := by
    rw [c.validate_valid valid]
    cases c.filter <;> simp
  lets f made d := by
    simp only [ServerConfig.filter, DeviceFilter.ofTexts, bind_ok] at made
    obtain ⟨patterns, read, made⟩ := made
    obtain rfl := Except.ok.inj made
    have empty : patterns.isEmpty = true ↔ c.usb.filters = [] := by
      rw [List.isEmpty_iff, ← List.length_eq_zero_iff, ← (mapM_iff.mp read).length_eq,
        List.length_eq_zero_iff]
    rw [DeviceFilter.allowsModel, Bool.or_eq_true, empty, any_isMatch read]

/-- A sign in front of the digits is let pass, though no digit. -/
theorem signed_taken : Pattern.parse "0x+12:*" = .ok ⟨some 0x12, none⟩ ∧
    ∀ p, ¬Plain "0x+12:*" p := by
  refine ⟨by decide +kernel, fun p plain => ?_⟩
  exact (plain_iff.mp plain).2 (by decide)

end UsbBridge
