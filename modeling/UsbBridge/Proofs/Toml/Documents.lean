import UsbBridge.Proofs.Toml.Values

/-!
# Documents are read as they were written

A document whose sections and keys have plain names, each given once, is well-formed, and what is
read is what was written (`parse?_document`).
-/

namespace UsbBridge.Toml

open Scan Text

-- ---------------------------------------------------------------------------
-- Lines
-- ---------------------------------------------------------------------------

structure Bare (name : String) : Prop where
  some_ : name.toList ≠ []
  shown : ∀ c ∈ name.toList, isBare c = true

section
variable {name : String} {v : Value} {rest : List Char}

theorem Bare.head (bare : Bare name) : ∃ c cs, name.toList = c :: cs ∧ isBare c = true := by
  obtain ⟨c, cs, same⟩ := List.exists_cons_of_ne_nil bare.some_
  exact ⟨c, cs, same, bare.shown c (same ▸ List.mem_cons_self)⟩

theorem isBare_ne {c d : Char} (bare : isBare c = true) (other : isBare d = false) : c ≠ d := by
  rintro rfl
  rw [bare] at other
  cases other

theorem Bare.run_paddedKey (bare : Bare name) {left : List Char} (stops : Stops isBare rest)
    (blanks : blanks rest = some ((), left)) :
    paddedKey (name.toList ++ rest) = some (name, left) := by
  have taken := run_chars1 bare.some_ bare.shown stops
  obtain ⟨c, cs, same, shown⟩ := bare.head
  have front : Scan.blanks (name.toList ++ rest) = some ((), name.toList ++ rest) := by
    rw [same]
    refine run_blanks _ (stops_cons ?_ _)
    simp [isBare_ne shown (d := ' ') rfl, isBare_ne shown (d := '\t') rfl]
  have simple : simpleKey (name.toList ++ rest) = some (name, rest) := by
    have quote : c ≠ '"' := isBare_ne shown rfl
    have single : c ≠ '\'' := isBare_ne shown rfl
    rw [same] at taken
    simp only [List.cons_append] at taken
    have back : String.ofList (c :: cs) = name := by rw [← same, String.ofList_toList]
    rw [same]
    simp [simpleKey, quote, single, taken, back]
  simp [paddedKey, front, simple, blanks]

theorem Bare.run_keyPath (bare : Bare name) {c : Char} {left : List Char} (dot : c ≠ '.')
    (stops : Stops isBare rest) (blanks : blanks rest = some ((), c :: left)) :
    keyPath (name.toList ++ rest) = some (⟨[], name⟩, c :: left) := by
  have first := bare.run_paddedKey stops blanks
  have more : many (do char '.'; paddedKey) (c :: left) = some ([], c :: left) :=
    many_none (by simp [dot])
  simp [keyPath, key, first, more, depthLimit]

theorem run_lineRest : lineRest ('\n' :: rest) = some ((), rest) := by
  have front := run_blanks ('\n' :: rest) (stops_cons (by decide) rest)
  simp [lineRest, front, comment, lineEnd, newline]

theorem run_line_blank : line ('\n' :: rest) = some (.blank, rest) := by
  have front := run_blanks ('\n' :: rest) (stops_cons (by decide) rest)
  simp [line, front, newline]

theorem run_line_header (bare : Bare name) (rest : List Char) :
    line ('[' :: (name.toList ++ ']' :: '\n' :: rest)) = some (.header ⟨[], name⟩, rest) := by
  have front := run_blanks ('[' :: (name.toList ++ ']' :: '\n' :: rest)) (stops_cons (by decide) _)
  have close := run_blanks (']' :: '\n' :: rest) (stops_cons (by decide) _)
  have target := bare.run_keyPath (c := ']') (by decide) (stops_cons (by decide) _) close
  obtain ⟨c, cs, same, shown⟩ := bare.head
  have bracket : c ≠ '[' := isBare_ne shown rfl
  rw [same, List.cons_append] at front target ⊢
  simp [line, front, bracket, target, run_lineRest]

theorem run_assignment (bare : Bare name) (plain : Plain v) (rest : List Char) :
    assignment value
        (name.toList ++ ' ' :: '=' :: ' ' :: ((Writer.value v).toList ++ '\n' :: rest)) =
      some ((⟨[], name⟩, v), '\n' :: rest) := by
  obtain ⟨c, cs, same, space, tab⟩ := plain.head
  have stops :
      Stops (fun c => c == ' ' || c == '\t') ((Writer.value v).toList ++ '\n' :: rest) := by
    rw [same]
    exact stops_cons (by simp [space, tab]) _
  have target := bare.run_keyPath (c := '=') (by decide) (stops_cons (by decide) _)
    (run_blanks_space (stops_cons (by decide)
      (' ' :: ((Writer.value v).toList ++ '\n' :: rest))))
  simp [assignment, target, run_blanks_space stops, plain.run_value]

theorem run_line_assignment (bare : Bare name) (plain : Plain v) (rest : List Char) :
    line (name.toList ++ ' ' :: '=' :: ' ' :: ((Writer.value v).toList ++ '\n' :: rest)) =
      some (.assignment ⟨[], name⟩ v, rest) := by
  have read := run_assignment bare plain rest
  obtain ⟨c, cs, same, shown⟩ := bare.head
  have other {d : Char} (h : isBare d = false) : c ≠ d := isBare_ne shown h
  rw [same, List.cons_append] at read ⊢
  have front := run_blanks
    (c :: (cs ++ ' ' :: '=' :: ' ' :: ((Writer.value v).toList ++ '\n' :: rest)))
    (stops_cons (by simp [other (d := ' ') rfl, other (d := '\t') rfl]) _)
  simp [line, front, other (d := '#') rfl, other (d := '\n') rfl, other (d := '\r') rfl,
    other (d := '[') rfl, read, run_lineRest]

end

-- ---------------------------------------------------------------------------
-- Sections
-- ---------------------------------------------------------------------------

/-- Entries under plain names, none of them given twice. -/
structure Writable (entries : Entries) : Prop where
  names : (entries.map (·.1)).Nodup
  bare : ∀ entry ∈ entries, Bare entry.1
  plain : ∀ entry ∈ entries, Plain entry.2

def sectionLines (name : String) (entries : Entries) : List Line :=
  .header ⟨[], name⟩ :: entries.map fun entry => .assignment ⟨[], entry.1⟩ entry.2

def documentLines (sections : List (String × Entries)) : List Line :=
  [Line.blank].intercalate (sections.map fun s => sectionLines s.1 s.2)

theorem section_goes {name : String} {entries : Entries} (bare : Bare name)
    (writable : Writable entries) (rest : List Char) :
    Goes line ((Writer.section_ name entries).toList ++ rest) (sectionLines name entries) rest := by
  have bracket : "[".toList = ['['] := by decide
  have close : "]\n".toList = [']', '\n'] := by decide
  have equals : " = ".toList = [' ', '=', ' '] := by decide
  have end_ : "\n".toList = ['\n'] := by decide
  have goes := Goes.flatMap line (fun entry : String × Value =>
      entry.1.toList ++ ' ' :: '=' :: ' ' :: ((Writer.value entry.2).toList ++ ['\n']))
    (fun entry => .assignment ⟨[], entry.1⟩ entry.2) entries
    (fun entry h => ⟨by simp, fun rest => by
      simpa using run_line_assignment (writable.bare entry h) (writable.plain entry h) rest⟩) rest
  simp only [Writer.section_, String.toList_append, String.toList_join, List.flatMap_map, bracket,
    close, equals, end_, List.append_assoc, List.cons_append, List.nil_append] at goes ⊢
  exact .more (run_line_header bare _) (by simp; omega) goes

theorem document_goes {sections : List (String × Entries)}
    (bare : ∀ s ∈ sections, Bare s.1) (writable : ∀ s ∈ sections, Writable s.2) :
    Goes line (Writer.document sections).toList (documentLines sections) [] := by
  have sep : "\n".toList = ['\n'] := by decide
  rw [Writer.document, String.toList_intercalate, sep]
  induction sections with
  | nil => exact .done
  | cons s more ih =>
    have goes := section_goes (bare s List.mem_cons_self) (writable s List.mem_cons_self)
    cases more with
    | nil => simpa [documentLines] using goes []
    | cons t more =>
      have later := ih (fun s h => bare s (List.mem_cons_of_mem _ h))
        fun s h => writable s (List.mem_cons_of_mem _ h)
      simp only [documentLines, List.map_cons, List.intercalate_cons_cons, List.append_assoc,
        List.singleton_append] at later ⊢
      exact (goes _).trans (.more run_line_blank (by simp) later)

theorem document_head (sections : List (String × Entries)) :
    (Writer.document sections).toList = [] ∨
      ∃ rest, (Writer.document sections).toList = '[' :: rest := by
  have bracket : "[".toList = ['['] := by decide
  rw [Writer.document, String.toList_intercalate]
  match sections with
  | [] => exact .inl rfl
  | [s] => exact .inr (by simp [Writer.section_, bracket])
  | s :: t :: more => exact .inr (by simp [Writer.section_, bracket, List.intercalate_cons_cons])

-- ---------------------------------------------------------------------------
-- Drafts
-- ---------------------------------------------------------------------------

section
variable {d : Draft} {root entries : Entries} {name : String} {v : Value}

theorem find?_none (new : name ∉ entries.map (·.1)) : entries.find? name = none := by
  rw [Entries.find?, List.lookup_eq_none_iff]
  rintro p hp
  refine bne_iff_ne.mpr ?_
  rintro rfl
  exact new (List.mem_map_of_mem hp)

theorem erase_new (new : name ∉ entries.map (·.1)) : entries.erase name = entries := by
  refine List.filter_eq_self.mpr fun p hp => decide_eq_true ?_
  rintro rfl
  exact new (List.mem_map_of_mem hp)

namespace Draft

theorem step?_header (settled : d.settle? = some root) (new : name ∉ root.map (·.1)) :
    d.step? (.header ⟨[], name⟩) = some ⟨root, .table ⟨[], name⟩, []⟩ := by
  simp [step?, settled, withdraw?, reopen?, reopen?.lookup, Entries.change?, find?_none new,
    erase_new new]

theorem step?_assignment (new : name ∉ d.entries.map (·.1)) :
    d.step? (.assignment ⟨[], name⟩ v) = some { d with entries := d.entries ++ [(name, v)] } := by
  simp [step?, Entries.insert?, Entries.change?, Entries.add?, Entries.has, find?_none new,
    Form.isDotted]

theorem settle?_table (entries : Entries) (new : name ∉ root.map (·.1)) :
    settle? ⟨root, .table ⟨[], name⟩, entries⟩ =
      some (root ++ [(name, .table .header entries)]) := by
  simp [settle?, Entries.change?, Entries.add?, Entries.has, find?_none new]

theorem foldlM_assignments (d : Draft) (entries : Entries)
    (names : ((d.entries ++ entries).map (·.1)).Nodup) :
    (entries.map fun entry => Line.assignment ⟨[], entry.1⟩ entry.2).foldlM step? d =
      some { d with entries := d.entries ++ entries } := by
  induction entries generalizing d with
  | nil => simp
  | cons entry entries ih =>
    have new : entry.1 ∉ d.entries.map (·.1) := by
      intro there
      rw [List.map_append, List.map_cons] at names
      exact (List.nodup_append.mp names).2.2 _ there _ List.mem_cons_self rfl
    have later := ih { d with entries := d.entries ++ [entry] } (by simpa using names)
    rw [List.map_cons, List.foldlM_cons, step?_assignment new]
    simpa using later

theorem foldlM_section (settled : d.settle? = some root) (new : name ∉ root.map (·.1))
    (writable : Writable entries) :
    (sectionLines name entries).foldlM step? d = some ⟨root, .table ⟨[], name⟩, entries⟩ := by
  have body := foldlM_assignments ⟨root, .table ⟨[], name⟩, []⟩ entries
    (by simpa using writable.names)
  rw [sectionLines, List.foldlM_cons, step?_header settled new]
  simpa using body

theorem foldlM_document {sections : List (String × Entries)} (settled : d.settle? = some root)
    (names : (root.map (·.1) ++ sections.map (·.1)).Nodup)
    (writable : ∀ s ∈ sections, Writable s.2) :
    ∃ after, (documentLines sections).foldlM step? d = some after ∧
      after.settle? = some (root ++ sections.map fun s => (s.1, .table .header s.2)) := by
  induction sections generalizing d root with
  | nil => exact ⟨d, rfl, by simpa using settled⟩
  | cons s more ih =>
    have new : s.1 ∉ root.map (·.1) := fun there =>
      (List.nodup_append.mp names).2.2 _ there _ List.mem_cons_self rfl
    have here := foldlM_section settled new (writable s List.mem_cons_self)
    have closed := settle?_table s.2 new
    obtain ⟨after, reads, full⟩ := ih closed (by simpa using names)
      fun s h => writable s (List.mem_cons_of_mem _ h)
    refine ⟨after, ?_, by simpa using full⟩
    cases more with
    | nil =>
      cases reads
      simpa [documentLines] using here
    | cons t more =>
      simp only [documentLines, List.map_cons, List.intercalate_cons_cons, List.foldlM_append,
        List.foldlM_cons, List.foldlM_nil] at reads ⊢
      simpa [here, step?] using reads

end Draft

/-- A document is read as it was written. -/
theorem parse?_document {sections : List (String × Entries)} (names : (sections.map (·.1)).Nodup)
    (bare : ∀ s ∈ sections, Bare s.1) (writable : ∀ s ∈ sections, Writable s.2) :
    parse? (Writer.document sections) = some (sections.map fun s => (s.1, .table .header s.2)) := by
  have goes := document_goes bare writable
  obtain ⟨after, reads, full⟩ := Draft.foldlM_document (show Draft.empty.settle? = some [] from rfl)
    (by simpa using names) writable
  have found := goes.many (by simp [line, blanks, chars])
  have front : (discard (attempt (char '\ufeff')) : Scan Unit) (Writer.document sections).toList =
      some ((), (Writer.document sections).toList) := by
    obtain none | ⟨rest, some_⟩ := document_head sections
    · simp [none]
    · simp [some_]
  have all : lines (Writer.document sections).toList = some (documentLines sections, []) := by
    simp only [lines, run_bind, front, Option.bind_some, found]
    simp [blanks, chars]
  simp [parse?, all, reads, full]

end

end UsbBridge.Toml
