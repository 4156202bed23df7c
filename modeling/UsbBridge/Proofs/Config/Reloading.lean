import UsbBridge.Config.File
import UsbBridge.Proofs.Duration.Written
import UsbBridge.Proofs.Files.Writing
import UsbBridge.Proofs.Toml.Documents
import UsbBridge.Proofs.Wire.Readers

/-!
# Saved configurations

The bridge's configuration and the consumer's are written as documents and read again. Every field
comes back as it was, except that a file shows the open timeout in whole milliseconds of 64 bits,
and has no room for a request timeout of `2 ^ 63` seconds or more (`validated_reload`).
-/

namespace UsbBridge

open Toml Config

-- ---------------------------------------------------------------------------
-- Documents
-- ---------------------------------------------------------------------------

theorem Toml.Bare.of_all {name : String} (some_ : name.toList ≠ [])
    (shown : name.toList.all Scan.isBare = true) : Bare name :=
  ⟨some_, List.all_eq_true.mp shown⟩

theorem Config.readTexts_strings (texts : List String) :
    readTexts (.array (texts.map .string)) = .ok texts := by
  show (texts.map Value.string).mapM readText = .ok texts
  induction texts with
  | nil => rfl
  | cons s texts ih =>
    rw [List.map_cons, List.mapM_cons, ih]
    rfl

theorem StrategyChoice.ofName?_name (choice : StrategyChoice) :
    ofName? choice.name = some choice := by
  cases choice <;> decide

namespace ServerConfig

variable (env : Environment) (c : ServerConfig)

/-- The milliseconds of the open timeout that a file shows. -/
def shownMillis : Nat := c.handoff.openTimeout.millis % Text.wordSize

def shown : ServerConfig :=
  { c with handoff := { c.handoff with openTimeout := .ofMillis c.shownMillis } }

def sections : List (String × Entries) :=
  [("server", [("socket_path", .string c.server.socketPath),
      ("service_mode", .boolean c.server.serviceMode),
      ("log_level", .string c.server.logLevel)]),
    ("usb", [("filters", .array (c.usb.filters.map .string)),
      ("cdc_acm_only", .boolean c.usb.serialLineOnly),
      ("skip_root_hubs", .boolean c.usb.skipRootHubs)]),
    ("handoff", [("dup_strategy", .string c.handoff.strategy.name),
      ("open_timeout", .string c.handoff.openTimeout.format)])]

theorem parse?_toText :
    parse? c.toText = some (c.sections.map fun s => (s.1, .table .header s.2)) := by
  refine parse?_document (by simp) ?_ ?_
  · simp only [List.forall_mem_cons, List.not_mem_nil, false_imp_iff, implies_true, and_true]
    refine ⟨?_, ?_, ?_⟩ <;> exact .of_all (by decide) (by decide)
  · simp only [List.forall_mem_cons, List.not_mem_nil, false_imp_iff, implies_true, and_true]
    refine ⟨⟨by simp, ?_, ?_⟩, ⟨by simp, ?_, ?_⟩, ⟨by simp, ?_, ?_⟩⟩ <;>
      simp only [List.forall_mem_cons, List.not_mem_nil, false_imp_iff, implies_true, and_true]
    · refine ⟨?_, ?_, ?_⟩ <;> exact .of_all (by decide) (by decide)
    · exact ⟨.string _, .boolean _, .string _⟩
    · refine ⟨?_, ?_, ?_⟩ <;> exact .of_all (by decide) (by decide)
    · exact ⟨.texts _, .boolean _, .boolean _⟩
    · refine ⟨?_, ?_⟩ <;> exact .of_all (by decide) (by decide)
    · exact ⟨.string _, .string _⟩

theorem ofEntries_sections :
    ofEntries env (c.sections.map fun s => (s.1, .table .header s.2)) =
      if c.shownMillis = 0 then .error (.duration .zero) else .ok c.shown := by
  have strategy : readStrategy (.string c.handoff.strategy.name) = .ok c.handoff.strategy := by
    rw [readStrategy, strategyNamed, StrategyChoice.ofName?_name]
  have timeout : readDuration (.string c.handoff.openTimeout.format) =
      if c.shownMillis = 0 then .error (.duration .zero) else .ok (.ofMillis c.shownMillis) := by
    have parsed := Duration.parse_format c.handoff.openTimeout
    simp only [readDuration, readText, bind, Except.bind, shownMillis]
    rw [parsed]
    by_cases zero : c.handoff.openTimeout.millis % Text.wordSize = 0 <;> simp [zero]
  simp only [ofEntries, readSection, fields, serverFields, usbFields, handoffFields, sections,
    List.map_cons, List.map_nil, List.foldlM_cons, List.foldlM_nil, BEq.rfl,
    List.find?_cons_of_pos, List.find?_cons_of_neg, String.reduceBEq, Bool.false_eq_true,
    not_false_eq_true, readText, readFlag, readTexts_strings, strategy, timeout]
  by_cases zero : c.shownMillis = 0
  · rw [if_pos zero, if_pos zero]
    rfl
  · rw [if_neg zero, if_neg zero]
    rfl

/-- Of the open timeout it only matters that there is one. -/
theorem validate_shown (some_ : c.shownMillis ≠ 0) : c.shown.validate = c.validate := by
  have here : c.handoff.openTimeout.nanos ≠ 0 := by
    intro zero
    refine some_ ?_
    simp [shownMillis, Duration.millis, zero]
  have there : (Duration.ofMillis c.shownMillis).nanos ≠ 0 := by
    simp only [Duration.ofMillis]
    omega
  simp only [validate, shown, here, there, if_false]

/-- Whoever loads what was written gets what it shows, unless that is no time at all. -/
theorem ofText_toText (valid : c.validate = .ok ()) :
    ofText env c.toText =
      if c.shownMillis = 0 then .error (.malformed (.duration .zero)) else .ok c.shown := by
  by_cases zero : c.shownMillis = 0
  · simp only [ofText, parse?_toText, ofEntries_sections, if_pos zero]
  · have again := (c.validate_shown zero).trans valid
    simp only [ofText, parse?_toText, ofEntries_sections, if_neg zero, again]

end ServerConfig

namespace ClientConfig

variable (env : Environment) (c : ClientConfig)

def sections : List (String × Entries) :=
  [("client", [("socket_path", .string c.socketPath), ("log_level", .string c.logLevel),
    ("request_timeout_secs", .integer c.requestTimeoutSeconds)])]

theorem parse?_sections (small : c.requestTimeoutSeconds < signedBound) :
    parse? (Writer.document c.sections) =
      some (c.sections.map fun s => (s.1, .table .header s.2)) := by
  refine parse?_document (by simp [sections]) ?_ ?_
  · simp only [sections, List.forall_mem_cons, List.not_mem_nil, false_imp_iff, implies_true,
      and_true]
    exact .of_all (by decide) (by decide)
  · simp only [sections, List.forall_mem_cons, List.not_mem_nil, false_imp_iff, implies_true,
      and_true]
    refine ⟨by simp, ?_, ?_⟩ <;>
      simp only [List.forall_mem_cons, List.not_mem_nil, false_imp_iff, implies_true, and_true]
    · refine ⟨?_, ?_, ?_⟩ <;> exact .of_all (by decide) (by decide)
    · exact ⟨.string _, .string _, .natural small⟩

theorem ofEntries_sections :
    ofEntries env (c.sections.map fun s => (s.1, .table .header s.2)) = .ok c := by
  have seconds : readCount (.integer c.requestTimeoutSeconds) = .ok c.requestTimeoutSeconds := by
    simp [readCount]
  simp only [ofEntries, readSection, fields, sectionFields, sections,
    List.map_cons, List.map_nil, List.foldlM_cons, List.foldlM_nil, BEq.rfl,
    List.find?_cons_of_pos, List.find?_cons_of_neg, String.reduceBEq, Bool.false_eq_true,
    not_false_eq_true, readText, seconds]
  rfl

theorem ofText_sections (small : c.requestTimeoutSeconds < signedBound)
    (valid : c.validate = .ok ()) : ofText env (Writer.document c.sections) = .ok c := by
  simp only [ofText, parse?_sections c small, ofEntries_sections, valid]

end ClientConfig

-- ---------------------------------------------------------------------------
-- Files
-- ---------------------------------------------------------------------------

namespace Config

/-- A path at which a file can be saved: the directories on the way are there or can be made, and a
file may take its place. -/
def Writable (tree : FileTree) (path : String) : Prop :=
  ∃ after, save (some "") tree path = .ok after

variable {tree : FileTree} {path : String}

/-- First the directories are made, whatever is to be written. -/
theorem save_prepares {empty : FileTree} (saved : save (some "") tree path = .ok empty) :
    ∃ made : FileTree, made.write path (Wire.utf8 "") = .ok empty ∧
      ∀ text after, made.write path (Wire.utf8 text) = .ok after →
        save (some text) tree path = .ok after := by
  unfold save at saved ⊢
  simp only [bind, Except.bind] at saved ⊢
  cases up : Path.parent? path with
  | none =>
    simp only [up] at saved ⊢
    refine ⟨tree, ?_, fun text after written => by rw [written]⟩
    split at saved
    · rename_i written
      rw [written, Except.ok.inj saved]
    · cases saved
  | some parent =>
    simp only [up] at saved ⊢
    cases directories : tree.makeDirectories (Path.parts parent).reverse with
    | error e => simp [directories] at saved
    | ok made =>
      simp only [directories] at saved ⊢
      refine ⟨made, ?_, fun text after written => by rw [written]⟩
      split at saved
      · rename_i written
        rw [written, Except.ok.inj saved]
      · cases saved

theorem save_read (writable : Writable tree path) (text : String) :
    ∃ after, save (some text) tree path = .ok after ∧ readTextFile after path = .ok text := by
  obtain ⟨empty, saved⟩ := writable
  obtain ⟨made, written, saves⟩ := save_prepares saved
  obtain ⟨after, there, same⟩ := FileTree.write_read written (Wire.utf8 text)
  exact ⟨after, saves text after there, by simp only [readTextFile, same, Wire.ofUtf8?_utf8]⟩

theorem load_saved {role : Role} {ofText : String → Except Refusal γ} {env : Environment}
    {text : String} (same : readTextFile tree path = .ok text) :
    load role ofText env tree (some path) =
      (ofText text).mapError (.refused path role) := by
  simp only [load, chosen, same, bind, Except.bind]
  cases ofText text <;> rfl

end Config

variable {env : Environment} {tree : FileTree} {path : String}

structure ServerConfig.Reloads (c : ServerConfig) (env : Environment) (tree : FileTree)
    (path : String) : Prop where
  /-- It can be saved; loading gives what the file shows, and a file that shows no open timeout is
  refused. -/
  shown : ∃ after, c.save tree path = .ok after ∧
    ServerConfig.load env after (some path) = if c.shownMillis = 0
      then .error (.refused path .server (.malformed (.duration .zero))) else .ok c.shown
  /-- It comes back as it was when the open timeout is a count of milliseconds in 64 bits, and only
  then. -/
  same : ∀ after, c.save tree path = .ok after →
    (ServerConfig.load env after (some path) = .ok c ↔
      ∃ ms, 0 < ms ∧ ms < Text.wordSize ∧ c.handoff.openTimeout = .ofMillis ms)

structure ClientConfig.Reloads (c : ClientConfig) (env : Environment) (tree : FileTree)
    (path : String) : Prop where
  same : c.requestTimeoutSeconds < signedBound → ∃ after, c.save tree path = .ok after ∧
    ClientConfig.load env after (some path) = .ok c
  /-- A document has no room for larger numbers. -/
  unsaved : signedBound ≤ c.requestTimeoutSeconds → c.save tree path = .error .notSerializable

theorem ServerConfig.shown_eq_iff {c : ServerConfig} : c.shownMillis ≠ 0 ∧ c.shown = c ↔
    ∃ ms, 0 < ms ∧ ms < Text.wordSize ∧ c.handoff.openTimeout = .ofMillis ms := by
  constructor
  · rintro ⟨some_, same⟩
    refine ⟨c.shownMillis, Nat.pos_of_ne_zero some_, Nat.mod_lt _ (by decide), ?_⟩
    exact (congrArg (fun c : ServerConfig => c.handoff.openTimeout) same).symm
  · rintro ⟨ms, some_, small, same⟩
    have whole : c.handoff.openTimeout.millis = ms := by
      simp [same, Duration.millis, Duration.ofMillis]
    have millis : c.shownMillis = ms := by
      rw [shownMillis, whole, Nat.mod_eq_of_lt small]
    refine ⟨by omega, ?_⟩
    rw [shown, millis, ← same]

theorem ServerConfig.reloads {c : ServerConfig} (writable : Writable tree path)
    (valid : c.validate = .ok ()) : c.Reloads env tree path := by
  obtain ⟨after, saved, same⟩ := save_read writable c.toText
  have loaded : ServerConfig.load env after (some path) = if c.shownMillis = 0
      then .error (.refused path .server (.malformed (.duration .zero))) else .ok c.shown := by
    rw [ServerConfig.load, load_saved same, ofText_toText env c valid]
    split <;> rfl
  refine ⟨⟨after, saved, loaded⟩, fun after' saved' => ?_⟩
  obtain rfl : after = after' := Except.ok.inj (saved.symm.trans saved')
  rw [loaded, ← shown_eq_iff]
  split
  · simp_all
  · simp_all

theorem ClientConfig.reloads {c : ClientConfig} (writable : Writable tree path)
    (valid : c.validate = .ok ()) : c.Reloads env tree path := by
  refine ⟨fun small => ?_, fun large => ?_⟩
  · obtain ⟨after, saved, same⟩ := save_read writable (Writer.document c.sections)
    refine ⟨after, ?_, ?_⟩
    · rw [ClientConfig.save, toText?, if_neg (by omega)]
      exact saved
    · rw [ClientConfig.load, load_saved same, ofText_sections env c small valid]
      rfl
  · rw [ClientConfig.save, toText?, if_pos large]
    rfl

/-- A valid configuration can be saved at every path that can be written, and loading gives what the
file has room for: all of a bridge's configuration but the part of the open timeout below a
millisecond and above 64 bits, and all of a consumer's below `2 ^ 63` seconds. -/
theorem validated_reload (env : Environment) (tree : FileTree) (path : String)
    (writable : Writable tree path) :
    (∀ c : ServerConfig, c.validate = .ok () → c.Reloads env tree path) ∧
      ∀ c : ClientConfig, c.validate = .ok () → c.Reloads env tree path :=
  ⟨fun _ valid => ServerConfig.reloads writable valid,
    fun _ valid => ClientConfig.reloads writable valid⟩

theorem ok_of_isOk {x : Except ε Unit} (h : x.isOk = true) : x = .ok () := by
  cases x with
  | ok => rfl
  | error => cases h

theorem name_writable : Writable ⟨[]⟩ "b" := by
  have parts : Path.parts "b" = ["b"] := by
    rw [Path.parts, String.splitOn, if_neg (by decide), String.splitOnAux,
      if_neg (by decide +kernel), if_neg (by decide +kernel), String.splitOnAux,
      if_pos (by decide +kernel)]
    decide +kernel
  have none : Path.parts "" = [] := by
    rw [Path.parts, String.splitOn, if_neg (by decide), String.splitOnAux,
      if_pos (by decide +kernel)]
    decide +kernel
  have up : Path.parent? "b" = some "" := by
    rw [Path.parent?, parts]
    decide +kernel
  have file : FileTree.namesDirectory "b" = false := by decide +kernel
  refine ⟨⟨[(["b"], .file (Wire.utf8 ""))]⟩, ?_⟩
  simp [save, up, parts, none, file, FileTree.makeDirectories, FileTree.write, FileTree.resolve,
    FileTree.entry?, FileTree.put, bind, Except.bind]

/-- A bridge's configuration with an open timeout of one second comes back. -/
theorem second_reloaded :
    let c : ServerConfig := ⟨⟨"/run/bridge.sock", false, "info"⟩, ⟨["0x1209:*"], false, true⟩,
      ⟨.auto, .ofSeconds 1⟩⟩
    Writable ⟨[]⟩ "b" ∧ c.validate = .ok () ∧ ∃ after, c.save ⟨[]⟩ "b" = .ok after ∧
      ServerConfig.load default after (some "b") = .ok c := by
  intro c
  have valid : c.validate = .ok () := ok_of_isOk (by decide +kernel)
  have reloads := (validated_reload default ⟨[]⟩ "b" name_writable).1 c valid
  obtain ⟨after, saved, -⟩ := reloads.shown
  exact ⟨name_writable, valid, after, saved, (reloads.same after saved).mpr
    ⟨1000, by decide, by decide, rfl⟩⟩

/-- A bridge's configuration with an open timeout of half a millisecond is valid and can be saved,
but not loaded again. -/
theorem half_millisecond_refused :
    let c : ServerConfig := ⟨⟨"/run/bridge.sock", false, "info"⟩, ⟨[], false, true⟩,
      ⟨.auto, .ofMicros 500⟩⟩
    c.validate = .ok () ∧ ∃ after, c.save ⟨[]⟩ "b" = .ok after ∧
      ServerConfig.load default after (some "b") =
        .error (.refused "b" .server (.malformed (.duration .zero))) := by
  intro c
  have valid : c.validate = .ok () := ok_of_isOk (by decide +kernel)
  have reloads : c.Reloads default ⟨[]⟩ "b" := ServerConfig.reloads name_writable valid
  have none : c.shownMillis = 0 := by decide
  obtain ⟨after, saved, loaded⟩ := reloads.shown
  exact ⟨valid, after, saved, by rw [loaded, if_pos none]⟩

end UsbBridge
