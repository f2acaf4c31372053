import Boundary.Config
import Boundary.Proofs.Toml.Keys

/-!
What a document makes of the defaults. Main statement: every setting is as the document gives it, or
else the default, whatever else the document says and in whatever order.
-/

namespace Boundary.Config

open Toml

inductive Key where
  | level
  | json
  | spans
  | file
  | engineThreadChecks
  deriving DecidableEq

namespace Key

def table : Key → String
  | level | json | spans | file => "logging"
  | engineThreadChecks => "bridge"

def name : Key → String
  | level => "level"
  | json => "json"
  | spans => "spans"
  | file => "file"
  | engineThreadChecks => "engine_thread_checks"

def isText : Key → Bool
  | level | file => true
  | json | spans | engineThreadChecks => false

def admits (key : Key) : Node → Bool
  | .string _ => key.isText
  | .boolean _ => !key.isText
  | _ => false

def shown : Key → Config → Option Node
  | level, config => some (.string config.logging.level)
  | json, config => some (.boolean config.logging.json)
  | spans, config => some (.boolean config.logging.spans)
  | file, config => config.logging.file.map .string
  | engineThreadChecks, config => some (.boolean config.bridge.engineThreadChecks)

theorem forall_iff {holds : Key → Prop} : (∀ key, holds key) ↔
    (holds level ∧ holds json ∧ holds spans ∧ holds file) ∧ holds engineThreadChecks := by
  refine ⟨fun all => ⟨⟨all _, all _, all _, all _⟩, all _⟩, ?_⟩
  rintro ⟨⟨_, _, _, _⟩, _⟩ (_ | _ | _ | _ | _) <;> assumption

theorem string_of_admits {key : Key} {node : Node} (text : key.isText = true)
    (fits : key.admits node = true) : ∃ text, node = .string text := by
  cases node with
  | string text => exact ⟨text, rfl⟩
  | _ => simp [admits, text] at fits

theorem boolean_of_admits {key : Key} {node : Node} (flag : key.isText = false)
    (fits : key.admits node = true) : ∃ value, node = .boolean value := by
  cases node with
  | boolean value => exact ⟨value, rfl⟩
  | _ => simp [admits, flag] at fits

theorem admits_of_shown {key : Key} {config : Config} {node : Node}
    (shown : key.shown config = some node) : key.admits node = true := by
  cases key with
  | file =>
      obtain ⟨path, _, same⟩ := Option.map_eq_some_iff.1 shown
      exact same ▸ rfl
  | _ => cases shown; rfl

end Key

/-- The sections that hold settings are tables where they are there at all. -/
def HasTables (entries : Entries) : Prop :=
  ∀ key : Key, ∀ node, (key.table, node) ∈ entries → ∃ child, node = .table child

/-- A document gives a setting: it stands in its section, at whatever place. -/
def Says (entries : Entries) (key : Key) (node : Node) : Prop :=
  ∃ child, (key.table, .table child) ∈ entries ∧ (key.name, node) ∈ child

def given? (entries : Entries) (table name : String) : Option Node :=
  match entries.find? table with
  | some (.table child) => Entries.find? child name
  | _ => none

variable {entries : Entries} {key : Key} {config : Config} {node : Node}

theorem says_iff (keyed : entries.Keyed) :
    Says entries key node ↔ given? entries key.table key.name = some node := by
  constructor
  · rintro ⟨child, outer, inner⟩
    have inside := Entries.keyed_table_iff.1 (keyed.inside _ outer)
    rw [given?, (Entries.find?_eq_some_iff keyed.keys).2 outer]
    exact (Entries.find?_eq_some_iff inside.keys).2 inner
  · intro given
    rw [given?] at given
    split at given
    · rename_i found
      exact ⟨_, Entries.mem_of_find? found, Entries.mem_of_find? given⟩
    · cases given

theorem given?_congr {others : Entries} (keyed : entries.Keyed) (otherKeyed : others.Keyed)
    (alike : ∀ node, Says others key node ↔ Says entries key node) :
    given? others key.table key.name = given? entries key.table key.name := by
  apply Option.ext
  intro node
  rw [← says_iff keyed, ← says_iff otherKeyed, alike]

section Setting

variable {given : Option Node}

theorem setting_string_iff {default text : String} : setting string? default given = some text ↔
    some (.string text) = given.or (some (.string default)) := by
  cases given with
  | none => simp [setting, eq_comm]
  | some node => cases node <;> simp [setting, string?, eq_comm]

theorem setting_boolean_iff {default value : Bool} : setting boolean? default given = some value ↔
    some (.boolean value) = given.or (some (.boolean default)) := by
  cases given with
  | none => simp [setting, eq_comm]
  | some node => cases node <;> simp [setting, boolean?, eq_comm]

theorem setting_file_iff {file : Option String} :
    setting (fun node => (string? node).map some) none given = some file ↔
      file.map .string = given.or none := by
  cases given with
  | none => simp [setting, eq_comm]
  | some node => cases node <;> simp [setting, string?, eq_comm]

end Setting

theorem section_eq {value : Type} (read : Lookup → Option value) {default : value}
    (agree : read (fun _ _ => none) = some default) {table : String}
    (tables : ∀ node, (table, node) ∈ entries → ∃ child, node = .table child) :
    setting (fun node => (lookup? node).bind read) default (entries.find? table) =
      read fun name _ => given? entries table name := by
  cases found : entries.find? table with
  | none => simp only [setting, given?, found, agree]
  | some node =>
      obtain ⟨child, rfl⟩ := tables node (Entries.mem_of_find? found)
      simp only [setting, given?, found, lookup?, Option.bind_some]

theorem loggingOf_eq_some_iff {given : String → Option Node} {logging : LoggingSection} :
    loggingOf (fun name _ => given name) = some logging ↔
      some (.string logging.level) = (given "level").or (some (.string defaultLevel)) ∧
      some (.boolean logging.json) = (given "json").or (some (.boolean defaultFalse)) ∧
      some (.boolean logging.spans) = (given "spans").or (some (.boolean defaultFalse)) ∧
      logging.file.map .string = (given "file").or none := by
  simp only [← setting_string_iff, ← setting_boolean_iff, ← setting_file_iff, loggingOf]
  constructor
  · intro found
    obtain ⟨level, isLevel, found⟩ := Option.bind_eq_some_iff.1 found
    obtain ⟨json, isJson, found⟩ := Option.bind_eq_some_iff.1 found
    obtain ⟨spans, isSpans, found⟩ := Option.bind_eq_some_iff.1 found
    obtain ⟨file, isFile, found⟩ := Option.bind_eq_some_iff.1 found
    cases found
    exact ⟨isLevel, isJson, isSpans, isFile⟩
  · rintro ⟨isLevel, isJson, isSpans, isFile⟩
    exact Option.bind_eq_some_iff.2 ⟨_, isLevel, Option.bind_eq_some_iff.2 ⟨_, isJson,
      Option.bind_eq_some_iff.2 ⟨_, isSpans, Option.bind_eq_some_iff.2 ⟨_, isFile, rfl⟩⟩⟩⟩

theorem bridgeOf_eq_some_iff {given : String → Option Node} {bridge : BridgeSection} :
    bridgeOf (fun name _ => given name) = some bridge ↔
      some (.boolean bridge.engineThreadChecks) =
        (given "engine_thread_checks").or (some (.boolean defaultTrue)) := by
  rw [← setting_boolean_iff, bridgeOf]
  cases setting boolean? defaultTrue (given "engine_thread_checks") with
  | none => simp
  | some checks =>
      obtain ⟨value⟩ := bridge
      simp

/-- A configuration is read off the sections exactly if each of its settings is as they give it, or
else the default. -/
theorem ofEntries?_eq_some_iff (tables : HasTables entries) : ofEntries? entries = some config ↔
    ∀ key : Key, key.shown config = (given? entries key.table key.name).or (key.shown {}) := by
  have logging : setting (fun node => (lookup? node).bind loggingOf) {} (entries.find? "logging") =
      loggingOf fun name _ => given? entries "logging" name := section_eq loggingOf rfl (tables .level)
  have bridge : setting (fun node => (lookup? node).bind bridgeOf) {} (entries.find? "bridge") =
      bridgeOf fun name _ => given? entries "bridge" name :=
    section_eq bridgeOf rfl (tables .engineThreadChecks)
  have sections : ofEntries? entries = some config ↔
      (loggingOf fun name _ => given? entries "logging" name) = some config.logging ∧
        (bridgeOf fun name _ => given? entries "bridge" name) = some config.bridge := by
    rw [ofEntries?, ← logging, ← bridge]
    constructor
    · intro found
      obtain ⟨inner, isLogging, found⟩ := Option.bind_eq_some_iff.1 found
      obtain ⟨outer, isBridge, found⟩ := Option.bind_eq_some_iff.1 found
      cases found
      exact ⟨isLogging, isBridge⟩
    · rintro ⟨isLogging, isBridge⟩
      exact Option.bind_eq_some_iff.2 ⟨_, isLogging, Option.bind_eq_some_iff.2 ⟨_, isBridge, rfl⟩⟩
  rw [sections, loggingOf_eq_some_iff, bridgeOf_eq_some_iff, Key.forall_iff]
  rfl

theorem exists_given {value : Type} {wrap : value → Node} {given : Option Node} (default : value)
    (fits : ∀ node, given = some node → ∃ inner, node = wrap inner) :
    ∃ inner, some (wrap inner) = given.or (some (wrap default)) := by
  cases given with
  | none => exact ⟨default, rfl⟩
  | some node =>
      obtain ⟨inner, rfl⟩ := fits node rfl
      exact ⟨inner, rfl⟩

theorem exists_overlay_iff {given : Key → Option Node} :
    (∃ config : Config, ∀ key : Key, key.shown config = (given key).or (key.shown {})) ↔
      ∀ key node, given key = some node → key.admits node = true := by
  constructor
  · rintro ⟨config, shows⟩ key node isGiven
    have shown := shows key
    rw [isGiven, Option.some_or] at shown
    exact Key.admits_of_shown shown
  · intro fits
    obtain ⟨level, isLevel⟩ := exists_given defaultLevel fun node isGiven =>
      Key.string_of_admits rfl (fits .level node isGiven)
    obtain ⟨json, isJson⟩ := exists_given defaultFalse fun node isGiven =>
      Key.boolean_of_admits rfl (fits .json node isGiven)
    obtain ⟨spans, isSpans⟩ := exists_given defaultFalse fun node isGiven =>
      Key.boolean_of_admits rfl (fits .spans node isGiven)
    obtain ⟨checks, isChecks⟩ := exists_given defaultTrue fun node isGiven =>
      Key.boolean_of_admits rfl (fits .engineThreadChecks node isGiven)
    have isFile : ∃ path : Option String, path.map Node.string = (given .file).or none := by
      cases isGiven : given .file with
      | none => exact ⟨none, rfl⟩
      | some node =>
          obtain ⟨path, rfl⟩ := Key.string_of_admits rfl (fits .file node isGiven)
          exact ⟨some path, rfl⟩
    obtain ⟨file, isFile⟩ := isFile
    refine ⟨⟨⟨level, json, spans, file⟩, ⟨checks⟩⟩, Key.forall_iff.2 ?_⟩
    exact ⟨⟨isLevel, isJson, isSpans, isFile⟩, isChecks⟩

theorem parse_ok_iff {toml : Format} {text : String} (read : toml.read? text = some entries) :
    parse toml text = .ok config ↔ ofEntries? entries = some config := by
  rw [parse, read, Option.bind_some]
  cases ofEntries? entries <;> simp

/-- Let the sections of a document be tables where they are there at all. It is a configuration
exactly if it gives each setting in its type, or not at all; and then it is the one in which each
setting is as the document gives it, or else the default. No setting depends on the other keys, on the
order of keys and sections, or on keys and sections that are not known: where two such documents give
it alike, it is alike, and where they give all settings alike, they are read alike. -/
theorem document_overlays_defaults (toml : Format) (hands : toml.HandsOverTables) (text : String)
    (entries : Entries) (read : toml.read? text = some entries) (tables : HasTables entries) :
    ((∃ config, parse toml text = .ok config) ↔
      ∀ key node, Says entries key node → key.admits node = true) ∧
    (∀ config, parse toml text = .ok config ↔ ∀ key : Key,
      (∀ node, Says entries key node → key.shown config = some node) ∧
        ((∀ node, ¬ Says entries key node) → key.shown config = key.shown {})) ∧
    ∀ (other : String) (others : Entries), toml.read? other = some others → HasTables others →
      (∀ config changed, parse toml text = .ok config → parse toml other = .ok changed →
        ∀ key : Key, (∀ node, Says others key node ↔ Says entries key node) →
          key.shown changed = key.shown config) ∧
      ((∀ key node, Says others key node ↔ Says entries key node) →
        parse toml other = parse toml text) := by
  have keyed := hands text entries read
  refine ⟨?_, ?_, ?_⟩
  · simp only [parse_ok_iff read, ofEntries?_eq_some_iff tables, says_iff keyed]
    exact exists_overlay_iff
  · intro config
    rw [parse_ok_iff read, ofEntries?_eq_some_iff tables]
    refine forall_congr' fun key => ?_
    simp only [says_iff keyed]
    cases given? entries key.table key.name with
    | none => simp
    | some node => simp
  · intro other others otherRead otherTables
    have otherKeyed := hands other others otherRead
    refine ⟨fun config changed parsed otherParsed key alike => ?_, fun alike => ?_⟩
    · rw [(ofEntries?_eq_some_iff tables).1 ((parse_ok_iff read).1 parsed) key,
        (ofEntries?_eq_some_iff otherTables).1 ((parse_ok_iff otherRead).1 otherParsed) key,
        given?_congr keyed otherKeyed alike]
    · have same : ofEntries? others = ofEntries? entries := by
        apply Option.ext
        intro config
        rw [ofEntries?_eq_some_iff tables, ofEntries?_eq_some_iff otherTables]
        simp only [given?_congr keyed otherKeyed (alike _)]
      rw [parse, parse, read, otherRead, Option.bind_some, Option.bind_some, same]

namespace Sample

def scattered : String :=
  "bridge.engine_thread_checks = false\n[x]\nlevel = 3\n[logging]\nlevels = 1\nfile = 'a.log'\n"

def scatteredDrafts : Drafts :=
  [("bridge", .table .dotted [("engine_thread_checks", .boolean false)]),
    ("x", .table .header [("level", .integer 3)]),
    ("logging", .table .header [("levels", .integer 1), ("file", .string "a.log")])]

def gathered : String :=
  "logging = \x7bfile = 'a.log'\x7d\n[bridge]\nengine_thread_checks = false\n"

def gatheredDrafts : Drafts :=
  [("logging", .table .inline [("file", .string "a.log")]),
    ("bridge", .table .header [("engine_thread_checks", .boolean false)])]

end Sample

theorem scattered_settings_found :
    (plain none).HandsOverTables ∧
      (plain none).read? Sample.scattered = some (fields Sample.scatteredDrafts) ∧
      HasTables (fields Sample.scatteredDrafts) ∧
      (∃ config, parse (plain none) Sample.scattered = .ok config ∧
        Key.file.shown config = some (.string "a.log") ∧
        Key.level.shown config = Key.level.shown {}) ∧
      parse (plain none) Sample.gathered = parse (plain none) Sample.scattered := by
  have hands := plain_handsOverTables none
  have read : (plain none).read? Sample.scattered = some (fields Sample.scatteredDrafts) :=
    read?_of_drafts? rfl
  have otherRead : (plain none).read? Sample.gathered = some (fields Sample.gatheredDrafts) :=
    read?_of_drafts? rfl
  have tables : HasTables (fields Sample.scatteredDrafts) := by
    intro key node member
    cases key <;> simp [Sample.scatteredDrafts, fields, field, Draft.node, Key.table] at member <;> exact ⟨_, member⟩
  have otherTables : HasTables (fields Sample.gatheredDrafts) := by
    intro key node member
    cases key <;> simp [Sample.gatheredDrafts, fields, field, Draft.node, Key.table] at member <;> exact ⟨_, member⟩
  have given (key : Key) (node : Node) : Says (fields Sample.scatteredDrafts) key node ↔
      given? (fields Sample.scatteredDrafts) key.table key.name = some node :=
    says_iff (hands Sample.scattered _ read)
  have alike (key : Key) (node : Node) :
      Says (fields Sample.gatheredDrafts) key node ↔ Says (fields Sample.scatteredDrafts) key node := by
    rw [given, says_iff (hands Sample.gathered _ otherRead)]
    cases key <;> rfl
  obtain ⟨succeeds, shows, agrees⟩ := document_overlays_defaults (plain none) hands Sample.scattered
    (fields Sample.scatteredDrafts) read tables
  have fits : ∀ key node, Says (fields Sample.scatteredDrafts) key node → key.admits node = true := by
    intro key node isGiven
    rw [given] at isGiven
    cases key <;> cases isGiven <;> rfl
  obtain ⟨config, parsed⟩ := succeeds.2 fits
  refine ⟨hands, read, tables, ⟨config, parsed, ?_, ?_⟩, ?_⟩
  · exact ((shows config).1 parsed .file).1 _ ((given .file _).2 rfl)
  · refine ((shows config).1 parsed .level).2 fun node isGiven => ?_
    cases (given .level node).1 isGiven
  · exact (agrees Sample.gathered (fields Sample.gatheredDrafts) otherRead otherTables).2 alike

end Boundary.Config
