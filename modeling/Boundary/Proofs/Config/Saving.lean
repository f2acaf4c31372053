import Boundary.Config.Discovery
import Boundary.Proofs.Files.Tree
import Boundary.Proofs.Text.Utf8
import Boundary.Proofs.Toml.Plain

/-!
Configurations that are written and read again. Main statement: in every format whose reader inverts its
writer, what was saved is loaded, whatever the level and the log file are called.
-/

namespace Boundary.Config

open Toml

theorem sections_wellFormed (config : Config) : config.sections.WellFormed where
  names := by simp [sections]
  keys := by simp [sections]
  wordNames := by
    simp only [sections, List.forall_mem_cons]
    decide
  wordKeys := by
    simp only [sections, List.forall_mem_cons]
    decide

/-- Nothing is lost between a configuration and its sections: no setting is taken for its default, and
an absent log file stays absent. -/
theorem ofEntries?_sections (config : Config) : ofEntries? config.sections.entries = some config := by
  obtain ⟨⟨level, json, spans, file⟩, ⟨checks⟩⟩ := config
  cases file <;> rfl

section Written

variable {toml : Format} {config : Config} {tree after : FileTree} {path : Path}

theorem exists_written (inverts : toml.Inverts) (config : Config) :
    ∃ text, config.render toml = .ok (.ok text) ∧ parse toml text = .ok config := by
  obtain ⟨text, written, read⟩ := inverts config.sections config.sections_wellFormed
  refine ⟨text, by rw [render, written]; rfl, ?_⟩
  rw [parse, read, Option.bind_some, ofEntries?_sections]

theorem readText_of_read {text : String} (read : tree.read path = .ok (Utf8.bytes text)) :
    tree.readText path = .ok text := by
  rw [FileTree.readText, read]
  simp [bind, Except.bind, Utf8.decode?_bytes]

theorem readText_of_save (saved : config.save toml tree path = .ok (.ok after)) :
    ∃ text, config.render toml = .ok (.ok text) ∧ after.readText path = .ok text := by
  rw [save] at saved
  rcases rendered : config.render toml with cause | error | text <;>
    rw [rendered] at saved <;> simp only [bind, Except.bind] at saved
  · cases saved
  · cases saved
  · cases written : tree.write path (Utf8.bytes text) with
    | error error =>
        rw [written] at saved
        cases saved
    | ok filled =>
        rw [written] at saved
        cases saved
        exact ⟨text, rfl, readText_of_read (FileTree.read_of_write written)⟩

theorem load_of_save (inverts : toml.Inverts) (saved : config.save toml tree path = .ok (.ok after)) :
    load toml after path = .ok config := by
  obtain ⟨text, rendered, read⟩ := readText_of_save saved
  obtain ⟨same, again, parsed⟩ := exists_written inverts config
  rw [rendered] at again
  cases again
  rw [load, read]
  exact parsed

theorem exists_save {text : String} (rendered : config.render toml = .ok (.ok text))
    (writable : tree.Writable path) : ∃ after, config.save toml tree path = .ok (.ok after) := by
  obtain ⟨after, written, _⟩ := FileTree.read_of_writable writable (Utf8.bytes text)
  refine ⟨after, ?_⟩
  rw [save, rendered]
  simp [bind, Except.bind, written]

end Written

/-- Let a format find again what it wrote of texts and flags. Then every configuration is written, and
read back as it was; to every path that can be written it is saved, as the text it is written as, and
loaded from there as it was. The text of the defaults is read as the defaults. -/
theorem config_survives_saving (toml : Format) (inverts : toml.Inverts) (config : Config) :
    (∃ text, config.render toml = .ok (.ok text) ∧ parse toml text = .ok config ∧
      ∀ tree : FileTree, ∀ path, tree.Writable path →
        ∃ after, config.save toml tree path = .ok (.ok after) ∧ after.readText path = .ok text) ∧
    (∀ tree path after, config.save toml tree path = .ok (.ok after) →
      load toml after path = .ok config) ∧
    ∃ text, generateDefault toml = .ok text ∧ parse toml text = .ok {} := by
  obtain ⟨text, rendered, parsed⟩ := exists_written inverts config
  refine ⟨⟨text, rendered, parsed, fun tree path writable => ?_⟩,
    fun tree path after => load_of_save inverts, ?_⟩
  · obtain ⟨after, saved⟩ := exists_save rendered writable
    obtain ⟨same, again, read⟩ := readText_of_save saved
    rw [rendered] at again
    cases again
    exact ⟨after, saved, read⟩
  · obtain ⟨text, written, same⟩ := exists_written inverts {}
    exact ⟨text, by rw [generateDefault, written]; rfl, same⟩

namespace Sample

def awkward : Config where
  logging := {
    level := "\"\"\"'''\\\"\"\"\"\n[bridge]\r\nengine_thread_checks = 1\t\x00\x7f\ufeffé😀\""
    spans := true
    file := some "" }
  bridge := ⟨false⟩

def tree : FileTree where
  name := "root"
  files := [(["etc", "out.toml"], [0x5b]), (["etc", "tagbridge.toml"], [])]
  directories := [["etc"]]
  refused := [(["etc", "tagbridge.toml"], .permissionDenied)]

def path : Path := ⟨false, [".", "etc", "", "..", "etc", "out.toml"]⟩

end Sample

theorem awkward_config_survives_saving :
    (plain none).Inverts ∧ Sample.tree.Writable Sample.path ∧
      ∃ after, Sample.awkward.save (plain none) Sample.tree Sample.path = .ok (.ok after) ∧
        load (plain none) after Sample.path = .ok Sample.awkward := by
  have clean : (Sample.path.parts.any (·.contains '\x00')) = false := by simp [Sample.path]
  have checked : FileTree.checkPath Sample.path = .ok () := by
    rw [FileTree.checkPath, clean]
    rfl
  have writable : Sample.tree.Writable Sample.path := by
    refine ⟨rfl, ["etc", "out.toml"], ?_⟩
    rw [FileTree.target, FileTree.locateFrom, checked]
    rfl
  obtain ⟨⟨_, _, _, saves⟩, loads, _⟩ :=
    config_survives_saving (plain none) plain_inverts Sample.awkward
  obtain ⟨after, saved, _⟩ := saves Sample.tree Sample.path writable
  exact ⟨plain_inverts, writable, after, saved, loads _ _ _ saved⟩

end Boundary.Config
