import Boundary.Config.Discovery
import Boundary.Proofs.Files.Path
import Boundary.Proofs.Files.Tree
import Boundary.Toml.Plain

/-!
Finding a configuration from a directory upwards. Main statement: the nearest file that loads decides
alone, and the default stands in only where none loads.
-/

namespace Boundary.Config

/-- What the file of a directory says, if it is there and loads. -/
def usable? (toml : Toml.Format) (tree : FileTree) (directory : Path) : Option Config :=
  (load toml tree (directory.join fileName)).toOption

variable {toml : Toml.Format} {tree other : FileTree} {start directory : Path} {config : Config}

section Directory

theorem contains_of_readText {path : Path} {text : String} (read : tree.readText path = .ok text) :
    tree.contains path = true := by
  rw [FileTree.readText, FileTree.read] at read
  rw [FileTree.contains]
  cases located : tree.locate path with
  | error error =>
      rw [located] at read
      cases read
  | ok location =>
      rw [located] at read
      cases found : tree.file? location with
      | some bytes => simp [found]
      | none =>
          simp only [bind, Except.bind, found] at read
          cases proper : tree.isDirectory location <;> simp [proper] at read

theorem usable?_eq_some_iff : usable? toml tree directory = some config ↔
    ∃ text, tree.readText (directory.join fileName) = .ok text ∧ parse toml text = .ok config := by
  rw [usable?, load]
  cases tree.readText (directory.join fileName) with
  | error error => simp [Except.toOption]
  | ok text =>
      dsimp only
      cases parsed : parse toml text <;> simp [parsed, Except.toOption]

theorem load_of_usable (usable : usable? toml tree directory = some config) :
    load toml tree (directory.join fileName) = .ok config := by
  obtain ⟨text, read, parsed⟩ := usable?_eq_some_iff.1 usable
  rw [load, read]
  exact parsed

/-- All that makes a file unusable: there is nothing where its path leads, or a directory, or a file that
is refused, or bytes that are no text, or a text that is no configuration. -/
theorem usable?_of_checked {path : Path} (same : directory.join fileName = path)
    (checked : FileTree.checkPath path = .ok ()) :
    usable? toml tree directory =
      match tree.follow (if path.absolute then .top else []) path.parts with
      | .error _ => none
      | .ok location =>
        if tree.isDirectory location || (tree.access location).toOption.isNone then none
        else ((tree.file? location).bind Utf8.decode?).bind fun text =>
          (parse toml (String.ofList text)).toOption := by
  rw [usable?, same, load, FileTree.readText, FileTree.read, FileTree.locate_of_checked checked]
  cases tree.follow _ _ with
  | error error => rfl
  | ok location =>
      simp only [bind, Except.bind]
      cases tree.isDirectory location with
      | true => rfl
      | false =>
          cases tree.file? location with
          | none => cases tree.access location <;> rfl
          | some bytes =>
              cases tree.access location with
              | error error => rfl
              | ok _ => cases decoded : Utf8.decode? bytes <;> simp [decoded, Except.toOption]

theorem inDirectory_of_usable (usable : usable? toml tree directory = some config) :
    inDirectory toml tree directory = .ok config := by
  obtain ⟨text, read, _⟩ := usable?_eq_some_iff.1 usable
  rw [inDirectory, contains_of_readText read, load_of_usable usable]
  rfl

theorem inDirectory_of_unusable (unusable : usable? toml tree directory = none) :
    ∃ events, inDirectory toml tree directory = .error events := by
  rw [usable?] at unusable
  unfold inDirectory
  cases loaded : load toml tree (directory.join fileName) with
  | ok config =>
      rw [loaded] at unusable
      cases unusable
  | error error =>
      dsimp only
      split
      · exact ⟨_, by rw [loaded]⟩
      · exact ⟨_, rfl⟩

end Directory

theorem search_of_usable (usable : usable? toml tree start = some config) :
    (search toml tree start).1 = some config := by
  rw [search, inDirectory_of_usable usable]

theorem search_of_top (unusable : usable? toml tree start = none) (top : start.parent? = none) :
    (search toml tree start).1 = none := by
  obtain ⟨events, skipped⟩ := inDirectory_of_unusable unusable
  rw [search, skipped]
  dsimp only
  split
  · rfl
  · simp_all

theorem search_of_below {above : Path} (unusable : usable? toml tree start = none)
    (below : start.parent? = some above) :
    (search toml tree start).1 = (search toml tree above).1 := by
  obtain ⟨events, skipped⟩ := inDirectory_of_unusable unusable
  rw [search, skipped]
  dsimp only
  split
  · simp_all
  · simp_all

/-- A whole search finds the first usable file of the chain. -/
theorem search_eq_findSome? (toml : Toml.Format) (tree : FileTree) (start : Path) :
    (search toml tree start).1 = start.chain.findSome? (usable? toml tree) := by
  induction start using Path.chain.induct with
  | case1 start top =>
      rw [Path.chain_of_top top]
      cases usable : usable? toml tree start with
      | some config => simp [search_of_usable usable, usable]
      | none => simp [search_of_top usable top, usable]
  | case2 start above below ih =>
      rw [Path.chain_of_below below, List.findSome?_cons]
      cases usable : usable? toml tree start with
      | some config => simp [search_of_usable usable]
      | none => simp only [search_of_below usable below, ih]

theorem search_eq_none_iff : (search toml tree start).1 = none ↔
    ∀ directory ∈ start.chain, usable? toml tree directory = none := by
  rw [search_eq_findSome?, List.findSome?_eq_none_iff]

theorem discover_of_search (found : (search toml tree start).1 = some config) :
    (discover toml tree start).1 = config := by
  simp [discover, found]

/-- The search passes by the directories `nearer`, and `directory` is the first whose file loads. -/
structure Nearest (toml : Toml.Format) (tree : FileTree) (start : Path) (nearer : List Path)
    (directory : Path) (config : Config) : Prop where
  onChain : nearer ++ [directory] <+: start.chain
  passed : ∀ below ∈ nearer, usable? toml tree below = none
  usable : usable? toml tree directory = some config

section Nearest

variable {nearer : List Path}

theorem Nearest.search (nearest : Nearest toml tree start nearer directory config) :
    (search toml tree start).1 = some config := by
  obtain ⟨beyond, same⟩ := nearest.onChain
  rw [search_eq_findSome?, List.findSome?_eq_some_iff]
  exact ⟨nearer, directory, beyond, by simp [← same], nearest.usable, nearest.passed⟩

theorem exists_nearest (found : (search toml tree start).1 = some config) :
    ∃ nearer directory, Nearest toml tree start nearer directory config := by
  rw [search_eq_findSome?] at found
  obtain ⟨nearer, directory, beyond, same, usable, passed⟩ := List.findSome?_eq_some_iff.1 found
  exact ⟨nearer, directory, ⟨beyond, by simp [same]⟩, passed, usable⟩

theorem Nearest.congr (nearest : Nearest toml tree start nearer directory config)
    (alike : ∀ place ∈ nearer ++ [directory], usable? toml other place = usable? toml tree place) :
    Nearest toml other start nearer directory config where
  onChain := nearest.onChain
  passed below member :=
    (alike below (List.mem_append_left _ member)).trans (nearest.passed below member)
  usable := (alike directory (by simp)).trans nearest.usable

end Nearest

/-- From every directory, however deep, the search goes up through the lexical parents, and the file
of the first directory whose file loads is the result as it stands, whatever the format. It depends on
no other file: not on those of nearer directories, be they absent, unreadable or malformed, and not on
any beyond. The search finds nothing, and falls back on the default, exactly where no file on the way
up loads. -/
theorem nearest_usable_file_decides (toml : Toml.Format) (tree : FileTree) (start : Path) :
    (start.chain.map Path.names = start.names.inits.reverse ∧
      ∀ directory ∈ start.chain,
        directory.absolute = start.absolute ∧ directory.parts <+: start.parts) ∧
    (∀ nearer directory config, Nearest toml tree start nearer directory config →
      (search toml tree start).1 = some config ∧ (discover toml tree start).1 = config ∧
        ∀ other : FileTree,
          (∀ place ∈ nearer ++ [directory], usable? toml other place = usable? toml tree place) →
            (search toml other start).1 = some config ∧ (discover toml other start).1 = config) ∧
    (∀ config, (search toml tree start).1 = some config →
      ∃ nearer directory, Nearest toml tree start nearer directory config) ∧
    ((search toml tree start).1 = none ↔
      ∀ directory ∈ start.chain, usable? toml tree directory = none) ∧
    ((search toml tree start).1 = none → (discover toml tree start).1 = {}) := by
  refine ⟨⟨Path.names_chain start, fun directory => Path.isPrefix_of_mem_chain⟩, ?_,
    fun config => exists_nearest, search_eq_none_iff, fun missing => by simp [discover, missing]⟩
  intro nearer directory config nearest
  refine ⟨nearest.search, discover_of_search nearest.search, fun other alike => ?_⟩
  have found := (nearest.congr alike).search
  exact ⟨found, discover_of_search found⟩

namespace Sample

def warning : List UInt8 := Utf8.bytes "[logging]\nlevel = \"warn\"\n"

def malformed : List UInt8 := Utf8.bytes "[logging\n"

def directories : List Location :=
  [["a"], ["a", "b"], ["a", "b", "c"], ["a", "b", "c", "tagbridge.toml"], ["a", "b", "c", "d"]]

def tracing : List UInt8 := Utf8.bytes "[logging]\nspans = true\n"

def brokenBelow : FileTree where
  name := "root"
  files := [(["tagbridge.toml"], tracing),
    (["a", "tagbridge.toml"], warning), (["a", "b", "tagbridge.toml"], malformed)]
  directories := directories

/-- The same valid file with nothing beyond and other files below it, of which one would load but may
not be read. -/
def brokenOtherwise : FileTree where
  name := "root"
  files := [(["a", "tagbridge.toml"], warning), (["a", "b", "tagbridge.toml"], [0xff]),
    (["a", "b", "c", "d", "tagbridge.toml"], tracing)]
  directories := directories
  refused := [(["a", "b", "c", "d", "tagbridge.toml"], .permissionDenied)]

def deep : Path := ⟨false, ["a", ".", "b", "c", "d", ""]⟩

def passed : List Path := [deep, ⟨false, ["a", ".", "b", "c"]⟩, ⟨false, ["a", ".", "b"]⟩]

def decisive : Path := ⟨false, ["a"]⟩

end Sample

theorem broken_files_below_valid_one_skipped :
    Nearest (Toml.plain none) Sample.brokenBelow Sample.deep Sample.passed Sample.decisive
        { logging := { level := "warn" } } ∧
      (∀ place ∈ Sample.passed ++ [Sample.decisive],
        usable? (Toml.plain none) Sample.brokenOtherwise place =
          usable? (Toml.plain none) Sample.brokenBelow place) ∧
      (discover (Toml.plain none) Sample.brokenOtherwise Sample.deep).1 =
        { logging := { level := "warn" } } := by
  have checked : ∀ place ∈ Sample.passed ++ [Sample.decisive],
      FileTree.checkPath (place.join fileName) = .ok () := by
    simp only [FileTree.checkPath_ok_iff]
    decide +kernel
  have nearest : Nearest (Toml.plain none) Sample.brokenBelow Sample.deep Sample.passed
      Sample.decisive { logging := { level := "warn" } } := by
    refine ⟨by decide +kernel, fun below member => ?_, ?_⟩
    · rw [usable?_of_checked rfl (checked below (List.mem_append_left _ member))]
      revert below
      decide +kernel
    · rw [usable?_of_checked rfl (checked Sample.decisive (by simp))]
      decide +kernel
  have alike : ∀ place ∈ Sample.passed ++ [Sample.decisive],
      usable? (Toml.plain none) Sample.brokenOtherwise place =
        usable? (Toml.plain none) Sample.brokenBelow place := by
    intro place member
    rw [usable?_of_checked rfl (checked place member), usable?_of_checked rfl (checked place member)]
    revert place
    decide +kernel
  obtain ⟨_, decides, _⟩ :=
    nearest_usable_file_decides (Toml.plain none) Sample.brokenBelow Sample.deep
  obtain ⟨_, _, others⟩ := decides _ _ _ nearest
  exact ⟨nearest, alike, (others Sample.brokenOtherwise alike).2⟩

end Boundary.Config
