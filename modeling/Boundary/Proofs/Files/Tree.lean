import Boundary.Files.Tree

/-!
Writing to a tree of files. Main statement: where a path can be written, what was written is read back
through the same path.
-/

namespace Boundary.FileTree

def Writable (tree : FileTree) (path : Path) : Prop :=
  path.declaredIn? = none ∧ ∃ location, tree.target [] path = .ok location

def Extends (after before : FileTree) : Prop :=
  ∀ location, before.enter location = .ok () → after.enter location = .ok ()

variable {tree after : FileTree} {path : Path}

section Check

theorem checkPath_ok_iff : checkPath path = .ok () ↔
    (∀ part ∈ path.parts, '\x00' ∉ part.toList) ∧ (path.text "").utf8ByteSize ≤ 4095 := by
  have clean : path.parts.any (·.contains '\x00') = false ↔
      ∀ part ∈ path.parts, '\x00' ∉ part.toList := by simp
  rw [← clean, ← Nat.not_lt, checkPath]
  cases path.parts.any (·.contains '\x00') with
  | true => simp
  | false => by_cases long : 4095 < (path.text "").utf8ByteSize <;> simp [long]

theorem locate_of_checked (checked : checkPath path = .ok ()) :
    tree.locate path = tree.follow (if path.absolute then .top else []) path.parts := by
  rw [locate, locateFrom, checked]
  rfl

end Check

section Follow

theorem enter_ok_iff (location : Location) : tree.enter location = .ok () ↔
    tree.isDirectory location = true ∧ tree.access location = .ok () := by
  unfold enter
  split
  · simp [*]
  · split <;> simp [*]

theorem follow_of_extends (larger : after.Extends tree) {start location : Location}
    {parts : List String} (followed : tree.follow start parts = .ok location) :
    after.follow start parts = .ok location := by
  induction parts generalizing start with
  | nil => exact followed
  | cons part rest ih =>
      rw [follow] at followed ⊢
      cases entered : tree.enter start with
      | error error =>
          rw [entered] at followed
          cases followed
      | ok _ =>
          have stays : after.enter start = .ok () := larger start entered
          rw [entered] at followed
          rw [stays]
          simp only [bind, Except.bind] at followed ⊢
          split at followed
          · rename_i idle
            rw [if_pos idle]
            exact ih followed
          · rename_i proper
            rw [if_neg proper]
            split at followed
            · rename_i upwards
              rw [if_pos upwards]
              exact ih followed
            · rename_i downwards
              rw [if_neg downwards]
              split at followed
              · cases followed
              · rename_i short
                rw [if_neg short]
                exact ih followed

theorem locate_of_extends (larger : after.Extends tree) {location : Location}
    (located : tree.locate path = .ok location) : after.locate path = .ok location := by
  rw [locate, locateFrom] at located ⊢
  cases checked : checkPath path with
  | error error =>
      rw [checked] at located
      cases located
  | ok _ =>
      rw [checked] at located
      exact follow_of_extends larger located

end Follow

section AddFile

variable {location : Location} {bytes : List UInt8}

theorem isDirectory_addFile {other : Location} (there : tree.isDirectory other = true) :
    (tree.addFile location bytes).isDirectory other = true := by
  simp only [isDirectory, addFile, addDirectory, Bool.or_eq_true, List.contains_eq_mem,
    decide_eq_true_eq, List.mem_append] at there ⊢
  exact there.imp_right Or.inl

theorem access_addFile (other : Location) :
    (tree.addFile location bytes).access other = tree.access other := rfl

theorem addFile_extends : (tree.addFile location bytes).Extends tree := by
  intro other entered
  obtain ⟨there, admitted⟩ := (enter_ok_iff other).1 entered
  exact (enter_ok_iff other).2 ⟨isDirectory_addFile there, admitted⟩

theorem isDirectory_addFile_self (proper : tree.isDirectory location = false) :
    (tree.addFile location bytes).isDirectory location = false := by
  simp only [isDirectory, Bool.or_eq_false_iff, List.contains_eq_mem, decide_eq_false_iff_not,
    addFile, addDirectory, List.mem_append, List.mem_filter, List.mem_map, List.mem_range] at proper ⊢
  refine ⟨proper.1, ?_⟩
  rintro (listed | ⟨⟨count, below, made⟩, _⟩)
  · exact proper.2 listed
  · have shorter := congrArg List.length made
    simp only [List.length_take, List.length_dropLast] at below shorter
    omega

theorem file?_addFile_self : (tree.addFile location bytes).file? location = some bytes := by
  have others : (tree.files.filter fun file => file.1 != location).lookup location = none := by
    rw [List.lookup_eq_none_iff]
    intro file member
    have different : file.1 ≠ location := by simpa using (List.mem_filter.1 member).2
    simpa using Ne.symm different
  simp [file?, addFile, List.lookup_append, others]

theorem read_addFile (located : tree.locate path = .ok location)
    (proper : tree.isDirectory location = false) (admitted : tree.access location = .ok ()) :
    (tree.addFile location bytes).read path = .ok bytes := by
  rw [read, locate_of_extends addFile_extends located]
  simp only [bind, Except.bind, isDirectory_addFile_self proper, file?_addFile_self, access_addFile,
    admitted]
  rfl

end AddFile

theorem target_ok {location : Location} (found : tree.target [] path = .ok location) :
    tree.locate path = .ok location ∧ tree.isDirectory location = false ∧
      tree.access location = .ok () := by
  rw [target] at found
  change (tree.locate path).bind _ = _ at found
  cases located : tree.locate path with
  | error error =>
      rw [located] at found
      cases found
  | ok reached =>
      rw [located, Except.bind] at found
      split at found
      · cases found
      · rename_i proper
        cases entered : tree.enter reached.dropLast with
        | error error =>
            rw [entered] at found
            cases found
        | ok _ =>
            rw [entered] at found
            cases admitted : tree.access reached with
            | error error =>
                rw [admitted] at found
                cases found
            | ok _ =>
                rw [admitted] at found
                cases found
                exact ⟨rfl, Bool.eq_false_iff.2 proper, admitted⟩

theorem checkPath_of_locate {location : Location} (located : tree.locate path = .ok location) :
    checkPath path = .ok () := by
  rw [locate, locateFrom] at located
  cases checked : checkPath path with
  | error error =>
      rw [checked] at located
      cases located
  | ok _ => rfl

theorem read_of_writable (writable : tree.Writable path) (bytes : List UInt8) :
    ∃ after, tree.write path bytes = .ok after ∧ after.read path = .ok bytes := by
  obtain ⟨undeclared, location, found⟩ := writable
  obtain ⟨located, proper, admitted⟩ := target_ok found
  refine ⟨tree.addFile location bytes, ?_, read_addFile located proper admitted⟩
  rw [write, checkPath_of_locate located, undeclared]
  simp only [bind, Except.bind, found]

theorem writable_of_write {bytes : List UInt8} (written : tree.write path bytes = .ok after) :
    tree.Writable path := by
  rw [write] at written
  cases checked : checkPath path with
  | error error =>
      rw [checked] at written
      cases written
  | ok _ =>
      rw [checked] at written
      simp only [bind, Except.bind] at written
      cases declared : path.declaredIn? with
      | some above =>
          rw [declared] at written
          simp only at written
          split at written
          · cases written
          · split at written <;> cases written
      | none =>
          rw [declared] at written
          simp only at written
          cases found : tree.target [] path with
          | error error =>
              rw [found] at written
              cases written
          | ok location => exact ⟨declared, location, found⟩

/-- A file that was written is read back. -/
theorem read_of_write {bytes : List UInt8} (written : tree.write path bytes = .ok after) :
    after.read path = .ok bytes := by
  obtain ⟨same, again, read⟩ := read_of_writable (writable_of_write written) bytes
  rw [written] at again
  cases again
  exact read

end Boundary.FileTree
