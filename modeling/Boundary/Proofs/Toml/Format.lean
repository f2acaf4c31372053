import Boundary.Toml.Format

/-!
What the library relies on in a format. A reader gives no key twice in a table, and whatever texts and
flags a writer is handed, the reader finds them again in their sections.
-/

namespace Boundary.Toml

/-- No table in a node has a key twice. -/
inductive Node.Keyed : Node → Prop where
  | string (text : String) : Keyed (.string text)
  | boolean (value : Bool) : Keyed (.boolean value)
  | integer (value : Int) : Keyed (.integer value)
  | float (written : String) : Keyed (.float written)
  | moment (written : String) : Keyed (.moment written)
  | array {items : List Node} (inside : ∀ item ∈ items, Keyed item) : Keyed (.array items)
  | table {entries : List (String × Node)} (keys : (entries.map Prod.fst).Nodup)
      (inside : ∀ entry ∈ entries, Keyed entry.2) : Keyed (.table entries)

structure Entries.Keyed (entries : Entries) : Prop where
  keys : (entries.map Prod.fst).Nodup
  inside : ∀ entry ∈ entries, entry.2.Keyed

structure IsWord (key : String) : Prop where
  nonempty : key.toList ≠ []
  chars : ∀ char ∈ key.toList, char.isAlphanum ∨ char = '-' ∨ char = '_'

instance (key : String) : Decidable (IsWord key) :=
  decidable_of_iff (key.toList ≠ [] ∧ key.toList.all fun char =>
      decide (char.isAlphanum ∨ char = '-' ∨ char = '_'))
    ⟨fun word => ⟨word.1, by simpa using word.2⟩, fun word => ⟨word.nonempty, by simpa using word.chars⟩⟩

/-- Sections under distinct names, with distinct keys in each. -/
structure Sections.WellFormed (sections : Sections) : Prop where
  names : (sections.map Prod.fst).Nodup
  keys : ∀ entry ∈ sections, (entry.2.map Prod.fst).Nodup
  wordNames : ∀ entry ∈ sections, IsWord entry.1
  wordKeys : ∀ entry ∈ sections, ∀ setting ∈ entry.2, IsWord setting.1

namespace Format

/-- The reader gives back what the writer was handed: texts and flags in their sections, without those
settings that are absent. -/
def Inverts (format : Format) : Prop :=
  ∀ sections : Sections, sections.WellFormed →
    ∃ text, format.write sections = .ok (some text) ∧ format.read? text = some sections.entries

/-- The reader hands over each key of a table once. -/
def HandsOverTables (format : Format) : Prop :=
  ∀ text entries, format.read? text = some entries → entries.Keyed

end Format

namespace Entries

variable {entries : Entries} {key : String} {node : Node}

theorem keyed_table_iff : (Node.table entries).Keyed ↔ entries.Keyed := by
  constructor
  · rintro ⟨⟩
    exact ⟨‹_›, ‹_›⟩
  · exact fun keyed => .table keyed.keys keyed.inside

theorem mem_of_find? (found : entries.find? key = some node) : (key, node) ∈ entries := by
  obtain ⟨before, after, same, _⟩ := List.lookup_eq_some_iff.1 found
  simp [same]

theorem find?_eq_some_iff (keys : (entries.map Prod.fst).Nodup) :
    entries.find? key = some node ↔ (key, node) ∈ entries := by
  refine ⟨mem_of_find?, fun member => ?_⟩
  obtain ⟨before, after, same⟩ := List.append_of_mem member
  refine List.lookup_eq_some_iff.2 ⟨before, after, same, fun entry earlier => ?_⟩
  rw [same, List.map_append, List.nodup_append] at keys
  have apart := keys.2.2 entry.1 (List.mem_map_of_mem earlier) key (by simp)
  simpa using Ne.symm apart

end Entries

end Boundary.Toml
