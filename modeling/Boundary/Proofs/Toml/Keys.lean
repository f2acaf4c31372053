import Boundary.Proofs.Toml.Format
import Boundary.Toml.Plain

/-!
The keys of tables in the format that is written out. Main statement: no table that it hands over has a
key twice, neither the document itself nor any table inside it.
-/

namespace Boundary.Toml

inductive Draft.Keyed : Draft → Prop where
  | string (text : String) : Keyed (.string text)
  | boolean (value : Bool) : Keyed (.boolean value)
  | integer (value : Int) : Keyed (.integer value)
  | float (written : String) : Keyed (.float written)
  | moment (written : String) : Keyed (.moment written)
  | array {items : List Draft} (inside : ∀ item ∈ items, Keyed item) : Keyed (.array items)
  | table {origin : Origin} {entries : List (String × Draft)} (keys : (entries.map Prod.fst).Nodup)
      (inside : ∀ entry ∈ entries, Keyed entry.2) : Keyed (.table origin entries)
  | tables {earlier : List (List (String × Draft))} {last : List (String × Draft)}
      (previous : ∀ entries ∈ earlier, Keyed (.table .header entries))
      (current : Keyed (.table .header last)) : Keyed (.tables earlier last)

namespace Drafts

structure Keyed (entries : Drafts) : Prop where
  keys : (entries.map Prod.fst).Nodup
  inside : ∀ entry ∈ entries, entry.2.Keyed

variable {entries : Drafts} {key : String} {node : Draft}

theorem mem_of_find? (found : entries.find? key = some node) : (key, node) ∈ entries := by
  obtain ⟨before, after, same, _⟩ := List.lookup_eq_some_iff.1 found
  simp [same]

theorem Keyed.nil : Keyed [] := ⟨List.nodup_nil, by simp⟩

theorem keyed_table_iff {origin : Origin} : (Draft.table origin entries).Keyed ↔ entries.Keyed := by
  constructor
  · rintro ⟨⟩
    exact ⟨‹_›, ‹_›⟩
  · exact fun keyed => .table keyed.keys keyed.inside

theorem Keyed.of_find? (keyed : entries.Keyed) (found : entries.find? key = some node) : node.Keyed :=
  keyed.inside _ (mem_of_find? found)

theorem Keyed.insertNew? {result : Drafts} (keyed : entries.Keyed) (sound : node.Keyed)
    (added : entries.insertNew? key node = some result) : result.Keyed := by
  rw [Drafts.insertNew?] at added
  split at added
  · rename_i missing
    cases added
    have fresh : ∀ entry ∈ entries, entry.1 ≠ key := by
      intro entry there same
      have other := List.lookup_eq_none_iff.1 missing entry there
      simp [same] at other
    constructor
    · rw [List.map_append, List.nodup_append]
      refine ⟨keyed.keys, by simp, fun name old _ new => ?_⟩
      obtain ⟨entry, there, rfl⟩ := List.mem_map.1 old
      simpa [List.mem_singleton.1 new] using fresh entry there
    · intro entry member
      rcases List.mem_append.1 member with old | new
      · exact keyed.inside entry old
      · rw [List.mem_singleton.1 new]
        exact sound
  · cases added

theorem Keyed.replace (keyed : entries.Keyed) (sound : node.Keyed) :
    (entries.replace key node).Keyed := by
  constructor
  · have same : (entries.replace key node).map Prod.fst = entries.map Prod.fst := by
      rw [Drafts.replace, List.map_map]
      refine List.map_congr_left fun entry _ => ?_
      by_cases equal : entry.1 = key <;> simp [equal]
    rw [same]
    exact keyed.keys
  · intro entry member
    obtain ⟨old, there, rfl⟩ := List.mem_map.1 member
    by_cases equal : old.1 = key
    · simpa [equal] using sound
    · simpa [equal] using keyed.inside old there

end Drafts

def KeepsKeys (change : Origin → Drafts → Option Drafts) : Prop :=
  ∀ origin (entries result : Drafts),
    entries.Keyed → change origin entries = some result → result.Keyed

section Change

variable {change : Origin → Drafts → Option Drafts}

theorem KeepsKeys.descend (keeps : KeepsKeys change) (isDotted : Bool) (path : List String) :
    KeepsKeys (descend isDotted change path) := by
  induction path with
  | nil => exact keeps
  | cons key rest ih =>
      intro origin entries result keyed changed
      rw [Toml.descend] at changed
      split at changed
      · obtain ⟨child, inner, added⟩ := Option.bind_eq_some_iff.1 changed
        exact keyed.insertNew? (Drafts.keyed_table_iff.2 (ih _ _ _ .nil inner)) added
      · cases changed
      · rename_i found
        split at changed
        · cases changed
        · obtain ⟨child, inner, same⟩ := Option.bind_eq_some_iff.1 changed
          cases same
          have before := Drafts.keyed_table_iff.1 (keyed.of_find? found)
          exact keyed.replace (Drafts.keyed_table_iff.2 (ih _ _ _ before inner))
      · rename_i found
        obtain ⟨last, inner, same⟩ := Option.bind_eq_some_iff.1 changed
        cases same
        cases keyed.of_find? found with
        | tables previous current =>
            have before := Drafts.keyed_table_iff.1 current
            exact keyed.replace (.tables previous (Drafts.keyed_table_iff.2 (ih _ _ _ before inner)))
      · cases changed

theorem keepsKeys_assign (path : List String) (key : String) {node : Draft} (sound : node.Keyed) :
    KeepsKeys (assign path key node) := by
  refine KeepsKeys.descend (fun origin entries result keyed added => ?_) true path
  split at added
  · cases added
  · exact keyed.insertNew? sound added

theorem keepsKeys_assignPath (path : List String) {node : Draft} (sound : node.Keyed) :
    KeepsKeys (assignPath path node) := by
  intro origin entries result keyed assigned
  obtain ⟨key, _, assigned⟩ := Option.bind_eq_some_iff.1 assigned
  exact keepsKeys_assign path.dropLast key sound origin entries result keyed assigned

theorem keepsKeys_openTable (key : String) : KeepsKeys (openTable key) := by
  intro origin entries result keyed opened
  rw [openTable] at opened
  split at opened
  · exact keyed.insertNew? (Drafts.keyed_table_iff.2 .nil) opened
  · rename_i found
    cases opened
    have before := Drafts.keyed_table_iff.1 (keyed.of_find? found)
    exact keyed.replace (Drafts.keyed_table_iff.2 before)
  · cases opened

theorem keepsKeys_openNext (key : String) : KeepsKeys (openNext key) := by
  intro origin entries result keyed opened
  have empty : (Draft.table .header []).Keyed := Drafts.keyed_table_iff.2 .nil
  rw [openNext] at opened
  split at opened
  · exact keyed.insertNew? (.tables (by simp) empty) opened
  · rename_i found
    cases opened
    cases keyed.of_find? found with
    | tables previous current =>
        refine keyed.replace (.tables (fun entries member => ?_) empty)
        rcases List.mem_append.1 member with old | new
        · exact previous entries old
        · exact List.mem_singleton.1 new ▸ current
  · cases opened

end Change

theorem foldlM_invariant {state item : Type} {step : state → item → Option state}
    (invariant : state → Prop) {items : List item}
    (keeps : ∀ before, ∀ item ∈ items, ∀ after,
      invariant before → step before item = some after → invariant after)
    {start result : state} (holds : invariant start) (ran : items.foldlM step start = some result) :
    invariant result := by
  induction items generalizing start with
  | nil =>
      cases ran
      exact holds
  | cons item rest ih =>
      rw [List.foldlM_cons] at ran
      obtain ⟨next, stepped, ran⟩ := Option.bind_eq_some_iff.1 ran
      exact ih (fun before item member => keeps before item (List.mem_cons_of_mem _ member))
        (keeps start item List.mem_cons_self next holds stepped) ran

section Read

def Yields {value : Type} (holds : value → Prop) (read : Reader value) : Prop :=
  ∀ text result rest, read text = some (result, rest) → holds result

variable {readItem : Reader Draft}

theorem yields_readItems (each : Yields Draft.Keyed readItem) (fuel : Nat) :
    Yields (fun items => ∀ item ∈ items, item.Keyed) (readItems readItem fuel) := by
  induction fuel with
  | zero => simp [Yields, readItems]
  | succ fuel ih =>
      intro text items rest read
      rw [readItems] at read
      split at read
      · cases read
        simp
      · obtain ⟨⟨item, after⟩, first, read⟩ := Option.bind_eq_some_iff.1 read
        have sound := each _ _ _ first
        dsimp only at read
        split at read
        · cases read
          simpa using sound
        · obtain ⟨⟨others, _⟩, further, read⟩ := Option.bind_eq_some_iff.1 read
          cases read
          exact List.forall_mem_cons.2 ⟨sound, ih _ _ _ further⟩
        · cases read

theorem yields_readPair (each : Yields Draft.Keyed readItem) :
    Yields (fun pair => pair.2.Keyed) (readPair readItem) := by
  intro text pair rest read
  obtain ⟨⟨key, after⟩, _, read⟩ := Option.bind_eq_some_iff.1 read
  dsimp only at read
  split at read
  · obtain ⟨⟨item, _⟩, value, read⟩ := Option.bind_eq_some_iff.1 read
    cases read
    exact each _ _ _ value
  · cases read

theorem yields_readPairs (each : Yields Draft.Keyed readItem) (fuel : Nat) :
    Yields (fun pairs => ∀ pair ∈ pairs, pair.2.Keyed) (readPairs readItem fuel) := by
  induction fuel with
  | zero => simp [Yields, readPairs]
  | succ fuel ih =>
      intro text pairs rest read
      rw [readPairs] at read
      obtain ⟨⟨pair, after⟩, first, read⟩ := Option.bind_eq_some_iff.1 read
      have sound := yields_readPair each _ _ _ first
      dsimp only at read
      split at read
      · cases read
        simpa using sound
      · obtain ⟨⟨others, _⟩, further, read⟩ := Option.bind_eq_some_iff.1 read
        cases read
        exact List.forall_mem_cons.2 ⟨sound, ih _ _ _ further⟩
      · cases read

theorem keyed_of_inlineTable? {pairs : List (List String × Draft)} {node : Draft}
    (sound : ∀ pair ∈ pairs, pair.2.Keyed) (made : inlineTable? pairs = some node) : node.Keyed := by
  obtain ⟨entries, assigned, same⟩ := Option.bind_eq_some_iff.1 made
  cases same
  refine Drafts.keyed_table_iff.2 (foldlM_invariant Drafts.Keyed ?_ .nil assigned)
  exact fun before pair member after keyed assigned =>
    keepsKeys_assignPath pair.1 (sound pair member) .inline before after keyed assigned

theorem keyed_of_inRange {value : Int} {node : Draft} (found : inRange value = some node) :
    node.Keyed := by
  unfold inRange at found
  split at found <;> cases found
  exact .integer value

theorem keyed_of_integer? {text : List Char} {node : Draft} (found : integer? text = some node) :
    node.Keyed := by
  have based {digit : Char → Bool} {base : Nat} {digits : List Char}
      (found : basedInteger? digit base digits = some node) : node.Keyed := by
    unfold basedInteger? at found
    split at found
    · exact keyed_of_inRange found
    · cases found
  unfold integer? at found
  split at found
  · exact based found
  · exact based found
  · exact based found
  · dsimp only at found
    split at found
    · exact keyed_of_inRange found
    · cases found

theorem keyed_of_float? {text : List Char} {node : Draft} (found : float? text = some node) :
    node.Keyed := by
  unfold float? at found
  dsimp only at found
  split at found
  · cases found
    exact .float _
  · split at found
    · cases found
    · split at found <;> cases found
      exact .float _

theorem keyed_of_scalar? {text : List Char} {node : Draft} (found : scalar? text = some node) :
    node.Keyed := by
  unfold scalar? at found
  split at found
  · cases found
    exact .boolean true
  split at found
  · cases found
    exact .boolean false
  split at found
  · cases found
    exact .moment _
  cases whole : integer? text with
  | some integer =>
      rw [whole] at found
      cases found
      exact keyed_of_integer? whole
  | none =>
      rw [whole] at found
      exact keyed_of_float? found

theorem yields_readScalar : Yields Draft.Keyed readScalar := by
  intro text node rest read
  rw [readScalar] at read
  split at read
  · dsimp only at read
    split at read <;> cases read <;> exact .moment _
  · obtain ⟨node, scalar, read⟩ := Option.map_eq_some_iff.1 read
    cases read
    exact keyed_of_scalar? scalar

theorem yields_readQuoted (depth : Nat) : Yields Draft.Keyed (readValue.readQuoted depth) := by
  intro text node rest read
  obtain ⟨_, _, read⟩ := Option.map_eq_some_iff.1 read
  cases read
  constructor

theorem yields_readValue (depth : Nat) : Yields Draft.Keyed (readValue depth) := by
  induction depth using Nat.strongRecOn with
  | ind depth ih =>
      intro text node rest read
      unfold readValue at read
      split at read
      · exact yields_readQuoted _ _ _ _ read
      · exact yields_readQuoted _ _ _ _ read
      · cases read
      · cases read
      · obtain ⟨⟨items, _⟩, inside, read⟩ := Option.bind_eq_some_iff.1 read
        cases read
        exact .array (yields_readItems (ih _ (Nat.lt_succ_self _)) _ _ _ _ inside)
      · split at read
        · cases read
          exact Drafts.keyed_table_iff.2 .nil
        · obtain ⟨⟨pairs, _⟩, inside, read⟩ := Option.bind_eq_some_iff.1 read
          obtain ⟨table, made, read⟩ := Option.bind_eq_some_iff.1 read
          cases read
          have each := yields_readPairs (ih _ (Nat.lt_succ_self _)) _ _ _ _ inside
          exact keyed_of_inlineTable? each made
      · exact yields_readScalar _ _ _ read

def Statement.Keyed : Statement → Prop
  | .header _ | .nextHeader _ => True
  | .assignment _ node => node.Keyed

theorem yields_readStatement : Yields Statement.Keyed readStatement := by
  intro text statement rest read
  unfold readStatement at read
  split at read
  · obtain ⟨⟨_, _⟩, _, read⟩ := Option.bind_eq_some_iff.1 read
    dsimp only at read
    split at read
    · obtain ⟨_, _, read⟩ := Option.map_eq_some_iff.1 read
      cases read
      exact trivial
    · cases read
  · obtain ⟨⟨_, _⟩, _, read⟩ := Option.bind_eq_some_iff.1 read
    dsimp only at read
    split at read
    · obtain ⟨_, _, read⟩ := Option.map_eq_some_iff.1 read
      cases read
      exact trivial
    · cases read
  · obtain ⟨⟨⟨_, _⟩, _⟩, pair, read⟩ := Option.bind_eq_some_iff.1 read
    obtain ⟨_, _, read⟩ := Option.map_eq_some_iff.1 read
    cases read
    exact yields_readPair (yields_readValue _) _ _ _ pair

theorem keyed_of_readStatements {fuel : Nat} {text : List Char} {statements : List Statement}
    (read : readStatements fuel text = some statements) :
    ∀ statement ∈ statements, statement.Keyed := by
  induction fuel generalizing text statements with
  | zero => cases read
  | succ fuel ih =>
      rw [readStatements] at read
      split at read
      · cases read
        simp
      · exact ih read
      · obtain ⟨_, _, read⟩ := Option.bind_eq_some_iff.1 read
        exact ih read
      · obtain ⟨⟨statement, _⟩, first, read⟩ := Option.bind_eq_some_iff.1 read
        obtain ⟨others, further, read⟩ := Option.bind_eq_some_iff.1 read
        cases read
        exact List.forall_mem_cons.2 ⟨yields_readStatement _ _ _ first, ih further⟩

end Read

theorem keyed_of_carryOut {progress after : Progress} {statement : Statement}
    (sound : statement.Keyed) (keyed : progress.entries.Keyed)
    (carried : progress.carryOut statement = some after) : after.entries.Keyed := by
  have opened {path : List String} {change : String → Origin → Drafts → Option Drafts}
      (keeps : ∀ key, KeepsKeys (change key)) (opened : progress.openAt path change = some after) :
      after.entries.Keyed := by
    obtain ⟨key, _, opened⟩ := Option.bind_eq_some_iff.1 opened
    obtain ⟨entries, changed, same⟩ := Option.bind_eq_some_iff.1 opened
    cases same
    exact (keeps key).descend false _ _ _ _ keyed changed
  cases statement with
  | header path => exact opened keepsKeys_openTable carried
  | nextHeader path => exact opened keepsKeys_openNext carried
  | assignment path node =>
      obtain ⟨entries, changed, same⟩ := Option.bind_eq_some_iff.1 carried
      cases same
      exact (keepsKeys_assignPath path sound).descend false _ _ _ _ keyed changed

theorem keyed_of_drafts? {text : String} {entries : Drafts} (read : drafts? text = some entries) :
    entries.Keyed := by
  obtain ⟨statements, listed, read⟩ := Option.bind_eq_some_iff.1 read
  obtain ⟨progress, ran, same⟩ := Option.bind_eq_some_iff.1 read
  cases same
  refine foldlM_invariant (fun progress : Progress => progress.entries.Keyed) ?_ Drafts.Keyed.nil ran
  intro before statement member after keyed carried
  exact keyed_of_carryOut (keyed_of_readStatements listed statement member) keyed carried

section Finished

theorem nodes_eq_map (items : List Draft) : nodes items = items.map Draft.node := by
  induction items with
  | nil => rfl
  | cons item rest ih => rw [nodes, ih, List.map_cons]

theorem fields_eq_map (entries : Drafts) :
    fields entries = entries.map fun entry => (entry.1, entry.2.node) := by
  induction entries with
  | nil => rfl
  | cons entry rest ih => rw [fields, ih, List.map_cons, field]

theorem runs_eq_map (tables : List Drafts) :
    runs tables = tables.map fun entries => .table (fields entries) := by
  induction tables with
  | nil => rfl
  | cons entries rest ih => rw [runs, ih, List.map_cons]

theorem keys_fields (entries : Drafts) : (fields entries).map Prod.fst = entries.map Prod.fst := by
  rw [fields_eq_map, List.map_map]
  rfl

theorem Draft.Keyed.node {draft : Draft} (keyed : draft.Keyed) : draft.node.Keyed := by
  induction keyed with
  | string text => exact .string text
  | boolean value => exact .boolean value
  | integer value => exact .integer value
  | float written => exact .float written
  | moment written => exact .moment written
  | array inside ih =>
      refine .array fun item member => ?_
      rw [nodes_eq_map] at member
      obtain ⟨draft, there, rfl⟩ := List.mem_map.1 member
      exact ih draft there
  | table keys inside ih =>
      refine .table (by rwa [keys_fields]) fun entry member => ?_
      rw [fields_eq_map] at member
      obtain ⟨draft, there, rfl⟩ := List.mem_map.1 member
      exact ih draft there
  | tables previous current earlier last =>
      refine .array fun item member => ?_
      rcases List.mem_append.1 member with old | new
      · rw [runs_eq_map] at old
        obtain ⟨entries, there, rfl⟩ := List.mem_map.1 old
        exact earlier entries there
      · exact List.mem_singleton.1 new ▸ last

end Finished

theorem read?_of_drafts? {limit : Option Nat} {text : String} {drafts : Drafts}
    (read : drafts? text = some drafts) : (plain limit).read? text = some (fields drafts) :=
  congrArg (Option.map fields) read

theorem plain_handsOverTables (limit : Option Nat) : (plain limit).HandsOverTables := by
  intro text entries read
  obtain ⟨drafts, found, rfl⟩ := Option.map_eq_some_iff.1 read
  have keyed : (Draft.table .header drafts).Keyed :=
    Drafts.keyed_table_iff.2 (keyed_of_drafts? found)
  exact Entries.keyed_table_iff.1 keyed.node

end Boundary.Toml
