import Boundary.Bridge
import Boundary.Proofs.Decoding.Release
import Boundary.Proofs.Layout.Export
import Mathlib.Data.Multiset.Bind

/-!
Exported layouts come and go. Main statement: in every run of exports and releases the blocks that
were allocated are those that were released and those of the exports still out, and once all exports
are released native memory is as it was.
-/

namespace Boundary

namespace Export

def addresses (exported : Export) : List Address :=
  [exported.typeName, exported.names, exported.members, exported.record]

/-- What the allocator is asked for: the type name with its zero byte, the names, sixteen bytes for
each member, and the record. -/
def requests (exported : Export) : List (Address × Nat) := [
  (exported.typeName, (Utf8.bytes exported.layout.typeName).length + 1),
  (exported.names, exported.layout.names.length),
  (exported.members, 16 * exported.layout.members.length),
  (exported.record, 32)]

def released (exported : Export) : List Address :=
  [exported.members, exported.names, exported.typeName, exported.record]

structure Added (exported : Export) (before after : Memory) : Prop where
  allocated : after.allocated = before.allocated ++ exported.requests
  freed : after.freed = before.freed
  distinct : exported.addresses.Nodup
  fresh : ∀ address ∈ exported.addresses, address ≠ 0 ∧ before.blocks[address]? = none
  filled : ∀ request ∈ exported.requests, ∃ bytes, after.blocks[request.1]? = some bytes ∧
    bytes.length = request.2
  elsewhere : ∀ address ∉ exported.addresses, after.blocks[address]? = before.blocks[address]?

structure Removed (exported : Export) (before after : Memory) : Prop where
  allocated : after.allocated = before.allocated
  freed : after.freed = before.freed ++ exported.released
  distinct : exported.released.Nodup
  present : ∀ address ∈ exported.addresses, ∃ bytes, before.blocks[address]? = some bytes
  gone : ∀ address ∈ exported.addresses, after.blocks[address]? = none
  elsewhere : ∀ address ∉ exported.addresses, after.blocks[address]? = before.blocks[address]?

/-- An export that lies in native memory as it was written. -/
structure Stands (exported : Export) (memory : Memory) : Prop where
  holds : ∀ block ∈ exported.blocks, memory.Holds block.1 block.2
  distinct : exported.addresses.Nodup
  inRange : ∀ address ∈ exported.addresses, address < UInt64.size

variable {exported : Export} {memory : Memory}

theorem map_fst_blocks (exported : Export) :
    exported.blocks.map Prod.fst = exported.addresses := rfl

theorem map_length_blocks (exported : Export) :
    (exported.blocks.map fun block => (block.1, block.2.length)) = exported.requests := by
  simp [blocks, requests, Layout.length_entryBytes, MemberEntry.size, Metadata.size]

theorem released_perm (exported : Export) : exported.released.Perm exported.addresses := by
  have swapped : [exported.members, exported.names, exported.typeName].Perm
      [exported.typeName, exported.names, exported.members] :=
    List.reverse_perm [exported.typeName, exported.names, exported.members]
  exact swapped.append_right [exported.record]

theorem mem_released {address : Address} :
    address ∈ exported.released ↔ address ∈ exported.addresses :=
  exported.released_perm.mem_iff

theorem Added.of_room (room : memory.RoomFor exported.blocks) :
    exported.Added memory (memory.placeAll exported.blocks) where
  allocated := by rw [Memory.allocated_placeAll, map_length_blocks]
  freed := Memory.freed_placeAll _ _
  distinct := room.nodup
  fresh address member := ⟨Nat.ne_of_gt (room.inRange member).1, room.vacant member⟩
  filled request member := by
    rw [← map_length_blocks, List.mem_map] at member
    obtain ⟨block, among, rfl⟩ := member
    exact ⟨block.2, (room.holds among).block, rfl⟩
  elsewhere _ outside := memory.getElem?_placeAll_of_notMem outside

theorem Stands.of_room (room : memory.RoomFor exported.blocks) :
    exported.Stands (memory.placeAll exported.blocks) where
  holds _ member := room.holds member
  distinct := room.nodup
  inRange _ member := (room.inRange member).2

namespace Stands

theorem placeAll (stands : exported.Stands memory) {added : List (Address × List UInt8)}
    (room : memory.RoomFor added) : exported.Stands (memory.placeAll added) where
  holds block member := (stands.holds block member).placeAll room
  distinct := stands.distinct
  inRange := stands.inRange

theorem freeAll (stands : exported.Stands memory) {addresses : List Address}
    (kept : ∀ address ∈ exported.addresses, address ∉ addresses) :
    exported.Stands (memory.freeAll addresses) where
  holds block member := (stands.holds block member).freeAll
    (kept block.1 (List.mem_map_of_mem (f := Prod.fst) member))
  distinct := stands.distinct
  inRange := stands.inRange

theorem present (stands : exported.Stands memory) {address : Address}
    (member : address ∈ exported.addresses) : ∃ bytes, memory.blocks[address]? = some bytes := by
  rw [← map_fst_blocks, List.mem_map] at member
  obtain ⟨block, among, rfl⟩ := member
  exact ⟨block.2, (stands.holds block among).block⟩

theorem removed (stands : exported.Stands memory) :
    exported.Removed memory (memory.freeAll exported.released) where
  allocated := Memory.allocated_freeAll _ _
  freed := Memory.freed_freeAll _ _
  distinct := exported.released_perm.nodup_iff.2 stands.distinct
  present _ member := stands.present member
  gone address member := by
    rw [Memory.getElem?_freeAll, if_pos (mem_released.2 member)]
  elsewhere address outside := by
    rw [Memory.getElem?_freeAll, if_neg fun member => outside (mem_released.1 member)]

theorem read? (stands : exported.Stands memory) :
    ∃ metadata, Metadata.read? memory exported.record = some metadata ∧
      metadata.typeName = exported.typeName ∧ metadata.names = exported.names ∧
      metadata.members = exported.members := by
  have record : memory.Holds exported.record exported.metadata.toBytes :=
    stands.holds (exported.record, exported.metadata.toBytes) (by simp [blocks])
  refine ⟨Metadata.ofBytes exported.metadata.toBytes, Metadata.read?_of_holds record, ?_⟩
  have typeName := Bytes.toNat_address (stands.inRange exported.typeName (by simp [addresses]))
  have names := Bytes.toNat_address (stands.inRange exported.names (by simp [addresses]))
  have members := Bytes.toNat_address (stands.inRange exported.members (by simp [addresses]))
  simp [Metadata.ofBytes, Metadata.toBytes, metadata, Metadata.namesOffset,
    Metadata.membersOffset, List.drop_append, List.drop_eq_nil_of_le, typeName, names, members]

theorem run_freeMetadata (state : State) (stands : exported.Stands state.memory) :
    (freeMetadata exported.record).run state =
      (.ok (), { state with memory := state.memory.freeAll exported.released }) := by
  obtain ⟨metadata, found, typeName, names, members⟩ := stands.read?
  simp only [freeMetadata, Action.run_bind, Action.run_get, found, Action.run_modify, typeName,
    names, members]
  rfl

end Stands

end Export

namespace Bridge

variable {bridge : Bridge} {composite : Composite} {placement : Placement} {state : State}

theorem layout_keepsMemory (bridge : Bridge) (composite : Composite) :
    (bridge.layout composite).Keeps State.memory := by
  intro state
  unfold layout Composite.layout
  by_cases few : composite.fields.length ≤ greatestLength
  · by_cases mapped : Field.unmapped bridge.platform composite.fields = []
    · obtain ⟨layout, _, ran⟩ :=
        Layout.run_build_of_mapped few (Field.unmapped_eq_nil_iff.1 mapped) state
      rw [ran]
    · rw [Layout.run_build_of_unmapped few mapped]
  · rw [Layout.run_build_of_many (Nat.lt_of_not_le few)]

theorem run_exportComposite_of_layout {layout : Layout}
    (built : ((bridge.layout composite).run state).1 = .ok (.ok layout))
    (exportable : layout.Exportable) (granted : layout.Granted placement state.memory) :
    ∃ after, (bridge.exportComposite placement composite).run state =
        (.ok (.ok (layout.destination placement state.memory).record), after) ∧
      after.memory =
        state.memory.placeAll (layout.destination placement state.memory).blocks := by
  have kept := bridge.layout_keepsMemory composite state
  rcases outcome : (bridge.layout composite).run state with ⟨result, laidOut⟩
  rw [outcome] at built kept
  cases built
  have ran : (layout.toNative placement).run laidOut = _ :=
    Layout.run_toNative_placeAll exportable (kept ▸ granted)
  rw [kept] at ran
  refine ⟨((layout.toNative placement).run laidOut).2, ?_, by rw [ran]⟩
  simp only [exportComposite, Action.run_bind, outcome, ran, Action.run_pure]

theorem run_exportComposite_of_error {error : Error}
    (refused : ((bridge.layout composite).run state).1 = .ok (.error error)) :
    ∃ after, (bridge.exportComposite placement composite).run state = (.ok (.error error), after) ∧
      after.memory = state.memory := by
  have kept := bridge.layout_keepsMemory composite state
  rcases outcome : (bridge.layout composite).run state with ⟨result, after⟩
  rw [outcome] at refused kept
  cases refused
  refine ⟨after, ?_, kept⟩
  simp only [exportComposite, Action.run_bind, outcome, Action.run_pure]

end Bridge

/-- A run of exports and releases by one allocator, with the exports that are still out. -/
inductive Handover (placement : Placement) (start : State) : Multiset Export → State → Prop
  | start : Handover placement start 0 start
  | layout {out : Multiset Export} {state after : State} {layout : Layout} {address : Address} :
      Handover placement start out state → layout.Exportable →
      placement.Serves state.memory layout.blockSizes →
      (layout.toNative placement).run state = (.ok address, after) →
      Handover placement start (layout.destination placement state.memory ::ₘ out) after
  | composite {out : Multiset Export} {state after : State} {bridge : Bridge}
      {composite : Composite} {layout : Layout} {address : Address} :
      Handover placement start out state →
      ((bridge.layout composite).run state).1 = .ok (.ok layout) → layout.Exportable →
      placement.Serves state.memory layout.blockSizes →
      (bridge.exportComposite placement composite).run state = (.ok (.ok address), after) →
      Handover placement start (layout.destination placement state.memory ::ₘ out) after
  | refused {out : Multiset Export} {state after : State} {bridge : Bridge}
      {composite : Composite} {error : Error} :
      Handover placement start out state →
      ((bridge.layout composite).run state).1 = .ok (.error error) →
      (bridge.exportComposite placement composite).run state = (.ok (.error error), after) →
      Handover placement start out after
  | release {out : Multiset Export} {state after : State} {exported : Export} :
      Handover placement start (exported ::ₘ out) state →
      (freeMetadata exported.record).run state = (.ok (), after) →
      Handover placement start out after

def lent (out : Multiset Export) : Multiset Address :=
  out.bind fun exported => ↑exported.addresses

theorem lent_cons (exported : Export) (out : Multiset Export) :
    lent (exported ::ₘ out) = ↑exported.addresses + lent out :=
  Multiset.cons_bind _ _ _

theorem mem_lent {out : Multiset Export} {address : Address} :
    address ∈ lent out ↔ ∃ exported ∈ out, address ∈ exported.addresses := by
  simp [lent]

/-- What was allocated since the start was released or belongs to an export that is still out. -/
structure Balanced (start : Memory) (out : Multiset Export) (memory : Memory) : Prop where
  stands : ∀ exported ∈ out, exported.Stands memory
  apart : (lent out).Nodup
  fresh : ∀ address ∈ lent out, start.blocks[address]? = none
  elsewhere : ∀ address ∉ lent out, memory.blocks[address]? = start.blocks[address]?
  account : ∃ allocated freed, memory.allocated = start.allocated ++ allocated ∧
    memory.freed = start.freed ++ freed ∧
    (↑(allocated.map Prod.fst) : Multiset Address) = ↑freed + lent out

namespace Balanced

variable {start memory : Memory} {out : Multiset Export} {exported : Export}

theorem refl (memory : Memory) : Balanced memory 0 memory where
  stands _ member := absurd member (Multiset.notMem_zero _)
  apart := Multiset.nodup_zero
  fresh _ member := absurd member (Multiset.notMem_zero _)
  elsewhere _ _ := rfl
  account := ⟨[], [], by simp, by simp, rfl⟩

theorem present (balanced : Balanced start out memory) {address : Address}
    (member : address ∈ lent out) : ∃ bytes, memory.blocks[address]? = some bytes := by
  obtain ⟨exported, among, here⟩ := mem_lent.1 member
  exact (balanced.stands exported among).present here

theorem place (balanced : Balanced start out memory) (room : memory.RoomFor exported.blocks) :
    Balanced start (exported ::ₘ out) (memory.placeAll exported.blocks) := by
  have vacant : ∀ address ∈ exported.addresses, memory.blocks[address]? = none :=
    fun _ member => room.vacant member
  -- What is lent lies there already, so the new blocks go elsewhere.
  have unlent : ∀ address ∈ exported.addresses, address ∉ lent out := by
    intro address member again
    obtain ⟨bytes, present⟩ := balanced.present again
    rw [vacant address member] at present
    cases present
  refine ⟨?_, ?_, ?_, ?_, ?_⟩
  · intro other member
    rcases Multiset.mem_cons.1 member with rfl | earlier
    · exact .of_room room
    · exact (balanced.stands other earlier).placeAll room
  · rw [lent_cons, Multiset.nodup_add]
    exact ⟨room.nodup, balanced.apart, Multiset.disjoint_left.2 (unlent _)⟩
  · intro address member
    rw [lent_cons, Multiset.mem_add, Multiset.mem_coe] at member
    rcases member with new | old
    · rw [← balanced.elsewhere address (unlent address new), vacant address new]
    · exact balanced.fresh address old
  · intro address outside
    rw [lent_cons, Multiset.mem_add, not_or, Multiset.mem_coe] at outside
    rw [memory.getElem?_placeAll_of_notMem outside.1, balanced.elsewhere address outside.2]
  · obtain ⟨allocated, freed, logged, released, account⟩ := balanced.account
    refine ⟨allocated ++ exported.requests, freed, ?_, ?_, ?_⟩
    · rw [Memory.allocated_placeAll, Export.map_length_blocks, logged, List.append_assoc]
    · rw [Memory.freed_placeAll, released]
    · have requested : exported.requests.map Prod.fst = exported.addresses := rfl
      rw [List.map_append, requested, ← Multiset.coe_add, account, lent_cons, add_assoc,
        add_comm (lent out)]

theorem release (balanced : Balanced start (exported ::ₘ out) memory) :
    Balanced start out (memory.freeAll exported.released) := by
  have stands := balanced.stands exported (Multiset.mem_cons_self exported out)
  obtain ⟨_, apart, disjoint⟩ := Multiset.nodup_add.1 (lent_cons exported out ▸ balanced.apart)
  have separate : ∀ address ∈ lent out, address ∉ exported.addresses := by
    intro address member here
    exact Multiset.disjoint_left.1 disjoint here member
  have removed := stands.removed
  refine ⟨?_, apart, ?_, ?_, ?_⟩
  · intro other member
    refine (balanced.stands other (Multiset.mem_cons_of_mem member)).freeAll ?_
    intro address here
    rw [Export.mem_released]
    exact separate address (mem_lent.2 ⟨other, member, here⟩)
  · intro address member
    apply balanced.fresh
    rw [lent_cons]
    exact Multiset.mem_add.2 (Or.inr member)
  · intro address outside
    by_cases here : address ∈ exported.addresses
    · -- There was nothing before the run, and there is nothing again.
      have new : address ∈ lent (exported ::ₘ out) := by
        rw [lent_cons]
        exact Multiset.mem_add.2 (Or.inl here)
      rw [removed.gone address here, balanced.fresh address new]
    · have unlent : address ∉ lent (exported ::ₘ out) := by
        rw [lent_cons, Multiset.mem_add, not_or]
        exact ⟨here, outside⟩
      rw [removed.elsewhere address here, balanced.elsewhere address unlent]
  · obtain ⟨allocated, freed, logged, released, account⟩ := balanced.account
    refine ⟨allocated, freed ++ exported.released, ?_, ?_, ?_⟩
    · rw [removed.allocated, logged]
    · rw [removed.freed, released, List.append_assoc]
    · have same : (↑exported.released : Multiset Address) = ↑exported.addresses :=
        Multiset.coe_eq_coe.2 exported.released_perm
      rw [account, lent_cons, ← Multiset.coe_add, same, add_assoc]

end Balanced

namespace Handover

variable {placement : Placement} {start state : State} {out : Multiset Export}

theorem balanced (run : Handover placement start out state) :
    Balanced start.memory out state.memory := by
  induction run with
  | start => exact .refl _
  | layout _ exportable serves ran ih =>
      rw [Layout.run_toNative_placeAll exportable (Layout.granted_of_serves serves)] at ran
      cases ran
      exact ih.place (Layout.roomFor_destination serves)
  | composite _ built exportable serves ran ih =>
      obtain ⟨after, exported, memory⟩ := Bridge.run_exportComposite_of_layout built exportable
        (Layout.granted_of_serves serves)
      rw [exported] at ran
      cases ran
      rw [memory]
      exact ih.place (Layout.roomFor_destination serves)
  | refused _ failed ran ih =>
      obtain ⟨after, refused, memory⟩ := Bridge.run_exportComposite_of_error failed
      rw [refused] at ran
      cases ran
      rw [memory]
      exact ih
  | release _ ran ih =>
      have stands := ih.stands _ (Multiset.mem_cons_self _ _)
      rw [stands.run_freeMetadata] at ran
      cases ran
      exact ih.release

end Handover

/-- In every run of exports and releases by an allocator that finds room, an export allocates its
four blocks and writes nowhere else, a composite that is refused leaves native memory alone, and
every export that is out can be read back from its record and released. That frees its own four
blocks, once each and the record last, and leaves those of every other export as they were. So the
addresses allocated are those freed and those of the exports still out, and the blocks elsewhere,
which are all blocks when no export is out, are those from before the run. -/
theorem exports_and_releases_balance {placement : Placement} {start state : State}
    {out : Multiset Export} (run : Handover placement start out state) :
    (∀ layout : Layout, layout.Exportable →
        placement.Serves state.memory layout.blockSizes →
        let exported := layout.destination placement state.memory
        ∃ after, (layout.toNative placement).run state = (.ok exported.record, after) ∧
          exported.Added state.memory after.memory) ∧
      (∀ (bridge : Bridge) (composite : Composite) (layout : Layout),
        ((bridge.layout composite).run state).1 = .ok (.ok layout) → layout.Exportable →
        placement.Serves state.memory layout.blockSizes →
        let exported := layout.destination placement state.memory
        ∃ after, (bridge.exportComposite placement composite).run state =
            (.ok (.ok exported.record), after) ∧
          exported.Added state.memory after.memory) ∧
      (∀ (bridge : Bridge) (composite : Composite) (error : Error),
        ((bridge.layout composite).run state).1 = .ok (.error error) →
        ∃ after, (bridge.exportComposite placement composite).run state =
            (.ok (.error error), after) ∧ after.memory = state.memory) ∧
      (∀ exported ∈ out, ∃ metadata after,
        Metadata.read? state.memory exported.record = some metadata ∧
          metadata.members = exported.members ∧ metadata.names = exported.names ∧
          metadata.typeName = exported.typeName ∧
          (freeMetadata exported.record).run state = (.ok (), after) ∧
          exported.Removed state.memory after.memory ∧
          ∀ other ∈ out.erase exported, ∀ block ∈ other.blocks,
            after.memory.blocks[block.1]? = some block.2) ∧
      (lent out).Nodup ∧
      (∃ allocated freed, state.memory.allocated = start.memory.allocated ++ allocated ∧
        state.memory.freed = start.memory.freed ++ freed ∧
        (↑(allocated.map Prod.fst) : Multiset Address) = ↑freed + lent out) ∧
      (∀ address ∉ lent out,
        state.memory.blocks[address]? = start.memory.blocks[address]?) ∧
      (out = 0 → ∀ address : Address,
        state.memory.blocks[address]? = start.memory.blocks[address]?) := by
  have balanced := run.balanced
  refine ⟨?_, ?_, ?_, ?_, balanced.apart, balanced.account, balanced.elsewhere, ?_⟩
  · intro layout exportable serves exported
    exact ⟨_, Layout.run_toNative_placeAll exportable (Layout.granted_of_serves serves),
      .of_room (Layout.roomFor_destination serves)⟩
  · intro bridge composite layout built exportable serves exported
    obtain ⟨after, ran, memory⟩ := Bridge.run_exportComposite_of_layout built exportable
      (Layout.granted_of_serves serves)
    refine ⟨after, ran, ?_⟩
    rw [memory]
    exact .of_room (Layout.roomFor_destination serves)
  · intro bridge composite error failed
    exact Bridge.run_exportComposite_of_error failed
  · intro exported member
    have stands := balanced.stands exported member
    obtain ⟨metadata, found, typeName, names, members⟩ := stands.read?
    have remaining : Balanced start.memory (out.erase exported)
        (state.memory.freeAll exported.released) := by
      apply Balanced.release
      rwa [Multiset.cons_erase member]
    refine ⟨metadata, _, found, members, names, typeName, stands.run_freeMetadata,
      stands.removed, ?_⟩
    intro other among block here
    exact ((remaining.stands other among).holds block here).block
  · rintro rfl address
    exact balanced.elsewhere address (Multiset.notMem_zero address)

namespace Sample

def void : Layout := ⟨"Void", [], []⟩

def point : Layout :=
  ⟨"Point", [0x78, 0, 0x79, 0], [⟨0, 1, .int32, 0⟩, ⟨2, 1, .int32, 1⟩]⟩

end Sample

theorem two_exports_leave_nothing :
    ∃ (first second : Export) (between after : State),
      Handover Memory.bump {} {second, first} between ∧
      first.layout = Sample.void ∧ second.layout = Sample.point ∧
      Handover Memory.bump {} 0 after ∧
      after.memory.freed = first.released ++ second.released ∧
      ∀ address : Address, after.memory.blocks[address]? = none := by
  have voidSizes : Sample.void.blockSizes = [5, 0, 0, 32] := by decide +kernel
  have pointSizes : Sample.point.blockSizes = [6, 4, 32, 32] := by decide +kernel
  have voidFits : Sample.void.Exportable := ⟨by decide +kernel, by decide +kernel⟩
  have pointFits : Sample.point.Exportable := ⟨by decide +kernel, by decide +kernel⟩
  have empty : (State.memory {}).Bounded := by simp [Memory.Bounded]
  have servesBoth : Placement.Serves Memory.bump (State.memory {})
      (Sample.void.blockSizes ++ Sample.point.blockSizes) := by
    rw [voidSizes, pointSizes]
    exact Memory.bump_serves empty (by decide) (by decide)
  have servesVoid : Placement.Serves Memory.bump (State.memory {}) Sample.void.blockSizes := by
    rw [voidSizes]
    exact Memory.bump_serves empty (by decide) (by decide)
  obtain ⟨_, servesPoint⟩ := Layout.serves_destination servesBoth
  have one := Handover.start.layout voidFits servesVoid
    (Layout.run_toNative_placeAll voidFits (Layout.granted_of_serves servesVoid))
  have two := one.layout pointFits servesPoint
    (Layout.run_toNative_placeAll pointFits (Layout.granted_of_serves servesPoint))
  let first := Sample.void.destination Memory.bump (State.memory {})
  let second := Sample.point.destination Memory.bump
    ((State.memory {}).placeAll first.blocks)
  -- The export that came first goes first.
  obtain ⟨_, _, _, releases, _⟩ := exports_and_releases_balance two
  obtain ⟨_, middle, _, _, _, _, ranFirst, removedFirst, _⟩ :=
    releases first (by simp [first])
  have three : Handover Memory.bump {} {second} middle := by
    refine .release ?_ ranFirst
    rw [← Multiset.cons_zero, Multiset.cons_swap]
    exact two
  obtain ⟨_, _, _, releases, _⟩ := exports_and_releases_balance three
  obtain ⟨_, after, _, _, _, _, ranSecond, removedSecond, _⟩ :=
    releases second (Multiset.mem_singleton_self second)
  have four : Handover Memory.bump {} 0 after := .release three ranSecond
  obtain ⟨_, _, _, _, _, _, _, ended⟩ := exports_and_releases_balance four
  refine ⟨first, second, _, after, two, rfl, rfl, four, ?_, ?_⟩
  · rw [removedSecond.freed, removedFirst.freed, Memory.freed_placeAll, Memory.freed_placeAll]
    rfl
  · intro address
    rw [ended rfl address]
    rfl

end Boundary
