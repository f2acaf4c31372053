import Boundary.Proofs.Layout.Blocks
import Boundary.Proofs.Layout.Build

/-!
Which layouts are too large to export. The building of a layout bounds the number of members, an
export the bytes of their names. Main statement: an export completes exactly if the type name and the
names together fit the length of a view, however many members there are.
-/

namespace Boundary

theorem run_checkedLength_of_long {size : Nat} (long : greatestLength < size) (state : State) :
    (checkedLength size).run state = (.error (.panic (.textTooLong size)), state) := by
  rw [checkedLength, if_neg (Nat.not_le.2 long)]
  rfl

def Action.HaltsBy {result : Type} (allowed : Halt → Prop) (action : Action result) : Prop :=
  ∀ state halt, (action.run state).1 = .error halt → allowed halt

namespace Action.HaltsBy

variable {allowed : Halt → Prop} {first second : Type}

theorem pure (value : first) : (Pure.pure value : Action first).HaltsBy allowed :=
  fun _ _ halted => by cases halted

theorem bind {action : Action first} {next : first → Action second}
    (before : action.HaltsBy allowed) (after : ∀ value, (next value).HaltsBy allowed) :
    (action >>= next).HaltsBy allowed := by
  intro state halt halted
  rw [run_bind] at halted
  rcases ran : action.run state with ⟨other | value, middle⟩ <;> rw [ran] at halted
  · cases halted
    exact before state halt (by rw [ran])
  · exact after value middle halt halted

end Action.HaltsBy

namespace Layout

variable {layout : Layout}

section Inside

/-- A view is too short for what it is to show, or an allocator has no block left. -/
def EndsExport (halt : Halt) : Prop :=
  (∃ size, halt = .panic (.textTooLong size)) ∨ ∃ size, halt = .outOfMemory size

theorem checkedLength_haltsBy (size : Nat) : (checkedLength size).HaltsBy EndsExport := by
  intro state halt halted
  unfold checkedLength at halted
  split at halted
  · cases halted
  · cases halted
    exact .inl ⟨size, rfl⟩

theorem supply_haltsBy (placement : Placement) {size : Nat} {bytes : List UInt8}
    (fits : bytes.length ≤ size) : (supply placement size bytes).HaltsBy EndsExport := by
  intro state halt halted
  by_cases null : placement state.memory size = 0
  · rw [supply, Action.run_bind, run_allocate_of_null null] at halted
    cases halted
    exact .inr ⟨size, rfl⟩
  · simp only [supply, Action.run_bind, run_allocate null, Block.fill, if_pos fits,
      Action.run_modify, Action.run_pure] at halted
    cases halted

/-- Whatever the allocator does, every write of an export lies inside the block that it asked for. -/
theorem toNative_writes_inside (layout : Layout) (placement : Placement) (state : State)
    (address : Address) (count : Nat) :
    ((layout.toNative placement).run state).1 ≠ .error (.fault address count) := by
  have halts : (layout.toNative placement).HaltsBy EndsExport := by
    refine .bind (.bind (checkedLength_haltsBy _) fun _ => supply_haltsBy _ (by simp)) ?_
    intro typeName
    refine .bind (.bind (checkedLength_haltsBy _) fun _ => supply_haltsBy _ (Nat.le_refl _)) ?_
    intro names
    refine .bind (supply_haltsBy _ (Nat.le_of_eq (layout.length_entryBytes names))) ?_
    intro members
    refine .bind (supply_haltsBy _ (Nat.le_of_eq (Metadata.length_toBytes _))) ?_
    intro record
    exact .bind (fun _ _ halted => by cases halted) fun _ => .pure record
  intro halted
  rcases halts state _ halted with ⟨_, other⟩ | ⟨_, other⟩ <;> cases other

end Inside

theorem run_toNative_of_long_typeName
    (long : greatestLength < (Utf8.bytes layout.typeName).length) (placement : Placement)
    (state : State) :
    (layout.toNative placement).run state =
      (.error (.panic (.textTooLong (Utf8.bytes layout.typeName).length)), state) := by
  simp only [toNative, copyText, Action.run_bind, run_checkedLength_of_long long]

theorem run_toNative_of_long_names {placement : Placement} {state : State}
    (never : placement.NeverFails)
    (short : (Utf8.bytes layout.typeName).length ≤ greatestLength)
    (long : greatestLength < layout.names.length) :
    (layout.toNative placement).run state =
      (.error (.panic (.textTooLong layout.names.length)), { state with
        memory := state.memory.place
          (placement state.memory (Utf8.bytes layout.typeName ++ [0]).length)
          (Utf8.bytes layout.typeName ++ [0]) }) := by
  simp only [toNative, Action.run_bind, run_copyText short (never state.memory _), copyBytes,
    run_checkedLength_of_long long]

theorem toNative_ok_iff {placement : Placement} (never : placement.NeverFails) (state : State) :
    (∃ address after, (layout.toNative placement).run state = (.ok address, after)) ↔
      layout.Exportable := by
  constructor
  · rintro ⟨address, after, ran⟩
    by_cases short : (Utf8.bytes layout.typeName).length ≤ greatestLength
    · refine ⟨short, ?_⟩
      by_contra long
      rw [run_toNative_of_long_names never short (Nat.lt_of_not_le long)] at ran
      cases ran
    · rw [run_toNative_of_long_typeName (Nat.lt_of_not_le short)] at ran
      cases ran
  · intro exportable
    exact ⟨_, _, run_toNative_placeAll exportable (granted_of_neverFails never layout _)⟩

namespace Describes

variable {typeName : String} {platform : Platform} {fields : List Field}

theorem length_names (described : layout.Describes typeName platform fields) :
    layout.names.length = plannedSize fields := by
  rw [described.names, Field.plannedSize_eq]

theorem exportable_iff (described : layout.Describes typeName platform fields) :
    layout.Exportable ↔
      (Utf8.bytes typeName).length ≤ greatestLength ∧ plannedSize fields ≤ greatestLength := by
  rw [← described.length_names, ← described.typeName]
  constructor
  · intro exportable
    exact ⟨exportable.typeName, exportable.names⟩
  · rintro ⟨name, names⟩
    exact ⟨name, names⟩

end Describes

end Layout

/-- With an allocator that never fails, a layout that was built is exported without a halt exactly if
its type name is no longer than a view can state and its external names, each with a zero byte behind,
are not so together either. The export then allocates its four blocks, in order, and frees nothing.
Otherwise the check on the length of a view panics, for the type name before anything is allocated;
nothing else can go wrong. -/
theorem export_completes_iff_names_fit {typeName : String} {platform : Platform}
    {fields : List Field} {layout : Layout} {start : State}
    (built : ((Layout.build typeName fields platform).run start).1 = .ok (.ok layout))
    {placement : Placement} (never : placement.NeverFails) (state : State) :
    ((∃ address after, (layout.toNative placement).run state = (.ok address, after)) ↔
        (Utf8.bytes typeName).length ≤ greatestLength ∧
          Layout.plannedSize fields ≤ greatestLength) ∧
      (∀ address after, (layout.toNative placement).run state = (.ok address, after) →
        after.memory.allocated.map Prod.snd =
          state.memory.allocated.map Prod.snd ++ [(Utf8.bytes typeName).length + 1,
            Layout.plannedSize fields, MemberEntry.size * fields.length, Metadata.size] ∧
        after.memory.freed = state.memory.freed) ∧
      (greatestLength < (Utf8.bytes typeName).length →
        (layout.toNative placement).run state =
          (.error (.panic (.textTooLong (Utf8.bytes typeName).length)), state)) ∧
      ((Utf8.bytes typeName).length ≤ greatestLength →
        greatestLength < Layout.plannedSize fields →
        ((layout.toNative placement).run state).1 =
          .error (.panic (.textTooLong (Layout.plannedSize fields)))) := by
  obtain ⟨_, described⟩ := Layout.describes_of_build built
  rw [← described.exportable_iff, ← described.length_names, ← described.typeName]
  refine ⟨Layout.toNative_ok_iff never state, ?_, ?_, ?_⟩
  · intro address after ran
    have exportable := (Layout.toNative_ok_iff never state).1 ⟨address, after, ran⟩
    have granted := Layout.granted_of_neverFails never layout state.memory
    rw [Layout.run_toNative_placeAll exportable granted] at ran
    cases ran
    rw [Memory.allocated_placeAll, Memory.freed_placeAll, ← described.count]
    simp [Layout.destination, Export.blocks, Layout.length_entryBytes]
  · intro long
    exact Layout.run_toNative_of_long_typeName long placement state
  · intro short long
    rw [Layout.run_toNative_of_long_names never short long]

namespace Sample

def drawnOut (length : Nat) : Field where
  name := String.ofList (List.replicate length 'a')
  type := .bool
  nulFree := by
    rw [String.toList_ofList]
    intro nul
    exact absurd (List.eq_of_mem_replicate nul) (by decide)

theorem fold_replicate (length : Nat) :
    Field.fold (List.replicate length 'a') = List.replicate length 'a' := by
  have small : Text.lowerChar 'a' = ['a'] := by decide +kernel
  cases length with
  | zero => rfl
  | succ length => rw [List.replicate_succ, Field.fold, small, List.singleton_append]

theorem plannedSize_drawnOut (length : Nat) :
    Layout.plannedSize [drawnOut length] = length + 1 := by
  have size : (Utf8.encode (List.replicate length 'a')).length = length := by
    simp [Utf8.encode, List.length_flatMap, String.utf8EncodeChar]
  rw [Field.plannedSize_eq, List.flatMap_singleton, Field.length_stored, drawnOut,
    Field.externalName, String.toList_ofList, fold_replicate, Utf8.bytes, String.toList_ofList, size]

theorem exists_layout_drawnOut (length : Nat) :
    ∃ layout, ((Layout.build "Long" [drawnOut length] .wide).run {}).1 = .ok (.ok layout) := by
  have few : [drawnOut length].length ≤ greatestLength := show 1 ≤ greatestLength by decide
  apply (Layout.build_ok_iff few {}).2
  intro field member
  rw [List.mem_singleton.1 member]
  exact ⟨.bool, rfl⟩

end Sample

theorem export_of_short_name_completes :
    Placement.NeverFails Memory.bump ∧ ∃ layout, ((Layout.build "Long" [Sample.drawnOut 3] .wide).run {}).1 = .ok (.ok layout) ∧
      ∃ address after, (layout.toNative Memory.bump).run {} = (.ok address, after) ∧
        after.memory.allocated.map Prod.snd = [5, 4, 16, 32] := by
  obtain ⟨layout, built⟩ := Sample.exists_layout_drawnOut 3
  have name : (Utf8.bytes "Long").length = 4 := by decide +kernel
  have names := Sample.plannedSize_drawnOut 3
  obtain ⟨completes, blocks, _, _⟩ :=
    export_completes_iff_names_fit built Memory.bump_neverFails {}
  obtain ⟨address, after, ran⟩ := completes.2 ⟨by rw [name]; decide, by rw [names]; decide⟩
  obtain ⟨sizes, _⟩ := blocks address after ran
  rw [name, names] at sizes
  exact ⟨Memory.bump_neverFails, layout, built, address, after, ran, sizes⟩

/-- One name that only just fits a view is too long with its zero byte. It is laid out, but its
export panics, and the type name stays in native memory. -/
theorem export_of_drawn_out_name_panics :
    ∃ layout after,
      ((Layout.build "Long" [Sample.drawnOut 0x7fffffff] .wide).run {}).1 = .ok (.ok layout) ∧
      (layout.toNative Memory.bump).run {} =
        (.error (.panic (.textTooLong 0x80000000)), after) ∧
      after.memory.allocated.map Prod.snd = [5] ∧ after.memory.freed = [] := by
  obtain ⟨layout, built⟩ := Sample.exists_layout_drawnOut 0x7fffffff
  obtain ⟨_, described⟩ := Layout.describes_of_build built
  have name : Utf8.bytes layout.typeName = Utf8.bytes "Long" := by rw [described.typeName]
  have fits : (Utf8.bytes "Long").length = 4 := by decide +kernel
  have size : layout.names.length = 0x80000000 :=
    described.length_names.trans (Sample.plannedSize_drawnOut 0x7fffffff)
  have ran : (layout.toNative Memory.bump).run {} = _ :=
    Layout.run_toNative_of_long_names Memory.bump_neverFails (by rw [name, fits]; decide)
      (by rw [size]; decide)
  rw [size, name] at ran
  refine ⟨layout, _, built, ran, ?_, rfl⟩
  rw [Memory.allocated_place, List.map_append, List.map_singleton, List.length_append, fits]
  rfl

end Boundary
