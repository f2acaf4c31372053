import Boundary.Proofs.Memory
import Mathlib.Algebra.BigOperators.Group.List.Basic
import Mathlib.Algebra.GroupWithZero.Nat

/-!
New blocks in native memory. Main statement: what is placed apart from everything else stays
readable from any address inside, and an allocator that never goes back always finds such places.
-/

namespace Boundary

namespace Memory

def Apart (base size other count : Nat) : Prop :=
  base + max size 1 ≤ other ∨ other + max count 1 ≤ base

/-- An address, not null, where so many bytes fit in apart from every block. -/
structure Room (memory : Memory) (address : Address) (size : Nat) : Prop where
  positive : 0 < address
  inRange : address + max size 1 ≤ UInt64.size
  apart : ∀ (base : Address) (block : List UInt8), memory.blocks[base]? = some block →
    Apart base block.length address size

structure Holds (memory : Memory) (address : Address) (bytes : List UInt8) : Prop where
  block : memory.blocks[address]? = some bytes
  apart : ∀ (base : Address) (other : List UInt8), memory.blocks[base]? = some other →
    base ≠ address → Apart base other.length address bytes.length

variable {memory : Memory} {address : Address} {bytes : List UInt8}

theorem getElem?_place (memory : Memory) (address base : Address) (bytes : List UInt8) :
    (memory.place address bytes).blocks[base]? =
      if address = base then some bytes else memory.blocks[base]? := by
  rw [place, store, Std.TreeMap.getElem?_insert]
  simp [reserve]

theorem Room.holds (room : memory.Room address bytes.length) :
    (memory.place address bytes).Holds address bytes where
  block := by rw [getElem?_place, if_pos rfl]
  apart base other there different := by
    rw [getElem?_place, if_neg (Ne.symm different)] at there
    exact room.apart base other there

namespace Holds

theorem place (holds : memory.Holds address bytes) {other : Address} {added : List UInt8}
    (room : memory.Room other added.length) : (memory.place other added).Holds address bytes where
  block := by
    have apart := room.apart address bytes holds.block
    rw [getElem?_place, if_neg]
    · exact holds.block
    · rintro rfl
      unfold Apart at apart
      omega
  apart base block there different := by
    rw [getElem?_place] at there
    split at there
    · rename_i same
      cases there
      cases same
      exact (room.apart address bytes holds.block).symm
    · exact holds.apart base block there different

theorem tail? (holds : memory.Holds address bytes) {offset : Nat} (inside : offset < bytes.length) :
    memory.tail? (address + offset) = some (bytes.drop offset) := by
  have found := tail?_of_block holds.block (Nat.le_add_right address offset)
    (Nat.add_lt_add_left inside address) ?_
  · rw [found, Nat.add_sub_cancel_left]
  · intro start other there low high
    by_contra different
    have apart := holds.apart start other there different
    unfold Apart at apart
    omega

theorem read? (holds : memory.Holds address bytes) {offset count : Nat} (positive : 0 < count)
    (inside : offset + count ≤ bytes.length) :
    memory.read? (address + offset) count = some ((bytes.drop offset).take count) := by
  have enough : count ≤ (bytes.drop offset).length := by
    rw [List.length_drop]
    omega
  rw [Memory.read?, if_neg (Nat.ne_of_gt positive), holds.tail? (by omega), Option.bind_some,
    if_pos enough]

theorem readTerminated? (holds : memory.Holds address bytes) {offset : Nat}
    {text rest : List UInt8} (here : bytes.drop offset = text ++ 0 :: rest) (clean : 0 ∉ text) :
    memory.readTerminated? (address + offset) = some text := by
  have inside : offset < bytes.length := by
    by_contra beyond
    rw [List.drop_eq_nil_of_le (Nat.le_of_not_lt beyond)] at here
    simp at here
  rw [Memory.readTerminated?, holds.tail? inside, here, Option.bind_some, if_pos (by simp),
    List.takeWhile_append_of_pos, List.takeWhile_cons_of_neg (by simp), List.append_nil]
  intro byte member
  rw [bne_iff_ne]
  rintro rfl
  exact clean member

end Holds

end Memory

def Placement.NeverFails (placement : Placement) : Prop := ∀ memory size, placement memory size ≠ 0

/-- An allocator that finds room for blocks of some sizes in turn, whatever they hold. -/
def Placement.Serves (placement : Placement) : Memory → List Nat → Prop
  | _, [] => True
  | memory, size :: rest =>
    memory.Room (placement memory size) size ∧
      ∀ bytes : List UInt8, bytes.length = size →
        placement.Serves (memory.place (placement memory size) bytes) rest

namespace Memory

def Bounded (memory : Memory) : Prop :=
  ∀ (base : Address) (block : List UInt8), memory.blocks[base]? = some block →
    base + max block.length 1 ≤ memory.frontier

theorem Bounded.room {memory : Memory} (bounded : memory.Bounded) (positive : 0 < memory.frontier)
    {size : Nat} (short : memory.frontier + max size 1 ≤ UInt64.size) :
    memory.Room memory.frontier size :=
  ⟨positive, short, fun base block there => .inl (bounded base block there)⟩

theorem frontier_place (memory : Memory) (bytes : List UInt8) :
    (memory.place memory.frontier bytes).frontier =
      memory.frontier + (bytes.length / 16 + 1) * 16 :=
  Nat.max_eq_right (Nat.le_add_right _ _)

theorem Bounded.place {memory : Memory} (bounded : memory.Bounded) (bytes : List UInt8) :
    (memory.place memory.frontier bytes).Bounded := by
  intro base block there
  rw [getElem?_place] at there
  rw [frontier_place]
  split at there
  · rename_i here
    cases there
    rw [← here]
    exact Nat.add_le_add_left (by omega) _
  · exact Nat.le_trans (bounded base block there) (Nat.le_add_right _ _)

theorem bump_neverFails : Placement.NeverFails bump := by
  intro memory size
  exact Nat.ne_of_gt (Nat.le_max_right memory.frontier 1)

theorem bump_of_positive {memory : Memory} (positive : 0 < memory.frontier) (size : Nat) :
    bump memory size = memory.frontier :=
  Nat.max_eq_left positive

/-- An allocator that never uses an address twice finds room as long as there are addresses. -/
theorem bump_serves {memory : Memory} (bounded : memory.Bounded) (positive : 0 < memory.frontier)
    {sizes : List Nat}
    (room : memory.frontier + (sizes.map fun size => (size / 16 + 1) * 16).sum ≤ UInt64.size) :
    Placement.Serves bump memory sizes := by
  induction sizes generalizing memory with
  | nil => trivial
  | cons size rest ih =>
      rw [List.map_cons, List.sum_cons] at room
      have short : memory.frontier + max size 1 ≤ UInt64.size :=
        Nat.le_trans (Nat.add_le_add_left (by omega) _) room
      rw [Placement.Serves, bump_of_positive positive]
      refine ⟨bounded.room positive short, ?_⟩
      rintro bytes rfl
      rw [← Nat.add_assoc, ← frontier_place memory bytes] at room
      have above : 0 < (memory.place memory.frontier bytes).frontier :=
        Nat.lt_of_lt_of_le positive (Nat.le_max_left _ _)
      exact ih (bounded.place bytes) above room

end Memory

end Boundary
