import Boundary.Memory

/-!
Buffers in native memory. A buffer can be read as a whole, and releasing another one leaves it alone.
-/

namespace Boundary.Memory

def freeAll (memory : Memory) (addresses : List Address) : Memory :=
  addresses.foldl free memory

theorem freeAll_append (memory : Memory) (earlier later : List Address) :
    memory.freeAll (earlier ++ later) = (memory.freeAll earlier).freeAll later :=
  List.foldl_append

theorem freed_freeAll (memory : Memory) (addresses : List Address) :
    (memory.freeAll addresses).freed = memory.freed ++ addresses := by
  induction addresses generalizing memory with
  | nil => simp [freeAll]
  | cons address rest ih =>
      change ((memory.free address).freeAll rest).freed = _
      rw [ih, free, List.append_assoc, List.singleton_append]

theorem tail?_of_block {memory : Memory} {base address : Nat} {bytes : List UInt8}
    (block : memory.blocks[base]? = some bytes) (low : base ≤ address)
    (high : address < base + bytes.length)
    (alone : ∀ (start : Nat) (other : List UInt8), memory.blocks[start]? = some other →
      start ≤ address → address < start + other.length → start = base) :
    memory.tail? address = some (bytes.drop (address - base)) := by
  have member : (base, bytes) ∈ memory.blocks.toList :=
    Std.TreeMap.mem_toList_iff_getElem?_eq_some.2 block
  rw [tail?, Option.map_eq_some_iff]
  cases found : memory.blocks.toList.find? fun block =>
      decide (block.1 ≤ address) && decide (address < block.1 + block.2.length) with
  | none =>
      have missed := List.find?_eq_none.1 found _ member
      simp [low, high] at missed
  | some block =>
      obtain ⟨start, other⟩ := block
      have reached := List.find?_some found
      simp only [Bool.and_eq_true, decide_eq_true_eq] at reached
      have there : memory.blocks[start]? = some other :=
        Std.TreeMap.mem_toList_iff_getElem?_eq_some.1 (List.mem_of_find?_eq_some found)
      obtain rfl := alone start other there reached.1 reached.2
      rw [block] at there
      cases there
      exact ⟨_, rfl, rfl⟩

structure Buffer (memory : Memory) (address : Address) (bytes : List UInt8) : Prop where
  positive : 0 < address
  inRange : address < UInt64.size
  block : memory.blocks[address]? = some bytes
  alone : ∀ (base : Address) (other : List UInt8), memory.blocks[base]? = some other →
    base ≤ address → address < base + other.length → base = address

theorem buffer_of_single {memory : Memory} {address : Address} {bytes : List UInt8}
    (single : memory.blocks.toList = [(address, bytes)]) (positive : 0 < address)
    (inRange : address < UInt64.size) : memory.Buffer address bytes where
  positive := positive
  inRange := inRange
  block := by
    rw [← Std.TreeMap.mem_toList_iff_getElem?_eq_some, single]
    exact List.mem_cons_self
  alone base other there _ _ := by
    rw [← Std.TreeMap.mem_toList_iff_getElem?_eq_some, single, List.mem_singleton] at there
    cases there
    rfl

namespace Buffer

variable {memory : Memory} {address : Address} {bytes : List UInt8}

theorem tail? (buffer : memory.Buffer address bytes) (nonempty : 0 < bytes.length) :
    memory.tail? address = some bytes := by
  have found := tail?_of_block buffer.block (Nat.le_refl _) (Nat.lt_add_of_pos_right nonempty)
    buffer.alone
  rw [found, Nat.sub_self, List.drop_zero]

theorem read? (buffer : memory.Buffer address bytes) :
    memory.read? address bytes.length = some bytes := by
  rw [Memory.read?]
  split
  · rename_i empty
    rw [List.length_eq_zero_iff.1 empty]
  · rename_i nonempty
    rw [buffer.tail? (Nat.pos_of_ne_zero nonempty), Option.bind_some, if_pos (Nat.le_refl _),
      List.take_length]

theorem free (buffer : memory.Buffer address bytes) {other : Address} (different : other ≠ address) :
    (memory.free other).Buffer address bytes where
  positive := buffer.positive
  inRange := buffer.inRange
  block := by
    rw [Memory.free, Std.TreeMap.getElem?_erase]
    simp [different, buffer.block]
  alone base bytes there := by
    rw [Memory.free, Std.TreeMap.getElem?_erase] at there
    split at there
    · cases there
    · exact buffer.alone base bytes there

end Buffer

end Boundary.Memory
