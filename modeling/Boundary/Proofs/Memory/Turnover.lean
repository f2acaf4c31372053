import Boundary.Proofs.Memory.Placement

/-!
Several blocks that come and go together. Main statement: blocks for which there is room are placed
at addresses of their own, and neither that nor a release reaches any block elsewhere.
-/

namespace Boundary.Memory

def placeAll (memory : Memory) (blocks : List (Address × List UInt8)) : Memory :=
  blocks.foldl (fun memory block => memory.place block.1 block.2) memory

def RoomFor (memory : Memory) : List (Address × List UInt8) → Prop
  | [] => True
  | block :: rest =>
    memory.Room block.1 block.2.length ∧ (memory.place block.1 block.2).RoomFor rest

section Place

variable {memory : Memory} {blocks : List (Address × List UInt8)} {address : Address}
  {bytes : List UInt8}

theorem placeAll_cons (memory : Memory) (block : Address × List UInt8)
    (rest : List (Address × List UInt8)) :
    memory.placeAll (block :: rest) = (memory.place block.1 block.2).placeAll rest := rfl

theorem allocated_placeAll (memory : Memory) (blocks : List (Address × List UInt8)) :
    (memory.placeAll blocks).allocated =
      memory.allocated ++ blocks.map fun block => (block.1, block.2.length) := by
  induction blocks generalizing memory with
  | nil => simp [placeAll]
  | cons block rest ih => rw [placeAll_cons, ih, allocated_place, List.append_assoc]; rfl

theorem freed_placeAll (memory : Memory) (blocks : List (Address × List UInt8)) :
    (memory.placeAll blocks).freed = memory.freed := by
  induction blocks generalizing memory with
  | nil => rfl
  | cons block rest ih => rw [placeAll_cons, ih, freed_place]

theorem getElem?_placeAll_of_notMem (memory : Memory)
    (outside : address ∉ blocks.map Prod.fst) :
    (memory.placeAll blocks).blocks[address]? = memory.blocks[address]? := by
  induction blocks generalizing memory with
  | nil => rfl
  | cons block rest ih =>
      rw [List.map_cons, List.mem_cons, not_or] at outside
      rw [placeAll_cons, ih _ outside.2, getElem?_place, if_neg (Ne.symm outside.1)]

theorem Room.vacant {size : Nat} (room : memory.Room address size) :
    memory.blocks[address]? = none := by
  cases there : memory.blocks[address]? with
  | none => rfl
  | some block =>
      have apart := room.apart address block there
      unfold Apart at apart
      omega

theorem Holds.placeAll (holds : memory.Holds address bytes) (room : memory.RoomFor blocks) :
    (memory.placeAll blocks).Holds address bytes := by
  induction blocks generalizing memory with
  | nil => exact holds
  | cons block rest ih => exact ih (holds.place room.1) room.2

namespace RoomFor

theorem holds (room : memory.RoomFor blocks) {block : Address × List UInt8}
    (member : block ∈ blocks) : (memory.placeAll blocks).Holds block.1 block.2 := by
  induction blocks generalizing memory with
  | nil => cases member
  | cons first rest ih =>
      rcases List.mem_cons.1 member with rfl | later
      · exact room.1.holds.placeAll room.2
      · exact ih room.2 later

theorem vacant (room : memory.RoomFor blocks) (member : address ∈ blocks.map Prod.fst) :
    memory.blocks[address]? = none := by
  induction blocks generalizing memory with
  | nil => cases member
  | cons block rest ih =>
      rcases List.mem_cons.1 member with rfl | later
      · exact room.1.vacant
      · have free := ih room.2 later
        rw [getElem?_place] at free
        split at free
        · cases free
        · exact free

theorem nodup (room : memory.RoomFor blocks) : (blocks.map Prod.fst).Nodup := by
  induction blocks generalizing memory with
  | nil => exact .nil
  | cons block rest ih =>
      refine List.nodup_cons.2 ⟨?_, ih room.2⟩
      intro again
      -- The first block already lies where the later one would go.
      have free := room.2.vacant again
      rw [getElem?_place, if_pos rfl] at free
      cases free

theorem inRange (room : memory.RoomFor blocks) (member : address ∈ blocks.map Prod.fst) :
    0 < address ∧ address < UInt64.size := by
  induction blocks generalizing memory with
  | nil => cases member
  | cons block rest ih =>
      rcases List.mem_cons.1 member with rfl | later
      · have wide : 0 < max block.2.length 1 := by omega
        exact ⟨room.1.positive,
          Nat.lt_of_lt_of_le (Nat.lt_add_of_pos_right wide) room.1.inRange⟩
      · exact ih room.2 later

end RoomFor

end Place

section Release

variable {memory : Memory} {addresses : List Address} {address : Address} {bytes : List UInt8}

theorem getElem?_freeAll (memory : Memory) (addresses : List Address) (address : Address) :
    (memory.freeAll addresses).blocks[address]? =
      if address ∈ addresses then none else memory.blocks[address]? := by
  induction addresses generalizing memory with
  | nil => rfl
  | cons first rest ih =>
      change ((memory.free first).freeAll rest).blocks[address]? = _
      rw [ih, free, Std.TreeMap.getElem?_erase]
      by_cases here : address = first
      · simp [here]
      · simp [here, Ne.symm here]

theorem allocated_freeAll (memory : Memory) (addresses : List Address) :
    (memory.freeAll addresses).allocated = memory.allocated := by
  induction addresses generalizing memory with
  | nil => rfl
  | cons first rest ih => exact ih (memory.free first)

theorem Holds.freeAll (holds : memory.Holds address bytes) (kept : address ∉ addresses) :
    (memory.freeAll addresses).Holds address bytes where
  block := by rw [getElem?_freeAll, if_neg kept, holds.block]
  apart base other there different := by
    rw [getElem?_freeAll] at there
    split at there
    · cases there
    · exact holds.apart base other there different

end Release

end Boundary.Memory
