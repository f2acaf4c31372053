import Boundary.Object

/-!
Live objects and the references to them. Main statements: starting an object, retaining it and giving
it up change the references to that object alone, and no two live objects share an address.
-/

namespace Boundary.Objects

/-- The references to an object. There are none once its address serves another one. -/
def referencesTo (objects : Objects) (object : Object) : Nat :=
  match objects.cells[object.address]? with
  | some cell => if cell.object = object then cell.references else 0
  | none => 0

/-- Every cell stands at the address of its object, which was created before and is referred to. -/
structure Sound (objects : Objects) : Prop where
  address_eq : ∀ (address : Address) (cell : Cell), objects.cells[address]? = some cell →
    cell.object.address = address
  serial_lt : ∀ (address : Address) (cell : Cell), objects.cells[address]? = some cell →
    cell.object.serial < objects.created
  references_pos : ∀ (address : Address) (cell : Cell), objects.cells[address]? = some cell →
    0 < cell.references

theorem Sound.empty : Sound {} := by
  constructor <;> simp

theorem cell_of_referencesTo_pos {objects : Objects} {object : Object}
    (live : 0 < objects.referencesTo object) :
    ∃ cell, objects.cells[object.address]? = some cell ∧ cell.object = object := by
  unfold referencesTo at live
  split at live
  · rename_i cell found
    split at live
    · rename_i same
      exact ⟨cell, found, same⟩
    · exact absurd live (Nat.lt_irrefl 0)
  · exact absurd live (Nat.lt_irrefl 0)

/-- No two live objects share an address. -/
theorem eq_of_same_address {objects : Objects} {left right : Object}
    (leftLive : 0 < objects.referencesTo left) (rightLive : 0 < objects.referencesTo right)
    (same : left.address = right.address) : left = right := by
  obtain ⟨leftCell, leftFound, rfl⟩ := cell_of_referencesTo_pos leftLive
  obtain ⟨rightCell, rightFound, rfl⟩ := cell_of_referencesTo_pos rightLive
  rw [same, rightFound] at leftFound
  cases leftFound
  rfl

theorem referencesTo_of_free {objects : Objects} {object : Object}
    (free : objects.cells[object.address]? = none) : objects.referencesTo object = 0 := by
  simp [referencesTo, free]

theorem cells_create (objects : Objects) (content : Content) (address other : Address) :
    (objects.create content address).2.cells[other]? =
      if address = other then some ⟨(objects.create content address).1, 1⟩
      else objects.cells[other]? := by
  simp [create, Std.TreeMap.getElem?_insert]

section Changes

variable {objects : Objects} {object : Object} {cell : Cell}

theorem cells_retain (found : objects.cells[object.address]? = some cell) (other : Address) :
    (objects.retain object).cells[other]? =
      if object.address = other then some { cell with references := cell.references + 1 }
      else objects.cells[other]? := by
  simp [retain, Std.TreeMap.getElem?_modify, found]

theorem cells_drop (found : objects.cells[object.address]? = some cell) (other : Address) :
    (objects.drop object).cells[other]? =
      if object.address = other then
        if cell.references ≤ 1 then none else some { cell with references := cell.references - 1 }
      else objects.cells[other]? := by
  by_cases last : cell.references ≤ 1
  · simp [drop, found, last, Std.TreeMap.getElem?_erase]
  · simp [drop, found, last, Std.TreeMap.getElem?_insert]

@[simp] theorem created_retain (objects : Objects) (object : Object) :
    (objects.retain object).created = objects.created := rfl

@[simp] theorem created_drop (objects : Objects) (object : Object) :
    (objects.drop object).created = objects.created := by
  unfold drop
  split
  · rfl
  · split <;> rfl

theorem referencesTo_create (content : Content) {address : Address}
    (free : objects.cells[address]? = none) (other : Object) :
    (objects.create content address).2.referencesTo other =
      if other = (objects.create content address).1 then 1 else objects.referencesTo other := by
  unfold referencesTo
  rw [cells_create]
  by_cases here : address = other.address
  · subst here
    by_cases equal : other = (objects.create content other.address).1
    · simp [← equal]
    · simp [free, equal, Ne.symm equal]
  · have different : other ≠ (objects.create content address).1 := by
      rintro rfl
      exact here rfl
    simp [here, different]

theorem referencesTo_retain (live : 0 < objects.referencesTo object) (other : Object) :
    (objects.retain object).referencesTo other =
      objects.referencesTo other + if other = object then 1 else 0 := by
  obtain ⟨cell, found, rfl⟩ := cell_of_referencesTo_pos live
  unfold referencesTo
  rw [cells_retain found]
  by_cases here : cell.object.address = other.address
  · rw [here] at found
    by_cases equal : other = cell.object
    · simp [here, found, equal]
    · simp [here, found, equal, Ne.symm equal]
  · have different : other ≠ cell.object := fun same => here (same ▸ rfl)
    simp [here, different]

theorem referencesTo_drop (live : 0 < objects.referencesTo object) (other : Object) :
    (objects.drop object).referencesTo other =
      objects.referencesTo other - if other = object then 1 else 0 := by
  obtain ⟨cell, found, rfl⟩ := cell_of_referencesTo_pos live
  unfold referencesTo
  rw [cells_drop found]
  by_cases here : cell.object.address = other.address
  · rw [here] at found
    by_cases equal : other = cell.object
    · by_cases last : cell.references ≤ 1
      · simp [here, found, equal, last]
      · simp [here, found, equal, last]
    · by_cases last : cell.references ≤ 1
      · simp [here, found, equal, Ne.symm equal, last]
      · simp [here, found, equal, Ne.symm equal, last]
  · have different : other ≠ cell.object := fun same => here (same ▸ rfl)
    simp [here, different]

end Changes

namespace Sound

variable {objects : Objects} (sound : objects.Sound)

include sound

theorem create (content : Content) (address : Address) :
    (objects.create content address).2.Sound := by
  constructor
  · intro other cell found
    rw [cells_create] at found
    split at found
    · rename_i here
      cases found
      exact here
    · exact sound.address_eq _ _ found
  · intro other cell found
    rw [cells_create] at found
    split at found
    · cases found
      exact Nat.lt_succ_self _
    · exact Nat.lt_succ_of_lt (sound.serial_lt _ _ found)
  · intro other cell found
    rw [cells_create] at found
    split at found
    · cases found
      exact Nat.one_pos
    · exact sound.references_pos _ _ found

theorem retain {object : Object} (live : 0 < objects.referencesTo object) :
    (objects.retain object).Sound := by
  obtain ⟨cell, found, rfl⟩ := cell_of_referencesTo_pos live
  constructor
  · intro other otherCell otherFound
    rw [cells_retain found] at otherFound
    split at otherFound
    · rename_i here
      cases otherFound
      exact here
    · exact sound.address_eq _ _ otherFound
  · intro other otherCell otherFound
    rw [cells_retain found] at otherFound
    split at otherFound
    · cases otherFound
      have below := sound.serial_lt _ _ found
      exact below
    · exact sound.serial_lt _ _ otherFound
  · intro other otherCell otherFound
    rw [cells_retain found] at otherFound
    split at otherFound
    · cases otherFound
      exact Nat.succ_pos _
    · exact sound.references_pos _ _ otherFound

theorem drop {object : Object} (live : 0 < objects.referencesTo object) :
    (objects.drop object).Sound := by
  obtain ⟨cell, found, rfl⟩ := cell_of_referencesTo_pos live
  have kept (other : Address) (otherCell : Cell)
      (otherFound : (objects.drop cell.object).cells[other]? = some otherCell) :
      0 < otherCell.references ∧ ∃ former, objects.cells[other]? = some former ∧
        former.object = otherCell.object := by
    rw [cells_drop found] at otherFound
    split at otherFound
    · rename_i here
      split at otherFound
      · cases otherFound
      · cases otherFound
        exact ⟨by simp only; omega, cell, here ▸ found, rfl⟩
    · exact ⟨sound.references_pos _ _ otherFound, otherCell, otherFound, rfl⟩
  constructor
  · intro other otherCell otherFound
    obtain ⟨_, former, formerFound, same⟩ := kept _ _ otherFound
    exact same ▸ sound.address_eq _ _ formerFound
  · intro other otherCell otherFound
    obtain ⟨_, former, formerFound, same⟩ := kept _ _ otherFound
    rw [created_drop]
    exact same ▸ sound.serial_lt _ _ formerFound
  · intro other otherCell otherFound
    exact (kept _ _ otherFound).1

end Sound

end Boundary.Objects
