import Boundary.Layout
import Boundary.Proofs.Text.Lowercase
import Boundary.Proofs.Text.Utf8

/-!
External names. Main statement: folding a second time changes nothing, what stands behind the first
character is kept byte by byte, and a name without a zero character has no zero byte under its external
name.
-/

namespace Boundary

namespace Utf8

theorem ofNat_ne_zero {number : Nat} (positive : 0 < number) (small : number < 256) :
    UInt8.ofNat number ≠ 0 := by
  intro zero
  have same : (UInt8.ofNat number).toNat = number := UInt8.toNat_ofNat_of_lt' small
  rw [zero] at same
  exact absurd same (Nat.ne_of_lt positive)

theorem zero_notMem_encodeChar {char : Char} (nonzero : char ≠ '\x00') :
    0 ∉ String.utf8EncodeChar char := by
  have positive := Text.toNat_pos nonzero
  have number : char.val.toNat = char.toNat := rfl
  have valid : char.toNat < 0xd800 ∨ 0xdfff < char.toNat ∧ char.toNat < 0x110000 := char.valid
  simp only [String.utf8EncodeChar, number]
  repeat' split
  all_goals
    simp only [List.mem_cons, List.not_mem_nil, or_false, not_or]
    repeat' apply And.intro
    all_goals exact (ofNat_ne_zero (by omega) (by omega)).symm

theorem zero_notMem_bytes {text : String} (nulFree : '\x00' ∉ text.toList) : 0 ∉ bytes text := by
  intro zero
  obtain ⟨char, member, encoded⟩ := List.mem_flatMap.1 zero
  exact zero_notMem_encodeChar (fun nul => nulFree (nul ▸ member)) encoded

end Utf8

namespace Field

theorem zero_notMem_externalName {name : String} (nulFree : '\x00' ∉ name.toList) :
    '\x00' ∉ (externalName name).toList := by
  rw [externalName, String.toList_ofList]
  cases whole : name.toList with
  | nil => exact List.not_mem_nil
  | cons first rest =>
      rw [whole, List.mem_cons, not_or] at nulFree
      rw [fold, List.mem_append, not_or]
      exact ⟨Text.zero_notMem_lowerChar (Ne.symm nulFree.1), nulFree.2⟩

theorem zero_notMem_bytes (field : Field) : 0 ∉ Utf8.bytes (externalName field.name) :=
  Utf8.zero_notMem_bytes (zero_notMem_externalName field.nulFree)

theorem fold_fold (name : List Char) : fold (fold name) = fold name := by
  cases name with
  | nil => rfl
  | cons first rest =>
      obtain ⟨small, others, form, stays⟩ := Text.exists_lowerChar first
      simp only [fold, form, List.cons_append, stays, List.nil_append]

theorem externalName_externalName (name : String) :
    externalName (externalName name) = externalName name := by
  rw [externalName, externalName, String.toList_ofList, fold_fold]

theorem bytes_externalName {name : String} {first : Char} {rest : List Char}
    (whole : name.toList = first :: rest) :
    Utf8.bytes (externalName name) = Utf8.encode (Text.lowerChar first) ++ Utf8.encode rest := by
  rw [Utf8.bytes, externalName, String.toList_ofList, whole, fold, Utf8.encode, List.flatMap_append]
  rfl

end Field

/-- Folding a name is stable, for a folded name is its own external name, and local: the bytes behind
the first character stay as they are, behind a lowercase form of that character that is not empty. It
brings in no zero character, nor a zero byte. -/
theorem folding_stable_and_local (name : String) :
    Field.externalName (Field.externalName name) = Field.externalName name ∧
      (name ≠ "" → Field.externalName name ≠ "" ∧
        ∃ first rest, name.toList = first :: rest ∧
          Utf8.bytes name = Utf8.encode [first] ++ Utf8.encode rest ∧
          Text.lowerChar first ≠ [] ∧
          Utf8.bytes (Field.externalName name) =
            Utf8.encode (Text.lowerChar first) ++ Utf8.encode rest) ∧
      ('\x00' ∉ name.toList → '\x00' ∉ (Field.externalName name).toList ∧
        0 ∉ Utf8.bytes (Field.externalName name)) := by
  refine ⟨Field.externalName_externalName name, ?_, ?_⟩
  · intro nonempty
    cases whole : name.toList with
    | nil => exact absurd (String.toList_eq_nil_iff.1 whole) nonempty
    | cons first rest =>
        have form := Text.lowerChar_ne_nil first
        refine ⟨?_, first, rest, rfl, ?_, form, Field.bytes_externalName whole⟩
        · intro empty
          rw [Field.externalName, whole, ← String.toList_inj, String.toList_ofList] at empty
          exact form (List.append_eq_nil_iff.1 empty).1
        · rw [Utf8.bytes, whole, ← List.singleton_append, Utf8.encode, List.flatMap_append]
          rfl
  · intro nulFree
    have clean := Field.zero_notMem_externalName nulFree
    exact ⟨clean, Utf8.zero_notMem_bytes clean⟩

/-- The first character may become two, or one of fewer bytes. -/
example : Field.externalName "\u0130ndex" = "i\u0307ndex" ∧
    Field.externalName "\u212aey" = "key" := by decide +kernel

end Boundary
