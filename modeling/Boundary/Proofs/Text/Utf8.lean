import Boundary.Text.Utf8

/-!
Encoding and decoding of text. Main statement: the bytes of a text are read back as that text.
-/

namespace Boundary.Utf8

section Lead

variable {number : Nat}

theorem lead_of_single (high : number < 0x80) :
    lead (UInt8.ofNat number) = .single (Char.ofNat number) := by
  have byte : (UInt8.ofNat number).toNat = number :=
    UInt8.toNat_ofNat_of_lt' (show number < 256 by omega)
  have below : UInt8.ofNat number < 0x80 := UInt8.lt_iff_toNat_lt.2 (by rw [byte]; exact high)
  rw [lead, if_pos below, byte]

theorem lead_of_two (low : 0xc2 ≤ number) (high : number < 0xe0) :
    lead (UInt8.ofNat number) = .opens ⟨1, 0x80, 0xbf, number - 0xc0⟩ := by
  have byte : (UInt8.ofNat number).toNat = number :=
    UInt8.toNat_ofNat_of_lt' (show number < 256 by omega)
  simp only [lead, UInt8.lt_iff_toNat_lt, byte, UInt8.reduceToNat]
  rw [if_neg (by omega), if_neg (by omega), if_pos high]

theorem lead_of_three (low : 0xe0 ≤ number) (high : number < 0xf0) :
    lead (UInt8.ofNat number) = .opens ⟨2, if number = 0xe0 then 0xa0 else 0x80,
      if number = 0xed then 0x9f else 0xbf, number - 0xe0⟩ := by
  have byte : (UInt8.ofNat number).toNat = number :=
    UInt8.toNat_ofNat_of_lt' (show number < 256 by omega)
  simp only [lead, UInt8.lt_iff_toNat_lt, ← UInt8.toNat_inj, byte, UInt8.reduceToNat]
  rw [if_neg (by omega), if_neg (by omega), if_neg (by omega)]
  by_cases first : number = 0xe0
  · subst first
    rfl
  · rw [if_neg first, if_neg first]
    by_cases surrogates : number = 0xed
    · subst surrogates
      rfl
    · rw [if_neg surrogates, if_neg surrogates, if_pos high]

theorem lead_of_four (low : 0xf0 ≤ number) (high : number < 0xf5) :
    lead (UInt8.ofNat number) = .opens ⟨3, if number = 0xf0 then 0x90 else 0x80,
      if number = 0xf4 then 0x8f else 0xbf, number - 0xf0⟩ := by
  have byte : (UInt8.ofNat number).toNat = number :=
    UInt8.toNat_ofNat_of_lt' (show number < 256 by omega)
  simp only [lead, UInt8.lt_iff_toNat_lt, ← UInt8.toNat_inj, byte, UInt8.reduceToNat]
  rw [if_neg (by omega), if_neg (by omega), if_neg (by omega), if_neg (by omega),
    if_neg (by omega), if_neg (by omega)]
  by_cases first : number = 0xf0
  · subst first
    rfl
  · rw [if_neg first, if_neg first]
    by_cases last : number = 0xf4
    · subst last
      rfl
    · rw [if_neg last, if_neg last, if_pos (by omega)]

end Lead

section Pending

variable {missing code bits : Nat} {least greatest : UInt8} (small : bits < 64)
  (low : least.toNat ≤ bits + 0x80) (high : bits + 0x80 ≤ greatest.toNat) (rest : List UInt8)

include small low high

theorem next?_of_mem :
    (Pending.mk missing least greatest code).next? (UInt8.ofNat (bits + 0x80)) =
      if missing = 1 then some (.inl (Char.ofNat (code * 64 + bits)))
      else some (.inr ⟨missing - 1, 0x80, 0xbf, code * 64 + bits⟩) := by
  have byte : (UInt8.ofNat (bits + 0x80)).toNat = bits + 0x80 :=
    UInt8.toNat_ofNat_of_lt' (show bits + 0x80 < 256 by omega)
  have inside : least ≤ UInt8.ofNat (bits + 0x80) ∧ UInt8.ofNat (bits + 0x80) ≤ greatest := by
    rw [UInt8.le_iff_toNat_le, UInt8.le_iff_toNat_le, byte]
    exact ⟨low, high⟩
  rw [Pending.next?, if_pos inside, byte, Nat.add_sub_cancel]

theorem decodeFrom?_last :
    decodeFrom? (some ⟨1, least, greatest, code⟩) (UInt8.ofNat (bits + 0x80) :: rest) =
      (decodeFrom? none rest).map (Char.ofNat (code * 64 + bits) :: ·) := by
  rw [decodeFrom?, next?_of_mem small low high, if_pos rfl]

theorem decodeFrom?_more (more : missing ≠ 0) :
    decodeFrom? (some ⟨missing + 1, least, greatest, code⟩) (UInt8.ofNat (bits + 0x80) :: rest) =
      decodeFrom? (some ⟨missing, 0x80, 0xbf, code * 64 + bits⟩) rest := by
  have several : missing + 1 ≠ 1 := by omega
  rw [decodeFrom?, next?_of_mem small low high, if_neg several, Nat.add_sub_cancel]

end Pending

theorem decodeFrom?_opens {byte : UInt8} {state : Pending} (opened : lead byte = .opens state)
    (rest : List UInt8) : decodeFrom? none (byte :: rest) = decodeFrom? (some state) rest := by
  rw [decodeFrom?, opened]

theorem decodeFrom?_single {byte : UInt8} {char : Char} (single : lead byte = .single char)
    (rest : List UInt8) :
    decodeFrom? none (byte :: rest) = (decodeFrom? none rest).map (char :: ·) := by
  rw [decodeFrom?, single]

section Point

variable {point : Nat} (rest : List UInt8)

theorem decodeFrom?_two (low : 0x7f < point) (high : point ≤ 0x7ff) :
    decodeFrom? none (UInt8.ofNat (point / 64 % 0x20 + 0xc0) ::
        UInt8.ofNat (point % 0x40 + 0x80) :: rest) =
      (decodeFrom? none rest).map (Char.ofNat point :: ·) := by
  have whole : (point / 64 % 0x20 + 0xc0 - 0xc0) * 64 + point % 0x40 = point := by omega
  rw [decodeFrom?_opens (lead_of_two (by omega) (by omega)),
    decodeFrom?_last (by omega) (by simp) (by simp; omega), whole]

theorem decodeFrom?_three (low : 0x7ff < point) (high : point ≤ 0xffff)
    (valid : point < 0xd800 ∨ 0xdfff < point) :
    decodeFrom? none (UInt8.ofNat (point / 4096 % 0x10 + 0xe0) ::
        UInt8.ofNat (point / 64 % 0x40 + 0x80) :: UInt8.ofNat (point % 0x40 + 0x80) :: rest) =
      (decodeFrom? none rest).map (Char.ofNat point :: ·) := by
  -- The second byte tells overlong forms and surrogates from what may be encoded.
  have long : (if point / 4096 % 0x10 + 0xe0 = 0xe0 then (0xa0 : UInt8) else 0x80).toNat ≤
      point / 64 % 0x40 + 0x80 := by
    split <;> simp
    omega
  have paired : point / 64 % 0x40 + 0x80 ≤
      (if point / 4096 % 0x10 + 0xe0 = 0xed then (0x9f : UInt8) else 0xbf).toNat := by
    split <;> simp <;> omega
  have whole : ((point / 4096 % 0x10 + 0xe0 - 0xe0) * 64 + point / 64 % 0x40) * 64 +
      point % 0x40 = point := by omega
  rw [decodeFrom?_opens (lead_of_three (by omega) (by omega)),
    decodeFrom?_more (by omega) long paired _ (by decide),
    decodeFrom?_last (by omega) (by simp) (by simp; omega), whole]

theorem decodeFrom?_four (low : 0xffff < point) (high : point < 0x110000) :
    decodeFrom? none (UInt8.ofNat (point / 262144 % 0x08 + 0xf0) ::
        UInt8.ofNat (point / 4096 % 0x40 + 0x80) :: UInt8.ofNat (point / 64 % 0x40 + 0x80) ::
        UInt8.ofNat (point % 0x40 + 0x80) :: rest) =
      (decodeFrom? none rest).map (Char.ofNat point :: ·) := by
  have long : (if point / 262144 % 0x08 + 0xf0 = 0xf0 then (0x90 : UInt8) else 0x80).toNat ≤
      point / 4096 % 0x40 + 0x80 := by
    split <;> simp
    omega
  have bounded : point / 4096 % 0x40 + 0x80 ≤
      (if point / 262144 % 0x08 + 0xf0 = 0xf4 then (0x8f : UInt8) else 0xbf).toNat := by
    split <;> simp <;> omega
  have whole : (((point / 262144 % 0x08 + 0xf0 - 0xf0) * 64 + point / 4096 % 0x40) * 64 +
      point / 64 % 0x40) * 64 + point % 0x40 = point := by omega
  rw [decodeFrom?_opens (lead_of_four (by omega) (by omega)),
    decodeFrom?_more (by omega) long bounded _ (by decide),
    decodeFrom?_more (by omega) (by simp) (by simp; omega) _ (by decide),
    decodeFrom?_last (by omega) (by simp) (by simp; omega), whole]

end Point

theorem decodeFrom?_encodeChar (char : Char) (rest : List UInt8) :
    decodeFrom? none (String.utf8EncodeChar char ++ rest) =
      (decodeFrom? none rest).map (char :: ·) := by
  have valid : char.toNat < 0xd800 ∨ 0xdfff < char.toNat ∧ char.toNat < 0x110000 := char.valid
  have code : Char.ofNat char.toNat = char := Char.ofNat_toNat char
  have number : char.val.toNat = char.toNat := rfl
  simp only [String.utf8EncodeChar, number]
  by_cases one : char.toNat ≤ 0x7f
  · rw [if_pos one, List.singleton_append, decodeFrom?_single (lead_of_single (by omega)), code]
  · rw [if_neg one]
    by_cases two : char.toNat ≤ 0x7ff
    · rw [if_pos two]
      simpa only [List.cons_append, List.nil_append, code] using
        decodeFrom?_two rest (Nat.lt_of_not_le one) two
    · rw [if_neg two]
      by_cases three : char.toNat ≤ 0xffff
      · rw [if_pos three]
        simpa only [List.cons_append, List.nil_append, code] using
          decodeFrom?_three rest (Nat.lt_of_not_le two) three (by omega)
      · rw [if_neg three]
        simpa only [List.cons_append, List.nil_append, code] using
          decodeFrom?_four rest (Nat.lt_of_not_le three) (by omega)

theorem decode?_encode (text : List Char) : decode? (encode text) = some text := by
  induction text with
  | nil => rfl
  | cons char rest ih =>
      rw [decode?, encode, List.flatMap_cons, decodeFrom?_encodeChar]
      have later : decodeFrom? none (rest.flatMap String.utf8EncodeChar) = some rest := ih
      rw [later]
      rfl

theorem decode?_bytes (text : String) : decode? (bytes text) = some text.toList :=
  decode?_encode text.toList

theorem bytes_inj {left right : String} : bytes left = bytes right ↔ left = right := by
  constructor
  · intro same
    have decoded := decode?_bytes left
    rw [same, decode?_bytes] at decoded
    exact String.toList_injective (Option.some.inj decoded).symm
  · rintro rfl
    rfl

theorem length_bytes (text : String) : (bytes text).length = text.utf8ByteSize := by
  rw [String.utf8ByteSize, ← String.ofList_toList (s := text), String.toByteArray_ofList]
  simp only [bytes, encode, List.utf8Encode, String.toList_ofList, List.size_toByteArray]

end Boundary.Utf8
