import Boundary.Proofs.Encoding
import Boundary.Proofs.Layout.Build
import Mathlib.Tactic.Ring

/-!
The form of encoded records. The tag is the one under which the type of the value is known, the payload
holds the bytes of a single number and is zero beyond them, and the length is that of a text. Main
statement: which values are encoded, and what their records look like.
-/

namespace Boundary

theorem getElem?_littleEndian (width value index : Nat) :
    (Bytes.littleEndian width value)[index]? =
      if index < width then some (UInt8.ofNat (value / 256 ^ index)) else none := by
  induction width generalizing value index with
  | zero => simp [Bytes.littleEndian]
  | succ width ih =>
      cases index with
      | zero => simp [Bytes.littleEndian]
      | succ index => simp [Bytes.littleEndian, ih, Nat.pow_succ', Nat.div_div_eq_div_mul]

theorem ofInt_digit {number : Int} {value width index : Nat}
    (same : (256 : Int) ^ width ∣ number - value) (inside : index < width) :
    UInt8.ofInt (number / 256 ^ index) = UInt8.ofNat (value / 256 ^ index) := by
  obtain ⟨carry, difference⟩ := same
  obtain ⟨more, rfl⟩ := Nat.exists_eq_add_of_lt inside
  have positive : (256 : Int) ^ index ≠ 0 := pow_ne_zero _ (by decide)
  have split : number = value + 256 ^ index * (256 * (256 ^ more * carry)) := by
    rw [← sub_eq_iff_eq_add', difference]
    ring
  have low : ((value : Int) / 256 ^ index % 256).toNat = value / 256 ^ index % 256 := by norm_cast
  change UInt8.ofNat (number / 256 ^ index % 256).toNat = _
  rw [split, Int.add_mul_ediv_left _ _ positive, Int.add_mul_emod_self_left, low]
  exact UInt8.ofNat_mod_size

namespace Payload

variable {width index : Nat} (fits : width ≤ 8)

theorem getElem?_ofNat_of_lt {number : Int} {value : Nat}
    (same : (256 : Int) ^ width ∣ number - value) (inside : index < width) :
    (ofNat width value fits).bytes[index]? = some (UInt8.ofInt (number / 256 ^ index)) := by
  rw [ofNat, List.getElem?_append_left (by simpa using inside), getElem?_littleEndian,
    if_pos inside, ofInt_digit same inside]

theorem getElem?_ofNat_of_le (value : Nat) (beyond : width ≤ index) (below : index < 8) :
    (ofNat width value fits).bytes[index]? = some 0 := by
  rw [ofNat, List.getElem?_append_right (by simpa using beyond), Bytes.length_littleEndian,
    List.getElem?_replicate, if_pos (by omega)]

end Payload

theorem dvd_toInt32_sub (value : Int32) : (256 : Int) ^ 4 ∣ value.toInt - value.toUInt32.toNat := by
  have wrapped : value.toInt = (value.toUInt32.toNat : Int).bmod (2 ^ 32) :=
    value.toBitVec.toInt_eq_toNat_bmod
  rw [wrapped]
  exact Int.dvd_bmod_sub_self

theorem dvd_toInt64_sub (value : Int64) : (256 : Int) ^ 8 ∣ value.toInt - value.toUInt64.toNat := by
  have wrapped : value.toInt = (value.toUInt64.toNat : Int).bmod (2 ^ 64) :=
    value.toBitVec.toInt_eq_toNat_bmod
  rw [wrapped]
  exact Int.dvd_bmod_sub_self

namespace Value

def hostType? : Value → Option HostType
  | bool _ => some .bool
  | int _ => some .int
  | int32 _ => some .int32
  | int64 _ => some .int64
  | float32 _ => some .float32
  | float64 _ => some .float64
  | string _ => some .text
  | object _ | handle _ => none

def number? (place : String → Address) (registry : Registry) : Value → Option Int
  | .bool value => some value.toNat
  | .int value => some value.toInt
  | .int32 value => some value.toInt
  | .int64 value => some value.toInt
  | .float32 bits => some bits.toNat
  | .float64 bits => some bits.toNat
  | .string text => some (place text)
  | .object target => (registry.registration? target).map fun registered => registered.1.number
  | .handle issued => some issued.number

/-- What cannot be encoded: a text too long to be counted, an integer that is not of the platform's
width, and a new object when all handles were issued. -/
def Refused (platform : Platform) (registry : Registry) : Value → Prop
  | .string text => 0x7fffffff < text.utf8ByteSize
  | .int value => platform = .narrow ∧ ¬ (-0x80000000 ≤ value.toInt ∧ value.toInt < 0x80000000)
  | .object target =>
    registry.registration? target = none ∧ registry.next.number = UInt64.size - 1
  | .bool _ | .int32 _ | .int64 _ | .float32 _ | .float64 _ | .handle _ => False

end Value

def Record.payloadAt (record : Record) (place : String → Address) : Payload :=
  match record.contents with
  | .payload payload => payload
  | .view text => .ofAddress (place text)

structure Record.Presents (record : Record) (platform : Platform) (registry : Registry)
    (value : Value) : Prop where
  tag_of_type : ∀ type ∈ value.hostType?, ∀ state,
    ((tagOfType type platform).run state).1 = .ok (.ok record.tag)
  tag_of_reference : value.hostType? = none → record.tag = .object
  sendable : record.tag ≠ .invalid ∧ record.tag ≠ .any ∧ record.tag ≠ .ownedHandle
  used : ∀ place, ∃ number, value.number? place registry = some number ∧
    ∀ index < record.tag.payloadSize,
      (record.payloadAt place).bytes[index]? = some (UInt8.ofInt (number / 256 ^ index))
  unused : ∀ place index, record.tag.payloadSize ≤ index → index < 8 →
    (record.payloadAt place).bytes[index]? = some 0
  present : record.tag = .object → ∀ place, (record.payloadAt place).toAddress ≠ 0
  length : record.length.toInt = ((value.text?.map String.utf8ByteSize).getD 0 : Nat)

namespace Record.Presents

variable {platform : Platform} {registry : Registry} {value : Value}

theorem scalar {type : HostType} {tag : Tag} {number : Int} {stored : Nat}
    (typed : value.hostType? = some type) (known : type.tag? platform = some tag)
    (single : tag.isScalar = true) (plain : value.text? = none)
    (found : ∀ place, value.number? place registry = some number)
    (same : (256 : Int) ^ tag.payloadSize ∣ number - stored) :
    (Record.scalar tag (.ofNat tag.payloadSize stored tag.payloadSize_le)).Presents platform registry
      value where
  tag_of_type := by
    intro other member state
    obtain rfl := Option.some.inj (typed.symm.trans member)
    exact tagOfType_ok_iff.2 known
  tag_of_reference := by
    intro untyped
    rw [typed] at untyped
    cases untyped
  sendable := by
    refine ⟨?_, ?_, ?_⟩
    all_goals
      rintro rfl
      cases single
  used := by
    intro place
    exact ⟨number, found place, fun _ inside =>
      Payload.getElem?_ofNat_of_lt tag.payloadSize_le same inside⟩
  unused := by
    intro place index beyond below
    exact Payload.getElem?_ofNat_of_le tag.payloadSize_le stored beyond below
  present := by
    rintro rfl
    cases single
  length := by
    rw [plain]
    rfl

theorem reference {handle : Handle} (untyped : value.hostType? = none) (plain : value.text? = none)
    (found : ∀ place, value.number? place registry = some (handle.number : Int)) :
    (Record.scalar .object (.ofAddress handle.number)).Presents platform registry value where
  tag_of_type := by
    intro type member
    rw [untyped] at member
    cases member
  tag_of_reference := fun _ => rfl
  sendable := ⟨nofun, nofun, nofun⟩
  used := by
    intro place
    have same : (256 : Int) ^ 8 ∣ handle.number - handle.number := by simp
    exact ⟨handle.number, found place, fun _ inside =>
      Payload.getElem?_ofNat_of_lt Nat.le.refl same inside⟩
  unused := by
    intro place index beyond below
    exact absurd beyond (Nat.not_le.2 below)
  present := by
    intro _ place
    exact (Payload.toAddress_ofHandle handle).trans_ne (Nat.ne_of_gt handle.positive)
  length := by
    rw [plain]
    rfl

theorem text {text : String} (short : text.utf8ByteSize ≤ 0x7fffffff) :
    Presents ⟨.string, .view text, Int32.ofNat (Utf8.bytes text).length⟩ platform registry
      (.string text) where
  tag_of_type := by
    rintro type ⟨rfl⟩ state
    exact tagOfType_ok_iff.2 rfl
  tag_of_reference := by
    intro untyped
    cases untyped
  sendable := ⟨nofun, nofun, nofun⟩
  used := by
    intro place
    have same : (256 : Int) ^ 8 ∣ place text - place text := by simp
    exact ⟨place text, rfl, fun _ inside =>
      Payload.getElem?_ofNat_of_lt Nat.le.refl same inside⟩
  unused := by
    intro place index beyond below
    exact absurd beyond (Nat.not_le.2 below)
  present := by
    intro reference
    cases reference
  length := by
    rw [Utf8.length_bytes]
    exact Int32.toInt_ofNat_of_lt (Nat.lt_succ_of_le short)

end Record.Presents

namespace Registry

variable {registry after : Registry} {object : Object} {handle : Handle}

theorem registration?_of_wrap? (wrapped : registry.wrap? object = some (handle, after)) :
    ∃ entry, after.registration? object = some (handle, entry) := by
  cases known : registry.registration? object with
  | some registration =>
      obtain ⟨own, entry⟩ := registration
      simp only [wrap?, known, Option.some.injEq, Prod.mk.injEq] at wrapped
      obtain ⟨rfl, rfl⟩ := wrapped
      unfold registration? at known
      cases found : registry.handles[object.address]? with
      | none => simp [found] at known
      | some registered =>
          simp only [found, Option.map_eq_some_iff, Prod.mk.injEq] at known
          obtain ⟨_, _, rfl, _⟩ := known
          exact ⟨entry.raise, by simp [registration?, found, entry?]⟩
  | none =>
      simp only [wrap?, known, Option.map_eq_some_iff, Prod.mk.injEq] at wrapped
      obtain ⟨next, _, rfl, rfl⟩ := wrapped
      exact ⟨⟨object, 1⟩, by simp [registration?, register, entry?]⟩

end Registry

/-- How encoding a value ends: with a record of its form, or for a refused one with a panic that leaves
all as it was. -/
inductive EncodingEnds (platform : Platform) (state : State) (value : Value) :
    Except Halt Record × State → Prop
  | record {record : Record} {after : State}
      (accepted : ¬ value.Refused platform state.registry)
      (presents : record.Presents platform after.registry value) :
      EncodingEnds platform state value (.ok record, after)
  | panic {cause : Panic} (refused : value.Refused platform state.registry) :
      EncodingEnds platform state value (.error (.panic cause), state)

section Outcome

variable (platform : Platform) (state : State)

theorem encodeContents_int_ends (value : Int64) :
    EncodingEnds platform state (.int value) ((encodeContents platform (.int value)).run state) := by
  cases platform with
  | wide =>
      refine .record (fun refused => nomatch refused.1) ?_
      exact .scalar rfl rfl rfl rfl (fun _ => rfl) (dvd_toInt64_sub value)
  | narrow =>
      rw [encodeContents, encodePlatformInteger]
      by_cases fits : value.toInt32.toInt64 = value
      · have inside := (fits_iff value).1 fits
        have found (place : String → Address) :
            (Value.int value).number? place state.registry = some value.toInt32.toInt := by
          rw [toInt_toInt32_of_fits inside.1 inside.2]
          rfl
        rw [if_pos fits]
        refine .record (fun refused => refused.2 inside) ?_
        exact .scalar rfl rfl rfl rfl found (dvd_toInt32_sub value.toInt32)
      · rw [if_neg fits]
        exact .panic ⟨rfl, mt (fits_iff value).2 fits⟩

theorem encodeContents_string_ends (text : String) :
    EncodingEnds platform state (.string text)
      ((encodeContents platform (.string text)).run state) := by
  have size := Utf8.length_bytes text
  rw [encodeContents, checkedLength]
  by_cases short : (Utf8.bytes text).length ≤ greatestLength
  · rw [if_pos short]
    rw [size] at short
    exact .record (Nat.not_lt.2 short) (.text short)
  · rw [if_neg short]
    rw [size] at short
    exact .panic (Nat.lt_of_not_le short)

theorem encodeContents_object_ends (object : Object) :
    EncodingEnds platform state (.object object)
      ((encodeContents platform (.object object)).run state) := by
  rw [run_encodeContents_object]
  cases wrapped : state.registry.wrap? object with
  | none =>
      rw [run_wrapObject_of_refused wrapped]
      exact .panic (Registry.wrap?_eq_none_iff.1 wrapped)
  | some pair =>
      obtain ⟨handle, registry⟩ := pair
      obtain ⟨after, ran, same⟩ := wrapObject_of_wrap? wrapped
      obtain ⟨entry, registered⟩ := Registry.registration?_of_wrap? wrapped
      rw [ran]
      refine .record (fun refused => ?_) (.reference rfl rfl fun place => ?_)
      · rw [Registry.wrap?_eq_none_iff.2 refused] at wrapped
        cases wrapped
      · rw [Value.number?, same, registered]
        rfl

theorem encodeContents_ends (value : Value) :
    EncodingEnds platform state value ((encodeContents platform value).run state) := by
  cases value with
  | bool value =>
      have same : (256 : Int) ^ 1 ∣ value.toNat - value.toNat := by simp
      exact .record id (.scalar rfl rfl rfl rfl (fun _ => rfl) same)
  | int value => exact encodeContents_int_ends platform state value
  | int32 value =>
      exact .record id (.scalar rfl rfl rfl rfl (fun _ => rfl) (dvd_toInt32_sub value))
  | int64 value =>
      exact .record id (.scalar rfl rfl rfl rfl (fun _ => rfl) (dvd_toInt64_sub value))
  | float32 bits =>
      have same : (256 : Int) ^ 4 ∣ bits.toNat - bits.toNat := by simp
      exact .record id (.scalar rfl rfl rfl rfl (fun _ => rfl) same)
  | float64 bits =>
      have same : (256 : Int) ^ 8 ∣ bits.toNat - bits.toNat := by simp
      exact .record id (.scalar rfl rfl rfl rfl (fun _ => rfl) same)
  | string text => exact encodeContents_string_ends platform state text
  | object object => exact encodeContents_object_ends platform state object
  | handle handle => exact .record id (.reference rfl rfl fun _ => rfl)

theorem pack_ends (value : Value) :
    EncodingEnds platform state value ((pack platform value).run state) := by
  have ends := encodeContents_ends platform state value
  rw [run_pack]
  rcases ran : (encodeContents platform value).run state with ⟨outcome, final⟩
  rw [ran] at ends
  cases ends with
  | record accepted presents => exact .record accepted presents
  | panic refused => exact .panic refused

end Outcome

/-- Every record that is encoded has the form of its value. Only an object changes the registry, and
encoding panics on just the values that are refused, after which nothing has changed. -/
theorem encoded_records_well_formed (platform : Platform) (state : State) (value : Value) :
    (∀ record after, (pack platform value).run state = (.ok record, after) →
        record.Presents platform after.registry value) ∧
      (value.object? = none → ((pack platform value).run state).2.registry = state.registry) ∧
      ((∃ record, ((pack platform value).run state).1 = .ok record) ↔
        ¬ value.Refused platform state.registry) ∧
      ((∃ cause, ((pack platform value).run state).1 = .error (.panic cause)) ↔
        value.Refused platform state.registry) ∧
      (value.Refused platform state.registry → ((pack platform value).run state).2 = state) := by
  have plain : value.object? = none →
      ((pack platform value).run state).2.registry = state.registry :=
    fun noObject => congrArg Custody.registry (pack_custody_of_plain noObject state 0)
  have ends := pack_ends platform state value
  rcases ran : (pack platform value).run state with ⟨outcome, final⟩
  rw [ran] at plain ends
  cases ends with
  | record accepted presents =>
      refine ⟨?_, plain, by simp [accepted], by simp [accepted],
        fun refused => absurd refused accepted⟩
      rintro record after ⟨⟩
      exact presents
  | panic refused => exact ⟨nofun, plain, by simp [refused], by simp [refused], fun _ => rfl⟩

namespace Sample

def exhausted : State := { registry := { next := ⟨UInt64.size - 1, by decide, by decide⟩ } }

def newcomer : Object := ⟨0, 16, .text "newcomer"⟩

end Sample

theorem encoded_records_at_limits :
    (∃ record after, (pack .narrow (.int (-0x80000000))).run Sample.exhausted = (.ok record, after) ∧
        record.Presents .narrow after.registry (.int (-0x80000000)) ∧
        after.registry = Sample.exhausted.registry) ∧
      (∃ cause, ((pack .narrow (.int 0x80000000)).run Sample.exhausted).1 =
        .error (.panic cause)) ∧
      ∃ cause, (pack .wide (.object Sample.newcomer)).run Sample.exhausted =
        (.error (.panic cause), Sample.exhausted) := by
  have least := encoded_records_well_formed .narrow Sample.exhausted (.int (-0x80000000))
  have above := encoded_records_well_formed .narrow Sample.exhausted (.int 0x80000000)
  have object := encoded_records_well_formed .wide Sample.exhausted (.object Sample.newcomer)
  have fits : ¬ (Value.int (-0x80000000)).Refused .narrow Sample.exhausted.registry := by
    rintro ⟨_, outside⟩
    exact outside (by decide)
  have tooWide : (Value.int 0x80000000).Refused .narrow Sample.exhausted.registry :=
    ⟨rfl, by decide⟩
  have unnumbered : (Value.object Sample.newcomer).Refused .wide Sample.exhausted.registry :=
    ⟨rfl, rfl⟩
  obtain ⟨record, encoded⟩ := least.2.2.1.2 fits
  have ran : (pack .narrow (.int (-0x80000000))).run Sample.exhausted = (.ok record, _) :=
    Prod.ext encoded rfl
  obtain ⟨cause, panicked⟩ := object.2.2.2.1.2 unnumbered
  exact ⟨⟨record, _, ran, least.1 record _ ran, least.2.1 rfl⟩, above.2.2.2.1.2 tooWide, cause,
    Prod.ext panicked (object.2.2.2.2 unnumbered)⟩

end Boundary
