import PlatformSdk.Protobuf.WireFormat

/-!
# Base 128

A runtime that keeps the promises of `WireFormat`: numbers in base 128, the lowest digit
first, floating point numbers in little endian, and strings after their size.  Groups are
not read.
-/

namespace Protobuf

open Wire (Bytes digits number take)

/-! ## Numbers -/

/-- A number in base 128, of not more than `fuel` digits. -/
def varint : ℕ → ℕ → Bytes
  | 0, _ => []
  | fuel + 1, n =>
      if n < 128 then [UInt8.ofNat n]
      else UInt8.ofNat (n % 128 + 128) :: varint fuel (n / 128)

def readVarint : ℕ → Bytes → Option (ℕ × Bytes)
  | 0, _ => none
  | _ + 1, [] => none
  | fuel + 1, byte :: bytes =>
      if byte.toNat < 128 then some (byte.toNat, bytes)
      else (readVarint fuel bytes).map fun (n, rest) => (byte.toNat - 128 + 128 * n, rest)

theorem readVarint_varint {fuel n : ℕ} (h : n < 128 ^ (fuel + 1)) (rest : Bytes) :
    readVarint (fuel + 1) (varint (fuel + 1) n ++ rest) = some (n, rest) := by
  induction fuel generalizing n with
  | zero =>
      have hn : n < 128 := by omega
      have hbyte : (UInt8.ofNat n).toNat = n := by
        rw [UInt8.toNat_ofNat']
        omega
      rw [varint, if_pos hn, List.singleton_append, readVarint, hbyte, if_pos hn]
  | succ fuel ih =>
      rw [varint]
      by_cases hn : n < 128
      · have hbyte : (UInt8.ofNat n).toNat = n := by
          rw [UInt8.toNat_ofNat']
          omega
        rw [if_pos hn, List.singleton_append, readVarint, hbyte, if_pos hn]
      · have hbyte : (UInt8.ofNat (n % 128 + 128)).toNat = n % 128 + 128 := by
          rw [UInt8.toNat_ofNat']
          omega
        have hdiv : n / 128 < 128 ^ (fuel + 1) := by
          rw [Nat.pow_succ] at h
          exact Nat.div_lt_of_lt_mul (by omega)
        rw [if_neg hn, List.cons_append, readVarint, hbyte, if_neg (by omega), ih hdiv]
        simp only [Option.map_some, Option.some.injEq, Prod.mk.injEq, and_true]
        omega

theorem length_varint_le (fuel n : ℕ) : (varint fuel n).length ≤ fuel := by
  induction fuel generalizing n with
  | zero => exact Nat.le_refl 0
  | succ fuel ih =>
      rw [varint]
      split
      · exact Nat.succ_le_succ (Nat.zero_le fuel)
      · exact Nat.succ_le_succ (ih _)

/-- A number below a power of 128 has no more digits than the exponent. -/
theorem length_varint_le_of_lt {fuel k n : ℕ} (h : n < 128 ^ (k + 1)) :
    (varint fuel n).length ≤ k + 1 := by
  induction k generalizing fuel n with
  | zero =>
      cases fuel with
      | zero => exact Nat.zero_le 1
      | succ fuel =>
          rw [varint, if_pos (by omega)]
          exact Nat.le_refl 1
  | succ k ih =>
      cases fuel with
      | zero => exact Nat.zero_le _
      | succ fuel =>
          rw [varint]
          split
          · exact Nat.succ_le_succ (Nat.zero_le _)
          · have hdiv : n / 128 < 128 ^ (k + 1) := by
              rw [Nat.pow_succ] at h
              exact Nat.div_lt_of_lt_mul (by omega)
            exact Nat.succ_le_succ (ih hdiv)

/-- Reading a number takes a byte at least. -/
theorem length_readVarint {fuel n : ℕ} {bytes rest : Bytes}
    (h : readVarint fuel bytes = some (n, rest)) : rest.length < bytes.length := by
  induction fuel generalizing bytes n with
  | zero => cases h
  | succ fuel ih =>
      cases bytes with
      | nil => cases h
      | cons byte bytes =>
          rw [readVarint] at h
          split at h
          · cases h
            exact Nat.lt_succ_self _
          · obtain ⟨⟨m, unread⟩, hread, heq⟩ := Option.map_eq_some_iff.mp h
            cases heq
            exact Nat.lt_succ_of_lt (ih hread)

/-! ## Values -/

def encodeValue : (type : FieldType) → type.Value → Bytes
  | .uint64, value => varint 10 value.toNat
  | .double, value => (digits 8 value.toNat).reverse
  | .float, value => (digits 4 value.toNat).reverse
  | .string, value => varint 10 value.length ++ value

/-- A number of `width` bytes in little endian. -/
def readFixed (width : ℕ) (bytes : Bytes) : Option (BitVec (8 * width) × Bytes) :=
  (take width bytes).map fun (first, rest) => (BitVec.ofNat _ (number first.reverse), rest)

def readValue : (type : FieldType) → Bytes → Option (type.Value × Bytes)
  | .uint64, bytes => (readVarint 10 bytes).map fun (n, rest) => (UInt64.ofNat n, rest)
  | .double, bytes => readFixed 8 bytes
  | .float, bytes => readFixed 4 bytes
  | .string, bytes => (readVarint 10 bytes).bind fun (n, rest) =>
      if n < 2 ^ 31 then take n rest else none

theorem readFixed_digits (width : ℕ) (value : BitVec (8 * width)) (rest : Bytes) :
    readFixed width ((digits width value.toNat).reverse ++ rest) = some (value, rest) := by
  have htake : take width ((digits width value.toNat).reverse ++ rest) =
      some ((digits width value.toNat).reverse, rest) := by
    rw [Wire.take_eq_some_iff]
    exact ⟨by rw [List.length_reverse, Wire.length_digits], rfl⟩
  have hlt : value.toNat < 256 ^ width := by
    have hvalue := value.isLt
    rw [Nat.pow_mul] at hvalue
    exact hvalue
  rw [readFixed, htake, Option.map_some]
  dsimp only
  rw [List.reverse_reverse, Wire.number_digits, Nat.mod_eq_of_lt hlt, BitVec.ofNat_toNat,
    BitVec.setWidth_eq]

theorem readValue_encodeValue {type : FieldType} {value : type.Value} (h : type.Fits value)
    (rest : Bytes) : readValue type (encodeValue type value ++ rest) = some (value, rest) := by
  cases type with
  | uint64 =>
      have hlt : value.toNat < 128 ^ 10 := Nat.lt_of_lt_of_le value.toNat_lt (by decide)
      rw [encodeValue, readValue, readVarint_varint hlt, Option.map_some]
      dsimp only
      rw [UInt64.ofNat_toNat]
  | double => exact readFixed_digits 8 value rest
  | float => exact readFixed_digits 4 value rest
  | string =>
      have hlength : value.length < 2 ^ 31 := h
      have hlt : value.length < 128 ^ 10 := Nat.lt_trans hlength (by decide)
      rw [encodeValue, readValue, List.append_assoc, readVarint_varint hlt, Option.bind_some]
      dsimp only
      rw [if_pos hlength, Wire.take_eq_some_iff]
      exact ⟨rfl, rfl⟩

theorem length_take {n : ℕ} {bytes first rest : Bytes}
    (h : take n bytes = some (first, rest)) : rest.length ≤ bytes.length := by
  obtain ⟨-, rfl⟩ := Wire.take_eq_some_iff.mp h
  rw [List.length_append]
  omega

theorem length_readFixed {width : ℕ} {bytes rest : Bytes} {value : BitVec (8 * width)}
    (h : readFixed width bytes = some (value, rest)) : rest.length ≤ bytes.length := by
  obtain ⟨⟨first, unread⟩, htake, heq⟩ := Option.map_eq_some_iff.mp h
  cases heq
  exact length_take htake

/-- A string is read after its size. -/
theorem readValue_string {bytes value rest : Bytes}
    (h : readValue .string bytes = some (value, rest)) :
    ∃ n unread, readVarint 10 bytes = some (n, unread) ∧ n < 2 ^ 31 ∧
      take n unread = some (value, rest) := by
  obtain ⟨⟨n, unread⟩, hread, htake⟩ := Option.bind_eq_some_iff.mp h
  dsimp only at htake
  split at htake
  · next hn => exact ⟨n, unread, hread, hn, htake⟩
  · cases htake

theorem length_readValue {type : FieldType} {bytes : Bytes} {value : type.Value}
    {rest : Bytes} (h : readValue type bytes = some (value, rest)) :
    rest.length ≤ bytes.length := by
  cases type with
  | uint64 =>
      obtain ⟨⟨n, unread⟩, hread, heq⟩ := Option.map_eq_some_iff.mp h
      cases heq
      exact Nat.le_of_lt (length_readVarint hread)
  | double => exact length_readFixed h
  | float => exact length_readFixed h
  | string =>
      obtain ⟨n, unread, hread, -, htake⟩ := readValue_string h
      exact Nat.le_trans (length_take htake) (Nat.le_of_lt (length_readVarint hread))

theorem fits_readValue {type : FieldType} {bytes : Bytes} {value : type.Value}
    {rest : Bytes} (h : readValue type bytes = some (value, rest)) : type.Fits value := by
  cases type with
  | uint64 => trivial
  | double => trivial
  | float => trivial
  | string =>
      obtain ⟨n, unread, -, hn, htake⟩ := readValue_string h
      obtain ⟨hlength, -⟩ := Wire.take_eq_some_iff.mp htake
      rw [FieldType.Fits, hlength]
      exact hn

/-! ## Tags -/

def readTag (bytes : Bytes) : (UInt32 × Bool) × Bytes :=
  match readVarint 10 bytes with
  | none => ((0, false), bytes)
  | some (n, rest) => ((UInt32.ofNat n, decide ((UInt32.ofNat n).toNat ≤ 127)), rest)

theorem readTag_varint {n : ℕ} (h : n < 2 ^ 32) (rest : Bytes) :
    readTag (varint 10 n ++ rest) = ((UInt32.ofNat n, decide (n ≤ 127)), rest) := by
  have hlt : n < 128 ^ 10 := Nat.lt_trans h (by decide)
  simp only [readTag, readVarint_varint hlt, UInt32.toNat_ofNat', Nat.mod_eq_of_lt h]

theorem length_varint_tag {n : ℕ} (h : n < 128) : (varint 10 n).length = 1 := by
  rw [varint, if_pos h]
  rfl

/-- The type of the values with a wire type. -/
def typeOfWireType : ℕ → Option FieldType
  | 0 => some .uint64
  | 1 => some .double
  | 2 => some .string
  | 5 => some .float
  | _ => none

theorem typeOfWireType_eq_some_iff {wireType : ℕ} {type : FieldType} :
    typeOfWireType wireType = some type ↔ type.wireType = wireType := by
  constructor
  · intro h
    unfold typeOfWireType at h
    split at h <;> cases h <;> rfl
  · rintro rfl
    cases type <;> rfl

/-! ## Unknown fields -/

instance decidableFits : (type : FieldType) → (value : type.Value) →
    Decidable (type.Fits value)
  | .uint64, _ => inferInstanceAs (Decidable True)
  | .double, _ => inferInstanceAs (Decidable True)
  | .float, _ => inferInstanceAs (Decidable True)
  | .string, value => inferInstanceAs (Decidable (value.length < 2 ^ 31))

/-- A field that a message does not know. -/
structure UnknownField where
  number : ℕ
  type : FieldType
  value : type.Value
  number_pos : 0 < number
  number_lt : number < 2 ^ 29
  fits : type.Fits value

namespace UnknownField

def tag (field : UnknownField) : UInt32 := makeTag field.number field.type.wireType

def write (field : UnknownField) : Bytes :=
  varint 10 (8 * field.number + field.type.wireType) ++ encodeValue field.type field.value

theorem toNat_tag (field : UnknownField) :
    field.tag.toNat = 8 * field.number + field.type.wireType :=
  toNat_makeTag field.number_lt field.type.wireType_lt

end UnknownField

def skipField (tag : UInt32) (bytes : Bytes) : Option (UnknownField × Bytes) :=
  match typeOfWireType (tag.toNat % 8) with
  | none => none
  | some type =>
      match readValue type bytes with
      | none => none
      | some (value, rest) =>
          if h : 0 < tag.toNat / 8 ∧ tag.toNat / 8 < 2 ^ 29 ∧ type.Fits value then
            some (⟨tag.toNat / 8, type, value, h.1, h.2.1, h.2.2⟩, rest)
          else none

/-- A string that is cut off is taken as far as it goes. -/
def readLeft : (type : FieldType) → Bytes → type.Value → type.Value
  | .string, bytes, value =>
      match readVarint 10 bytes with
      | none => value
      | some (n, rest) => if n < 2 ^ 31 then rest else value
  | .uint64, _, value => value
  | .double, _, value => value
  | .float, _, value => value

def skipLeft (tag : UInt32) (bytes : Bytes) : List UnknownField :=
  match typeOfWireType (tag.toNat % 8), readVarint 10 bytes with
  | some .string, some _ =>
      let value := readLeft .string bytes []
      if h : 0 < tag.toNat / 8 ∧ tag.toNat / 8 < 2 ^ 29 ∧ FieldType.string.Fits value then
        [⟨tag.toNat / 8, .string, value, h.1, h.2.1, h.2.2⟩]
      else []
  | _, _ => []

theorem tag_skipLeft {tag : UInt32} {bytes : Bytes} {field : UnknownField}
    (h : field ∈ skipLeft tag bytes) : field.tag = tag := by
  rw [skipLeft] at h
  split at h
  · next htype _ =>
      dsimp only at h
      split at h
      · have hwire := typeOfWireType_eq_some_iff.mp htype
        rw [List.mem_singleton.mp h]
        apply UInt32.toNat_inj.mp
        rw [UnknownField.toNat_tag]
        dsimp only
        omega
      · cases h
  · cases h

theorem skipField_eq_some {tag : UInt32} {bytes : Bytes} {field : UnknownField}
    {rest : Bytes} (h : skipField tag bytes = some (field, rest)) :
    field.tag = tag ∧ rest.length ≤ bytes.length := by
  rw [skipField] at h
  split at h
  · cases h
  · next type htype =>
      split at h
      · cases h
      · next hread =>
          split at h
          · next hfits =>
              cases h
              have hwire := typeOfWireType_eq_some_iff.mp htype
              refine ⟨?_, length_readValue hread⟩
              apply UInt32.toNat_inj.mp
              rw [UnknownField.toNat_tag]
              dsimp only
              omega
          · cases h

theorem skipField_contents (field : UnknownField) (rest : Bytes) :
    skipField field.tag (encodeValue field.type field.value ++ rest) = some (field, rest) := by
  have hwire := field.type.wireType_lt
  have hmod : field.tag.toNat % 8 = field.type.wireType := by
    rw [field.toNat_tag]
    omega
  have hdiv : field.tag.toNat / 8 = field.number := by
    rw [field.toNat_tag]
    omega
  have htype : typeOfWireType field.type.wireType = some field.type :=
    typeOfWireType_eq_some_iff.mpr rfl
  simp only [skipField, hmod, htype, hdiv, readValue_encodeValue field.fits]
  rw [dif_pos ⟨field.number_pos, field.number_lt, field.fits⟩]

/-! ## The runtime -/

/-- The runtime, with a test for UTF-8 and the flag that says whether unknown fields are
serialized. -/
def encoding (verifyUtf8String : Bytes → Bool) (preserveUnknowns : Bool) : WireFormat where
  UnknownField := UnknownField
  unknownTag := UnknownField.tag
  writeUnknown := UnknownField.write
  unknownSize field := field.write.length
  preserveUnknowns := preserveUnknowns
  readTag := readTag
  read := readValue
  readLeft := readLeft
  write type number value :=
    varint 10 (8 * number + type.wireType) ++ encodeValue type value
  size type value := (encodeValue type value).length
  lengthDelimitedSize n := (varint 10 n).length + n
  verifyUtf8String := verifyUtf8String
  skipField := skipField
  skipLeft := skipLeft
  readTag_nil := rfl
  cutoff := by
    intro bytes hne
    unfold readTag at hne ⊢
    split
    · next h =>
        rw [h] at hne
        exact absurd rfl hne
    · exact decide_eq_true_iff
  length_readTag := by
    intro bytes hne
    unfold readTag at hne ⊢
    split
    · next h =>
        rw [h] at hne
        exact absurd rfl hne
    · next hread => exact length_readVarint hread
  length_read := length_readValue
  length_skipField h := (skipField_eq_some h).2
  read_write := by
    intro type number value _ hlt hfits rest
    have hwire := type.wireType_lt
    refine ⟨encodeValue type value ++ rest, ?_, readValue_encodeValue hfits rest⟩
    rw [List.append_assoc, readTag_varint (by omega), decide_eq_true (by omega)]
    rfl
  fits_read := fits_readValue
  length_write := by
    intro type number value hlt _
    have hwire := type.wireType_lt
    rw [List.length_append, length_varint_tag (by omega)]
  size_double value := by rw [encodeValue, List.length_reverse, Wire.length_digits]
  size_float value := by rw [encodeValue, List.length_reverse, Wire.length_digits]
  size_uint64 value := length_varint_le 10 value.toNat
  lengthDelimitedSize_le := by
    intro n hn
    have hdigits : (varint 10 n).length ≤ 5 :=
      length_varint_le_of_lt (Nat.lt_trans hn (by decide))
    omega
  size_string value := by rw [encodeValue, List.length_append]
  skipField_writeUnknown field rest := by
    have hlt := field.number_lt
    have hwire := field.type.wireType_lt
    refine ⟨encodeValue field.type field.value ++ rest, ?_, skipField_contents field rest⟩
    rw [UnknownField.write, List.append_assoc, readTag_varint (by omega)]
    rfl
  unknownTag_ne_zero field h := by
    have htag := field.toNat_tag
    have hpos := field.number_pos
    rw [h, UInt32.toNat_zero] at htag
    omega
  unknownTag_skipField h := (skipField_eq_some h).1
  unknownTag_skipLeft := tag_skipLeft
  length_writeUnknown _ := rfl

/-- The runtime with a test that takes ASCII for all of UTF-8. -/
def ascii : WireFormat := encoding (fun bytes => bytes.all (· < 128)) true

end Protobuf
