import Mathlib.Logic.Relation
import PlatformSdk.Wire.Format

/-!
# The wire format of protocol buffers

What the code that is generated for a message uses of the runtime, and what the runtime
promises for it: values come back as they were written, whatever the bytes that follow,
and so do the fields that a message does not know.  A floating point number is its bits.
-/

namespace Protobuf

open Wire (Bytes)

/-! ## Fields -/

/-- The types of fields. -/
inductive FieldType where
  | uint64
  | double
  | float
  | string
  deriving DecidableEq

namespace FieldType

/-- The values of a type. -/
abbrev Value : FieldType → Type
  | .uint64 => UInt64
  | .double => BitVec 64
  | .float => BitVec 32
  | .string => Bytes

/-- What a field without a value has. -/
def default : (type : FieldType) → type.Value
  | .uint64 => 0
  | .double => 0
  | .float => 0
  | .string => []

/-- The comparison `value != 0`, or `value.size() > 0`, is false.  Zero has two signs, and
both are equal to `0`. -/
def isDefault : (type : FieldType) → type.Value → Bool
  | .uint64, value => value == 0
  | .double, value => value.setWidth 63 == 0
  | .float, value => value.setWidth 31 == 0
  | .string, value => value.isEmpty

/-- The wire type, the last three bits of a tag. -/
def wireType : FieldType → ℕ
  | .uint64 => 0
  | .double => 1
  | .string => 2
  | .float => 5

/-- The values that can be read again: sizes are of type `int`. -/
def Fits : (type : FieldType) → type.Value → Prop
  | .uint64, _ => True
  | .double, _ => True
  | .float, _ => True
  | .string, value => value.length < 2 ^ 31

/-- Every number can be read again. -/
theorem fits_number {type : FieldType} (h : type ≠ .string) (value : type.Value) :
    type.Fits value := by
  cases type with
  | string => exact absurd rfl h
  | _ => trivial

theorem wireType_lt (type : FieldType) : type.wireType < 8 := by
  cases type <;> decide

@[simp] theorem isDefault_default (type : FieldType) : type.isDefault type.default = true := by
  cases type <;> rfl

end FieldType

/-- The tag of a field with this number and wire type. -/
def makeTag (number wireType : ℕ) : UInt32 := UInt32.ofNat (8 * number + wireType)

theorem toNat_makeTag {number wireType : ℕ} (hnumber : number < 2 ^ 29) (hwire : wireType < 8) :
    (makeTag number wireType).toNat = 8 * number + wireType := by
  rw [makeTag, UInt32.toNat_ofNat', Nat.mod_eq_of_lt (by omega)]

/-! ## The runtime -/

/-- What is used of `CodedInputStream`, `CodedOutputStream`, `WireFormatLite` and
`WireFormat`, with what is known of it. -/
structure WireFormat where
  /-- A field of an `UnknownFieldSet`. -/
  UnknownField : Type
  unknownTag : UnknownField → UInt32
  /-- `SerializeUnknownFields`, for one field. -/
  writeUnknown : UnknownField → Bytes
  /-- `ComputeUnknownFieldsSize`, for one field. -/
  unknownSize : UnknownField → ℕ
  /-- `GetProto3PreserveUnknownsDefault`. -/
  preserveUnknowns : Bool
  /-- `ReadTagWithCutoffNoLastTag(127u)`: the tag, whether it is known not to be above the
  cutoff, and the bytes after it. -/
  readTag : Bytes → (UInt32 × Bool) × Bytes
  /-- `ReadPrimitive` and `ReadString`. -/
  read : (type : FieldType) → Bytes → Option (type.Value × Bytes)
  /-- What one of them that fails leaves in the variable. -/
  readLeft : (type : FieldType) → Bytes → type.Value → type.Value
  /-- `WriteUInt64`, `WriteDouble`, `WriteFloat` and `WriteString`. -/
  write : (type : FieldType) → (number : ℕ) → type.Value → Bytes
  /-- `UInt64Size` and `StringSize`. -/
  size : (type : FieldType) → type.Value → ℕ
  /-- `LengthDelimitedSize`. -/
  lengthDelimitedSize : ℕ → ℕ
  verifyUtf8String : Bytes → Bool
  /-- `SkipField`, which adds the field to the unknown ones. -/
  skipField : UInt32 → Bytes → Option (UnknownField × Bytes)
  /-- What a `SkipField` that fails has added to the unknown fields. -/
  skipLeft : UInt32 → Bytes → List UnknownField
  readTag_nil : (readTag []).1.1 = 0
  cutoff : ∀ {bytes}, (readTag bytes).1.1 ≠ 0 →
    ((readTag bytes).1.2 = true ↔ (readTag bytes).1.1.toNat ≤ 127)
  length_readTag : ∀ {bytes}, (readTag bytes).1.1 ≠ 0 →
    (readTag bytes).2.length < bytes.length
  length_read : ∀ {type bytes value rest}, read type bytes = some (value, rest) →
    rest.length ≤ bytes.length
  length_skipField : ∀ {tag bytes field rest}, skipField tag bytes = some (field, rest) →
    rest.length ≤ bytes.length
  read_write : ∀ {type number value}, 0 < number → number < 16 → type.Fits value →
    ∀ rest, ∃ contents,
      readTag (write type number value ++ rest) =
        ((makeTag number type.wireType, true), contents) ∧
      read type contents = some (value, rest)
  fits_read : ∀ {type bytes value rest}, read type bytes = some (value, rest) →
    type.Fits value
  length_write : ∀ {type number value}, number < 16 → type.Fits value →
    (write type number value).length = 1 + size type value
  size_double : ∀ value, size .double value = 8
  size_float : ∀ value, size .float value = 4
  size_uint64 : ∀ value, size .uint64 value ≤ 10
  lengthDelimitedSize_le : ∀ {n}, n < 2 ^ 31 → lengthDelimitedSize n ≤ n + 5
  size_string : ∀ value, size .string value = lengthDelimitedSize value.length
  skipField_writeUnknown : ∀ field rest, ∃ contents,
    ((readTag (writeUnknown field ++ rest)).1.1, (readTag (writeUnknown field ++ rest)).2) =
        (unknownTag field, contents) ∧
      skipField (unknownTag field) contents = some (field, rest)
  unknownTag_ne_zero : ∀ field, unknownTag field ≠ 0
  unknownTag_skipField : ∀ {tag bytes field rest},
    skipField tag bytes = some (field, rest) → unknownTag field = tag
  unknownTag_skipLeft : ∀ {tag bytes field}, field ∈ skipLeft tag bytes →
    unknownTag field = tag
  length_writeUnknown : ∀ field, (writeUnknown field).length = unknownSize field

namespace WireFormat

variable (W : WireFormat) {number : ℕ} {value : Bytes}

theorem read_write_string (hpos : 0 < number) (hlt : number < 16)
    (hlength : value.length < 2 ^ 31) (rest : Bytes) :
    ∃ contents,
      W.readTag (W.write .string number value ++ rest) =
        ((makeTag number FieldType.string.wireType, true), contents) ∧
      W.read .string contents = some (value, rest) :=
  W.read_write hpos hlt (show FieldType.string.Fits value from hlength) rest

theorem length_write_string (hlt : number < 16) (hlength : value.length < 2 ^ 31) :
    (W.write .string number value).length = 1 + W.lengthDelimitedSize value.length := by
  rw [← W.size_string]
  exact W.length_write hlt (show FieldType.string.Fits value from hlength)

end WireFormat
end Protobuf
