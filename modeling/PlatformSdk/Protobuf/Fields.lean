import PlatformSdk.Protobuf.RoundTrip

/-!
# The kinds of fields

The code that is generated for a field with a single value, which is written unless it is
the default one, and for a repeated field of messages, each of which is a string with a
message of its own inside.
-/

namespace Protobuf

open Relation (ReflTransGen)
open Wire (Bytes)

variable {W : WireFormat} {μ ν : Type}

/-- The tag of a member is the one for its number and type. -/
structure HasKey {α : Type} (_get : μ → α) (number : ℕ) (tag : UInt32) (type : FieldType) :
    Prop where
  number_pos : 0 < number
  number_lt : number < 16
  tag_eq : tag = makeTag number type.wireType

/-! ## Single values -/

/-- What `ByteSizeLong` takes for a value. -/
def valueSize (W : WireFormat) : (type : FieldType) → type.Value → ℕ
  | .uint64, value => W.size .uint64 value
  | .double, _ => 8
  | .float, _ => 4
  | .string, value => W.size .string value

theorem valueSize_eq (type : FieldType) (value : type.Value) :
    valueSize W type value = W.size type value := by
  cases type with
  | uint64 => rfl
  | double => exact (W.size_double value).symm
  | float => exact (W.size_float value).symm
  | string => rfl

/-- How long a value of a type can be. -/
def FieldType.bound : (type : FieldType) → type.Value → ℕ
  | .uint64, _ => 10
  | .double, _ => 8
  | .float, _ => 4
  | .string, value => value.length + 5

theorem FieldType.bound_number {type : FieldType} (h : type ≠ .string) (value : type.Value) :
    type.bound value ≤ 10 := by
  cases type with
  | uint64 => exact Nat.le_refl 10
  | double => exact (by decide : 8 ≤ 10)
  | float => exact (by decide : 4 ≤ 10)
  | string => exact absurd rfl h

theorem size_le {type : FieldType} {value : type.Value} (h : type.Fits value) :
    W.size type value ≤ type.bound value := by
  cases type with
  | uint64 => exact W.size_uint64 value
  | double => exact Nat.le_of_eq (W.size_double value)
  | float => exact Nat.le_of_eq (W.size_float value)
  | string =>
      rw [W.size_string]
      exact W.lengthDelimitedSize_le h

section Single

variable (type : FieldType) (get : μ → type.Value) (set : type.Value → μ → μ)

/-- `if (this->x() != 0) WriteX(number, this->x(), output)`. -/
def writeSingle (W : WireFormat) (number : ℕ) (self : μ) : Bytes :=
  if type.isDefault (get self) then [] else W.write type number (get self)

/-- `if (this->x() != 0) total_size += 1 + XSize(this->x())`. -/
def sizeSingle (W : WireFormat) (self : μ) : ℕ :=
  if type.isDefault (get self) then 0 else 1 + valueSize W type (get self)

/-- `if (from.x() != 0) set_x(from.x())`. -/
def mergeSingle (source self : μ) : μ :=
  if type.isDefault (get source) then self else set (get source) self

/-- `DO_(ReadX(input, &x_))`, and what is verified of the value. -/
def readSingle (W : WireFormat) (verify : type.Value → Bool) (self : μ) (bytes : Bytes) :
    Option (μ × Bytes) :=
  match W.read type bytes with
  | none => none
  | some (value, rest) => if verify value then some (set value self, rest) else none

/-- What is left of a value that could not be read, or was not verified. -/
def leftSingle (W : WireFormat) (self : μ) (bytes : Bytes) : μ :=
  match W.read type bytes with
  | none => set (W.readLeft type bytes (get self)) self
  | some (value, _) => set value self

/-- The value is not written, or it can be read. -/
def FitsSingle (verify : type.Value → Bool) (self : μ) : Prop :=
  type.isDefault (get self) = true ∨ type.Fits (get self) ∧ verify (get self) = true

variable {type get set} {number : ℕ} {tag : UInt32} {verify : type.Value → Bool}

theorem reads_writeSingle (hpos : 0 < number) (hlt : number < 16)
    (htag : tag = makeTag number type.wireType) {source : μ}
    (hfits : FitsSingle type get verify source) (self : μ) (rest : Bytes) :
    ReflTransGen (Reads W tag (readSingle type set W verify))
      (self, writeSingle type get W number source ++ rest)
      (mergeSingle type get set source self, rest) := by
  rw [writeSingle, mergeSingle]
  by_cases hdefault : type.isDefault (get source) = true
  · rw [if_pos hdefault, if_pos hdefault]
    exact .refl
  · rw [if_neg hdefault, if_neg hdefault]
    obtain ⟨hvalue, hverify⟩ := hfits.resolve_left hdefault
    obtain ⟨contents, hread, hvalue⟩ := W.read_write hpos hlt hvalue rest
    refine .single ⟨contents, htag ▸ hread, ?_⟩
    simp only [readSingle, hvalue, hverify, if_true]

theorem length_writeSingle (hlt : number < 16) {self : μ}
    (hfits : FitsSingle type get verify self) :
    (writeSingle type get W number self).length = sizeSingle type get W self := by
  rw [writeSingle, sizeSingle]
  by_cases hdefault : type.isDefault (get self) = true
  · rw [if_pos hdefault, if_pos hdefault]
    rfl
  · rw [if_neg hdefault, if_neg hdefault, valueSize_eq]
    exact W.length_write hlt (hfits.resolve_left hdefault).1

theorem length_writeSingle_le (hlt : number < 16) {self : μ} (hfits : type.Fits (get self)) :
    (writeSingle type get W number self).length ≤ 1 + type.bound (get self) := by
  rw [writeSingle]
  split
  · exact Nat.zero_le _
  · rw [W.length_write hlt hfits]
    exact Nat.add_le_add_left (size_le hfits) 1

theorem length_readSingle {self : μ} {bytes : Bytes} {s : μ × Bytes}
    (h : readSingle type set W verify self bytes = some s) : s.2.length ≤ bytes.length := by
  rw [readSingle] at h
  split at h
  · cases h
  · next hread =>
      split at h
      · cases h
        exact W.length_read hread
      · cases h

/-- A value up to the sign of zero. -/
def FieldType.canonical (type : FieldType) (value : type.Value) : type.Value :=
  if type.isDefault value then type.default else value

/-- Merging into a message that does not have the value yet. -/
theorem mergeSingle_of_default {source self : μ} (hself : get self = type.default)
    (hset : ∀ self, set (get self) self = self) :
    mergeSingle type get set source self = set (type.canonical (get source)) self := by
  rw [mergeSingle, FieldType.canonical]
  split
  · rw [← hself, hset]
  · rfl

/-- The sign of zero makes no difference to what is written. -/
theorem writeSingle_of_canonical {self self' : μ}
    (h : get self' = type.canonical (get self)) :
    writeSingle type get W number self' = writeSingle type get W number self := by
  rw [writeSingle, writeSingle, h, FieldType.canonical]
  split
  · rw [type.isDefault_default, if_pos rfl]
  · rfl

end Single

/-- A field with a single value. -/
def Field.single (W : WireFormat) (number : ℕ) (tag : UInt32) (type : FieldType)
    (get : μ → type.Value) (set : type.Value → μ → μ) (verify : type.Value → Bool)
    (key : HasKey get number tag type) : Field W μ where
  number := number
  wireType := type.wireType
  tag := tag
  read := readSingle type set W verify
  readLeft := leftSingle type get set W
  write := writeSingle type get W number
  size := sizeSingle type get W
  mergeFrom := mergeSingle type get set
  readBack := mergeSingle type get set
  Fits := FitsSingle type get verify
  number_pos := key.number_pos
  number_lt := key.number_lt
  wireType_lt := type.wireType_lt
  tag_eq := key.tag_eq
  length_read := length_readSingle
  length_write := length_writeSingle key.number_lt
  reads_write := reads_writeSingle key.number_pos key.number_lt key.tag_eq

/-- Merging into a message that does not have the first of its values yet. -/
theorem foldl_mergeFrom_single {number : ℕ} {tag : UInt32} {type : FieldType}
    {get : μ → type.Value} {set : type.Value → μ → μ} {verify : type.Value → Bool}
    {key : HasKey get number tag type}
    {fields : List (Field W μ)} {source self : μ} (hself : get self = type.default)
    (hset : ∀ self, set (get self) self = self) :
    (Field.single W number tag type get set verify key :: fields).foldl
        (fun self f => f.mergeFrom source self) self =
      fields.foldl (fun self f => f.mergeFrom source self)
        (set (type.canonical (get source)) self) := by
  rw [List.foldl_cons, ← mergeSingle_of_default hself hset]
  rfl

/-- A field of a primitive type, of which nothing is verified. -/
def Field.primitive (W : WireFormat) (number : ℕ) (tag : UInt32) (type : FieldType)
    (get : μ → type.Value) (set : type.Value → μ → μ)
    (key : HasKey get number tag type := by exact ⟨by decide, by decide, by decide⟩) :
    Field W μ :=
  .single W number tag type get set (fun _ => true) key

theorem Field.length_primitive_le {number : ℕ} {tag : UInt32} {type : FieldType}
    {get : μ → type.Value} {set : type.Value → μ → μ} {key : HasKey get number tag type}
    {self : μ} (hfits : type.Fits (get self)) :
    ((Field.primitive W number tag type get set key).write self).length ≤
      1 + type.bound (get self) :=
  length_writeSingle_le key.number_lt hfits

/-- A field for a string, which has to be UTF-8 to be read. -/
def Field.string (W : WireFormat) (number : ℕ) (tag : UInt32) (get : μ → Bytes)
    (set : Bytes → μ → μ)
    (key : HasKey get number tag .string := by exact ⟨by decide, by decide, by decide⟩) :
    Field W μ :=
  .single W number tag .string get set W.verifyUtf8String key

/-! ## Repeated messages -/

/-- A lens: a member of a message, and how it is replaced. -/
structure Member (μ α : Type) where
  get : μ → α
  set : α → μ → μ
  get_set : ∀ a self, get (set a self) = a
  set_get : ∀ self, set (get self) self = self
  set_set : ∀ a b self, set a (set b self) = set a self

section Repeated

variable (member : Member μ (List (Message W ν))) (element : List (Field W ν)) (zero : ν)

/-- `for (…) WriteMessageMaybeToArray(number, this->x(i), output)`. -/
def writeRepeated (number : ℕ) (self : μ) : Bytes :=
  (member.get self).flatMap fun message =>
    W.write .string number (serializeWithCachedSizes element message)

/-- `total_size += 1UL * count; for (…) total_size += MessageSize(this->x(i))`. -/
def sizeRepeated (size : Message W ν → ℕ) (self : μ) : ℕ :=
  (member.get self).length +
    ((member.get self).map fun message => W.lengthDelimitedSize (size message)).sum

/-- `DO_(ReadMessage(input, add_x()))`: the parser of the message has to end where its
length says. -/
def readRepeated (self : μ) (bytes : Bytes) : Option (μ × Bytes) :=
  match W.read .string bytes with
  | none => none
  | some (contents, rest) =>
      match parseFromString element zero contents with
      | none => none
      | some message => some (member.set (member.get self ++ [message]) self, rest)

/-- What is left of a message that could not be read, which was added before. -/
def leftRepeated (self : μ) (bytes : Bytes) : μ :=
  let contents :=
    match W.read .string bytes with
    | none => W.readLeft .string bytes []
    | some (contents, _) => contents
  member.set (member.get self ++
    [mergedPartially element { fields := zero } contents]) self

/-- `RepeatedPtrField::MergeFrom`: each message is merged into a new one. -/
def mergeRepeated (source self : μ) : μ :=
  member.set (member.get self ++
    (member.get source).map fun message => mergeFrom element message { fields := zero }) self

/-- The messages are read back into new ones. -/
def readBackRepeated (source self : μ) : μ :=
  member.set (member.get self ++
    (member.get source).map fun message => readBack element message { fields := zero }) self

/-- Each of the messages can be read, and its size is of type `int`. -/
def FitsRepeated (self : μ) : Prop :=
  ∀ message ∈ member.get self, message.Fits element ∧
    (serializeWithCachedSizes element message).length < 2 ^ 31

variable {member element zero} {number : ℕ} {tag : UInt32}

theorem parseFromString_serialize (hdistinct : (element.map Field.number).Nodup)
    {message : Message W ν} (hfits : message.Fits element) :
    parseFromString element zero (serializeWithCachedSizes element message) =
      some (readBack element message { fields := zero }) := by
  have h := mergePartialFromCodedStream_serialize hdistinct hfits { fields := zero } []
  rw [List.append_nil, mergePartialFromCodedStream_nil] at h
  rw [parseFromString, h]

theorem reads_writeRepeated (hdistinct : (element.map Field.number).Nodup)
    (hpos : 0 < number) (hlt : number < 16)
    (htag : tag = makeTag number FieldType.string.wireType) {messages : List (Message W ν)}
    (hfits : ∀ message ∈ messages, message.Fits element ∧
      (serializeWithCachedSizes element message).length < 2 ^ 31) (self : μ) (rest : Bytes) :
    ReflTransGen (Reads W tag (readRepeated member element zero))
      (self, (messages.flatMap fun message =>
        W.write .string number (serializeWithCachedSizes element message)) ++ rest)
      (member.set (member.get self ++
        messages.map fun message => readBack element message { fields := zero }) self,
        rest) := by
  induction messages generalizing self with
  | nil =>
      rw [List.map_nil, List.append_nil, member.set_get]
      exact .refl
  | cons message messages ih =>
      obtain ⟨hmessage, hlength⟩ := hfits message (by simp)
      obtain ⟨contents, hread, hvalue⟩ := W.read_write_string hpos hlt hlength
        ((messages.flatMap fun message =>
          W.write .string number (serializeWithCachedSizes element message)) ++ rest)
      have hrest := ih (fun other hother => hfits other (by simp [hother]))
        (member.set (member.get self ++
          [readBack element message { fields := zero }]) self)
      rw [member.get_set, member.set_set, List.append_assoc, List.singleton_append] at hrest
      refine .head ⟨contents, ?_, ?_⟩ hrest
      · rw [List.flatMap_cons, List.append_assoc, htag]
        exact hread
      · simp only [readRepeated, hvalue, parseFromString_serialize hdistinct hmessage]

theorem length_writeRepeated (hlt : number < 16) {size : Message W ν → ℕ}
    (hsize : ∀ message, size message = byteSizeLong element message) {self : μ}
    (hfits : FitsRepeated member element self) :
    (writeRepeated member element number self).length = sizeRepeated member size self := by
  rw [writeRepeated, sizeRepeated]
  generalize hmessages : member.get self = messages
  rw [FitsRepeated, hmessages] at hfits
  clear hmessages
  induction messages with
  | nil => rfl
  | cons message messages ih =>
      obtain ⟨hmessage, hlength⟩ := hfits message (by simp)
      have hwrite := W.length_write_string hlt hlength
      rw [length_serializeWithCachedSizes hmessage.values, ← hsize] at hwrite
      have hrest := ih fun other hother => hfits other (by simp [hother])
      rw [List.flatMap_cons, List.length_append, hwrite, hrest, List.length_cons,
        List.map_cons, List.sum_cons]
      omega

theorem length_readRepeated {self : μ} {bytes : Bytes} {s : μ × Bytes}
    (h : readRepeated member element zero self bytes = some s) :
    s.2.length ≤ bytes.length := by
  rw [readRepeated] at h
  split at h
  · cases h
  · next hread =>
      split at h
      · cases h
      · cases h
        exact W.length_read hread

end Repeated

/-- A repeated field of messages, whose `ByteSizeLong` is `size`. -/
def Field.repeated (number : ℕ) (tag : UInt32) (member : Member μ (List (Message W ν)))
    (element : List (Field W ν)) (zero : ν) (size : Message W ν → ℕ)
    (hdistinct : (element.map Field.number).Nodup)
    (hsize : ∀ message, size message = byteSizeLong element message)
    (key : HasKey member.get number tag .string := by
      exact ⟨by decide, by decide, by decide⟩) : Field W μ where
  number := number
  wireType := FieldType.string.wireType
  tag := tag
  read := readRepeated member element zero
  readLeft := leftRepeated member element zero
  write := writeRepeated member element number
  size := sizeRepeated member size
  mergeFrom := mergeRepeated member element zero
  readBack := readBackRepeated member element zero
  Fits := FitsRepeated member element
  number_pos := key.number_pos
  number_lt := key.number_lt
  wireType_lt := FieldType.string.wireType_lt
  tag_eq := key.tag_eq
  length_read := length_readRepeated
  length_write := length_writeRepeated key.number_lt hsize
  reads_write := reads_writeRepeated hdistinct key.number_pos key.number_lt key.tag_eq

end Protobuf
