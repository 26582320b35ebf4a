import Mathlib.Algebra.GroupWithZero.Nat
import PlatformSdk.Machine.Attempt
import PlatformSdk.Machine.Buffer
import PlatformSdk.Protobuf.WireFormat

/-!
# Generated messages

What the compiler of protocol buffers generates for a message, over the list of its
fields: the serializer, the same into an array, its size, the parser and the merging of
messages.  A turn of the parser is the reading of a field that the message has, or the
skipping of one that it does not know.  A parser that fails leaves a message behind, too.
-/

namespace Protobuf

open Machine
open Relation (ReflTransGen)
open Wire (Bytes)

/-- A message: its fields, and `_internal_metadata_`. -/
structure Message (W : WireFormat) (μ : Type) where
  fields : μ
  unknownFields : List W.UnknownField := []

/-! ## Fields -/

variable {W : WireFormat} {μ : Type}

/-- A tag and a value after it are read into a message. -/
def Reads (W : WireFormat) (tag : UInt32) (read : μ → Bytes → Option (μ × Bytes))
    (s s' : μ × Bytes) : Prop :=
  ∃ contents, W.readTag s.2 = ((tag, true), contents) ∧ read s.1 contents = some s'

/-- The code that is generated for a field. -/
structure Field (W : WireFormat) (μ : Type) where
  number : ℕ
  wireType : ℕ
  /-- What the parser compares a tag with. -/
  tag : UInt32
  read : μ → Bytes → Option (μ × Bytes)
  /-- What a message becomes when reading the field fails. -/
  readLeft : μ → Bytes → μ
  write : μ → Bytes
  size : μ → ℕ
  mergeFrom : (source self : μ) → μ
  /-- What a message becomes when what is written for `source` is read into it. -/
  readBack : (source self : μ) → μ
  /-- What is written can be read. -/
  Fits : μ → Prop
  number_pos : 0 < number
  number_lt : number < 16
  wireType_lt : wireType < 8
  tag_eq : tag = makeTag number wireType
  length_read : ∀ {self bytes s}, read self bytes = some s → s.2.length ≤ bytes.length
  length_write : ∀ {self}, Fits self → (write self).length = size self
  reads_write : ∀ {source}, Fits source → ∀ self rest,
    ReflTransGen (Reads W tag read) (self, write source ++ rest) (readBack source self, rest)

namespace Field

theorem toNat_tag (f : Field W μ) : f.tag.toNat = 8 * f.number + f.wireType := by
  have hnumber := f.number_lt
  rw [f.tag_eq, toNat_makeTag (by omega) f.wireType_lt]

theorem tag_le (f : Field W μ) : f.tag.toNat ≤ 127 := by
  have hnumber := f.number_lt
  have hwire := f.wireType_lt
  rw [f.toNat_tag]
  omega

theorem tag_ne_zero (f : Field W μ) : f.tag ≠ 0 := by
  intro h
  have htag := f.toNat_tag
  have hpos := f.number_pos
  rw [h, UInt32.toNat_zero] at htag
  omega

theorem tag_shiftRight (f : Field W μ) : (f.tag >>> 3).toNat = f.number := by
  have hwire := f.wireType_lt
  have hthree : (3 : UInt32).toNat % 32 = 3 := rfl
  rw [UInt32.toNat_shiftRight, f.toNat_tag, hthree, Nat.shiftRight_eq_div_pow]
  omega

end Field

/-- Two tags below the cutoff that agree in their last byte are equal. -/
theorem eq_of_toUInt8_eq {tag tag' : UInt32} (h : tag.toNat ≤ 127) (h' : tag'.toNat ≤ 127)
    (heq : tag.toUInt8 = tag'.toUInt8) : tag = tag' := by
  have hnat := congrArg UInt8.toNat heq
  rw [UInt32.toNat_toUInt8, UInt32.toNat_toUInt8] at hnat
  apply UInt32.toNat_inj.mp
  omega

/-! ## The functions of a message -/

section Functions

variable (fields : List (Field W μ))

/-- `SerializeWithCachedSizes`. -/
def serializeWithCachedSizes (self : Message W μ) : Bytes :=
  fields.flatMap (fun f => f.write self.fields) ++
    if !self.unknownFields.isEmpty && W.preserveUnknowns then
      self.unknownFields.flatMap W.writeUnknown
    else []

/-- Bytes are written to an array at `target`, which moves behind them. -/
def writeToArray (bytes : Bytes) (array : Bytes × ℕ) : Attempt (Bytes × ℕ) := do
  let written ← Buffer.write array.1 array.2 bytes
  return (written, array.2 + bytes.length)

/-- `InternalSerializeWithCachedSizesToArray`, with the array that `target` points into. -/
def internalSerializeWithCachedSizesToArray (self : Message W μ) (array : Bytes × ℕ) :
    Attempt (Bytes × ℕ) := do
  let array ← fields.foldlM (fun array f => writeToArray (f.write self.fields) array) array
  if !self.unknownFields.isEmpty && W.preserveUnknowns then
    writeToArray (self.unknownFields.flatMap W.writeUnknown) array
  else return array

/-- `ByteSizeLong`. -/
def byteSizeLong (self : Message W μ) : ℕ :=
  (if !self.unknownFields.isEmpty && W.preserveUnknowns then
    (self.unknownFields.map W.unknownSize).sum
  else 0) + (fields.map fun f => f.size self.fields).sum

/-- `SerializeAsString`: the string has the size that the message says it has. -/
def serializeAsString (self : Message W μ) : Attempt Bytes :=
  if byteSizeLong fields self < 2 ^ 31 then do
    let array ← internalSerializeWithCachedSizesToArray fields self
      (List.replicate (byteSizeLong fields self) 0, 0)
    return array.1
  else return []

/-- `MergeFrom`. -/
def mergeFrom (source self : Message W μ) : Message W μ where
  fields := fields.foldl (fun self f => f.mergeFrom source.fields self) self.fields
  unknownFields := self.unknownFields ++ source.unknownFields

/-- What a turn of the loop of the parser does. -/
inductive Turn (W : WireFormat) (μ : Type) where
  | success
  | failure (left : Message W μ)
  | next (self : Message W μ) (bytes : Bytes)

/-- `handle_unusual`, for a tag and the bytes after it. -/
def handleUnusual (self : Message W μ) (tag : UInt32) (bytes : Bytes) : Turn W μ :=
  if tag = 0 then .success
  else
    match W.skipField tag bytes with
    | none => .failure { self with unknownFields := self.unknownFields ++ W.skipLeft tag bytes }
    | some (field, rest) =>
        .next { self with unknownFields := self.unknownFields ++ [field] } rest

/-- A turn of the loop. -/
def turn (self : Message W μ) (bytes : Bytes) : Turn W μ :=
  let ((tag, known), contents) := W.readTag bytes
  if !known then handleUnusual self tag contents
  else
    match fields.find? fun f => f.number = (tag >>> 3).toNat with
    | none => handleUnusual self tag contents
    | some f =>
        if tag.toUInt8 = f.tag.toUInt8 then
          match f.read self.fields contents with
          | none => .failure { self with fields := f.readLeft self.fields contents }
          | some (fields, rest) => .next { self with fields := fields } rest
        else handleUnusual self tag contents

/-- As many turns of the loop as there is fuel for: the message, and the bytes in front of
which the loop ended, unless it failed. -/
def loop : ℕ → Message W μ → Bytes → Message W μ × Option Bytes
  | 0, self, _ => (self, none)
  | fuel + 1, self, bytes =>
      match turn fields self bytes with
      | .success => (self, some bytes)
      | .failure left => (left, none)
      | .next self rest => loop fuel self rest

/-- `MergePartialFromCodedStream`: the message, and the bytes in front of which the loop
ended; each turn before the last one reads a tag. -/
def mergePartialFromCodedStream (self : Message W μ) (bytes : Bytes) :
    Option (Message W μ × Bytes) :=
  let (self, rest) := loop fields (bytes.length + 1) self bytes
  rest.map fun rest => (self, rest)

/-- The message after `MergePartialFromCodedStream`, whatever this returned. -/
def mergedPartially (self : Message W μ) (bytes : Bytes) : Message W μ :=
  (loop fields (bytes.length + 1) self bytes).1

/-- `ParseFromString`, for a message of which `zero` is the default: the loop has to end at
the end of the string. -/
def parseFromString (zero : μ) (bytes : Bytes) : Option (Message W μ) :=
  match mergePartialFromCodedStream fields { fields := zero } bytes with
  | some (self, []) => some self
  | some (_, _ :: _) | none => none

end Functions

/-! ## Turns of the parser -/

variable {fields : List (Field W μ)} {self : Message W μ} {bytes contents rest : Bytes}

theorem find?_number (hdistinct : (fields.map Field.number).Nodup) {f : Field W μ}
    (hf : f ∈ fields) : (fields.find? fun g => g.number = f.number) = some f := by
  induction fields with
  | nil => cases hf
  | cons g fields ih =>
      rw [List.map_cons, List.nodup_cons] at hdistinct
      rw [List.find?_cons]
      rcases List.mem_cons.mp hf with rfl | hf
      · simp
      · have hne : g.number ≠ f.number := by
          intro h
          exact hdistinct.1 (h ▸ List.mem_map_of_mem hf)
        simp only [hne, decide_false]
        exact ih hdistinct.2 hf

/-- No field has the number of the tag `0`. -/
theorem ne_zero_of_find? {tag : UInt32} {f : Field W μ}
    (h : (fields.find? fun f => f.number = (tag >>> 3).toNat) = some f) : tag ≠ 0 := by
  rintro rfl
  have hnumber := List.find?_some h
  have hpos := f.number_pos
  rw [of_decide_eq_true hnumber] at hpos
  exact absurd hpos (by decide)

/-- The tag of a field is followed by a value of this field. -/
theorem turn_of_mem (hdistinct : (fields.map Field.number).Nodup) {f : Field W μ}
    (hf : f ∈ fields) (htag : W.readTag bytes = ((f.tag, true), contents)) :
    turn fields self bytes =
      match f.read self.fields contents with
      | none => .failure { self with fields := f.readLeft self.fields contents }
      | some (fields, rest) => .next { self with fields := fields } rest := by
  simp only [turn, htag, f.tag_shiftRight, find?_number hdistinct hf, Bool.not_true,
    Bool.false_eq_true, if_false, if_true]

/-- Any other tag is unusual. -/
theorem turn_of_unusual (htag : ∀ f ∈ fields, f.tag ≠ (W.readTag bytes).1.1) :
    turn fields self bytes =
      handleUnusual self (W.readTag bytes).1.1 (W.readTag bytes).2 := by
  simp only [turn]
  split
  · rfl
  · next hknown =>
      split
      · rfl
      · next f hfind =>
          have hf := List.mem_of_find?_eq_some hfind
          split
          · next hbyte =>
              have hle := (W.cutoff (ne_zero_of_find? hfind)).mp (by simpa using hknown)
              exact absurd (eq_of_toUInt8_eq hle f.tag_le hbyte).symm (htag f hf)
          · rfl

theorem length_handleUnusual {tag : UInt32} {self' : Message W μ}
    (h : handleUnusual self tag bytes = .next self' rest) :
    tag ≠ 0 ∧ rest.length ≤ bytes.length := by
  simp only [handleUnusual] at h
  split at h
  · cases h
  · next htag =>
      split at h
      · cases h
      · next hskip =>
          cases h
          exact ⟨htag, W.length_skipField hskip⟩

/-- A turn that is not the last one reads something. -/
theorem length_turn {self' : Message W μ} (h : turn fields self bytes = .next self' rest) :
    rest.length < bytes.length := by
  simp only [turn] at h
  split at h
  · obtain ⟨htag, hlength⟩ := length_handleUnusual h
    exact Nat.lt_of_le_of_lt hlength (W.length_readTag htag)
  · split at h
    · obtain ⟨htag, hlength⟩ := length_handleUnusual h
      exact Nat.lt_of_le_of_lt hlength (W.length_readTag htag)
    · next f hfind =>
        split at h
        · split at h
          · cases h
          · next hread =>
              cases h
              have htag := ne_zero_of_find? hfind
              exact Nat.lt_of_le_of_lt (f.length_read hread) (W.length_readTag htag)
        · obtain ⟨htag, hlength⟩ := length_handleUnusual h
          exact Nat.lt_of_le_of_lt hlength (W.length_readTag htag)

/-- There is fuel for every turn. -/
theorem loop_eq {fuel fuel' : ℕ} (h : bytes.length < fuel) (h' : bytes.length < fuel') :
    loop fields fuel self bytes = loop fields fuel' self bytes := by
  induction fuel generalizing fuel' self bytes with
  | zero => omega
  | succ fuel ih =>
      obtain ⟨fuel', rfl⟩ := Nat.exists_eq_succ_of_ne_zero (Nat.ne_zero_of_lt h')
      simp only [loop]
      split
      · rfl
      · rfl
      · next hturn =>
          have hlength := length_turn hturn
          exact ih (by omega) (by omega)

/-- The parser is its loop. -/
theorem loop_turn :
    loop fields (bytes.length + 1) self bytes =
      match turn fields self bytes with
      | .success => (self, some bytes)
      | .failure left => (left, none)
      | .next self rest => loop fields (rest.length + 1) self rest := by
  rw [loop]
  split
  · rfl
  · rfl
  · next hturn =>
      have hlength := length_turn hturn
      exact loop_eq hlength (Nat.lt_succ_self _)

theorem mergePartialFromCodedStream_eq :
    mergePartialFromCodedStream fields self bytes =
      match turn fields self bytes with
      | .success => some (self, bytes)
      | .failure _ => none
      | .next self rest => mergePartialFromCodedStream fields self rest := by
  rw [mergePartialFromCodedStream, loop_turn]
  cases turn fields self bytes <;> rfl

theorem mergedPartially_eq :
    mergedPartially fields self bytes =
      match turn fields self bytes with
      | .success => self
      | .failure left => left
      | .next self rest => mergedPartially fields self rest := by
  rw [mergedPartially, loop_turn]
  cases turn fields self bytes <;> rfl

theorem mergedPartially_of_eq_some {self' : Message W μ}
    (h : mergePartialFromCodedStream fields self bytes = some (self', rest)) :
    mergedPartially fields self bytes = self' := by
  obtain ⟨unread, -, heq⟩ := Option.map_eq_some_iff.mp h
  exact (Prod.mk.inj heq).1

theorem mergePartialFromCodedStream_nil :
    mergePartialFromCodedStream fields self [] = some (self, []) := by
  have hturn : turn fields self [] = .success := by
    rw [turn_of_unusual fun f _ h => f.tag_ne_zero (h.trans W.readTag_nil), handleUnusual,
      if_pos W.readTag_nil]
  rw [mergePartialFromCodedStream_eq, hturn]

end Protobuf
