import PlatformSdk.Protobuf.Message

/-!
# Reading what was serialized

The parser reads what was serialized for a message into the message that it is called on,
field by field and whatever follows (`mergePartialFromCodedStream_serialize`).  The size of
a message is the length of what is serialized, so that serializing into a string of this
size fills it (`serializeAsString_eq`).
-/

namespace Protobuf

open Machine
open Relation (ReflTransGen)
open Wire (Bytes)

variable {W : WireFormat} {μ : Type} {fields : List (Field W μ)} {self : Message W μ}
  {bytes rest : Bytes}

/-- The tag belongs to none of the fields. -/
def Unusual (fields : List (Field W μ)) (tag : UInt32) : Prop := ∀ f ∈ fields, f.tag ≠ tag

/-- What is serialized for a message can be read. -/
structure Message.Fits (fields : List (Field W μ)) (message : Message W μ) : Prop where
  values : ∀ f ∈ fields, f.Fits message.fields
  unusual : ∀ field ∈ message.unknownFields, Unusual fields (W.unknownTag field)

/-- What of a message is serialized. -/
def Message.written (message : Message W μ) : Message W μ where
  fields := message.fields
  unknownFields := if W.preserveUnknowns then message.unknownFields else []

/-- What a message becomes when what is serialized for `source` is read into it. -/
def readBack (fields : List (Field W μ)) (source self : Message W μ) : Message W μ where
  fields := fields.foldl (fun self f => f.readBack source.fields self) self.fields
  unknownFields := self.unknownFields ++ source.written.unknownFields

/-! ## What a turn does -/

/-- A turn reads a field, or handles a tag that is unusual. -/
theorem turn_cases (hdistinct : (fields.map Field.number).Nodup) (self : Message W μ) :
    (∃ f ∈ fields, W.readTag bytes = ((f.tag, true), (W.readTag bytes).2) ∧
      turn fields self bytes =
        match f.read self.fields (W.readTag bytes).2 with
        | none => .failure { self with fields := f.readLeft self.fields (W.readTag bytes).2 }
        | some (fields, rest) => .next { self with fields := fields } rest) ∨
    Unusual fields (W.readTag bytes).1.1 ∧
      turn fields self bytes =
        handleUnusual self (W.readTag bytes).1.1 (W.readTag bytes).2 := by
  by_cases h : ∃ f ∈ fields, f.tag = (W.readTag bytes).1.1
  · left
    obtain ⟨f, hf, htag⟩ := h
    have hknown : (W.readTag bytes).1.2 = true :=
      (W.cutoff (htag ▸ f.tag_ne_zero)).mpr (htag ▸ f.tag_le)
    have heq : W.readTag bytes = ((f.tag, true), (W.readTag bytes).2) := by
      rw [htag, ← hknown]
    exact ⟨f, hf, heq, turn_of_mem hdistinct hf heq⟩
  · right
    have hunusual : Unusual fields (W.readTag bytes).1.1 := fun f hf htag => h ⟨f, hf, htag⟩
    exact ⟨hunusual, turn_of_unusual hunusual⟩

/-- The parser adds nothing to the unknown fields that the message knows, also where it
fails. -/
theorem unusual_mergedPartially (hdistinct : (fields.map Field.number).Nodup)
    (hself : ∀ field ∈ self.unknownFields, Unusual fields (W.unknownTag field)) :
    ∀ field ∈ (mergedPartially fields self bytes).unknownFields,
      Unusual fields (W.unknownTag field) := by
  induction hlength : bytes.length using Nat.strongRecOn generalizing self bytes with
  | ind n ih =>
      have hadded : ∀ {tag : UInt32} {added : List W.UnknownField},
          Unusual fields tag → (∀ field ∈ added, W.unknownTag field = tag) →
          ∀ field ∈ self.unknownFields ++ added, Unusual fields (W.unknownTag field) := by
        intro tag added hunusual htag field hfield
        rcases List.mem_append.mp hfield with hfield | hfield
        · exact hself field hfield
        · exact htag field hfield ▸ hunusual
      rw [mergedPartially_eq]
      obtain ⟨f, -, -, hturn⟩ | ⟨hunusual, hturn⟩ :=
        @turn_cases W μ fields bytes hdistinct self
      · cases hread : f.read self.fields (W.readTag bytes).2 with
        | none =>
            rw [hturn, hread]
            exact hself
        | some read =>
            have hnext := hturn
            rw [hread] at hnext
            rw [hnext]
            exact ih _ (hlength ▸ length_turn hnext) hself rfl
      · rw [handleUnusual] at hturn
        split at hturn
        · rw [hturn]
          exact hself
        · split at hturn
          · rw [hturn]
            exact hadded hunusual fun field => W.unknownTag_skipLeft
          · next field unread hfield =>
              rw [hturn]
              refine ih _ (hlength ▸ length_turn hturn) ?_ rfl
              refine hadded hunusual fun other hother => ?_
              rw [List.mem_singleton.mp hother]
              exact W.unknownTag_skipField hfield

/-! ## Fields that were written -/

/-- The parser goes on after what is read into one field. -/
theorem mergePartialFromCodedStream_of_reads (hdistinct : (fields.map Field.number).Nodup)
    {f : Field W μ} (hf : f ∈ fields) {s s' : μ × Bytes}
    (h : ReflTransGen (Reads W f.tag f.read) s s') (unknownFields : List W.UnknownField) :
    mergePartialFromCodedStream fields ⟨s.1, unknownFields⟩ s.2 =
      mergePartialFromCodedStream fields ⟨s'.1, unknownFields⟩ s'.2 := by
  induction h using ReflTransGen.head_induction_on with
  | refl => rfl
  | head hreads _ ih =>
      obtain ⟨contents, htag, hread⟩ := hreads
      rw [mergePartialFromCodedStream_eq, turn_of_mem hdistinct hf htag, hread, ← ih]

/-- The fields of a list are read back one after the other. -/
theorem mergePartialFromCodedStream_fields (hdistinct : (fields.map Field.number).Nodup)
    {source : μ} {todo : List (Field W μ)} (hsubset : todo ⊆ fields)
    (hfits : ∀ f ∈ todo, f.Fits source) (self : μ) (unknownFields : List W.UnknownField)
    (rest : Bytes) :
    mergePartialFromCodedStream fields ⟨self, unknownFields⟩
        (todo.flatMap (fun f => f.write source) ++ rest) =
      mergePartialFromCodedStream fields
        ⟨todo.foldl (fun self f => f.readBack source self) self, unknownFields⟩ rest := by
  induction todo generalizing self with
  | nil => rfl
  | cons f todo ih =>
      have hf : f ∈ fields := hsubset (by simp)
      have hreads := f.reads_write (hfits f (by simp)) self
        (todo.flatMap (fun f => f.write source) ++ rest)
      rw [List.flatMap_cons, List.append_assoc,
        mergePartialFromCodedStream_of_reads hdistinct hf hreads,
        ih (fun g hg => hsubset (by simp [hg])) (fun g hg => hfits g (by simp [hg])),
        List.foldl_cons]

/-- Unknown fields are kept in their order. -/
theorem mergePartialFromCodedStream_unknown {unknown : List W.UnknownField}
    (hunusual : ∀ field ∈ unknown, Unusual fields (W.unknownTag field))
    (self : Message W μ) (rest : Bytes) :
    mergePartialFromCodedStream fields self (unknown.flatMap W.writeUnknown ++ rest) =
      mergePartialFromCodedStream fields
        { self with unknownFields := self.unknownFields ++ unknown } rest := by
  induction unknown generalizing self with
  | nil => simp
  | cons field unknown ih =>
      obtain ⟨contents, hread, hskip⟩ :=
        W.skipField_writeUnknown field (unknown.flatMap W.writeUnknown ++ rest)
      obtain ⟨htag, hcontents⟩ := Prod.mk.inj hread
      have hturn : turn fields self
          (W.writeUnknown field ++ (unknown.flatMap W.writeUnknown ++ rest)) =
            .next { self with unknownFields := self.unknownFields ++ [field] }
              (unknown.flatMap W.writeUnknown ++ rest) := by
        rw [turn_of_unusual (htag ▸ hunusual field (by simp)), htag, hcontents, handleUnusual,
          if_neg (W.unknownTag_ne_zero field), hskip]
      rw [List.flatMap_cons, List.append_assoc, mergePartialFromCodedStream_eq, hturn]
      dsimp only
      rw [ih fun other hother => hunusual other (by simp [hother])]
      simp

/-- The unknown fields that are serialized. -/
theorem serialize_unknown (unknown : List W.UnknownField) :
    (if !unknown.isEmpty && W.preserveUnknowns then unknown.flatMap W.writeUnknown else []) =
      (if W.preserveUnknowns then unknown else []).flatMap W.writeUnknown := by
  cases unknown <;> cases W.preserveUnknowns <;> simp

/-- What is serialized for a message is read into another one, and the parser goes on with
what follows. -/
theorem mergePartialFromCodedStream_serialize (hdistinct : (fields.map Field.number).Nodup)
    {source : Message W μ} (hfits : source.Fits fields) (self : Message W μ) (rest : Bytes) :
    mergePartialFromCodedStream fields self
        (serializeWithCachedSizes fields source ++ rest) =
      mergePartialFromCodedStream fields (readBack fields source self) rest := by
  rw [serializeWithCachedSizes, serialize_unknown, List.append_assoc,
    mergePartialFromCodedStream_fields hdistinct (List.Subset.refl fields) hfits.values,
    mergePartialFromCodedStream_unknown]
  · rfl
  · split
    · exact hfits.unusual
    · simp

/-- Any number of messages, one behind the other. -/
theorem mergePartialFromCodedStream_serializeAll
    (hdistinct : (fields.map Field.number).Nodup) {sources : List (Message W μ)}
    (hfits : ∀ source ∈ sources, source.Fits fields) (self : Message W μ) :
    mergePartialFromCodedStream fields self
        (sources.flatMap (serializeWithCachedSizes fields)) =
      some (sources.foldl (fun self source => readBack fields source self) self, []) := by
  induction sources generalizing self with
  | nil => exact mergePartialFromCodedStream_nil
  | cons source sources ih =>
      rw [List.flatMap_cons,
        mergePartialFromCodedStream_serialize hdistinct (hfits source (by simp)),
        ih fun other hother => hfits other (by simp [hother]), List.foldl_cons]

/-! ## Sizes, and serializing into an array -/

theorem length_unknown (unknown : List W.UnknownField) :
    (unknown.flatMap W.writeUnknown).length = (unknown.map W.unknownSize).sum := by
  rw [List.length_flatMap]
  congr 1
  exact List.map_congr_left fun field _ => W.length_writeUnknown field

/-- The size of a message is the length of what is serialized for it. -/
theorem length_serializeWithCachedSizes (hfits : ∀ f ∈ fields, f.Fits self.fields) :
    (serializeWithCachedSizes fields self).length = byteSizeLong fields self := by
  have hfields : (fields.flatMap fun f => f.write self.fields).length =
      (fields.map fun f => f.size self.fields).sum := by
    rw [List.length_flatMap]
    congr 1
    exact List.map_congr_left fun f hf => f.length_write (hfits f hf)
  rw [serializeWithCachedSizes, byteSizeLong, List.length_append, hfields, Nat.add_comm]
  congr 1
  split
  · exact length_unknown _
  · rfl

/-- What lies within an array is written as it is. -/
theorem writeToArray_eq {array bytes : Bytes} {target : ℕ}
    (h : target + bytes.length ≤ array.length) :
    writeToArray bytes (array, target) =
      .returns (array.take target ++ bytes ++ array.drop (target + bytes.length),
        target + bytes.length) := by
  rw [writeToArray, Buffer.write, if_pos h]
  rfl

/-- One write behind the other is one write. -/
theorem writeToArray_append {array first second : Bytes} {target : ℕ}
    (h : target + (first ++ second).length ≤ array.length) :
    (writeToArray first (array, target) >>= writeToArray second) =
      writeToArray (first ++ second) (array, target) := by
  rw [List.length_append] at h
  have hlength : (array.take target ++ first ++
      array.drop (target + first.length)).length = array.length := by
    simp only [List.length_append, List.length_take, List.length_drop]
    omega
  have hmin : min target array.length = target := Nat.min_eq_left (by omega)
  rw [writeToArray_eq (by omega), Attempt.returns_bind, writeToArray_eq (by omega),
    writeToArray_eq (by rw [List.length_append]; omega)]
  have htake : (array.take target ++ first ++ array.drop (target + first.length)).take
      (target + first.length) = array.take target ++ first := by
    rw [List.take_left']
    rw [List.length_append, List.length_take, hmin]
  have hdrop : (array.take target ++ first ++ array.drop (target + first.length)).drop
      (target + first.length + second.length) =
        array.drop (target + (first.length + second.length)) := by
    rw [List.drop_append, List.drop_eq_nil_of_le, List.nil_append, List.drop_drop]
    · congr 1
      simp only [List.length_append, List.length_take, hmin]
      omega
    · simp only [List.length_append, List.length_take, hmin]
      omega
  rw [htake, hdrop, List.length_append, Nat.add_assoc]
  simp only [List.append_assoc]

theorem writeToArray_fields {source : μ} (todo : List (Field W μ)) {array before : Bytes}
    {target : ℕ}
    (h : target + (before ++ todo.flatMap fun f => f.write source).length ≤ array.length) :
    (writeToArray before (array, target) >>= fun array =>
        todo.foldlM (fun array f => writeToArray (f.write source) array) array) =
      writeToArray (before ++ todo.flatMap fun f => f.write source) (array, target) := by
  induction todo generalizing before with
  | nil =>
      rw [List.flatMap_nil, List.append_nil]
      exact bind_pure _
  | cons f todo ih =>
      rw [List.flatMap_cons, ← List.append_assoc] at h ⊢
      have hfirst : target + (before ++ f.write source).length ≤ array.length := by
        rw [List.length_append] at h
        omega
      rw [← ih h, ← writeToArray_append hfirst, bind_assoc]
      rfl

/-- Where there is room for a message, nothing is written outside of the array, and inside
it what is serialized for the message. -/
theorem internalSerializeWithCachedSizesToArray_eq {array : Bytes} {target : ℕ}
    (h : target + (serializeWithCachedSizes fields self).length ≤ array.length) :
    internalSerializeWithCachedSizesToArray fields self (array, target) =
      writeToArray (serializeWithCachedSizes fields self) (array, target) := by
  have hnothing : writeToArray [] (array, target) = .returns (array, target) := by
    rw [writeToArray_eq (by rw [List.length_nil]; omega)]
    simp
  have hroom : target +
      (([] : Bytes) ++ fields.flatMap fun f => f.write self.fields).length ≤ array.length := by
    rw [serializeWithCachedSizes, List.length_append] at h
    rw [List.nil_append]
    omega
  have hfields := writeToArray_fields fields hroom
  rw [hnothing, Attempt.returns_bind, List.nil_append] at hfields
  rw [internalSerializeWithCachedSizesToArray, hfields]
  rw [serializeWithCachedSizes] at h ⊢
  split
  · next hunknown =>
      rw [if_pos hunknown] at h
      exact writeToArray_append h
  · rw [List.append_nil]
    exact bind_pure _

/-- `SerializeAsString` gives what `SerializeWithCachedSizes` writes, and no message is
too small for the string that is made for it. -/
theorem serializeAsString_eq (hfits : ∀ f ∈ fields, f.Fits self.fields)
    (hsize : byteSizeLong fields self < 2 ^ 31) :
    serializeAsString fields self = .returns (serializeWithCachedSizes fields self) := by
  have hlength := length_serializeWithCachedSizes hfits
  have hsame : (List.replicate (byteSizeLong fields self) (0 : UInt8)).length =
      0 + (serializeWithCachedSizes fields self).length := by
    rw [List.length_replicate, hlength, Nat.zero_add]
  have hroom := Nat.le_of_eq hsame.symm
  rw [serializeAsString, if_pos hsize, internalSerializeWithCachedSizesToArray_eq hroom,
    writeToArray_eq hroom, Attempt.returns_bind, List.take_zero, List.nil_append,
    List.drop_eq_nil_of_le (Nat.le_of_eq hsame), List.append_nil]
  rfl

end Protobuf
