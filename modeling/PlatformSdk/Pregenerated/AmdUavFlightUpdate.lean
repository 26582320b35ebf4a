import PlatformSdk.Protobuf.Encoding
import PlatformSdk.Protobuf.Fields

/-!
# Updates of flights

The messages of `amd_uav_flight_update.proto`: updates, of which any number come in one
message.  Whatever is wrong with one of them, it is the parser of this message that fails
(`parseFromString_batches`).
-/

namespace Airmap.Pregenerated

open Protobuf
open Wire (Bytes)

/-! ## The messages -/

/-- `airmap::telemetry::AmdUavFlightUpdate`. -/
structure AmdUavFlightUpdate where
  timestamp : UInt64 := 0
  flightId : Bytes := []
  latitude : BitVec 64 := 0
  longitude : BitVec 64 := 0
  course : BitVec 32 := 0
  altitude : BitVec 32 := 0
  speed : BitVec 32 := 0
  deriving DecidableEq

namespace AmdUavFlightUpdate

variable (W : WireFormat)

def timestampField : Field W AmdUavFlightUpdate :=
  .primitive W 1 8 .uint64 timestamp fun x self => { self with timestamp := x }

def flightIdField : Field W AmdUavFlightUpdate :=
  .string W 2 18 flightId fun x self => { self with flightId := x }

/-- The fields after the id of the flight. -/
def numberFields : List (Field W AmdUavFlightUpdate) :=
  [.primitive W 3 25 .double latitude fun x self => { self with latitude := x },
    .primitive W 4 33 .double longitude fun x self => { self with longitude := x },
    .primitive W 5 45 .float course fun x self => { self with course := x },
    .primitive W 6 53 .float altitude fun x self => { self with altitude := x },
    .primitive W 7 61 .float speed fun x self => { self with speed := x }]

def fields : List (Field W AmdUavFlightUpdate) :=
  timestampField W :: flightIdField W :: numberFields W

/-- `ByteSizeLong` takes the id of the flight first. -/
def byteSizeLong (self : Message W AmdUavFlightUpdate) : ℕ :=
  Protobuf.byteSizeLong (flightIdField W :: timestampField W :: numberFields W) self

theorem byteSizeLong_eq (self : Message W AmdUavFlightUpdate) :
    byteSizeLong W self = Protobuf.byteSizeLong (fields W) self := by
  simp only [byteSizeLong, Protobuf.byteSizeLong, fields, List.map_cons, List.sum_cons]
  omega

theorem distinct : ((fields W).map Field.number).Nodup :=
  (by decide : [1, 2, 3, 4, 5, 6, 7].Nodup)

end AmdUavFlightUpdate

/-- `airmap::telemetry::AmdUavFlightUpdates`. -/
structure AmdUavFlightUpdates (W : WireFormat) where
  updates : List (Message W AmdUavFlightUpdate) := []

namespace AmdUavFlightUpdates

variable (W : WireFormat)

def updatesMember : Member (AmdUavFlightUpdates W) (List (Message W AmdUavFlightUpdate)) where
  get := updates
  set updates _ := ⟨updates⟩
  get_set _ _ := rfl
  set_get _ := rfl
  set_set _ _ _ := rfl

def updatesField : Field W (AmdUavFlightUpdates W) :=
  .repeated 1 10 (updatesMember W) (AmdUavFlightUpdate.fields W) {}
    (AmdUavFlightUpdate.byteSizeLong W) (AmdUavFlightUpdate.distinct W)
    (AmdUavFlightUpdate.byteSizeLong_eq W)

def fields : List (Field W (AmdUavFlightUpdates W)) := [updatesField W]

theorem distinct : ((fields W).map Field.number).Nodup := (by decide : [1].Nodup)

end AmdUavFlightUpdates

/-! ## One update -/

namespace AmdUavFlightUpdate

variable {W : WireFormat} {update : AmdUavFlightUpdate}

/-- An update up to the signs of zeros. -/
def canonical (self : AmdUavFlightUpdate) : AmdUavFlightUpdate where
  timestamp := FieldType.canonical .uint64 self.timestamp
  flightId := FieldType.canonical .string self.flightId
  latitude := FieldType.canonical .double self.latitude
  longitude := FieldType.canonical .double self.longitude
  course := FieldType.canonical .float self.course
  altitude := FieldType.canonical .float self.altitude
  speed := FieldType.canonical .float self.speed

/-- There is no id of a flight, or it is UTF-8. -/
def Verified (W : WireFormat) (update : AmdUavFlightUpdate) : Prop :=
  update.flightId = [] ∨ W.verifyUtf8String update.flightId = true

instance (W : WireFormat) (update : AmdUavFlightUpdate) : Decidable (update.Verified W) :=
  inferInstanceAs (Decidable (_ ∨ _))

theorem fits_number (update : AmdUavFlightUpdate) : ∀ f ∈ numberFields W, f.Fits update := by
  intro f hf
  simp only [numberFields, List.mem_cons, List.not_mem_nil, or_false] at hf
  rcases hf with rfl | rfl | rfl | rfl | rfl <;> exact .inr ⟨trivial, rfl⟩

theorem fits_fields (hlength : update.flightId.length < 2 ^ 31) (hverified : update.Verified W) :
    ∀ f ∈ fields W, f.Fits update := by
  intro f hf
  rcases List.mem_cons.mp hf with rfl | hf
  · exact .inr ⟨trivial, rfl⟩
  · rcases List.mem_cons.mp hf with rfl | hf
    · rcases hverified with hempty | hutf8
      · exact .inl (List.isEmpty_iff.mpr hempty)
      · exact .inr ⟨hlength, hutf8⟩
    · exact fits_number update f hf

theorem readBack_eq (update : AmdUavFlightUpdate) :
    readBack (fields W) { fields := update } { fields := {} } =
      { fields := update.canonical } := by
  have hfields : (fields W).foldl (fun self f => f.mergeFrom update self) {} =
      update.canonical := by
    simp only [fields, timestampField, flightIdField, numberFields, Field.primitive,
      Field.string]
    repeat rw [foldl_mergeFrom_single]
    all_goals
      intros
      rfl
  rw [readBack, Message.mk.injEq]
  refine ⟨hfields, ?_⟩
  rw [Message.written, ite_self]
  rfl

/-- An update is read again just when the id of its flight can be verified. -/
theorem parseFromString_update (hlength : update.flightId.length < 2 ^ 31) :
    parseFromString (fields W) {}
        (serializeWithCachedSizes (fields W) { fields := update }) =
      if update.Verified W then some { fields := update.canonical } else none := by
  by_cases hverified : update.Verified W
  · have hfits : ({ fields := update } : Message W AmdUavFlightUpdate).Fits (fields W) :=
      ⟨fits_fields hlength hverified, by simp⟩
    rw [if_pos hverified, parseFromString_serialize (distinct W) hfits, readBack_eq]
  · rw [if_neg hverified]
    obtain ⟨hset, hutf8⟩ := not_or.mp hverified
    have hwrite : (flightIdField W).write update = W.write .string 2 update.flightId :=
      if_neg fun h => hset (List.isEmpty_iff.mp h)
    obtain ⟨contents, htag, hvalue⟩ := W.read_write_string Nat.two_pos (by decide) hlength
      ((numberFields W).flatMap fun f => f.write update)
    have hturn : ∀ self : Message W AmdUavFlightUpdate, ∃ left, turn (fields W) self
        (W.write .string 2 update.flightId ++
          (numberFields W).flatMap fun f => f.write update) = .failure left := by
      intro self
      rw [turn_of_mem (f := flightIdField W) (distinct W) (by simp [fields]) htag]
      have hread : (flightIdField W).read self.fields contents = none := by
        simp only [flightIdField, Field.string, Field.single, readSingle, hvalue, hutf8]
        rfl
      rw [hread]
      exact ⟨_, rfl⟩
    have hbytes : serializeWithCachedSizes (fields W) { fields := update } =
        [timestampField W].flatMap (fun f => f.write update) ++
          (W.write .string 2 update.flightId ++
            (numberFields W).flatMap fun f => f.write update) := by
      simp [serializeWithCachedSizes, fields, hwrite]
    have hfits : ∀ f ∈ [timestampField W], f.Fits update := by
      intro f hf
      rw [List.mem_singleton.mp hf]
      exact .inr ⟨trivial, rfl⟩
    have hfails : mergePartialFromCodedStream (fields W) { fields := {} }
        (serializeWithCachedSizes (fields W) { fields := update }) = none := by
      obtain ⟨left, hfailure⟩ := hturn
        ⟨[timestampField W].foldl (fun self f => f.readBack update self) {}, []⟩
      rw [hbytes, mergePartialFromCodedStream_fields (distinct W) (by simp [fields]) hfits,
        mergePartialFromCodedStream_eq, hfailure]
    rw [parseFromString, hfails]

/-- What is serialized for an update is not much longer than the id of the flight. -/
theorem length_serialize (hlength : update.flightId.length < 2 ^ 31) :
    (serializeWithCachedSizes (fields W) { fields := update }).length ≤
      update.flightId.length + 50 := by
  have hstring : ((flightIdField W).write update).length ≤ 1 + (update.flightId.length + 5) :=
    length_writeSingle_le (by decide) hlength
  have htimestamp : ((timestampField W).write update).length ≤ 1 + 10 :=
    length_writeSingle_le (by decide) trivial
  have hnumbers : ((numberFields W).flatMap fun f => f.write update).length ≤
      9 + (9 + (5 + (5 + 5))) := by
    simp only [numberFields, List.flatMap_cons, List.flatMap_nil, List.append_nil,
      List.length_append]
    refine Nat.add_le_add ?_ (Nat.add_le_add ?_ (Nat.add_le_add ?_ (Nat.add_le_add ?_ ?_))) <;>
      exact Nat.le_trans (Field.length_primitive_le trivial) (Nat.le_refl _)
  simp only [serializeWithCachedSizes, fields, List.flatMap_cons, List.length_append,
    List.isEmpty_nil, Bool.not_true, Bool.false_and, Bool.false_eq_true, if_false,
    List.length_nil]
  omega

end AmdUavFlightUpdate

/-! ## Batches of updates -/

namespace AmdUavFlightUpdates

variable {W : WireFormat}

/-- A message with these updates. -/
def ofUpdates (W : WireFormat) (updates : List AmdUavFlightUpdate) :
    Message W (AmdUavFlightUpdates W) :=
  { fields := ⟨updates.map fun update => { fields := update }⟩ }

/-- One update of a batch, as it is written. -/
def writeUpdate (W : WireFormat) (update : AmdUavFlightUpdate) : Bytes :=
  W.write .string 1
    (serializeWithCachedSizes (AmdUavFlightUpdate.fields W) { fields := update })

theorem serialize_ofUpdates (updates : List AmdUavFlightUpdate) :
    serializeWithCachedSizes (fields W) (ofUpdates W updates) =
      updates.flatMap (writeUpdate W) := by
  rw [serializeWithCachedSizes]
  simp only [fields, List.flatMap_cons, List.flatMap_nil, List.append_nil, ofUpdates,
    List.isEmpty_nil, Bool.not_true, Bool.false_and, Bool.false_eq_true, if_false,
    updatesField, Field.repeated, writeRepeated, updatesMember, List.flatMap_map]
  rfl

/-- The parser adds an update, or fails at it. -/
theorem mergePartialFromCodedStream_writeUpdate {update : AmdUavFlightUpdate}
    (hlength : update.flightId.length + 50 < 2 ^ 31)
    (before : List (Message W AmdUavFlightUpdate)) (rest : Bytes) :
    mergePartialFromCodedStream (fields W) { fields := ⟨before⟩ }
        (writeUpdate W update ++ rest) =
      if update.Verified W then
        mergePartialFromCodedStream (fields W)
          { fields := ⟨before ++ [{ fields := update.canonical }]⟩ } rest
      else none := by
  have hfits : (serializeWithCachedSizes (AmdUavFlightUpdate.fields W)
      { fields := update }).length < 2 ^ 31 :=
    Nat.lt_of_le_of_lt (AmdUavFlightUpdate.length_serialize (by omega)) hlength
  obtain ⟨contents, htag, hvalue⟩ := W.read_write_string Nat.one_pos (by decide) hfits rest
  rw [writeUpdate, mergePartialFromCodedStream_eq,
    turn_of_mem (f := updatesField W) (distinct W) (by simp [fields]) htag]
  have hid : update.flightId.length < 2 ^ 31 := by omega
  have hupdate := AmdUavFlightUpdate.parseFromString_update (W := W) hid
  simp only [updatesField, Field.repeated, readRepeated, hvalue, hupdate]
  by_cases hverified : update.Verified W
  · simp only [if_pos hverified]
    rfl
  · simp only [if_neg hverified]

theorem mergePartialFromCodedStream_updates {updates : List AmdUavFlightUpdate}
    (hlength : ∀ update ∈ updates, update.flightId.length + 50 < 2 ^ 31)
    (before : List (Message W AmdUavFlightUpdate)) :
    mergePartialFromCodedStream (fields W) { fields := ⟨before⟩ }
        (updates.flatMap (writeUpdate W)) =
      if ∀ update ∈ updates, update.Verified W then
        some ({ fields :=
          ⟨before ++ updates.map fun update => { fields := update.canonical }⟩ }, [])
      else none := by
  induction updates generalizing before with
  | nil => simp [mergePartialFromCodedStream_nil]
  | cons update updates ih =>
      rw [List.flatMap_cons, mergePartialFromCodedStream_writeUpdate (hlength update (by simp)),
        ih fun other hother => hlength other (by simp [hother])]
      by_cases hverified : update.Verified W
      · simp [hverified]
      · simp [hverified]

/-- Batches of updates, one behind the other, are one batch: it is parsed when the id of
every flight can be verified, and otherwise nothing of it is. -/
theorem parseFromString_batches {batches : List (List AmdUavFlightUpdate)}
    (hlength : ∀ update ∈ batches.flatten, update.flightId.length + 50 < 2 ^ 31) :
    parseFromString (fields W) {}
        (batches.flatMap fun batch =>
          serializeWithCachedSizes (fields W) (ofUpdates W batch)) =
      if ∀ update ∈ batches.flatten, update.Verified W then
        some (ofUpdates W (batches.flatten.map AmdUavFlightUpdate.canonical))
      else none := by
  have hbytes : (batches.flatMap fun batch =>
      serializeWithCachedSizes (fields W) (ofUpdates W batch)) =
        batches.flatten.flatMap (writeUpdate W) := by
    simp only [serialize_ofUpdates, List.flatMap_def, List.map_flatten, List.flatten_flatten,
      List.map_map]
    rfl
  rw [hbytes, parseFromString, mergePartialFromCodedStream_updates hlength]
  by_cases hverified : ∀ update ∈ batches.flatten, update.Verified W
  · rw [if_pos hverified, if_pos hverified, ofUpdates, List.map_map]
    rfl
  · rw [if_neg hverified, if_neg hverified]

end AmdUavFlightUpdates
end Airmap.Pregenerated
