import PlatformSdk.Pregenerated.Telemetry
import PlatformSdk.Rest.Telemetry.Transport

/-!
# The messages of the updates

`submit_updates` fills a generated message for each update and serializes it.  The module
puts these messages into the packets: a server gets back what was submitted, up to the
signs of zeros, and needs nothing of the lengths of the messages for it.
-/

namespace Airmap.Rest.Telemetry

open Machine Wire Protobuf
open Pregenerated (MessageType)

/-- How a `double` and a `float` are represented. -/
structure Bits where
  double : Double → BitVec 64
  float : Double → BitVec 32

/-- A message of one of the types. -/
structure Filled where
  type : MessageType
  fields : type.Fields

/-- A message up to the signs of zeros. -/
def Filled.canonical (filled : Filled) : Filled where
  type := filled.type
  fields := filled.type.canonical filled.fields

section Messages

variable (W : WireFormat) (bits : Bits) (narrowing : Double.Narrowing)

def fillPosition (position : Message.Position) : Pregenerated.Position where
  timestamp := position.timestamp
  latitude := bits.double position.latitude
  longitude := bits.double position.longitude
  altitudeAgl := bits.float position.altitudeAgl
  altitudeMsl := bits.float position.altitudeMsl
  horizontalAccuracy := bits.float position.horizontalAccuracy

def fillSpeed (speed : Airmap.Telemetry.Speed) : Pregenerated.Speed where
  timestamp := speed.timestamp
  velocityX := bits.float speed.velocityX
  velocityY := bits.float speed.velocityY
  velocityZ := bits.float speed.velocityZ

def fillAttitude (attitude : Airmap.Telemetry.Attitude) : Pregenerated.Attitude where
  timestamp := attitude.timestamp
  yaw := bits.float attitude.yaw
  pitch := bits.float attitude.pitch
  roll := bits.float attitude.roll

def fillBarometer (barometer : Airmap.Telemetry.Barometer) : Pregenerated.Barometer where
  timestamp := barometer.timestamp
  pressure := bits.float barometer.pressure

/-- `SerializeAsString`, which returns for every message (`serializeAsString_filled`). -/
def Filled.serialize (filled : Filled) : Bytes :=
  match serializeAsString (filled.type.fields W) { fields := filled.fields } with
  | .returns bytes => bytes
  | .throws _ | .undefined => []

/-- `SerializeAsString` of the generated messages. -/
def generated : Serializer where
  position position := Filled.serialize W ⟨.position, fillPosition bits position⟩
  speed speed := Filled.serialize W ⟨.speed, fillSpeed bits speed⟩
  attitude attitude := Filled.serialize W ⟨.attitude, fillAttitude bits attitude⟩
  barometer barometer := Filled.serialize W ⟨.barometer, fillBarometer bits barometer⟩

/-- The message that is filled for an update. -/
def fill : Telemetry.Update → Filled
  | .position position => ⟨.position, fillPosition bits
      { timestamp := position.timestamp
        latitude := position.latitude
        longitude := position.longitude
        altitudeAgl := narrowing.toFloat position.altitudeGl
        altitudeMsl := narrowing.toFloat position.altitudeMsl
        horizontalAccuracy := narrowing.toFloat position.horizontalAccuracy }⟩
  | .speed speed => ⟨.speed, fillSpeed bits speed⟩
  | .attitude attitude => ⟨.attitude, fillAttitude bits attitude⟩
  | .barometer barometer => ⟨.barometer, fillBarometer bits barometer⟩

/-! ## The server -/

/-- The type of the messages in records with this number. -/
def typeOf : ℕ → Option MessageType
  | 1 => some .position
  | 2 => some .speed
  | 3 => some .attitude
  | 4 => some .barometer
  | _ => none

/-- The message of a record. -/
def readRecord (record : ℕ × Bytes) : Option Filled := do
  let type ← typeOf record.1
  let message ← parseFromString (type.fields W) type.zero record.2
  return { type := type, fields := message.fields }

/-- A report, with its messages. -/
structure Reading where
  counter : ℕ
  flightId : Bytes
  messages : List Filled

/-- The messages of a report. -/
def Report.read (report : Report) : Option Reading := do
  let messages ← report.records.mapM (readRecord W)
  return { counter := report.counter, flightId := report.flightId, messages := messages }

/-- What a server that knows the messages gets out of a datagram. -/
def receiveMessages (decrypt : (ciphertext key iv : Bytes) → Option Bytes)
    (keyOf : Bytes → Option Bytes) (datagram : Bytes) : Option Reading :=
  (receive decrypt keyOf datagram).bind (Report.read W)

end Messages

variable {W : WireFormat} {bits : Bits} {narrowing : Double.Narrowing}

theorem serialize_generated (update : Telemetry.Update) :
    serialize narrowing (generated W bits) update = (fill bits narrowing update).serialize W := by
  cases update <;> rfl

/-- The size of every message is of type `int`. -/
theorem serializeAsString_filled (filled : Filled) :
    serializeAsString (filled.type.fields W) { fields := filled.fields } =
      .returns (serializeWithCachedSizes (filled.type.fields W) { fields := filled.fields }) := by
  have hfits := MessageType.fits_new (W := W) filled.fields
  have hlength := MessageType.length_serialize_le (W := W) filled.fields
  rw [length_serializeWithCachedSizes hfits.values] at hlength
  exact serializeAsString_eq hfits.values (by omega)

theorem serialize_filled (filled : Filled) :
    filled.serialize W =
      serializeWithCachedSizes (filled.type.fields W) { fields := filled.fields } := by
  rw [Filled.serialize, serializeAsString_filled]

theorem readRecord_recordOf (update : Telemetry.Update) :
    readRecord W (recordOf narrowing (generated W bits) update) =
      some (fill bits narrowing update).canonical := by
  have htype : typeOf update.type = some (fill bits narrowing update).type := by
    cases update <;> rfl
  have hparse := MessageType.parseFromString_eq
    (MessageType.fits_new (W := W) (fill bits narrowing update).fields)
  simp only [readRecord, recordOf, serialize_generated, htype, Option.bind_eq_bind,
    Option.bind_some, serialize_filled, hparse, Option.pure_def]
  rfl

/-! ## Whole runs -/

namespace Transport

variable (bits narrowing) in
/-- The readings of some submissions, with the counters that count them. -/
def readingsOf (submissions : List (Bytes × List Telemetry.Update)) : List Reading :=
  submissions.mapIdx fun i submission =>
    { counter := (i + 1) % 2 ^ 32
      flightId := submission.1
      messages := submission.2.map fun update => (fill bits narrowing update).canonical }

/-- The updates of a submission that ended in a packet. -/
def Event.submitted (order : ByteOrder) (narrowing : Double.Narrowing)
    (serializer : Serializer) : Event → Option (Bytes × List Telemetry.Update)
  | .submitUpdates encryptor id key updates =>
      match encrypted order narrowing serializer encryptor key updates with
      | .returns _ => some (id, updates)
      | .throws _ | .undefined => none
  | .sender _ => none

/-- The server has the key of the flight of a submission, and decrypting undoes the
encryption. -/
def Event.Decryptable (order : ByteOrder) (narrowing : Double.Narrowing)
    (serializer : Serializer) (decrypt : (ciphertext key iv : Bytes) → Option Bytes)
    (keyOf : Bytes → Option Bytes) : Event → Prop
  | .submitUpdates encryptor id key updates =>
      id.length < 256 ∧ keyOf id = some key ∧
        ∀ iv msg, encrypted order narrowing serializer encryptor key updates =
            .returns (iv, msg) →
          iv.length = blockSizeInBytes ∧
            decrypt msg key iv = some (payload order narrowing serializer updates).buffer
  | .sender _ => True

variable {order : ByteOrder} {decrypt : (ciphertext key iv : Bytes) → Option Bytes}
  {keyOf : Bytes → Option Bytes} {events : List Event} {t : Transport}

theorem Event.Decryptable.readable {event : Event}
    (h : event.Decryptable order narrowing (generated W bits) decrypt keyOf) :
    event.Readable order narrowing (generated W bits) decrypt keyOf := by
  cases event with
  | submitUpdates encryptor id key updates =>
      obtain ⟨hid, hkey, hdecrypts⟩ := h
      refine ⟨hid, hkey, fun update _ => ?_, hdecrypts⟩
      have hlength := MessageType.length_serialize_le (W := W) (fill bits narrowing update).fields
      rw [serialize_generated, serialize_filled]
      omega
  | sender event => trivial

theorem submission_eq (serializer : Serializer) (event : Event) :
    event.submission order narrowing serializer =
      (event.submitted order narrowing serializer).map fun submitted =>
        (submitted.1, submitted.2.map (recordOf narrowing serializer)) := by
  cases event with
  | submitUpdates encryptor id key updates =>
      simp only [Event.submission, Event.submitted]
      cases encrypted order narrowing serializer encryptor key updates <;> rfl
  | sender event => rfl

theorem read_reportsOf (submissions : List (Bytes × List Telemetry.Update)) :
    (reportsOf (submissions.map fun submission =>
        (submission.1, submission.2.map (recordOf narrowing (generated W bits))))).map
          (Report.read W) =
      (readingsOf bits narrowing submissions).map some := by
  refine List.ext_getElem (by simp [reportsOf, readingsOf]) fun i hi hi' => ?_
  simp only [reportsOf, readingsOf, List.getElem_map, List.getElem_mapIdx, Report.read,
    List.mapM_map, Function.comp_def, readRecord_recordOf]
  rw [← Option.pure_def, List.mapM_pure]
  rfl

/-- In every run, whatever part of the datagrams that were delivered reaches the server,
and in whatever order, it gets messages out of each of them.  Sorted by their counters they
are those that were filled for the updates of the submissions, in the order in which these
were made and each at most once, as long as the counter does not wrap around. -/
theorem messages_received
    (hdecryptable : ∀ event ∈ events,
      event.Decryptable order narrowing (generated W bits) decrypt keyOf)
    (hrun : run (step order narrowing (generated W bits)) {} events = some t)
    (hcount : (events.filterMap (Event.submitted order narrowing (generated W bits))).length <
      2 ^ 32)
    {datagrams : List Bytes}
    (hdatagrams : datagrams.Subperm (t.sender.delivered.map Prod.fst)) :
    ∃ received : List Reading,
      datagrams.map (receiveMessages W decrypt keyOf) = received.map some ∧
        (received.mergeSort fun a b => a.counter ≤ b.counter).Sublist
          (readingsOf bits narrowing
            (events.filterMap (Event.submitted order narrowing (generated W bits)))) := by
  obtain ⟨packets, hpackets, hsubperm⟩ :=
    exists_packets (fun event hmem => (hdecryptable event hmem).readable) hrun hdatagrams
  have hsubmissions : events.filterMap (Event.submission order narrowing (generated W bits)) =
      (events.filterMap (Event.submitted order narrowing (generated W bits))).map
        fun submitted =>
          (submitted.1, submitted.2.map (recordOf narrowing (generated W bits))) := by
    rw [List.map_filterMap]
    exact List.filterMap_congr fun event _ => submission_eq _ event
  have hread : packets.map (receiveMessages W decrypt keyOf) =
      (readingsOf bits narrowing
        (events.filterMap (Event.submitted order narrowing (generated W bits)))).map some := by
    rw [← read_reportsOf (W := W), ← hsubmissions]
    calc packets.map (receiveMessages W decrypt keyOf)
        = (packets.map (receive decrypt keyOf)).map fun report =>
            report.bind (Report.read W) := by
          rw [List.map_map]
          rfl
      _ = _ := by
          rw [hpackets, List.map_map]
          rfl
  exact exists_sorted (pairwise_mapIdx (fun _ _ => rfl) hcount) hread hsubperm

/-- The bits of zero and of one. -/
def bitsOfZeroOrOne : Bits where
  double x := if x = .finite 0 then 0 else 0x3ff0000000000000
  float x := if x = .finite 0 then 0 else 0x3f800000

/-- A barometer and an attitude; the datagram of the attitude is sent first. -/
def twoMessagesRun : List Event :=
  [.submitUpdates (encryptTo barometerCiphertext) [97] zeroKey [barometerUpdate],
    .submitUpdates (encryptTo attitudeCiphertext) [98] zeroKey [attitudeUpdate],
    .sender (.resolved 1 .started), .sender (.written 0 none 39),
    .sender (.resolved 0 .started), .sender (.written 0 none 39)]

theorem messages_received_twoMessagesRun :
    ∃ t, run (step .littleEndian exactly (generated Protobuf.ascii bitsOfZeroOrOne)) {}
        twoMessagesRun = some t ∧
      t.sender.delivered.map Prod.snd = [1, 0] ∧
      ∃ received : List Reading,
        (t.sender.delivered.map Prod.fst).map
            (receiveMessages Protobuf.ascii decryptTwo fun _ => some zeroKey) = received.map some ∧
          (received.mergeSort fun a b => a.counter ≤ b.counter).Sublist
            [⟨1, [97], [⟨.barometer, ⟨5, 0x3f800000⟩⟩]⟩,
              ⟨2, [98], [⟨.attitude, ⟨9, 0, 0, 0⟩⟩]⟩] := by
  have hdecide : (run (step .littleEndian exactly (generated Protobuf.ascii bitsOfZeroOrOne)) {}
      twoMessagesRun).map
        (fun t => decide (t.sender.delivered.map Prod.snd = [1, 0])) = some true := by
    decide
  obtain ⟨t, hrun, hdelivered⟩ := exists_run hdecide
  have hdecryptable : ∀ event ∈ twoMessagesRun, event.Decryptable .littleEndian exactly
      (generated Protobuf.ascii bitsOfZeroOrOne) decryptTwo fun _ => some zeroKey := by
    intro event hmem
    simp only [twoMessagesRun, List.mem_cons, List.not_mem_nil, or_false] at hmem
    rcases hmem with rfl | rfl | rfl | rfl | rfl | rfl
    · refine ⟨by decide, rfl, fun iv msg h => ?_⟩
      cases h
      exact ⟨rfl, by decide⟩
    · refine ⟨by decide, rfl, fun iv msg h => ?_⟩
      cases h
      exact ⟨rfl, by decide⟩
    · trivial
    · trivial
    · trivial
    · trivial
  exact ⟨t, hrun, hdelivered,
    messages_received hdecryptable hrun (by decide) (List.Subperm.refl _)⟩

end Transport
end Airmap.Rest.Telemetry
