import PlatformSdk.Geometry
import PlatformSdk.Machine.Attempt
import PlatformSdk.Wire.Format

/-!
# Telemetry packets

`rest::Telemetry::submit_updates`, down to the bytes that are sent.  A packet is
what the framing writes, for a flight id of any length; the framing gives it back
when the length of the id fits into the one byte before it.
-/

namespace Airmap

open Machine Wire

/-! ## Updates -/

/-- `Telemetry::Position`. -/
structure Telemetry.Position where
  timestamp : UInt64
  latitude : Double
  longitude : Double
  altitudeMsl : Double
  altitudeGl : Double
  horizontalAccuracy : Double
  deriving DecidableEq

/-- `Telemetry::Speed`; the members are `float`. -/
structure Telemetry.Speed where
  timestamp : UInt64
  velocityX : Double
  velocityY : Double
  velocityZ : Double
  deriving DecidableEq

/-- `Telemetry::Attitude`; the members are `float`. -/
structure Telemetry.Attitude where
  timestamp : UInt64
  yaw : Double
  pitch : Double
  roll : Double
  deriving DecidableEq

/-- `Telemetry::Barometer`; the pressure is a `float`. -/
structure Telemetry.Barometer where
  timestamp : UInt64
  pressure : Double
  deriving DecidableEq

/-- `Telemetry::Update`. -/
inductive Telemetry.Update where
  | position (position : Telemetry.Position)
  | speed (speed : Telemetry.Speed)
  | attitude (attitude : Telemetry.Attitude)
  | barometer (barometer : Telemetry.Barometer)
  deriving DecidableEq

/-- `Telemetry::Update::type`. -/
def Telemetry.Update.type : Telemetry.Update → ℕ
  | .position _ => 1
  | .speed _ => 2
  | .attitude _ => 3
  | .barometer _ => 4

namespace Rest.Telemetry

/-- `airmap::telemetry::Position`, the message. -/
structure Message.Position where
  timestamp : UInt64
  latitude : Double
  longitude : Double
  altitudeAgl : Double
  altitudeMsl : Double
  horizontalAccuracy : Double

/-- `SerializeAsString` of the four messages; the last three have the members of the
updates. -/
structure Serializer where
  position : Message.Position → Bytes
  speed : Telemetry.Speed → Bytes
  attitude : Telemetry.Attitude → Bytes
  barometer : Telemetry.Barometer → Bytes

/-- `AES256Encryptor`, as what its functions come to in one call of
`submit_updates`. -/
structure AES256Encryptor where
  createSharedSecret : Attempt Bytes
  encrypt : (message key iv : Bytes) → Attempt Bytes

/-- `AES256Encryptor::block_size_in_bytes`, the length of an initialization
vector. -/
def blockSizeInBytes : ℕ := 16

/-- `telemetry::encryption_type`. -/
def encryptionType : ℕ := 1

/-- `Buffer`. -/
structure Buffer where
  buffer : Bytes := []

namespace Buffer

/-- `Buffer::add` for a string. -/
def add (self : Buffer) (s : Bytes) : Buffer := ⟨self.buffer ++ s⟩

/-- `Buffer::add<T>` for a number whose type has this many bytes: they are added as
they are in memory. -/
def addNumber (order : ByteOrder) (self : Buffer) (width n : ℕ) : Buffer :=
  self.add (order.memory width n)

end Buffer

section Submit

variable (order : ByteOrder) (narrowing : Double.Narrowing) (serializer : Serializer)
  (encryptor : AES256Encryptor)

/-- One message with its type and its size before it. -/
def addMessage (payload : Buffer) (type : ℕ) (message : Bytes) : Buffer :=
  let payload := payload.addNumber order 2 (order.toNetwork 2 type)
  let payload := payload.addNumber order 2 (order.toNetwork 2 message.length)
  payload.add message

/-- The message of an update. -/
def serialize : Telemetry.Update → Bytes
  | .position position => serializer.position
      { timestamp := position.timestamp
        latitude := position.latitude
        longitude := position.longitude
        altitudeAgl := narrowing.toFloat position.altitudeGl
        altitudeMsl := narrowing.toFloat position.altitudeMsl
        horizontalAccuracy := narrowing.toFloat position.horizontalAccuracy }
  | .speed speed => serializer.speed speed
  | .attitude attitude => serializer.attitude attitude
  | .barometer barometer => serializer.barometer barometer

/-- The loop of `submit_updates`. -/
def payload (updates : List Telemetry.Update) : Buffer :=
  updates.foldl (fun payload update =>
    addMessage order payload update.type (serialize narrowing serializer update)) {}

/-- `submit_updates` for the flight with this id: the counter after it, and what is
sent. -/
def submitUpdates (counter : UInt32) (id key : Bytes) (updates : List Telemetry.Update) :
    Attempt (UInt32 × Bytes) := do
  let iv ← encryptor.createSharedSecret
  let msg ← encryptor.encrypt (payload order narrowing serializer updates).buffer key iv
  let packet : Buffer := {}
  let packet := packet.addNumber order 4 (order.toNetwork 4 counter.toNat)
  let packet := packet.addNumber order 1 id.length
  let packet := packet.add id
  let packet := packet.addNumber order 1 encryptionType
  let packet := packet.add iv
  let packet := packet.add msg
  return (counter + 1, packet.buffer)

end Submit

/-! ## The payload -/

/-- A record of the payload: the type and the message, which has its size before it. -/
def record : Format (ℕ × Bytes) := (Format.numeral 2).seq (Format.sized 2)

theorem write_record_ne_nil (value : ℕ × Bytes) : record.write value ≠ [] := by
  simp [record, Format.seq, Format.numeral, digits]

theorem addMessage_buffer (order : ByteOrder) (buffer : Buffer) (type : ℕ)
    (message : Bytes) :
    (addMessage order buffer type message).buffer =
      buffer.buffer ++ record.write (type, message) := by
  simp [addMessage, Buffer.addNumber, Buffer.add, ByteOrder.memory_toNetwork, record,
    Format.seq, Format.numeral, Format.sized]

theorem type_lt (update : Telemetry.Update) : update.type < 65536 := by
  cases update <;> simp [Telemetry.Update.type]

section

variable (order : ByteOrder) (narrowing : Double.Narrowing) (serializer : Serializer)

/-- The record of an update. -/
def recordOf (update : Telemetry.Update) : ℕ × Bytes :=
  (update.type, serialize narrowing serializer update)

/-- The payload is the records of the updates and nothing else, on every host. -/
theorem payload_eq_writeAll (updates : List Telemetry.Update) :
    (payload order narrowing serializer updates).buffer =
      record.writeAll (updates.map (recordOf narrowing serializer)) := by
  have hloop : ∀ buffer : Buffer,
      (updates.foldl (fun payload update =>
        addMessage order payload update.type (serialize narrowing serializer update))
        buffer).buffer =
      buffer.buffer ++ record.writeAll (updates.map (recordOf narrowing serializer)) := by
    induction updates with
    | nil => simp [Format.writeAll]
    | cons update updates ih =>
        intro buffer
        rw [List.foldl_cons, ih, addMessage_buffer, List.map_cons, Format.writeAll_cons,
          List.append_assoc]
        rfl
  rw [payload, hloop]
  rfl

/-- The records that the payload is read as are those of the updates, each with its
type and its message, as long as the messages are shorter than their size can say. -/
theorem readAll_payload {updates : List Telemetry.Update}
    (hlength : ∀ update ∈ updates,
      (serialize narrowing serializer update).length < 65536) :
    record.readAll (payload order narrowing serializer updates).buffer =
      some (updates.map fun update =>
        (update.type, serialize narrowing serializer update)) := by
  rw [Format.readAll_eq_some_iff write_record_ne_nil]
  refine ⟨?_, payload_eq_writeAll order narrowing serializer updates⟩
  intro value hvalue
  obtain ⟨update, hupdate, rfl⟩ := List.mem_map.mp hvalue
  exact ⟨type_lt update, hlength update hupdate⟩

end

/-- Single precision is no matter without a position. -/
def exactly : Double.Narrowing where
  toFloat x := x
  toFloat_toFloat _ := rfl

/-- Messages without another member that is not zero, with a timestamp that takes a
single byte. -/
def serializeTimestamp : Serializer where
  position position := [8, position.timestamp.toUInt8]
  speed speed := [8, speed.timestamp.toUInt8]
  attitude attitude := [8, attitude.timestamp.toUInt8]
  barometer barometer := [8, barometer.timestamp.toUInt8]

theorem readAll_payload_twoUpdates :
    record.readAll (payload .littleEndian exactly serializeTimestamp
      [.barometer ⟨1, .finite 0⟩, .attitude ⟨2, .finite 0, .finite 0, .finite 0⟩]).buffer =
      some [(4, [8, 1]), (3, [8, 2])] :=
  readAll_payload .littleEndian exactly serializeTimestamp
    (by simp [serialize, serializeTimestamp])

/-! ## Packets -/

/-- A packet, as its framing sees it. -/
structure Packet where
  counter : ℕ
  flightId : Bytes
  encryptionType : ℕ
  iv : Bytes
  ciphertext : Bytes
  deriving DecidableEq

/-- What stands before the ciphertext. -/
def framing : Format (ℕ × Bytes × ℕ × Bytes) :=
  (Format.numeral 4).seq
    ((Format.sized 1).seq ((Format.numeral 1).seq (Format.fixed blockSizeInBytes)))

namespace Packet

/-- The fields before the ciphertext. -/
def header (packet : Packet) : ℕ × Bytes × ℕ × Bytes :=
  (packet.counter, packet.flightId, packet.encryptionType, packet.iv)

/-- The framing, then the ciphertext. -/
def write (packet : Packet) : Bytes := framing.write packet.header ++ packet.ciphertext

/-- A packet, as its framing reads it. -/
def read (bytes : Bytes) : Option Packet :=
  (framing.read bytes).map fun ((counter, flightId, encryptionType, iv), ciphertext) =>
    { counter, flightId, encryptionType, iv, ciphertext }

/-- The packets whose framing can be read. -/
structure Framed (packet : Packet) : Prop where
  counter_lt : packet.counter < 2 ^ 32
  length_flightId : packet.flightId.length < 256
  encryptionType_lt : packet.encryptionType < 256
  length_iv : packet.iv.length = blockSizeInBytes

theorem readable_header_iff {packet : Packet} :
    framing.Readable packet.header ↔ packet.Framed := by
  constructor
  · rintro ⟨hcounter, hflightId, hencryptionType, hiv⟩
    exact ⟨hcounter, hflightId, hencryptionType, hiv⟩
  · rintro ⟨hcounter, hflightId, hencryptionType, hiv⟩
    exact ⟨hcounter, hflightId, hencryptionType, hiv⟩

/-- A packet is read from its own bytes and from no others. -/
theorem read_eq_some_iff {packet : Packet} {bytes : Bytes} :
    read bytes = some packet ↔ packet.Framed ∧ bytes = packet.write := by
  rw [← readable_header_iff, write, ← framing.read_eq_some_iff, read]
  constructor
  · intro h
    obtain ⟨⟨⟨counter, flightId, encryptionType, iv⟩, ciphertext⟩, hread, rfl⟩ :=
      Option.map_eq_some_iff.mp h
    exact hread
  · intro h
    rw [h]
    rfl

theorem read_write_iff {packet : Packet} :
    read packet.write = some packet ↔ packet.Framed := by
  rw [read_eq_some_iff, and_iff_left rfl]

end Packet

variable {order : ByteOrder} {narrowing : Double.Narrowing} {serializer : Serializer}
  {encryptor : AES256Encryptor}

/-- What is sent does not depend on the host: it is the packet with the counter, the
whole id, the vector and the ciphertext. -/
theorem submitUpdates_eq_returns {key iv msg : Bytes} {updates : List Telemetry.Update}
    (hiv : encryptor.createSharedSecret = .returns iv)
    (hmsg : encryptor.encrypt (payload order narrowing serializer updates).buffer key iv =
      .returns msg)
    (counter : UInt32) (id : Bytes) :
    submitUpdates order narrowing serializer encryptor counter id key updates =
      .returns (counter + 1, Packet.write
        { counter := counter.toNat
          flightId := id
          encryptionType := encryptionType
          iv := iv
          ciphertext := msg }) := by
  simp only [submitUpdates, hiv, hmsg, Attempt.returns_bind, Attempt.pure_eq,
    Buffer.addNumber, Buffer.add, ByteOrder.memory_toNetwork, ByteOrder.memory_one]
  simp [Packet.write, Packet.header, framing, Format.seq, Format.numeral, Format.sized,
    Format.fixed]

/-- The framing of a packet that was sent gives back what was put into it just when
the id of the flight has less than 256 bytes. -/
theorem read_submitUpdates_iff {key iv msg : Bytes} {updates : List Telemetry.Update}
    (hiv : encryptor.createSharedSecret = .returns iv)
    (hlength : iv.length = blockSizeInBytes)
    (hmsg : encryptor.encrypt (payload order narrowing serializer updates).buffer key iv =
      .returns msg)
    (counter : UInt32) (id : Bytes) :
    ∃ sent, submitUpdates order narrowing serializer encryptor counter id key updates =
        .returns (counter + 1, sent) ∧
      (Packet.read sent = some
        { counter := counter.toNat
          flightId := id
          encryptionType := encryptionType
          iv := iv
          ciphertext := msg } ↔ id.length < 256) := by
  refine ⟨_, submitUpdates_eq_returns hiv hmsg counter id, ?_⟩
  rw [Packet.read_write_iff]
  constructor
  · intro hframed
    exact hframed.length_flightId
  · intro hid
    have htype : encryptionType < 256 := by decide
    exact ⟨counter.toNat_lt, hid, htype, hlength⟩

/-- Messages without a member that is not zero have no bytes. -/
def serializeNothing : Serializer where
  position _ := []
  speed _ := []
  attitude _ := []
  barometer _ := []

/-- A key of 32 zeros, in base 64. -/
def zeroKey : Bytes := List.replicate 43 65 ++ [61]

/-- Vectors of zeros, and what encrypting nothing with `zeroKey` and such a vector
comes to. -/
def encryptNothing : AES256Encryptor where
  createSharedSecret := .returns (List.replicate 16 0)
  encrypt _ _ _ :=
    .returns [31, 120, 143, 230, 216, 108, 49, 117, 73, 105, 127, 191, 12, 7, 250, 67]

theorem read_submitUpdates_shortId_iff :
    ∃ sent, submitUpdates .littleEndian exactly serializeNothing encryptNothing 1 [97]
        zeroKey [] = .returns (2, sent) ∧
      (Packet.read sent = some
        { counter := 1
          flightId := [97]
          encryptionType := encryptionType
          iv := List.replicate 16 0
          ciphertext :=
            [31, 120, 143, 230, 216, 108, 49, 117, 73, 105, 127, 191, 12, 7, 250, 67] } ↔
        [97].length < 256) :=
  read_submitUpdates_iff rfl rfl rfl 1 [97]

/-- The packet of a flight whose id has 256 bytes is not read as what it is. -/
theorem read_submitUpdates_longId :
    ∃ sent, submitUpdates .littleEndian exactly serializeNothing encryptNothing 1
        (List.replicate 256 97) zeroKey [] = .returns (2, sent) ∧
      Packet.read sent ≠ some
        { counter := 1
          flightId := List.replicate 256 97
          encryptionType := encryptionType
          iv := List.replicate 16 0
          ciphertext :=
            [31, 120, 143, 230, 216, 108, 49, 117, 73, 105, 127, 191, 12, 7, 250, 67] } := by
  refine ⟨_, submitUpdates_eq_returns rfl rfl 1 (List.replicate 256 97), ?_⟩
  intro hread
  obtain ⟨hframed, -⟩ := Packet.read_eq_some_iff.mp hread
  have hlength : (List.replicate 256 (97 : UInt8)).length < 256 := hframed.length_flightId
  rw [List.length_replicate] at hlength
  exact absurd hlength (by decide)

end Rest.Telemetry
end Airmap
