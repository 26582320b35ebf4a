import PlatformSdk.Geometry

/-!
# Traffic updates on the wire

`codec::grpc::encode` and `decode` for `Traffic::Update`.  A message has a field
for the altitude of the other aircraft, but neither function touches it: the
altitude of a decoded update is the one that was there before.
-/

namespace Airmap

/-- `DateTime`, as the microseconds since the epoch. -/
structure DateTime where
  microseconds : Int64
  deriving DecidableEq

/-- `Traffic::Update`. -/
structure Traffic.Update where
  id : String
  aircraftId : String
  latitude : Double
  longitude : Double
  altitude : Double
  groundSpeed : Double
  heading : Double
  direction : Double
  recorded : DateTime
  timestamp : DateTime
  deriving DecidableEq

namespace Codec.Grpc

/-- `google::protobuf::Timestamp`, with fields of 64 and 32 bits. -/
structure Timestamp where
  seconds : ℤ
  nanos : ℤ
  deriving DecidableEq

/-- `grpc::airmap::Coordinate`; a value that is not there is a message that was not
set. -/
structure Coordinate where
  latitude : Option Double := none
  longitude : Option Double := none
  altitude : Option Double := none
  deriving DecidableEq

/-- `grpc::airmap::Traffic_Update`, without the type, which is not encoded. -/
structure TrafficUpdate where
  track : Option String := none
  aircraftId : String := ""
  position : Option Coordinate := none
  groundSpeed : Option Double := none
  heading : Option Double := none
  direction : Option Double := none
  recorded : Option Timestamp := none
  generated : Option Timestamp := none
  deriving DecidableEq

/-- `encode(Timestamp)`: arithmetic without a sign, then fields with one. -/
def encodeDateTime (dateTime : DateTime) : Timestamp :=
  let us := dateTime.microseconds.toInt % 2 ^ 64
  let s := us / (1000 * 1000)
  { seconds := s.bmod (2 ^ 64)
    nanos := (1000 * (us - s * 1000 * 1000) % 2 ^ 64).bmod (2 ^ 32) }

/-- `decode(Timestamp)`. -/
def decodeDateTime (timestamp : Timestamp) : DateTime :=
  ⟨.ofInt (timestamp.seconds * 1000 * 1000 + timestamp.nanos.tdiv 1000)⟩

/-- `encode(Traffic_Update)`, into a message that was not set. -/
def encode (update : Traffic.Update) : TrafficUpdate where
  aircraftId := update.aircraftId
  track := some update.id
  position := some { latitude := some update.latitude, longitude := some update.longitude }
  groundSpeed := some update.groundSpeed
  heading := some update.heading
  direction := some update.direction
  recorded := some (encodeDateTime update.recorded)
  generated := some (encodeDateTime update.timestamp)

/-- `decode(Traffic_Update)`, into the update `target`; `now` and `later` are the times
at which the clock is read. -/
def decode (now later : DateTime) (message : TrafficUpdate) (target : Traffic.Update) :
    Traffic.Update :=
  let target := { target with
    aircraftId := message.aircraftId
    id := message.track.getD "n/a" }
  let target :=
    match message.position with
    | some position =>
        { target with
          latitude := position.latitude.getD (.finite 0)
          longitude := position.longitude.getD (.finite 0) }
    | none => target
  { target with
    groundSpeed := message.groundSpeed.getD (.finite 0)
    heading := message.heading.getD (.finite 0)
    direction := message.direction.getD (.finite 0)
    recorded := (message.recorded.map decodeDateTime).getD now
    timestamp := (message.generated.map decodeDateTime).getD later }

/-- The seconds of a time since the epoch, as the message holds them. -/
theorem seconds_encodeDateTime {dateTime : DateTime}
    (h : 0 ≤ dateTime.microseconds.toInt) :
    (encodeDateTime dateTime).seconds =
      dateTime.microseconds.toInt / (1000 * 1000) := by
  have hupper : dateTime.microseconds.toInt < 2 ^ 63 := dateTime.microseconds.toInt_lt
  have hus : dateTime.microseconds.toInt % 2 ^ 64 = dateTime.microseconds.toInt := by
    omega
  simp only [encodeDateTime, hus]
  apply Int.bmod_eq_of_le
  · omega
  · omega

/-- The microseconds of the last second, as the message holds them. -/
theorem nanos_encodeDateTime {dateTime : DateTime}
    (h : 0 ≤ dateTime.microseconds.toInt) :
    (encodeDateTime dateTime).nanos =
      1000 * (dateTime.microseconds.toInt % (1000 * 1000)) := by
  have hupper : dateTime.microseconds.toInt < 2 ^ 63 := dateTime.microseconds.toInt_lt
  have hus : dateTime.microseconds.toInt % 2 ^ 64 = dateTime.microseconds.toInt := by
    omega
  have hrest : 1000 * (dateTime.microseconds.toInt -
      dateTime.microseconds.toInt / (1000 * 1000) * 1000 * 1000) % 2 ^ 64 =
      1000 * (dateTime.microseconds.toInt % (1000 * 1000)) := by
    omega
  simp only [encodeDateTime, hus, hrest]
  apply Int.bmod_eq_of_le
  · omega
  · omega

/-- A time since the epoch is decoded from its encoding. -/
theorem decodeDateTime_encodeDateTime {dateTime : DateTime}
    (h : 0 ≤ dateTime.microseconds.toInt) :
    decodeDateTime (encodeDateTime dateTime) = dateTime := by
  have htdiv : (1000 * (dateTime.microseconds.toInt % (1000 * 1000))).tdiv 1000 =
      dateTime.microseconds.toInt % (1000 * 1000) :=
    Int.mul_tdiv_cancel_left _ (by decide)
  have hsum : dateTime.microseconds.toInt / (1000 * 1000) * 1000 * 1000 +
      dateTime.microseconds.toInt % (1000 * 1000) = dateTime.microseconds.toInt := by
    omega
  simp only [decodeDateTime, seconds_encodeDateTime h, nanos_encodeDateTime h, htdiv,
    hsum, Int64.ofInt_toInt]

/-- What is decoded from an encoded update, into the update `target`: everything but
the altitude, which stays what it was. -/
theorem decode_encode {update : Traffic.Update}
    (hrecorded : 0 ≤ update.recorded.microseconds.toInt)
    (htimestamp : 0 ≤ update.timestamp.microseconds.toInt)
    (now later : DateTime) (target : Traffic.Update) :
    decode now later (encode update) target =
      { update with altitude := target.altitude } := by
  simp [decode, encode, decodeDateTime_encodeDateTime hrecorded,
    decodeDateTime_encodeDateTime htimestamp]

/-- An update is what is decoded from its encoding just when the update it is decoded
into already has its altitude. -/
theorem decode_encode_eq_iff {update : Traffic.Update}
    (hrecorded : 0 ≤ update.recorded.microseconds.toInt)
    (htimestamp : 0 ≤ update.timestamp.microseconds.toInt)
    (now later : DateTime) (target : Traffic.Update) :
    decode now later (encode update) target = update ↔
      target.altitude = update.altitude := by
  rw [decode_encode hrecorded htimestamp]
  constructor
  · intro h
    have haltitude := congrArg (fun u : Traffic.Update => u.altitude) h
    exact haltitude
  · intro h
    rw [h]

/-- An aircraft 100 m up, seen 1.5 s and 2 s after the epoch. -/
def aircraftAbove : Traffic.Update where
  id := "track"
  aircraftId := "aircraft"
  latitude := .finite 52
  longitude := .finite 13
  altitude := .finite 100
  groundSpeed := .finite 30
  heading := .finite 90
  direction := .finite 180
  recorded := ⟨1500000⟩
  timestamp := ⟨2000000⟩

theorem decode_encode_aircraftAbove_eq_iff :
    decode ⟨0⟩ ⟨0⟩ (encode aircraftAbove) { aircraftAbove with altitude := .finite 0 } =
        aircraftAbove ↔
      Double.finite 0 = aircraftAbove.altitude :=
  decode_encode_eq_iff (by decide) (by decide) ⟨0⟩ ⟨0⟩ _

/-- An update that was all zeros before keeps its altitude of zero. -/
theorem decode_encode_aircraftAbove_ne :
    decode ⟨0⟩ ⟨0⟩ (encode aircraftAbove) { aircraftAbove with altitude := .finite 0 } ≠
      aircraftAbove := by
  intro h
  have haltitude := congrArg Traffic.Update.altitude h
  exact absurd haltitude (by decide)

end Codec.Grpc
end Airmap
