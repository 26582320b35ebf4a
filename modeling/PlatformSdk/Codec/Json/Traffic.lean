import PlatformSdk.Codec.Grpc.Traffic
import PlatformSdk.Rest.Authenticator

/-!
# Traffic updates as JSON documents

`codec::json::decode` for `Traffic::Update`.  Its numbers are given as strings, and
one string takes them all in turn: a key that is not given leaves it as the keys
before have made it.
-/

namespace Airmap

open Machine (Attempt)

namespace Json

/-- `get<double>`, for a conversion of the integers. -/
def getDouble (toDouble : ℤ → Double) : Json → Attempt Double
  | .numberUnsigned value => .returns (toDouble value)
  | .numberInteger value => .returns (toDouble value)
  | .numberFloat value => .returns value
  | j => .throws
      (exceptionWhat "type_error" 302 ("type must be number, but is " ++ j.typeName))

/-- `get<std::int64_t>`; a floating point number outside of the range has no value of
this type. -/
def getInt64 : Json → Attempt Int64
  | .numberUnsigned value => .returns (.ofInt value)
  | .numberInteger value => .returns (.ofInt value)
  | .numberFloat (.finite value) =>
      let truncated := value.num.tdiv value.den
      if -2 ^ 63 ≤ truncated ∧ truncated < 2 ^ 63 then .returns (.ofInt truncated)
      else .undefined
  | .numberFloat _ => .undefined
  | j => .throws
      (exceptionWhat "type_error" 302 ("type must be number, but is " ++ j.typeName))

end Json

namespace Codec.Json.Traffic

/-- The conversions that decoding uses.  What a conversion that only tries leaves
behind may depend on what was there. -/
structure Conversions where
  toDouble : ℤ → Double
  /-- `boost::lexical_cast<double>`. -/
  lexicalCast : String → Except String Double
  /-- `boost::lexical_cast<std::int64_t>`. -/
  lexicalCastInt64 : String → Except String Int64
  /-- `boost::conversion::try_lexical_convert`. -/
  tryLexicalConvert : String → Double → Double
  /-- `*= 0.3048`. -/
  feetToMeters : Double → Double
  /-- `*= 0.514444`. -/
  knotsToMetersPerSecond : Double → Double

/-- `from_seconds_since_epoch`. -/
def fromSecondsSinceEpoch (s : Int64) : DateTime := ⟨.ofInt (s.toInt * 1000 * 1000)⟩

/-- `from_milliseconds_since_epoch`. -/
def fromMillisecondsSinceEpoch (ms : Int64) : DateTime := ⟨.ofInt (ms.toInt * 1000)⟩

variable (conversions : Conversions)

/-- `decode(Traffic::Update)` into an update that is there; `ts` is what stands in the
variable of the timestamp, which is not initialized. -/
def decode (ts : Int64) (j : Json) (update : Traffic.Update) : Attempt Traffic.Update := do
  let id ← j.get update.id Json.getString "id"
  let aircraftId ← (← j.index "properties").get update.aircraftId Json.getString "aircraft_id"
  let direction ← j.get update.direction (Json.getDouble conversions.toDouble) "direction"
  let numericValueAsString ← j.get "" Json.getString "latitude"
  let latitude ← Attempt.ofExcept (conversions.lexicalCast numericValueAsString)
  let numericValueAsString ← j.get numericValueAsString Json.getString "longitude"
  let longitude ← Attempt.ofExcept (conversions.lexicalCast numericValueAsString)
  let numericValueAsString ← j.get numericValueAsString Json.getString "altitude"
  let altitude := conversions.tryLexicalConvert numericValueAsString update.altitude
  let numericValueAsString ← j.get numericValueAsString Json.getString "ground_speed_kts"
  let groundSpeed := conversions.tryLexicalConvert numericValueAsString update.groundSpeed
  let numericValueAsString ← j.get numericValueAsString Json.getString "true_heading"
  let heading := conversions.tryLexicalConvert numericValueAsString update.heading
  let tss ← j.get "" Json.getString "recorded_time"
  let recorded := fromSecondsSinceEpoch (← Attempt.ofExcept (conversions.lexicalCastInt64 tss))
  let ts ← j.get ts Json.getInt64 "timestamp"
  let timestamp := fromMillisecondsSinceEpoch ts
  return {
    id, aircraftId, direction, latitude, longitude, heading, recorded, timestamp
    altitude := conversions.feetToMeters altitude
    groundSpeed := conversions.knotsToMetersPerSecond groundSpeed }

/-- What stands in the variables of a conversion that are not initialized. -/
structure Memory where
  update : Traffic.Update
  ts : Int64

/-- `decode(std::vector<Traffic::Update>)`.  Each element is converted into an update of
its own, whose strings are empty and whose numbers are not initialized. -/
def decodeAll (memory : ℕ → Memory) (j : Json) : Attempt (List Traffic.Update) :=
  j.elements.zipIdx.mapM fun (element, i) =>
    decode conversions (memory i).ts element
      { (memory i).update with id := "", aircraftId := "" }

/-! ## The string that is shared -/

/-- The fields whose numbers are given as strings, in the order of their decoding. -/
inductive Field where
  | latitude
  | longitude
  | altitude
  | groundSpeed
  | heading
  deriving DecidableEq

namespace Field

def key : Field → String
  | .latitude => "latitude"
  | .longitude => "longitude"
  | .altitude => "altitude"
  | .groundSpeed => "ground_speed_kts"
  | .heading => "true_heading"

/-- The keys that are read before that of the field. -/
def keysBefore : Field → List String
  | .latitude => []
  | .longitude => ["latitude"]
  | .altitude => ["latitude", "longitude"]
  | .groundSpeed => ["latitude", "longitude", "altitude"]
  | .heading => ["latitude", "longitude", "altitude", "ground_speed_kts"]

/-- The field of an update. -/
def of (update : Traffic.Update) : Field → Double
  | .latitude => update.latitude
  | .longitude => update.longitude
  | .altitude => update.altitude
  | .groundSpeed => update.groundSpeed
  | .heading => update.heading

/-- The number that a text stands for, in the unit of the field, where the update was
`update` before. -/
def number (update : Traffic.Update) (text : String) : Field → Except String Double
  | .latitude | .longitude => conversions.lexicalCast text
  | .altitude =>
      .ok (conversions.feetToMeters (conversions.tryLexicalConvert text update.altitude))
  | .groundSpeed =>
      .ok (conversions.knotsToMetersPerSecond
        (conversions.tryLexicalConvert text update.groundSpeed))
  | .heading => .ok (conversions.tryLexicalConvert text update.heading)

end Field

/-- The shared string after a key was read. -/
def readText (j : Json) (text key : String) : String :=
  match j.find key with
  | some (.string value) => value
  | _ => text

/-- The text of the last key before the field that the document gives, or none. -/
def leftover (j : Json) (f : Field) : String := f.keysBefore.foldl (readText j) ""

/-- The document has a string for the key, or nothing. -/
def StringOrNothing (j : Json) (key : String) : Prop :=
  ¬ j.Gives key ∨ ∃ value, j.find key = some (.string value)

theorem readText_of_get {j : Json} {text key text' : String}
    (h : j.get text Json.getString key = .returns text') :
    StringOrNothing j key ∧ readText j text key = text' := by
  rcases Json.get_eq_returns_iff.mp h with ⟨hgives, rfl⟩ | ⟨-, value, hfind, hvalue⟩
  · refine ⟨Or.inl hgives, ?_⟩
    rw [Json.Gives] at hgives
    rw [readText]
    split at hgives
    next hnone => rw [hnone]
    next hnull => rw [hnull]
    next => exact absurd trivial hgives
  · cases value with
    | string value =>
        cases hvalue
        exact ⟨Or.inr ⟨_, hfind⟩, by rw [readText, hfind]⟩
    | _ => cases hvalue

theorem readText_of_not_gives {j : Json} {key : String} (hgives : ¬ j.Gives key)
    (text : String) : readText j text key = text := by
  rw [readText]
  split
  next value hfind => simp [Json.Gives, hfind] at hgives
  next => rfl

variable {conversions} {ts ts' : Int64} {j j' : Json} {update u u' : Traffic.Update}

/-- Every field of a decoded update is what the shared string says when its turn has
come. -/
theorem number_of_decode (h : decode conversions ts j update = .returns u) (f : Field) :
    StringOrNothing j f.key ∧
      f.number conversions update (readText j (leftover j f) f.key) = .ok (f.of u) := by
  simp only [decode, Attempt.bind_eq_returns_iff] at h
  obtain ⟨id, -, properties, -, aircraftId, -, direction, -, h⟩ := h
  obtain ⟨latText, hlatText, lat, hlat, lonText, hlonText, lon, hlon, h⟩ := h
  obtain ⟨altText, haltText, speedText, hspeedText, headText, hheadText, h⟩ := h
  obtain ⟨tss, -, s, -, ms, -, h⟩ := h
  obtain ⟨hlatGiven, rfl⟩ := readText_of_get hlatText
  obtain ⟨hlonGiven, rfl⟩ := readText_of_get hlonText
  obtain ⟨haltGiven, rfl⟩ := readText_of_get haltText
  obtain ⟨hspeedGiven, rfl⟩ := readText_of_get hspeedText
  obtain ⟨hheadGiven, rfl⟩ := readText_of_get hheadText
  cases h
  cases f with
  | latitude => exact ⟨hlatGiven, Attempt.ofExcept_eq_returns_iff.mp hlat⟩
  | longitude => exact ⟨hlonGiven, Attempt.ofExcept_eq_returns_iff.mp hlon⟩
  | altitude => exact ⟨haltGiven, rfl⟩
  | groundSpeed => exact ⟨hspeedGiven, rfl⟩
  | heading => exact ⟨hheadGiven, rfl⟩

/-! ## Fields and their keys -/

/-- Fields whose keys the documents agree on have the same values. -/
def KeepsApart (j j' : Json) (u u' : Traffic.Update) : Prop :=
  ∀ f : Field, j.find f.key = j'.find f.key → f.of u = f.of u'

/-- For every field that neither document gives, the last of the keys before that a document
gives has the same text in both, where no text is an empty one. -/
def LeavesSameText (j j' : Json) : Prop :=
  ∀ f : Field, j.find f.key = j'.find f.key → ¬ j.Gives f.key → leftover j f = leftover j' f

theorem gives_congr {key : String} (hagree : j.find key = j'.find key) :
    j.Gives key ↔ j'.Gives key := by
  rw [Json.Gives, Json.Gives, hagree]

/-- A field that is given does not depend on what stood in the string. -/
theorem of_eq_of_gives (h : decode conversions ts j update = .returns u)
    (h' : decode conversions ts' j' update = .returns u') {f : Field}
    (hagree : j.find f.key = j'.find f.key) (hgives : j.Gives f.key) : f.of u = f.of u' := by
  obtain ⟨hstring, hnumber⟩ := number_of_decode h f
  obtain ⟨-, hnumber'⟩ := number_of_decode h' f
  rcases hstring with hnothing | ⟨value, hfind⟩
  · exact absurd hgives hnothing
  · rw [readText, hfind] at hnumber
    rw [readText, ← hagree, hfind, hnumber] at hnumber'
    exact Except.ok.inj hnumber'

theorem keepsApart_of_leavesSameText (h : decode conversions ts j update = .returns u)
    (h' : decode conversions ts' j' update = .returns u') (hsame : LeavesSameText j j') :
    KeepsApart j j' u u' := by
  intro f hagree
  by_cases hgives : j.Gives f.key
  · exact of_eq_of_gives h h' hagree hgives
  · have hgives' : ¬ j'.Gives f.key := by rwa [← gives_congr hagree]
    have hnumber := (number_of_decode h f).2
    have hnumber' := (number_of_decode h' f).2
    rw [readText_of_not_gives hgives] at hnumber
    rw [readText_of_not_gives hgives', ← hsame f hagree hgives, hnumber] at hnumber'
    exact Except.ok.inj hnumber'

/-! ### Telling texts apart -/

/-- Conversions that take every text, and tell this one from all the others. -/
def tellApart (toDouble : ℤ → Double) (text : String) : Conversions where
  toDouble := toDouble
  lexicalCast text' := .ok (if text' = text then .finite 1 else .finite 0)
  lexicalCastInt64 _ := .ok 0
  tryLexicalConvert text' _ := if text' = text then .finite 1 else .finite 0
  feetToMeters := id
  knotsToMetersPerSecond := id

/-- What is accepted with some conversions is accepted with these. -/
theorem exists_decode_tellApart (text : String)
    (h : decode conversions ts j update = .returns u) :
    ∃ u', decode (tellApart conversions.toDouble text) ts j update = .returns u' := by
  simp only [decode, Attempt.bind_eq_returns_iff] at h
  obtain ⟨id, hid, properties, hproperties, aircraftId, haircraftId, h⟩ := h
  obtain ⟨direction, hdirection, latText, hlatText, _, -, lonText, hlonText, _, -, h⟩ := h
  obtain ⟨altText, haltText, speedText, hspeedText, headText, hheadText, h⟩ := h
  obtain ⟨tss, htss, _, -, ms, hms, -⟩ := h
  simp only [decode, tellApart, hid, hproperties, haircraftId, hdirection, hlatText, hlonText,
    haltText, hspeedText, hheadText, htss, hms, Attempt.ofExcept, Attempt.returns_bind]
  exact ⟨_, rfl⟩

/-- A field that is not given is the number that is made of the text that is left over. -/
theorem of_decode_tellApart {text : String} {toDouble : ℤ → Double}
    (h : decode (tellApart toDouble text) ts j update = .returns u) {f : Field}
    (hgives : ¬ j.Gives f.key) :
    f.of u = if leftover j f = text then .finite 1 else .finite 0 := by
  have hnumber := (number_of_decode h f).2
  rw [readText_of_not_gives hgives] at hnumber
  cases f <;> exact (Except.ok.inj hnumber).symm

/-- Two documents that are accepted are decoded with their fields kept apart, whatever the
conversions are, exactly if the same texts are left over for the fields that they do not
give. -/
theorem keepsApart_iff_leavesSameText (h : decode conversions ts j update = .returns u)
    (h' : decode conversions ts' j' update = .returns u') :
    (∀ conversions u u', decode conversions ts j update = .returns u →
        decode conversions ts' j' update = .returns u' → KeepsApart j j' u u') ↔
      LeavesSameText j j' := by
  constructor
  · intro hapart f hagree hgives
    by_contra hne
    have hgives' : ¬ j'.Gives f.key := by rwa [← gives_congr hagree]
    obtain ⟨v, hv⟩ := exists_decode_tellApart (leftover j f) h
    obtain ⟨v', hv'⟩ := exists_decode_tellApart (leftover j f) h'
    have hof := hapart _ v v' hv hv' f hagree
    rw [of_decode_tellApart hv hgives, of_decode_tellApart hv' hgives', if_pos rfl,
      if_neg (Ne.symm hne)] at hof
    exact absurd hof (by decide)
  · intro hsame conversions u u' hu hu'
    exact keepsApart_of_leavesSameText hu hu' hsame

/-! ### Documents without an altitude -/

def badLexicalCast : String :=
  "bad lexical cast: source type value could not be interpreted as target"

/-- The number that one of two texts stands for. -/
def zeroOrOne (text : String) : Option ℤ :=
  if text = "0" then some 0 else if text = "1" then some 1 else none

def scale (factor : ℚ) : Double → Double
  | .finite value => .finite (value * factor)
  | x => x

/-- The conversions as far as zero and one need them; a text that is no number leaves
behind what was there.  The factors are those that a `double` holds. -/
def conversionsOfZeroOrOne : Conversions where
  toDouble value := .finite value
  lexicalCast text :=
    match zeroOrOne text with
    | some value => .ok (.finite value)
    | none => .error badLexicalCast
  lexicalCastInt64 text :=
    match zeroOrOne text with
    | some value => .ok (.ofInt value)
    | none => .error badLexicalCast
  tryLexicalConvert text current :=
    match zeroOrOne text with
    | some value => .finite value
    | none => current
  feetToMeters := scale (5490788665690109 / 18014398509481984)
  knotsToMetersPerSecond := scale (4633699613405975 / 9007199254740992)

/-- A document with a position, and the time that it must have. -/
def positionAt (longitude : String) : Json := .object
  [("latitude", .string "0"), ("longitude", .string longitude),
    ("properties", .object []), ("recorded_time", .string "0"),
    ("timestamp", .numberUnsigned 0)]

def initialUpdate : Traffic.Update where
  id := ""
  aircraftId := ""
  latitude := .finite 0
  longitude := .finite 0
  altitude := .finite 0
  groundSpeed := .finite 0
  heading := .finite 0
  direction := .finite 0
  recorded := ⟨0⟩
  timestamp := ⟨0⟩

/-- The update of a position whose longitude is one: the other numbers are taken from
it as well. -/
def updateAtOne : Traffic.Update :=
  { initialUpdate with
    longitude := .finite 1
    altitude := .finite (5490788665690109 / 18014398509481984)
    groundSpeed := .finite (4633699613405975 / 9007199254740992)
    heading := .finite 1 }

theorem decode_positionAt_zero :
    decode conversionsOfZeroOrOne 0 (positionAt "0") initialUpdate =
      .returns initialUpdate := by
  decide +kernel

theorem decode_positionAt_one :
    decode conversionsOfZeroOrOne 0 (positionAt "1") initialUpdate =
      .returns updateAtOne := by
  decide +kernel

theorem keepsApart_iff_leavesSameText_positions :
    (∀ conversions u u',
        decode conversions 0 (positionAt "0") initialUpdate = .returns u →
        decode conversions 0 (positionAt "1") initialUpdate = .returns u' →
        KeepsApart (positionAt "0") (positionAt "1") u u') ↔
      LeavesSameText (positionAt "0") (positionAt "1") :=
  keepsApart_iff_leavesSameText decode_positionAt_zero decode_positionAt_one

/-- Neither document gives an altitude, and the altitudes differ. -/
theorem positions_not_keptApart :
    decode conversionsOfZeroOrOne 0 (positionAt "0") initialUpdate =
        .returns initialUpdate ∧
      decode conversionsOfZeroOrOne 0 (positionAt "1") initialUpdate =
        .returns updateAtOne ∧
      ¬ KeepsApart (positionAt "0") (positionAt "1") initialUpdate updateAtOne := by
  refine ⟨decode_positionAt_zero, decode_positionAt_one, fun hapart => ?_⟩
  have haltitude : initialUpdate.altitude = updateAtOne.altitude :=
    hapart .altitude rfl
  exact absurd haltitude (by decide +kernel)

end Codec.Json.Traffic
end Airmap
