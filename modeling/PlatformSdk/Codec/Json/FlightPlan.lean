import PlatformSdk.Codec.Json.Geometry
import PlatformSdk.Rest.Authenticator

/-!
# Flight plans as JSON documents

`codec::json::decode` and `encode` for `FlightPlan`.  The encoder writes every
member of the plan, given or not, so that a plan survives being encoded and
decoded exactly if the members without a usable default were in the document that
it comes from.
-/

namespace Airmap

open Machine (Attempt)

/-- The point in time of a `DateTime` that nobody has set, and the conversions to
and from texts.  What was parsed can be generated and parsed again. -/
structure DateTime.Text (δ : Type) where
  initial : δ
  parse : String → Attempt δ
  generate : δ → Attempt String
  parse_generate : ∀ s time, parse s = .returns time →
    ∃ s', generate time = .returns s' ∧ parse s' = .returns time

/-- The time can be generated and parsed again. -/
def DateTime.Text.RoundTrips {δ : Type} (text : DateTime.Text δ) (time : δ) : Prop :=
  ∃ s, text.generate time = .returns s ∧ text.parse s = .returns time

/-- `RuleSet::Feature::Value`: the active member of the union. -/
inductive RuleSet.Feature.Value where
  | unknown
  | boolean (value : Bool)
  | floatingPoint (value : Double)
  | string (value : String)
  deriving DecidableEq

namespace RuleSet.Feature.Value

/-- `decode(RuleSet::Feature::Value)`; `toDouble` is `static_cast<double>` of an
integer. -/
def decode (toDouble : ℤ → Double) : Json → Value
  | .boolean value => .boolean value
  | .string value => .string value
  | .numberInteger value => .floatingPoint (toDouble value)
  | .numberUnsigned value => .floatingPoint (toDouble value)
  | .numberFloat value => .floatingPoint value
  | .null | .object _ | .array _ => .unknown

/-- `encode(RuleSet::Feature::Value)`. -/
def encode : Value → Json
  | .boolean value => .boolean value
  | .floatingPoint value => .numberFloat value
  | .string value => .string value
  | .unknown => .null

theorem decode_encode (toDouble : ℤ → Double) (value : Value) :
    decode toDouble value.encode = value := by
  cases value with
  | _ => rfl

end RuleSet.Feature.Value

namespace Codec.Json

/-- `FlightPlan`, with the members of the pilot and the aircraft that a document
holds.  A `float` is not initialized before it is decoded. -/
structure FlightPlan (δ : Type) where
  id : String
  flightId : Option String
  pilotId : String
  aircraftId : String
  takeoffLatitude : Option Double
  takeoffLongitude : Option Double
  maxAltitudeAgl : Option Double
  minAltitudeAgl : Option Double
  buffer : Option Double
  geometry : Geometry
  startTime : δ
  endTime : δ
  rulesets : List String
  features : List (String × RuleSet.Feature.Value)

namespace FlightPlan

variable {δ : Type} (text : DateTime.Text δ) (narrowing : Double.Narrowing)
  (toDouble : ℤ → Double)

/-! ## Decoding -/

/-- A `float` that has a value from now on. -/
def decodeFloat (j : Json) : Attempt (Option Double) := do
  return some (← j.getFloat narrowing)

/-- `decode(Optional)` of a string that is given. -/
def decodeOptionalString (j : Json) : Attempt (Option String) := do
  return some (← j.getString)

/-- `from_json(DateTime)`. -/
def decodeDateTime (j : Json) : Attempt δ := do
  text.parse (← j.getString)

/-- `get<std::vector<std::string>>`. -/
def decodeStrings : Json → Attempt (List String)
  | .array elements => elements.mapM Json.getString
  | j => .throws (Json.exceptionWhat "type_error" 302
      ("type must be array, but is " ++ j.typeName))

/-- The loop over the flight features.  The iterator of a document that is no
object has a value, but no key. -/
def decodeFeatures : Json → Attempt (List (String × RuleSet.Feature.Value))
  | .object members => return members.map fun (key, value) =>
      (key, RuleSet.Feature.Value.decode toDouble value)
  | j =>
      if j.size = 0 then return []
      else .throws (Json.exceptionWhat "invalid_iterator" 207
        "cannot use key() for non-object iterators")

/-- The flight features of a plan, if the document has them. -/
def decodeFlightFeatures (j : Json) :
    Attempt (List (String × RuleSet.Feature.Value)) := do
  if 0 < j.count "flight_features" then
    decodeFeatures toDouble (← j.index "flight_features")
  else
    return []

/-- `decode(FlightPlan)`. -/
def decode (j : Json) : Attempt (FlightPlan δ) := do
  let id ← j.get "" Json.getString "id"
  let flightId ← j.get none decodeOptionalString "flight_id"
  let takeoffLatitude ← j.get none (decodeFloat narrowing) "takeoff_latitude"
  let takeoffLongitude ← j.get none (decodeFloat narrowing) "takeoff_longitude"
  let maxAltitudeAgl ← j.get none (decodeFloat narrowing) "max_altitude_agl"
  let minAltitudeAgl ← j.get none (decodeFloat narrowing) "min_altitude_agl"
  let geometry ← j.get .invalid (Geometry.decode narrowing) "geometry"
  let startTime ← j.get text.initial (decodeDateTime text) "start_time"
  let endTime ← j.get text.initial (decodeDateTime text) "end_time"
  let pilotId ← j.get "" Json.getString "pilot_id"
  let aircraftId ← j.get "" Json.getString "aircraft_id"
  let buffer ← j.get none (decodeFloat narrowing) "buffer"
  let rulesets ← j.get [] decodeStrings "rulesets"
  let features ← decodeFlightFeatures toDouble j
  return { id, flightId, pilotId, aircraftId, takeoffLatitude, takeoffLongitude,
           maxAltitudeAgl, minAltitudeAgl, buffer, geometry, startTime, endTime,
           rulesets, features }

/-! ## Encoding -/

/-- A `float` that was set. -/
def encodeFloat : Option Double → Attempt Json
  | some value => return .numberFloat value
  | none => .undefined

/-- `to_json(DateTime)`. -/
def encodeDateTime (time : δ) : Attempt Json := do
  return .string (← text.generate time)

/-- The members that `encode(FlightPlan)` writes, in the order of their names. -/
def members (plan : FlightPlan δ) (takeoffLatitude takeoffLongitude maxAltitudeAgl
    minAltitudeAgl buffer startTime endTime : Json) : List (String × Option Json) :=
  [("aircraft_id",
      if plan.aircraftId = "" then none else some (.string plan.aircraftId)),
    ("buffer", some buffer),
    ("end_time", some endTime),
    ("flight_features",
      if plan.features = [] then none
      else some (.object (plan.features.map fun (key, value) => (key, value.encode)))),
    ("flight_id", plan.flightId.map .string),
    ("geometry", some plan.geometry.encode),
    ("id", some (.string plan.id)),
    ("max_altitude_agl", some maxAltitudeAgl),
    ("min_altitude_agl", some minAltitudeAgl),
    ("pilot_id", some (.string plan.pilotId)),
    ("rulesets", some (.array (plan.rulesets.map .string))),
    ("start_time", some startTime),
    ("takeoff_latitude", some takeoffLatitude),
    ("takeoff_longitude", some takeoffLongitude)]

/-- `encode(FlightPlan)`. -/
def encode (plan : FlightPlan δ) : Attempt Json := do
  let takeoffLatitude ← encodeFloat plan.takeoffLatitude
  let takeoffLongitude ← encodeFloat plan.takeoffLongitude
  let maxAltitudeAgl ← encodeFloat plan.maxAltitudeAgl
  let minAltitudeAgl ← encodeFloat plan.minAltitudeAgl
  let startTime ← encodeDateTime text plan.startTime
  let endTime ← encodeDateTime text plan.endTime
  let buffer ← encodeFloat plan.buffer
  return Json.ofMembers (plan.members takeoffLatitude takeoffLongitude maxAltitudeAgl
    minAltitudeAgl buffer startTime endTime)

/-! ## What a document gives -/

/-- The document gives the members of a plan that have no usable default; a time
may be left out if the time that nobody has set has a text of its own. -/
structure IsComplete (j : Json) : Prop where
  takeoffLatitude : j.Gives "takeoff_latitude"
  takeoffLongitude : j.Gives "takeoff_longitude"
  maxAltitudeAgl : j.Gives "max_altitude_agl"
  minAltitudeAgl : j.Gives "min_altitude_agl"
  buffer : j.Gives "buffer"
  geometry : j.Gives "geometry"
  startTime : j.Gives "start_time" ∨ text.RoundTrips text.initial
  endTime : j.Gives "end_time" ∨ text.RoundTrips text.initial

/-- The same, of the plan. -/
structure IsEncodable (plan : FlightPlan δ) : Prop where
  takeoffLatitude : plan.takeoffLatitude.isSome
  takeoffLongitude : plan.takeoffLongitude.isSome
  maxAltitudeAgl : plan.maxAltitudeAgl.isSome
  minAltitudeAgl : plan.minAltitudeAgl.isSome
  buffer : plan.buffer.isSome
  geometry : plan.geometry ≠ .invalid
  startTime : text.RoundTrips plan.startTime
  endTime : text.RoundTrips plan.endTime

/-- Each `float` that is there is one, and the geometry is one or was left out. -/
structure IsDecoded (plan : FlightPlan δ) : Prop where
  takeoffLatitude : ∀ x, plan.takeoffLatitude = some x → narrowing.toFloat x = x
  takeoffLongitude : ∀ x, plan.takeoffLongitude = some x → narrowing.toFloat x = x
  maxAltitudeAgl : ∀ x, plan.maxAltitudeAgl = some x → narrowing.toFloat x = x
  minAltitudeAgl : ∀ x, plan.minAltitudeAgl = some x → narrowing.toFloat x = x
  buffer : ∀ x, plan.buffer = some x → narrowing.toFloat x = x
  geometry : plan.geometry ≠ .invalid → plan.geometry.IsDecoded narrowing

variable {text narrowing toDouble}

/-- A `float` is set exactly if it is given, and then it is one. -/
theorem float_of_get {j : Json} {name : String} {value : Option Double}
    (h : j.get none (decodeFloat narrowing) name = .returns value) :
    (value.isSome ↔ j.Gives name) ∧ ∀ x, value = some x → narrowing.toFloat x = x := by
  obtain ⟨hmissing, rfl⟩ | ⟨hgiven, found, -, hread⟩ := Json.get_eq_returns_iff.mp h
  · exact ⟨by simp [hmissing], by simp⟩
  · rw [decodeFloat, Attempt.bind_eq_returns_iff] at hread
    obtain ⟨x, hx, hread⟩ := hread
    cases hread
    refine ⟨by simp [hgiven], fun y hy => ?_⟩
    cases hy
    exact Geometry.toFloat_of_getFloat hx

theorem geometry_of_get {j : Json} {geometry : Geometry}
    (h : j.get .invalid (Geometry.decode narrowing) "geometry" = .returns geometry) :
    (geometry ≠ .invalid ↔ j.Gives "geometry") ∧
      (geometry ≠ .invalid → geometry.IsDecoded narrowing) := by
  obtain ⟨hmissing, rfl⟩ | ⟨hgiven, found, -, hread⟩ := Json.get_eq_returns_iff.mp h
  · exact ⟨by simp [hmissing], fun hne => absurd rfl hne⟩
  · have hdecoded := Geometry.isDecoded_of_decode hread
    refine ⟨iff_of_true ?_ hgiven, fun _ => hdecoded⟩
    rintro rfl
    cases hdecoded

theorem time_of_get {j : Json} {name : String} {time : δ}
    (h : j.get text.initial (decodeDateTime text) name = .returns time) :
    text.RoundTrips time ↔ j.Gives name ∨ text.RoundTrips text.initial := by
  obtain ⟨hmissing, rfl⟩ | ⟨hgiven, found, -, hread⟩ := Json.get_eq_returns_iff.mp h
  · simp [hmissing]
  · rw [decodeDateTime, Attempt.bind_eq_returns_iff] at hread
    obtain ⟨s, -, hparse⟩ := hread
    exact iff_of_true (text.parse_generate s time hparse) (Or.inl hgiven)

/-- What the decoder makes of a document, and what the document gives. -/
theorem isDecoded_of_decode {j : Json} {plan : FlightPlan δ}
    (h : decode text narrowing toDouble j = .returns plan) :
    plan.IsDecoded narrowing ∧ (plan.IsEncodable text ↔ IsComplete text j) := by
  simp only [decode, Attempt.bind_eq_returns_iff] at h
  obtain ⟨id, -, flightId, -, takeoffLatitude, htakeoffLatitude, takeoffLongitude,
    htakeoffLongitude, maxAltitudeAgl, hmaxAltitudeAgl, minAltitudeAgl, hminAltitudeAgl,
    geometry, hgeometry, startTime, hstartTime, endTime, hendTime, pilotId, -,
    aircraftId, -, buffer, hbuffer, rulesets, -, features, -, h⟩ := h
  cases h
  have htakeoffLatitude := float_of_get htakeoffLatitude
  have htakeoffLongitude := float_of_get htakeoffLongitude
  have hmaxAltitudeAgl := float_of_get hmaxAltitudeAgl
  have hminAltitudeAgl := float_of_get hminAltitudeAgl
  have hbuffer := float_of_get hbuffer
  have hgeometry := geometry_of_get hgeometry
  refine ⟨⟨htakeoffLatitude.2, htakeoffLongitude.2, hmaxAltitudeAgl.2, hminAltitudeAgl.2,
    hbuffer.2, hgeometry.2⟩, fun h => ?_, fun h => ?_⟩
  · exact
      { takeoffLatitude := htakeoffLatitude.1.mp h.takeoffLatitude
        takeoffLongitude := htakeoffLongitude.1.mp h.takeoffLongitude
        maxAltitudeAgl := hmaxAltitudeAgl.1.mp h.maxAltitudeAgl
        minAltitudeAgl := hminAltitudeAgl.1.mp h.minAltitudeAgl
        buffer := hbuffer.1.mp h.buffer
        geometry := hgeometry.1.mp h.geometry
        startTime := (time_of_get hstartTime).mp h.startTime
        endTime := (time_of_get hendTime).mp h.endTime }
  · exact
      { takeoffLatitude := htakeoffLatitude.1.mpr h.takeoffLatitude
        takeoffLongitude := htakeoffLongitude.1.mpr h.takeoffLongitude
        maxAltitudeAgl := hmaxAltitudeAgl.1.mpr h.maxAltitudeAgl
        minAltitudeAgl := hminAltitudeAgl.1.mpr h.minAltitudeAgl
        buffer := hbuffer.1.mpr h.buffer
        geometry := hgeometry.1.mpr h.geometry
        startTime := (time_of_get hstartTime).mpr h.startTime
        endTime := (time_of_get hendTime).mpr h.endTime }

/-! ## The round trip -/

theorem encodeFloat_eq_returns_iff {value : Option Double} {j : Json} :
    encodeFloat value = .returns j ↔ ∃ x, value = some x ∧ j = .numberFloat x := by
  cases value with
  | none => simp [encodeFloat]
  | some x => simp [encodeFloat, eq_comm]

theorem encodeDateTime_eq_returns_iff {time : δ} {j : Json} :
    encodeDateTime text time = .returns j ↔
      ∃ s, text.generate time = .returns s ∧ j = .string s := by
  simp [encodeDateTime, Attempt.bind_eq_returns_iff, eq_comm (b := j)]

/-- What the encoding of a plan is made of. -/
theorem encode_eq_returns_iff {plan : FlightPlan δ} {j : Json} :
    plan.encode text = .returns j ↔
      ∃ takeoffLatitude takeoffLongitude maxAltitudeAgl minAltitudeAgl buffer,
        plan.takeoffLatitude = some takeoffLatitude ∧
        plan.takeoffLongitude = some takeoffLongitude ∧
        plan.maxAltitudeAgl = some maxAltitudeAgl ∧
        plan.minAltitudeAgl = some minAltitudeAgl ∧ plan.buffer = some buffer ∧
        ∃ startTime endTime, text.generate plan.startTime = .returns startTime ∧
          text.generate plan.endTime = .returns endTime ∧
          j = Json.ofMembers (plan.members (.numberFloat takeoffLatitude)
            (.numberFloat takeoffLongitude) (.numberFloat maxAltitudeAgl)
            (.numberFloat minAltitudeAgl) (.numberFloat buffer) (.string startTime)
            (.string endTime)) := by
  simp only [encode, Attempt.bind_eq_returns_iff, encodeFloat_eq_returns_iff,
    encodeDateTime_eq_returns_iff]
  constructor
  · rintro ⟨_, ⟨takeoffLatitude, hlat, rfl⟩, _, ⟨takeoffLongitude, hlon, rfl⟩, _,
      ⟨maxAltitudeAgl, hmax, rfl⟩, _, ⟨minAltitudeAgl, hmin, rfl⟩, _,
      ⟨startTime, hstart, rfl⟩, _, ⟨endTime, hend, rfl⟩, _, ⟨buffer, hbuffer, rfl⟩, h⟩
    cases h
    exact ⟨takeoffLatitude, takeoffLongitude, maxAltitudeAgl, minAltitudeAgl, buffer, hlat,
      hlon, hmax, hmin, hbuffer, startTime, endTime, hstart, hend, rfl⟩
  · rintro ⟨takeoffLatitude, takeoffLongitude, maxAltitudeAgl, minAltitudeAgl, buffer,
      hlat, hlon, hmax, hmin, hbuffer, startTime, endTime, hstart, hend, rfl⟩
    exact ⟨_, ⟨takeoffLatitude, hlat, rfl⟩, _, ⟨takeoffLongitude, hlon, rfl⟩, _,
      ⟨maxAltitudeAgl, hmax, rfl⟩, _, ⟨minAltitudeAgl, hmin, rfl⟩, _,
      ⟨startTime, hstart, rfl⟩, _, ⟨endTime, hend, rfl⟩, _, ⟨buffer, hbuffer, rfl⟩, rfl⟩

section Written

variable {plan : FlightPlan δ} {lat lon max min buffer start finish : Json}

theorem find_members (key : String) :
    (Json.ofMembers (plan.members lat lon max min buffer start finish)).find key =
      ((plan.members lat lon max min buffer start finish).lookup key).join :=
  Json.find_ofMembers (by simp [members]) key

/-- A member that was written is read. -/
theorem get_members_iff {β : Type} {current x : β} {read : Json → Attempt β}
    {key : String} {value : Json}
    (hlookup : (plan.members lat lon max min buffer start finish).lookup key =
      some (some value))
    (hvalue : value ≠ .null) :
    (Json.ofMembers (plan.members lat lon max min buffer start finish)).get current
      read key = .returns x ↔ read value = .returns x := by
  have hfind : (Json.ofMembers (plan.members lat lon max min buffer start finish)).find
      key = some value := by
    rw [find_members, hlookup]
    rfl
  have hgiven : (Json.ofMembers (plan.members lat lon max min buffer start finish)).Gives
      key := by
    rw [Json.Gives, hfind]
    cases value with
    | null => exact hvalue rfl
    | _ => trivial
  rw [Json.get_eq_returns_iff, hfind]
  simp [hgiven]

theorem get_members {β : Type} {current x : β} {read : Json → Attempt β} {key : String}
    {value : Json}
    (hlookup : (plan.members lat lon max min buffer start finish).lookup key =
      some (some value))
    (hvalue : value ≠ .null) (hread : read value = .returns x) :
    (Json.ofMembers (plan.members lat lon max min buffer start finish)).get current
      read key = .returns x :=
  (get_members_iff hlookup hvalue).mpr hread

/-- A member that was not written leaves the default. -/
theorem get_members_none {β : Type} {current : β} {read : Json → Attempt β}
    {key : String}
    (hlookup : (plan.members lat lon max min buffer start finish).lookup key =
      some none) :
    (Json.ofMembers (plan.members lat lon max min buffer start finish)).get current
      read key = .returns current := by
  refine Json.get_eq_returns_iff.mpr (Or.inl ⟨?_, rfl⟩)
  rw [Json.Gives, find_members, hlookup]
  exact not_false

theorem getFloat_members {key : String} {x : Double}
    (hlookup : (plan.members lat lon max min buffer start finish).lookup key =
      some (some (.numberFloat x)))
    (hfloat : narrowing.toFloat x = x) :
    (Json.ofMembers (plan.members lat lon max min buffer start finish)).get none
      (decodeFloat narrowing) key = .returns (some x) :=
  get_members hlookup (by simp) (by simp [decodeFloat, Json.getFloat, hfloat])

theorem getTime_members {current time : δ} {key s : String}
    (hlookup : (plan.members lat lon max min buffer start finish).lookup key =
      some (some (.string s)))
    (hparse : text.parse s = .returns time) :
    (Json.ofMembers (plan.members lat lon max min buffer start finish)).get current
      (decodeDateTime text) key = .returns time :=
  get_members hlookup (by simp) (by simp [decodeDateTime, Json.getString, hparse])

theorem getFlightId_members :
    (Json.ofMembers (plan.members lat lon max min buffer start finish)).get none
      decodeOptionalString "flight_id" = .returns plan.flightId := by
  have hlookup : (plan.members lat lon max min buffer start finish).lookup "flight_id" =
      some (plan.flightId.map .string) := rfl
  cases hflightId : plan.flightId with
  | none => exact get_members_none (by rw [hlookup, hflightId]; rfl)
  | some flightId =>
      have hwritten : (plan.members lat lon max min buffer start finish).lookup
          "flight_id" = some (some (.string flightId)) := by
        rw [hlookup, hflightId]
        rfl
      exact get_members hwritten (by simp) rfl

theorem getAircraftId_members :
    (Json.ofMembers (plan.members lat lon max min buffer start finish)).get ""
      Json.getString "aircraft_id" = .returns plan.aircraftId := by
  have hlookup : (plan.members lat lon max min buffer start finish).lookup
      "aircraft_id" =
        some (if plan.aircraftId = "" then none else some (.string plan.aircraftId)) := rfl
  by_cases hempty : plan.aircraftId = ""
  · rw [hempty]
    exact get_members_none (by rw [hlookup, if_pos hempty])
  · exact get_members (by rw [hlookup, if_neg hempty]) (by simp) rfl

theorem decodeFeatures_encode (features : List (String × RuleSet.Feature.Value)) :
    decodeFeatures toDouble (.object (features.map fun (key, value) => (key, value.encode))) =
      .returns features := by
  simp [decodeFeatures, Function.comp_def, RuleSet.Feature.Value.decode_encode]

theorem decodeFlightFeatures_members :
    decodeFlightFeatures toDouble
      (Json.ofMembers (plan.members lat lon max min buffer start finish)) =
        .returns plan.features := by
  have hfind : (Json.ofMembers (plan.members lat lon max min buffer start finish)).find
      "flight_features" = if plan.features = [] then none
        else some (.object (plan.features.map fun (key, value) => (key, value.encode))) := by
    rw [find_members]
    rfl
  by_cases hempty : plan.features = []
  · simp [decodeFlightFeatures, Json.count, hfind, hempty]
  · rw [if_neg hempty] at hfind
    rw [decodeFlightFeatures, Json.count, hfind, Json.index_of_find hfind, hfind]
    exact decodeFeatures_encode plan.features

theorem getRulesets_members :
    (Json.ofMembers (plan.members lat lon max min buffer start finish)).get []
      decodeStrings "rulesets" = .returns plan.rulesets := by
  have hlookup : (plan.members lat lon max min buffer start finish).lookup "rulesets" =
      some (some (.array (plan.rulesets.map .string))) := rfl
  exact get_members hlookup (by simp) (Attempt.mapM_map_eq_returns fun _ _ => rfl)

end Written

theorem geometry_encode_ne_null (geometry : Geometry) : geometry.encode ≠ .null := by
  cases geometry with
  | _ => simp [Geometry.encode, Geometry.document]

/-- A plan without geometry is not decoded from what is written for it. -/
theorem decode_encode_invalid :
    Geometry.decode narrowing Geometry.invalid.encode = .throws
      (Json.exceptionWhat "type_error" 302 "type must be string, but is null") := by
  rw [Geometry.decode_eq]
  rfl

/-- What is written for a plan with a geometry is decoded as the plan. -/
theorem decode_members {plan : FlightPlan δ} (h : plan.IsDecoded narrowing)
    (hgeometry : plan.geometry ≠ .invalid) {lat lon max min buffer : Double}
    (hlat : plan.takeoffLatitude = some lat) (hlon : plan.takeoffLongitude = some lon)
    (hmax : plan.maxAltitudeAgl = some max) (hmin : plan.minAltitudeAgl = some min)
    (hbuffer : plan.buffer = some buffer) {start finish : String}
    (hstart : text.parse start = .returns plan.startTime)
    (hfinish : text.parse finish = .returns plan.endTime) {j : Json}
    (hj : j = Json.ofMembers (plan.members (.numberFloat lat) (.numberFloat lon)
      (.numberFloat max) (.numberFloat min) (.numberFloat buffer) (.string start)
      (.string finish))) :
    decode text narrowing toDouble j = .returns plan := by
  have readId : j.get "" Json.getString "id" = .returns plan.id := by
    rw [hj]
    exact get_members rfl (by simp) rfl
  have readFlightId : j.get none decodeOptionalString "flight_id" =
      .returns plan.flightId := by
    rw [hj]
    exact getFlightId_members
  have readLatitude : j.get none (decodeFloat narrowing) "takeoff_latitude" =
      .returns plan.takeoffLatitude := by
    rw [hj, hlat]
    exact getFloat_members rfl (h.takeoffLatitude lat hlat)
  have readLongitude : j.get none (decodeFloat narrowing) "takeoff_longitude" =
      .returns plan.takeoffLongitude := by
    rw [hj, hlon]
    exact getFloat_members rfl (h.takeoffLongitude lon hlon)
  have readMax : j.get none (decodeFloat narrowing) "max_altitude_agl" =
      .returns plan.maxAltitudeAgl := by
    rw [hj, hmax]
    exact getFloat_members rfl (h.maxAltitudeAgl max hmax)
  have readMin : j.get none (decodeFloat narrowing) "min_altitude_agl" =
      .returns plan.minAltitudeAgl := by
    rw [hj, hmin]
    exact getFloat_members rfl (h.minAltitudeAgl min hmin)
  have readGeometry : j.get .invalid (Geometry.decode narrowing) "geometry" =
      .returns plan.geometry := by
    rw [hj]
    exact get_members rfl (geometry_encode_ne_null plan.geometry)
      (Geometry.decode_encode (h.geometry hgeometry))
  have readStart : j.get text.initial (decodeDateTime text) "start_time" =
      .returns plan.startTime := by
    rw [hj]
    exact getTime_members rfl hstart
  have readEnd : j.get text.initial (decodeDateTime text) "end_time" =
      .returns plan.endTime := by
    rw [hj]
    exact getTime_members rfl hfinish
  have readPilotId : j.get "" Json.getString "pilot_id" = .returns plan.pilotId := by
    rw [hj]
    exact get_members rfl (by simp) rfl
  have readAircraftId : j.get "" Json.getString "aircraft_id" =
      .returns plan.aircraftId := by
    rw [hj]
    exact getAircraftId_members
  have readBuffer : j.get none (decodeFloat narrowing) "buffer" =
      .returns plan.buffer := by
    rw [hj, hbuffer]
    exact getFloat_members rfl (h.buffer buffer hbuffer)
  have readRulesets : j.get [] decodeStrings "rulesets" = .returns plan.rulesets := by
    rw [hj]
    exact getRulesets_members
  have readFeatures : decodeFlightFeatures toDouble j = .returns plan.features := by
    rw [hj]
    exact decodeFlightFeatures_members
  simp only [decode, readId, readFlightId, readLatitude, readLongitude, readMax, readMin,
    readGeometry, readStart, readEnd, readPilotId, readAircraftId, readBuffer,
    readRulesets, readFeatures, Attempt.returns_bind, Attempt.pure_eq]

/-- The geometry and the times that were written are those that are decoded. -/
theorem read_of_decode_members {plan plan' : FlightPlan δ}
    {lat lon max min buffer : Json} {start finish : String}
    (h : decode text narrowing toDouble (Json.ofMembers (plan.members lat lon max min
      buffer (.string start) (.string finish))) = .returns plan') :
    Geometry.decode narrowing plan.geometry.encode = .returns plan'.geometry ∧
      text.parse start = .returns plan'.startTime ∧
      text.parse finish = .returns plan'.endTime := by
  simp only [decode, Attempt.bind_eq_returns_iff] at h
  obtain ⟨_, -, _, -, _, -, _, -, _, -, _, -, geometry, hgeometry, startTime, hstart,
    endTime, hfinish, _, -, _, -, _, -, _, -, _, -, h⟩ := h
  cases h
  rw [get_members_iff rfl (geometry_encode_ne_null plan.geometry)] at hgeometry
  rw [get_members_iff rfl (by simp)] at hstart hfinish
  exact ⟨hgeometry, hstart, hfinish⟩

/-- A plan comes back from its encoding exactly if every member has a text that it
comes back from. -/
theorem exists_decode_encode_iff {plan : FlightPlan δ} (h : plan.IsDecoded narrowing) :
    (∃ j, plan.encode text = .returns j ∧
        decode text narrowing toDouble j = .returns plan) ↔ plan.IsEncodable text := by
  constructor
  · rintro ⟨j, hencode, hdecode⟩
    obtain ⟨lat, lon, max, min, buffer, hlat, hlon, hmax, hmin, hbuffer, start, finish,
      hstart, hfinish, rfl⟩ := encode_eq_returns_iff.mp hencode
    obtain ⟨hgeometry, hparseStart, hparseFinish⟩ := read_of_decode_members hdecode
    refine
      { takeoffLatitude := by simp [hlat]
        takeoffLongitude := by simp [hlon]
        maxAltitudeAgl := by simp [hmax]
        minAltitudeAgl := by simp [hmin]
        buffer := by simp [hbuffer]
        geometry := fun hinvalid => ?_
        startTime := ⟨start, hstart, hparseStart⟩
        endTime := ⟨finish, hfinish, hparseFinish⟩ }
    rw [hinvalid, decode_encode_invalid] at hgeometry
    cases hgeometry
  · intro hencodable
    obtain ⟨lat, hlat⟩ := Option.isSome_iff_exists.mp hencodable.takeoffLatitude
    obtain ⟨lon, hlon⟩ := Option.isSome_iff_exists.mp hencodable.takeoffLongitude
    obtain ⟨max, hmax⟩ := Option.isSome_iff_exists.mp hencodable.maxAltitudeAgl
    obtain ⟨min, hmin⟩ := Option.isSome_iff_exists.mp hencodable.minAltitudeAgl
    obtain ⟨buffer, hbuffer⟩ := Option.isSome_iff_exists.mp hencodable.buffer
    obtain ⟨start, hstart, hparseStart⟩ := hencodable.startTime
    obtain ⟨finish, hfinish, hparseFinish⟩ := hencodable.endTime
    exact ⟨_, encode_eq_returns_iff.mpr ⟨lat, lon, max, min, buffer, hlat, hlon, hmax, hmin,
        hbuffer, start, finish, hstart, hfinish, rfl⟩,
      decode_members h hencodable.geometry hlat hlon hmax hmin hbuffer hparseStart
        hparseFinish rfl⟩

/-- A plan that was decoded comes back from its encoding exactly if the document
was complete. -/
theorem exists_decode_encode_iff_of_decode {j : Json} {plan : FlightPlan δ}
    (h : decode text narrowing toDouble j = .returns plan) :
    (∃ j', plan.encode text = .returns j' ∧
        decode text narrowing toDouble j' = .returns plan) ↔ IsComplete text j := by
  obtain ⟨hdecoded, hiff⟩ := isDecoded_of_decode h
  exact (exists_decode_encode_iff hdecoded).trans hiff

/-! ## A plan without geometry -/

/-- Texts as points in time, the text that cannot be parsed among them. -/
def texts : DateTime.Text String where
  initial := "not-a-date-time"
  parse := fun s =>
    if s = "not-a-date-time" then .throws "bad lexical cast" else .returns s
  generate := .returns
  parse_generate := fun s time h => by
    refine ⟨time, rfl, ?_⟩
    split at h
    · cases h
    · next hs =>
        cases h
        rw [if_neg hs]

/-- Every member but the geometry and the features. -/
def withoutGeometry : Json :=
  .object
    [("buffer", .numberUnsigned 100), ("end_time", .string "2018-07-01T11:00:00Z"),
      ("id", .string "plan"), ("max_altitude_agl", .numberUnsigned 50),
      ("min_altitude_agl", .numberUnsigned 0),
      ("start_time", .string "2018-07-01T10:00:00Z"),
      ("takeoff_latitude", .numberUnsigned 34),
      ("takeoff_longitude", .numberInteger (-118))]

def planWithoutGeometry : FlightPlan String where
  id := "plan"
  flightId := none
  pilotId := ""
  aircraftId := ""
  takeoffLatitude := some (.finite 34)
  takeoffLongitude := some (.finite (-118))
  maxAltitudeAgl := some (.finite 50)
  minAltitudeAgl := some (.finite 0)
  buffer := some (.finite 100)
  geometry := .invalid
  startTime := "2018-07-01T10:00:00Z"
  endTime := "2018-07-01T11:00:00Z"
  rulesets := []
  features := []

theorem decode_withoutGeometry :
    decode texts Geometry.exactly (fun value => .finite value) withoutGeometry =
      .returns planWithoutGeometry := rfl

/-- The plan is written, but what is written cannot be decoded. -/
theorem decode_encode_planWithoutGeometry :
    decode texts Geometry.exactly (fun value => .finite value) withoutGeometry =
        .returns planWithoutGeometry ∧
      ∃ j, planWithoutGeometry.encode texts = .returns j ∧
        decode texts Geometry.exactly (fun value => .finite value) j = .throws
          (Json.exceptionWhat "type_error" 302 "type must be string, but is null") := by
  refine ⟨decode_withoutGeometry, _, rfl, ?_⟩
  have hwritten : Geometry.invalid.encode = .object [("type", .null)] := by
    simp [Geometry.encode, Geometry.Kind.encode]
  have hgeometry : Geometry.decode Geometry.exactly Geometry.invalid.encode = _ :=
    decode_encode_invalid
  rw [hwritten] at hgeometry
  simp [decode, Json.get, Json.count, Json.find, Json.atKey, Json.ofMembers, members,
    planWithoutGeometry, List.lookup_cons, hwritten, hgeometry, decodeFloat, Json.getFloat,
    Json.getString]

theorem isComplete_iff_withoutGeometry :
    (∃ j, planWithoutGeometry.encode texts = .returns j ∧
        decode texts Geometry.exactly (fun value => .finite value) j =
          .returns planWithoutGeometry) ↔ IsComplete texts withoutGeometry :=
  exists_decode_encode_iff_of_decode decode_withoutGeometry

end FlightPlan
end Codec.Json
end Airmap
