import PlatformSdk.Airspace
import PlatformSdk.Codec.Json.FlightPlan

/-!
# Airspaces as JSON documents

`codec::json::decode` for `Airspace`.  The name of the type is printed, parsed and looked
up by three enumerations, of which the parser lacks one name.  It leaves its output alone
for a name that it does not know, and `get` makes this output without a value, so that
the details depend on what was in the memory before (`Memory`).
-/

namespace Airmap

open Machine (Attempt)

/-- What is in the memory of the variables that get no value before they are read. -/
structure Airspace.Memory where
  type : Int32
  ruleType : ℕ → Int32
  runwayLength : ℕ → Double
  runwayBearing : ℕ → Double
  airportUse : Int32
  specialUseAirspaceType : Int32
  temporaryFlightRestrictionType : Int32
  heliportUsage : Int32
  powerPlantCode : UInt64

/-- `get<bool>`. -/
def Json.getBool : Json → Attempt Bool
  | .boolean value => .returns value
  | j => .throws
      (exceptionWhat "type_error" 302 ("type must be boolean, but is " ++ j.typeName))

/-- A member that is read if it is there, empty or not. -/
def Json.getPresent {β : Type} (current : β) (read : Json → Attempt β) (name : String)
    (j : Json) : Attempt β := do
  if 0 < j.count name then
    read (← j.index name)
  else
    return current

/-- A member that is read if it is there and not empty. -/
def Json.getGiven {β : Type} (current : β) (read : Json → Attempt β) (name : String)
    (j : Json) : Attempt β := do
  if 0 < j.count name then
    match ← j.index name with
    | .null => return current
    | value => read value
  else
    return current

namespace Airspace

/-! ## Names of types -/

/-- The value of an enumerator. -/
def Kind.value : Kind → Int32
  | .invalid => 0
  | .airport => (1 : Int32) <<< 0
  | .controlledAirspace => (1 : Int32) <<< 1
  | .specialUseAirspace => (1 : Int32) <<< 2
  | .tfr => (1 : Int32) <<< 3
  | .wildfire => (1 : Int32) <<< 4
  | .park => (1 : Int32) <<< 5
  | .powerPlant => (1 : Int32) <<< 6
  | .heliport => (1 : Int32) <<< 7
  | .prison => (1 : Int32) <<< 8
  | .school => (1 : Int32) <<< 9
  | .hospital => (1 : Int32) <<< 10
  | .fire => (1 : Int32) <<< 11
  | .emergency => (1 : Int32) <<< 12

/-- The types that are printed, with their names. -/
def printedNames : List (Kind × String) :=
  [(.airport, "airport"), (.controlledAirspace, "controlled_airspace"),
    (.specialUseAirspace, "special_use_airspace"), (.tfr, "tfr"), (.wildfire, "wildfire"),
    (.park, "park"), (.powerPlant, "power_plant"), (.heliport, "heliport"),
    (.prison, "prison"), (.school, "school"), (.hospital, "hospital"), (.fire, "fire"),
    (.emergency, "emergency")]

/-- `operator<<` for types. -/
def print (types : Int32) : String :=
  if types = Kind.invalid.value then ""
  else ",".intercalate <| printedNames.filterMap fun (kind, name) =>
    if types &&& kind.value = kind.value then some name else none

variable (memory : Memory)

/-- `decode(Airspace::Type)` into a variable without a value. -/
def decodeType (j : Json) : Attempt Int32 := do
  let t ← j.getString
  if t = "airport" then return Kind.airport.value
  else if t = "controlled_airspace" then return Kind.controlledAirspace.value
  else if t = "special_use_airspace" then return Kind.specialUseAirspace.value
  else if t = "tfr" then return Kind.tfr.value
  else if t = "wildfire" then return Kind.wildfire.value
  else if t = "park" then return Kind.park.value
  else if t = "power_plant" then return Kind.powerPlant.value
  else if t = "heliport" then return Kind.heliport.value
  else if t = "prison" then return Kind.prison.value
  else if t = "school" then return Kind.school.value
  else if t = "hospital" then return Kind.hospital.value
  else if t = "fire" then return Kind.fire.value
  else if t = "wildfire" then return Kind.wildfire.value
  else return memory.type

/-! ## Details -/

variable (narrowing : Double.Narrowing) (lexicalCast : String → Attempt Double)

/-- The length of a runway, which is a number or the text of one. -/
def Runway.decodeLength (current : Double) (l : Json) : Attempt Double :=
  match l with
  | .numberUnsigned _ | .numberInteger _ | .numberFloat _ => l.getFloat narrowing
  | .string value => lexicalCast value
  | _ => return current

/-- `decode(Airport::Runway)`, for the runway with an index. -/
def Runway.decode (index : ℕ) (j : Json) : Attempt Runway := do
  let name ← j.get "" Json.getString "name"
  let length ← decodeLength narrowing lexicalCast (memory.runwayLength index)
    (← j.index "length")
  let bearing ← j.get (memory.runwayBearing index) (Json.getFloat narrowing) "bearing"
  return { name, length, bearing }

/-- `decode(std::vector<Airport::Runway>)`. -/
def decodeRunways (j : Json) : Attempt (List Runway) :=
  j.elements.zipIdx.mapM fun (element, index) =>
    Runway.decode memory narrowing lexicalCast index element

/-- `decode(Airport::Use)` into a variable without a value; nothing is read. -/
def Airport.decodeUse (_ : Json) : Attempt Int32 := return memory.airportUse

/-- `decode(Airport)`. -/
def Airport.decode (j : Json) : Attempt Airport := do
  let iata ← j.get "" Json.getString "iata"
  let icao ← j.get "" Json.getString "icao"
  let paved ← j.get false Json.getBool "paved"
  let phone ← j.get "" Json.getString "phone"
  let tower ← j.get false Json.getBool "tower"
  let runways ← j.get [] (decodeRunways memory narrowing lexicalCast) "runways"
  let elevation ← j.get (.finite 0) (Json.getFloat narrowing) "elevation"
  let longestRunway ← j.get (.finite 0) (Json.getFloat narrowing) "longest_runway"
  let use ← j.get 0 (decodeUse memory) "use"
  return { iata, icao, paved, phone, tower, runways, elevation, longestRunway, use }

/-- `decode(ControlledAirspace)`. -/
def ControlledAirspace.decode (j : Json) : Attempt ControlledAirspace := do
  let airspaceClassification ← j.get "" Json.getString "airspace_classification"
  return { airspaceClassification }

/-- `decode(SpecialUseAirspace)`; the type is there, but it is not read. -/
def SpecialUseAirspace.decode (j : Json) : Attempt SpecialUseAirspace := do
  let _ ← j.index "type"
  return { type := memory.specialUseAirspaceType }

/-- `decode(TemporaryFlightRestriction)`; the type is not read. -/
def TemporaryFlightRestriction.decode (j : Json) : Attempt TemporaryFlightRestriction := do
  let url ← j.get "" Json.getString "url"
  let reason ← j.get "" Json.getString "notam_reason"
  return { url, type := memory.temporaryFlightRestrictionType, reason }

/-- `decode(Wildfire)`. -/
def Wildfire.decode (j : Json) : Attempt Wildfire := do
  let effectiveDate ← j.get "" Json.getString "date_effective"
  return { effectiveDate }

/-- `decode(PowerPlant)`. -/
def PowerPlant.decode (j : Json) : Attempt PowerPlant := do
  let technology ← j.get "" Json.getString "tech"
  let code ← j.get memory.powerPlantCode Json.getUint64 "plant_code"
  return { technology, code }

/-- `decode(Heliport)`; the usage is not read. -/
def Heliport.decode (j : Json) : Attempt Heliport := do
  let faaId ← j.get "" Json.getString "faa"
  let phone ← j.get "" Json.getString "phone"
  return { faaId, phone, usage := memory.heliportUsage }

/-- The details of a type; classes without members have nothing to be read. -/
def Kind.decodeDetails (kind : Kind) (properties : Json) : Attempt Details :=
  match kind with
  | .invalid => return .invalid
  | .airport =>
      return .airport (← Airport.decode memory narrowing lexicalCast properties)
  | .controlledAirspace =>
      return .controlledAirspace (← ControlledAirspace.decode properties)
  | .specialUseAirspace =>
      return .specialUseAirspace (← SpecialUseAirspace.decode memory properties)
  | .tfr => return .tfr (← TemporaryFlightRestriction.decode memory properties)
  | .wildfire => return .wildfire (← Wildfire.decode properties)
  | .park => return .park
  | .powerPlant => return .powerPlant (← PowerPlant.decode memory properties)
  | .heliport => return .heliport (← Heliport.decode memory properties)
  | .prison => return .prison
  | .school => return .school
  | .hospital => return .hospital
  | .fire => return .fire
  | .emergency => return .emergency

/-- The case labels of the `switch` in `decode(Airspace)`. -/
def switchLabels : List Kind :=
  [.airport, .controlledAirspace, .specialUseAirspace, .tfr, .wildfire, .park, .powerPlant,
    .heliport, .prison, .school, .hospital, .fire, .emergency]

/-- The `switch` of `decode(Airspace)`. -/
def decodeDetails (j : Json) : Attempt Details := do
  if 0 < j.count "type" then
    let type ← decodeType memory (← j.index "type")
    match switchLabels.find? fun kind => kind.value = type with
    | some kind =>
        kind.decodeDetails memory narrowing lexicalCast (← j.index "properties")
    | none => return .invalid
  else
    return .invalid

/-! ## Airspaces -/

/-- `decode(RelatedGeometry)`. -/
def RelatedGeometry.decode (j : Json) : Attempt RelatedGeometry := do
  let id ← j.get "" Json.getString "id"
  let geometry ← j.get .invalid (Geometry.decode narrowing) "geometry"
  return { id, geometry }

/-- `decode` of a map of related geometries; only members of an object have a key. -/
def decodeRelatedGeometries : Json → Attempt (List (String × RelatedGeometry))
  | .object members => members.mapM fun (key, value) => do
      return (key, ← RelatedGeometry.decode narrowing value)
  | j =>
      if j.size = 0 then return []
      else .throws (Json.exceptionWhat "invalid_iterator" 207
        "cannot use key() for non-object iterators")

/-- `decode(Rule)`, for the rule with an index; the type is not read. -/
def decodeRule (index : ℕ) (j : Json) : Attempt Rule := do
  let id ← j.get "" Json.getString "id"
  let name ← j.get "" Json.getString "name"
  let description ← j.get "" Json.getString "description"
  let jurisdiction ← j.get "" Json.getString "jurisdiction"
  return { type := memory.ruleType index, id, name, description, jurisdiction }

/-- `decode(std::vector<Rule>)`. -/
def decodeRules (j : Json) : Attempt (List Rule) :=
  j.elements.zipIdx.mapM fun (element, index) => decodeRule memory index element

variable (text : DateTime.Text Int64)

/-- `decode(Airspace)` into an airspace that was made without arguments, up to the type. -/
def decodeMembers (j : Json) : Attempt Airspace := do
  let id ← (← j.index "id").getString
  let name ← j.getGiven "" Json.getString "name"
  let country ← j.getGiven "" Json.getString "country"
  let state ← j.getGiven "" Json.getString "state"
  let city ← j.getGiven "" Json.getString "city"
  let geometry ← j.getPresent .invalid (Geometry.decode narrowing) "geometry"
  let relatedGeometries ←
    j.getPresent [] (decodeRelatedGeometries narrowing) "related_geometry"
  let rules ← j.getPresent [] (decodeRules memory) "rules"
  let lastUpdated ←
    j.getGiven text.initial (Codec.Json.FlightPlan.decodeDateTime text) "last_updated"
  return { id, name, country, state, city, geometry, relatedGeometries, rules, lastUpdated }

/-- `decode(Airspace)`. -/
def decode (j : Json) : Attempt Airspace := do
  let airspace ← decodeMembers memory narrowing text j
  let details ← decodeDetails memory narrowing lexicalCast j
  return { airspace with details }

/-! ## The name of the type -/

/-- The name under which a type is printed. -/
def Kind.name (kind : Kind) : String := (printedNames.lookup kind).getD ""

theorem print_value (kind : Kind) : print kind.value = kind.name := by
  cases kind with
  | _ => rfl

theorem find?_printedNames {kind : Kind} (h : kind ≠ .invalid) :
    (printedNames.find? fun entry => entry.2 = kind.name) = some (kind, kind.name) := by
  cases kind with
  | invalid => exact absurd rfl h
  | _ => rfl

theorem Kind.eq_of_name_eq {kind kind' : Kind} (h : kind ≠ .invalid) (h' : kind' ≠ .invalid)
    (hname : kind.name = kind'.name) : kind = kind' := by
  have hfind := find?_printedNames h
  rw [hname, find?_printedNames h', Option.some.injEq, Prod.mk.injEq] at hfind
  exact hfind.1.symm

theorem find?_switchLabels {kind : Kind} (h : kind ≠ .invalid) :
    switchLabels.find? (fun label => label.value = kind.value) = some kind := by
  cases kind with
  | invalid => exact absurd rfl h
  | _ => rfl

variable {memory narrowing lexicalCast text} {kind : Kind} {j properties : Json} {s : String}
  {airspace : Airspace}

theorem decodeType_name (h : kind ≠ .invalid) (hemergency : kind ≠ .emergency) :
    decodeType memory (.string kind.name) = .returns kind.value := by
  cases kind with
  | invalid => exact absurd rfl h
  | emergency => exact absurd rfl hemergency
  | _ => rfl

/-- The variable keeps its value for all other strings. -/
theorem decodeType_of_ne
    (h : ∀ kind : Kind, kind ≠ .invalid → kind ≠ .emergency → s ≠ kind.name) :
    decodeType memory (.string s) = .returns memory.type := by
  have hairport : s ≠ "airport" := h .airport (by decide) (by decide)
  have hcontrolled : s ≠ "controlled_airspace" := h .controlledAirspace (by decide) (by decide)
  have hspecialUse : s ≠ "special_use_airspace" :=
    h .specialUseAirspace (by decide) (by decide)
  have htfr : s ≠ "tfr" := h .tfr (by decide) (by decide)
  have hwildfire : s ≠ "wildfire" := h .wildfire (by decide) (by decide)
  have hpark : s ≠ "park" := h .park (by decide) (by decide)
  have hpowerPlant : s ≠ "power_plant" := h .powerPlant (by decide) (by decide)
  have hheliport : s ≠ "heliport" := h .heliport (by decide) (by decide)
  have hprison : s ≠ "prison" := h .prison (by decide) (by decide)
  have hschool : s ≠ "school" := h .school (by decide) (by decide)
  have hhospital : s ≠ "hospital" := h .hospital (by decide) (by decide)
  have hfire : s ≠ "fire" := h .fire (by decide) (by decide)
  simp [decodeType, Json.getString, hairport, hcontrolled, hspecialUse, htfr, hwildfire,
    hpark, hpowerPlant, hheliport, hprison, hschool, hhospital, hfire]

theorem Kind.kind_of_decodeDetails {details : Details}
    (h : kind.decodeDetails memory narrowing lexicalCast properties = .returns details) :
    details.kind = kind := by
  cases kind with
  | airport | controlledAirspace | specialUseAirspace | tfr | wildfire | powerPlant
  | heliport =>
      obtain ⟨members, -, hdetails⟩ := Attempt.bind_eq_returns_iff.mp h
      cases hdetails
      rfl
  | _ =>
      cases h
      rfl

theorem decodeDetails_eq {type : Int32} (htype : j.find "type" = some (.string s))
    (hproperties : j.find "properties" = some properties)
    (hparse : decodeType memory (.string s) = .returns type) :
    decodeDetails memory narrowing lexicalCast j =
      match switchLabels.find? fun label => label.value = type with
      | some kind => kind.decodeDetails memory narrowing lexicalCast properties
      | none => .returns .invalid := by
  have hcount : 0 < j.count "type" := by simp [Json.count, htype]
  rw [decodeDetails, if_pos hcount, Json.index_of_find htype, htype]
  simp only [Attempt.returns_bind, hparse, Json.index_of_find htype, hproperties,
    Attempt.pure_eq]

theorem decodeDetails_of_kind (h : kind ≠ .invalid)
    (htype : j.find "type" = some (.string s))
    (hproperties : j.find "properties" = some properties)
    (hparse : decodeType memory (.string s) = .returns kind.value) :
    decodeDetails memory narrowing lexicalCast j =
      kind.decodeDetails memory narrowing lexicalCast properties := by
  rw [decodeDetails_eq htype hproperties hparse, find?_switchLabels h]

theorem decode_eq_returns_iff :
    decode memory narrowing lexicalCast text j = .returns airspace ↔
      ∃ members details, decodeMembers memory narrowing text j = .returns members ∧
        decodeDetails memory narrowing lexicalCast j = .returns details ∧
        airspace = { members with details } := by
  simp only [decode, Attempt.bind_eq_returns_iff, Attempt.pure_eq, Attempt.returns.injEq]
  constructor
  · rintro ⟨members, hmembers, details, hdetails, rfl⟩
    exact ⟨members, details, hmembers, hdetails, rfl⟩
  · rintro ⟨members, details, hmembers, hdetails, rfl⟩
    exact ⟨members, hmembers, details, hdetails, rfl⟩

/-- The members before the type do not depend on what the variable for the type holds. -/
theorem decode_of_decodeDetails {details : Details} (type : Int32)
    (h : decode memory narrowing lexicalCast text j = .returns airspace)
    (hdetails : decodeDetails { memory with type } narrowing lexicalCast j =
      .returns details) :
    decode { memory with type } narrowing lexicalCast text j =
      .returns { airspace with details } := by
  obtain ⟨members, _, hmembers, -, rfl⟩ := decode_eq_returns_iff.mp h
  exact decode_eq_returns_iff.mpr ⟨members, details, hmembers, hdetails, rfl⟩

variable (memory narrowing lexicalCast) in
/-- The airspace has the type whose name the string is, with its details, and no details for
all other strings. -/
structure FollowsName (s : String) (properties : Json) (airspace : Airspace) : Prop where
  named : ∀ kind : Kind, kind ≠ .invalid → s = print kind.value → airspace.kind = kind ∧
    kind.decodeDetails memory narrowing lexicalCast properties = .returns airspace.details
  other : (∀ kind : Kind, kind ≠ .invalid → s ≠ print kind.value) →
    airspace.kind = .invalid ∧ airspace.details = .invalid

theorem followsName_of_name (htype : j.find "type" = some (.string kind.name))
    (hproperties : j.find "properties" = some properties) (hinvalid : kind ≠ .invalid)
    (hemergency : kind ≠ .emergency)
    (hdecode : decode memory narrowing lexicalCast text j = .returns airspace) :
    FollowsName memory narrowing lexicalCast kind.name properties airspace := by
  obtain ⟨members, details, -, hdetails, rfl⟩ := decode_eq_returns_iff.mp hdecode
  rw [decodeDetails_of_kind hinvalid htype hproperties
    (decodeType_name hinvalid hemergency)] at hdetails
  constructor
  · intro kind' hinvalid' hname
    rw [print_value] at hname
    obtain rfl := Kind.eq_of_name_eq hinvalid hinvalid' hname
    exact ⟨Kind.kind_of_decodeDetails hdetails, hdetails⟩
  · intro hother
    exact absurd (print_value kind).symm (hother kind hinvalid)

/-- For any other string there is something in the memory with which the type is not the one
that the string stands for. -/
theorem exists_not_followsName
    (hne : ∀ kind : Kind, kind ≠ .invalid → kind ≠ .emergency → s ≠ kind.name)
    (htype : j.find "type" = some (.string s))
    (hproperties : j.find "properties" = some properties)
    (haccepts : decode memory narrowing lexicalCast text j = .returns airspace) :
    ∃ memory airspace, decode memory narrowing lexicalCast text j = .returns airspace ∧
      ¬ FollowsName memory narrowing lexicalCast s properties airspace := by
  have hparse (type : Int32) : decodeType { memory with type } (.string s) = .returns type :=
    decodeType_of_ne hne
  by_cases hs : s = Kind.emergency.name
  · -- With a variable that holds no type, there are no details of an emergency.
    have hdetails : decodeDetails { memory with type := 0 } narrowing lexicalCast j =
        .returns .invalid := decodeDetails_eq htype hproperties (hparse 0)
    refine ⟨_, _, decode_of_decodeDetails 0 haccepts hdetails, fun hfollows => ?_⟩
    cases (hfollows.named .emergency (by decide) (hs.trans (print_value _).symm)).1
  · -- With one that holds the type of parks, the airspace is one.
    have hdetails :
        decodeDetails { memory with type := Kind.park.value } narrowing lexicalCast j =
          .returns .park :=
      decodeDetails_of_kind (by decide) htype hproperties (hparse _)
    have hother : ∀ kind : Kind, kind ≠ .invalid → s ≠ print kind.value := by
      intro kind hinvalid
      rw [print_value]
      by_cases hemergency : kind = .emergency
      · exact hemergency ▸ hs
      · exact hne kind hinvalid hemergency
    refine ⟨_, _, decode_of_decodeDetails _ haccepts hdetails, fun hfollows => ?_⟩
    cases (hfollows.other hother).1

/-- An accepted document gives an airspace of the type that it names, whatever is in the
memory, exactly if it names one of the types that are printed other than `emergency`. -/
theorem followsName_iff (htype : j.find "type" = some (.string s))
    (hproperties : j.find "properties" = some properties)
    (haccepts : decode memory narrowing lexicalCast text j = .returns airspace) :
    (∀ memory airspace, decode memory narrowing lexicalCast text j = .returns airspace →
        FollowsName memory narrowing lexicalCast s properties airspace) ↔
      ∃ kind : Kind, kind ≠ .invalid ∧ kind ≠ .emergency ∧ s = print kind.value := by
  simp only [print_value]
  constructor
  · intro hfollows
    by_contra! hne
    obtain ⟨memory, airspace, hdecode, hnot⟩ :=
      exists_not_followsName hne htype hproperties haccepts
    exact hnot (hfollows memory airspace hdecode)
  · rintro ⟨kind, hinvalid, hemergency, rfl⟩ memory airspace hdecode
    exact followsName_of_name htype hproperties hinvalid hemergency hdecode

/-- Memory that was never written to, with something where the type is stored. -/
def zeros (type : Int32) : Memory :=
  { type, ruleType := fun _ => 0, runwayLength := fun _ => .finite 0,
    runwayBearing := fun _ => .finite 0, airportUse := 0, specialUseAirspaceType := 0,
    temporaryFlightRestrictionType := 0, heliportUsage := 0, powerPlantCode := 0 }

/-- No text is a number. -/
def noNumbers (_ : String) : Attempt Double :=
  .throws "bad lexical cast: source type value could not be interpreted as target"

/-- No text is a time. -/
def noTimes : DateTime.Text Int64 where
  initial := 0
  parse _ := .throws "bad lexical cast: source type value could not be interpreted as target"
  generate _ := .throws "Date time is not valid"
  parse_generate _ _ h := nomatch h

/-- An airspace of a type. -/
def document (name : String) : Json :=
  .object [("id", .string "1"), ("properties", .object []), ("type", .string name)]

/-- For parks. -/
theorem followsName_iff_park :
    (∀ memory airspace,
      decode memory Geometry.exactly noNumbers noTimes (document "park") =
          .returns airspace →
        FollowsName memory Geometry.exactly noNumbers "park" (.object []) airspace) ↔
      ∃ kind : Kind, kind ≠ .invalid ∧ kind ≠ .emergency ∧ "park" = print kind.value :=
  have haccepts : decode (zeros 0) Geometry.exactly noNumbers noTimes (document "park") =
      .returns { id := "1", lastUpdated := 0, details := .park } := rfl
  followsName_iff rfl rfl haccepts

/-- Emergencies are decoded without a type, and an airspace of an unknown type as a park. -/
theorem emergency_not_followsName :
    (decode (zeros 0) Geometry.exactly noNumbers noTimes (document "emergency") =
        .returns { id := "1", lastUpdated := 0 } ∧
      ¬ FollowsName (zeros 0) Geometry.exactly noNumbers "emergency" (.object [])
        { id := "1", lastUpdated := 0 }) ∧
    (decode (zeros 32) Geometry.exactly noNumbers noTimes (document "stadium") =
        .returns { id := "1", lastUpdated := 0, details := .park } ∧
      ¬ FollowsName (zeros 32) Geometry.exactly noNumbers "stadium" (.object [])
        { id := "1", lastUpdated := 0, details := .park }) := by
  refine ⟨⟨rfl, fun h => ?_⟩, rfl, fun h => ?_⟩
  · cases (h.named .emergency (by decide) rfl).1
  · have hother : ∀ kind : Kind, kind ≠ .invalid → "stadium" ≠ print kind.value := by
      intro kind _
      rw [print_value]
      cases kind with
      | _ => decide
    cases (h.other hother).1

end Airspace

end Airmap
