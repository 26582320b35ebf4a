import PlatformSdk.Json.Dump

/-!
# Geometries as JSON documents

`codec::json::decode` and `encode` for `Geometry`, layer by layer.  What the
decoder accepts is a geometry whose coordinates are `float`s without elevation
(`IsDecoded`), and every such geometry survives being encoded and decoded.
-/

namespace Airmap.Geometry

open Machine (Attempt)

variable (narrowing : Double.Narrowing)

/-! ## Decoding -/

/-- `decode(Geometry::Type)`; `get` makes a type without a value, and a name that
is not known leaves it so. -/
def Kind.decode (j : Json) : Attempt Kind := do
  let typeString ← j.getString
  if typeString = "Point" then return .point
  else if typeString = "MultiPoint" then return .multiPoint
  else if typeString = "LineString" then return .lineString
  else if typeString = "MultiLineString" then return .multiLineString
  else if typeString = "Polygon" then return .polygon
  else if typeString = "MultiPolygon" then return .multiPolygon
  else if typeString = "GeometryCollection" then return .geometryCollection
  else .undefined

/-- `decode(Geometry::Coordinate)`. -/
def Coordinate.decode (j : Json) : Attempt Coordinate := do
  let latitude ← (← j.atIndex 1).getFloat narrowing
  let longitude ← (← j.atIndex 0).getFloat narrowing
  if 2 < j.size then
    let altitude ← (← j.atIndex 2).getFloat narrowing
    return { latitude, longitude, altitude := some altitude }
  else
    return { latitude, longitude }

/-- `decode(Geometry::CoordinateVector)`. -/
def decodeCoordinateVector (j : Json) : Attempt (List Coordinate) :=
  j.elements.mapM (Coordinate.decode narrowing)

/-- `decode(Geometry::MultiLineString)`. -/
def decodeMultiLineString (j : Json) : Attempt (List (List Coordinate)) :=
  j.elements.mapM (decodeCoordinateVector narrowing)

/-- `decode(Geometry::Polygon)`: the ring with the index 0 is the outer one. -/
def Polygon.decode (j : Json) : Attempt Polygon := do
  match ← j.elements.mapM (decodeCoordinateVector narrowing) with
  | [] => return { outerRing := [] }
  | outerRing :: innerRings => return { outerRing, innerRings }

/-- `decode(Geometry::MultiPolygon)`. -/
def decodeMultiPolygon (j : Json) : Attempt (List Polygon) :=
  j.elements.mapM (Polygon.decode narrowing)

/-- `decode(Geometry)`. -/
def decode (j : Json) : Attempt Geometry := do
  let type ← Kind.decode (← j.index "type")
  match type with
  | .point => return .point (← Coordinate.decode narrowing (← j.index "coordinates"))
  | .multiPoint =>
      return .multiPoint (← decodeCoordinateVector narrowing (← j.index "coordinates"))
  | .lineString =>
      return .lineString (← decodeCoordinateVector narrowing (← j.index "coordinates"))
  | .multiLineString =>
      return .multiLineString
        (← decodeMultiLineString narrowing (← j.index "coordinates"))
  | .polygon => return .polygon (← Polygon.decode narrowing (← j.index "coordinates"))
  | .multiPolygon =>
      return .multiPolygon (← decodeMultiPolygon narrowing (← j.index "coordinates"))
  | .geometryCollection =>
      let coordinates ← j.indexBelow "coordinates"
      return .geometryCollection
        (← coordinates.1.elements.attach.mapM fun element => decode element.1)
  | .invalid => return .invalid
termination_by sizeOf j
decreasing_by
  exact Nat.lt_of_le_of_lt (Json.sizeOf_le_of_mem_elements element.2) coordinates.2

/-! ## Encoding -/

/-- `encode(Geometry::Type)`. -/
def Kind.encode : Kind → Json
  | .point => .string "Point"
  | .multiPoint => .string "MultiPoint"
  | .lineString => .string "LineString"
  | .multiLineString => .string "MultiLineString"
  | .polygon => .string "Polygon"
  | .multiPolygon => .string "MultiPolygon"
  | .geometryCollection => .string "GeometryCollection"
  | .invalid => .null

/-- `encode(Geometry::Coordinate)`. -/
def Coordinate.encode (c : Coordinate) : Json :=
  Json.pushBackAll ([.numberFloat c.longitude, .numberFloat c.latitude] ++
    c.altitude.toList.map .numberFloat ++ c.elevation.toList.map .numberFloat)

/-- `encode(std::vector<Geometry::Coordinate>)`. -/
def encodeCoordinates (coordinates : List Coordinate) : Json :=
  Json.pushBackAll (coordinates.map Coordinate.encode)

/-- `encode(std::vector<Geometry::CoordinateVector>)`. -/
def encodeCoordinateVectors (lines : List (List Coordinate)) : Json :=
  Json.pushBackAll (lines.map encodeCoordinates)

/-- `encode(Geometry::Polygon)`. -/
def Polygon.encode (p : Polygon) : Json :=
  Json.pushBackAll (encodeCoordinates p.outerRing :: p.innerRings.map encodeCoordinates)

/-- `encode(std::vector<Geometry::Polygon>)`. -/
def encodePolygons (polygons : List Polygon) : Json :=
  Json.pushBackAll (polygons.map Polygon.encode)

/-- The document with the members that `encode(Geometry)` writes, in the order of
their names. -/
def document (kind : Kind) (coordinates : Json) : Json :=
  .object [("coordinates", coordinates), ("type", kind.encode)]

mutual

/-- `encode(Geometry)`. -/
def encode : Geometry → Json
  | .invalid => .object [("type", Kind.invalid.encode)]
  | .point details => document .point details.encode
  | .multiPoint coordinates => document .multiPoint (encodeCoordinates coordinates)
  | .lineString coordinates => document .lineString (encodeCoordinates coordinates)
  | .multiLineString lines => document .multiLineString (encodeCoordinateVectors lines)
  | .polygon details => document .polygon details.encode
  | .multiPolygon polygons => document .multiPolygon (encodePolygons polygons)
  | .geometryCollection geometries =>
      document .geometryCollection (Json.pushBackAll (encodeEach geometries))

/-- The documents that `encode(std::vector<Geometry>)` pushes. -/
def encodeEach : List Geometry → List Json
  | [] => []
  | geometry :: geometries => encode geometry :: encodeEach geometries

end

/-! ## What the decoder accepts -/

/-- A coordinate whose numbers are `float`s. -/
structure Coordinate.IsFloat (c : Coordinate) : Prop where
  latitude : narrowing.toFloat c.latitude = c.latitude
  longitude : narrowing.toFloat c.longitude = c.longitude
  altitude : ∀ altitude, c.altitude = some altitude → narrowing.toFloat altitude = altitude
  elevation : ∀ elevation, c.elevation = some elevation →
    narrowing.toFloat elevation = elevation

/-- A coordinate of `float`s, without an elevation. -/
structure Coordinate.IsDecoded (c : Coordinate) : Prop where
  latitude : narrowing.toFloat c.latitude = c.latitude
  longitude : narrowing.toFloat c.longitude = c.longitude
  altitude : ∀ altitude, c.altitude = some altitude → narrowing.toFloat altitude = altitude
  elevation : c.elevation = none

/-- A polygon of such coordinates. -/
structure Polygon.IsDecoded (p : Polygon) : Prop where
  outerRing : ∀ c ∈ p.outerRing, c.IsDecoded narrowing
  innerRings : ∀ ring ∈ p.innerRings, ∀ c ∈ ring, c.IsDecoded narrowing

/-- A geometry of such coordinates, at every level of one of the seven types. -/
inductive IsDecoded : Geometry → Prop where
  | point {details} (h : details.IsDecoded narrowing) : IsDecoded (.point details)
  | multiPoint {coordinates : List Coordinate}
      (h : ∀ c ∈ coordinates, c.IsDecoded narrowing) : IsDecoded (.multiPoint coordinates)
  | lineString {coordinates : List Coordinate}
      (h : ∀ c ∈ coordinates, c.IsDecoded narrowing) : IsDecoded (.lineString coordinates)
  | multiLineString {lines : List (List Coordinate)}
      (h : ∀ line ∈ lines, ∀ c ∈ line, c.IsDecoded narrowing) :
      IsDecoded (.multiLineString lines)
  | polygon {details} (h : details.IsDecoded narrowing) : IsDecoded (.polygon details)
  | multiPolygon {polygons : List Polygon}
      (h : ∀ p ∈ polygons, p.IsDecoded narrowing) : IsDecoded (.multiPolygon polygons)
  | geometryCollection {geometries : List Geometry}
      (h : ∀ g ∈ geometries, IsDecoded g) : IsDecoded (.geometryCollection geometries)

variable {narrowing}

theorem toFloat_of_getFloat {j : Json} {x : Double}
    (h : j.getFloat narrowing = .returns x) : narrowing.toFloat x = x := by
  cases j with
  | numberUnsigned value =>
      cases h
      exact narrowing.toFloat_toFloat _
  | numberInteger value =>
      cases h
      exact narrowing.toFloat_toFloat _
  | numberFloat value =>
      cases h
      exact narrowing.toFloat_toFloat _
  | boolean value =>
      cases h
      exact narrowing.toFloat_toFloat _
  | _ => cases h

theorem Coordinate.isDecoded_of_decode {j : Json} {c : Coordinate}
    (h : Coordinate.decode narrowing j = .returns c) : c.IsDecoded narrowing := by
  simp only [Coordinate.decode, Attempt.bind_eq_returns_iff] at h
  obtain ⟨_, -, latitude, hlatitude, _, -, longitude, hlongitude, h⟩ := h
  split at h
  · simp only [Attempt.bind_eq_returns_iff] at h
    obtain ⟨_, -, altitude, haltitude, h⟩ := h
    cases h
    exact
      { latitude := toFloat_of_getFloat hlatitude
        longitude := toFloat_of_getFloat hlongitude
        altitude := fun _ heq => by
          cases heq
          exact toFloat_of_getFloat haltitude
        elevation := rfl }
  · cases h
    exact
      { latitude := toFloat_of_getFloat hlatitude
        longitude := toFloat_of_getFloat hlongitude
        altitude := fun _ heq => by cases heq
        elevation := rfl }

theorem isDecoded_of_decodeCoordinateVector {j : Json} {coordinates : List Coordinate}
    (h : decodeCoordinateVector narrowing j = .returns coordinates) :
    ∀ c ∈ coordinates, c.IsDecoded narrowing := by
  intro c hmem
  obtain ⟨_, -, hc⟩ := Attempt.exists_mem_of_mapM_eq_returns h hmem
  exact Coordinate.isDecoded_of_decode hc

theorem isDecoded_of_decodeMultiLineString {j : Json} {lines : List (List Coordinate)}
    (h : decodeMultiLineString narrowing j = .returns lines) :
    ∀ line ∈ lines, ∀ c ∈ line, c.IsDecoded narrowing := by
  intro line hmem
  obtain ⟨_, -, hline⟩ := Attempt.exists_mem_of_mapM_eq_returns h hmem
  exact isDecoded_of_decodeCoordinateVector hline

theorem Polygon.isDecoded_of_decode {j : Json} {p : Polygon}
    (h : Polygon.decode narrowing j = .returns p) : p.IsDecoded narrowing := by
  simp only [Polygon.decode, Attempt.bind_eq_returns_iff] at h
  obtain ⟨rings, hrings, h⟩ := h
  have hdecoded := isDecoded_of_decodeMultiLineString hrings
  cases rings with
  | nil =>
      cases h
      exact ⟨by simp, by simp⟩
  | cons outerRing innerRings =>
      cases h
      exact ⟨hdecoded outerRing (by simp),
        fun ring hmem => hdecoded ring (by simp [hmem])⟩

theorem isDecoded_of_decodeMultiPolygon {j : Json} {polygons : List Polygon}
    (h : decodeMultiPolygon narrowing j = .returns polygons) :
    ∀ p ∈ polygons, p.IsDecoded narrowing := by
  intro p hmem
  obtain ⟨_, -, hp⟩ := Attempt.exists_mem_of_mapM_eq_returns h hmem
  exact Polygon.isDecoded_of_decode hp

/-- The decoder of a geometry, without the bookkeeping that makes it end. -/
theorem decode_eq (j : Json) :
    decode narrowing j = (do
      let type ← Kind.decode (← j.index "type")
      match type with
      | .point => return .point (← Coordinate.decode narrowing (← j.index "coordinates"))
      | .multiPoint =>
          return .multiPoint
            (← decodeCoordinateVector narrowing (← j.index "coordinates"))
      | .lineString =>
          return .lineString
            (← decodeCoordinateVector narrowing (← j.index "coordinates"))
      | .multiLineString =>
          return .multiLineString
            (← decodeMultiLineString narrowing (← j.index "coordinates"))
      | .polygon =>
          return .polygon (← Polygon.decode narrowing (← j.index "coordinates"))
      | .multiPolygon =>
          return .multiPolygon (← decodeMultiPolygon narrowing (← j.index "coordinates"))
      | .geometryCollection =>
          let coordinates ← j.index "coordinates"
          return .geometryCollection
            (← coordinates.elements.mapM (decode narrowing))
      | .invalid => return .invalid) := by
  have hattach : ∀ elements : List Json,
      (elements.attach.mapM fun element => decode narrowing element.1) =
        elements.mapM (decode narrowing) := by
    intro elements
    calc (elements.attach.mapM fun element => decode narrowing element.1)
        = (elements.attach.map Subtype.val).mapM (decode narrowing) := by
          rw [List.mapM_map]
          rfl
      _ = elements.mapM (decode narrowing) := by rw [List.attach_map_subtype_val]
  rw [decode]
  simp only [hattach, ← Json.indexBelow_bind]

theorem Kind.ne_invalid_of_decode {j : Json} {kind : Kind}
    (h : Kind.decode j = .returns kind) : kind ≠ .invalid := by
  rw [Kind.decode, Attempt.bind_eq_returns_iff] at h
  obtain ⟨typeString, -, h⟩ := h
  rintro rfl
  repeat' split at h
  all_goals cases h

/-- A case of the decoder that succeeds has read the coordinates. -/
theorem exists_of_coordinates {β : Type} {read : Json → Attempt β} {make : β → Geometry}
    {j : Json} {geometry : Geometry}
    (h : (do return make (← read (← j.index "coordinates"))) =
      Attempt.returns geometry) :
    ∃ coordinates details, j.index "coordinates" = .returns coordinates ∧
      read coordinates = .returns details ∧ geometry = make details := by
  simp only [Attempt.bind_eq_returns_iff] at h
  obtain ⟨coordinates, hcoordinates, details, hdetails, h⟩ := h
  cases h
  exact ⟨coordinates, details, hcoordinates, hdetails, rfl⟩

/-- What the decoder accepts consists of decoded coordinates at every level. -/
theorem isDecoded_of_decode {j : Json} {geometry : Geometry}
    (h : decode narrowing j = .returns geometry) : IsDecoded narrowing geometry := by
  induction hsize : sizeOf j using Nat.strong_induction_on generalizing j geometry with
  | _ n ih =>
      subst hsize
      rw [decode_eq, Attempt.bind_eq_returns_iff] at h
      obtain ⟨name, -, h⟩ := h
      rw [Attempt.bind_eq_returns_iff] at h
      obtain ⟨type, htype, h⟩ := h
      cases type with
      | invalid => exact absurd rfl (Kind.ne_invalid_of_decode htype)
      | point =>
          obtain ⟨_, details, -, hdetails, rfl⟩ := exists_of_coordinates h
          exact .point (Coordinate.isDecoded_of_decode hdetails)
      | multiPoint =>
          obtain ⟨_, details, -, hdetails, rfl⟩ := exists_of_coordinates h
          exact .multiPoint (isDecoded_of_decodeCoordinateVector hdetails)
      | lineString =>
          obtain ⟨_, details, -, hdetails, rfl⟩ := exists_of_coordinates h
          exact .lineString (isDecoded_of_decodeCoordinateVector hdetails)
      | multiLineString =>
          obtain ⟨_, details, -, hdetails, rfl⟩ := exists_of_coordinates h
          exact .multiLineString (isDecoded_of_decodeMultiLineString hdetails)
      | polygon =>
          obtain ⟨_, details, -, hdetails, rfl⟩ := exists_of_coordinates h
          exact .polygon (Polygon.isDecoded_of_decode hdetails)
      | multiPolygon =>
          obtain ⟨_, details, -, hdetails, rfl⟩ := exists_of_coordinates h
          exact .multiPolygon (isDecoded_of_decodeMultiPolygon hdetails)
      | geometryCollection =>
          obtain ⟨coordinates, details, hcoordinates, hdetails, rfl⟩ :=
            @exists_of_coordinates _ (fun coordinates =>
              coordinates.elements.mapM (decode narrowing)) _ _ _ h
          refine .geometryCollection fun g hmem => ?_
          obtain ⟨element, helement, hg⟩ :=
            Attempt.exists_mem_of_mapM_eq_returns hdetails hmem
          exact ih (sizeOf element) (Nat.lt_of_le_of_lt
            (Json.sizeOf_le_of_mem_elements helement)
            (Json.sizeOf_lt_of_index hcoordinates)) hg rfl

/-! ## The round trip -/

/-- The decoder takes what stands third for the altitude, and reads nothing that
follows it. -/
theorem Coordinate.decode_encode_of_isFloat {c : Coordinate} (h : c.IsFloat narrowing) :
    Coordinate.decode narrowing c.encode =
      .returns { c with altitude := c.altitude <|> c.elevation, elevation := none } := by
  obtain ⟨latitude, longitude, altitude, elevation⟩ := c
  obtain ⟨hlatitude, hlongitude, haltitude, helevation⟩ := h
  simp only at hlatitude hlongitude
  cases altitude with
  | some altitude =>
      have hthird := haltitude altitude rfl
      cases elevation <;>
        simp [Coordinate.decode, Coordinate.encode, Json.pushBackAll, Json.atIndex,
          Json.getFloat, Json.size, Json.elements, hlatitude, hlongitude, hthird]
  | none =>
      cases elevation with
      | some elevation =>
          have hthird := helevation elevation rfl
          simp [Coordinate.decode, Coordinate.encode, Json.pushBackAll, Json.atIndex,
            Json.getFloat, Json.size, Json.elements, hlatitude, hlongitude, hthird]
      | none =>
          simp [Coordinate.decode, Coordinate.encode, Json.pushBackAll, Json.atIndex,
            Json.getFloat, Json.size, Json.elements, hlatitude, hlongitude]

theorem Coordinate.decode_encode {c : Coordinate} (h : c.IsDecoded narrowing) :
    Coordinate.decode narrowing c.encode = .returns c := by
  have hfloat : c.IsFloat narrowing :=
    { latitude := h.latitude
      longitude := h.longitude
      altitude := h.altitude
      elevation := by simp [h.elevation] }
  have haltitude : (c.altitude <|> c.elevation) = c.altitude := by
    rw [h.elevation]
    cases c.altitude <;> rfl
  rw [Coordinate.decode_encode_of_isFloat hfloat, haltitude, ← h.elevation]

theorem decodeCoordinateVector_encode {coordinates : List Coordinate}
    (h : ∀ c ∈ coordinates, c.IsDecoded narrowing) :
    decodeCoordinateVector narrowing (encodeCoordinates coordinates) =
      .returns coordinates := by
  rw [decodeCoordinateVector, encodeCoordinates, Json.elements_pushBackAll]
  exact Attempt.mapM_map_eq_returns fun c hmem => Coordinate.decode_encode (h c hmem)

theorem decodeMultiLineString_encode {lines : List (List Coordinate)}
    (h : ∀ line ∈ lines, ∀ c ∈ line, c.IsDecoded narrowing) :
    decodeMultiLineString narrowing (encodeCoordinateVectors lines) = .returns lines := by
  rw [decodeMultiLineString, encodeCoordinateVectors, Json.elements_pushBackAll]
  exact Attempt.mapM_map_eq_returns fun line hmem =>
    decodeCoordinateVector_encode (h line hmem)

theorem Polygon.decode_encode {p : Polygon} (h : p.IsDecoded narrowing) :
    Polygon.decode narrowing p.encode = .returns p := by
  have hrings : ∀ ring ∈ p.outerRing :: p.innerRings,
      decodeCoordinateVector narrowing (encodeCoordinates ring) = .returns ring := by
    intro ring hmem
    rcases List.mem_cons.mp hmem with rfl | hinner
    · exact decodeCoordinateVector_encode h.outerRing
    · exact decodeCoordinateVector_encode (h.innerRings ring hinner)
  have hread := Attempt.mapM_map_eq_returns hrings
  rw [List.map_cons] at hread
  rw [Polygon.decode, Polygon.encode, Json.elements_pushBackAll, hread]
  rfl

theorem decodeMultiPolygon_encode {polygons : List Polygon}
    (h : ∀ p ∈ polygons, p.IsDecoded narrowing) :
    decodeMultiPolygon narrowing (encodePolygons polygons) = .returns polygons := by
  rw [decodeMultiPolygon, encodePolygons, Json.elements_pushBackAll]
  exact Attempt.mapM_map_eq_returns fun p hmem => Polygon.decode_encode (h p hmem)

theorem index_document_type (kind : Kind) (coordinates : Json) :
    (document kind coordinates).index "type" = .returns kind.encode := rfl

theorem index_document_coordinates (kind : Kind) (coordinates : Json) :
    (document kind coordinates).index "coordinates" = .returns coordinates := rfl

theorem Kind.decode_encode {kind : Kind} (h : kind ≠ .invalid) :
    Kind.decode kind.encode = .returns kind := by
  cases kind with
  | invalid => exact absurd rfl h
  | _ => rfl

theorem encodeEach_eq_map (geometries : List Geometry) :
    encodeEach geometries = geometries.map encode := by
  induction geometries with
  | nil => rfl
  | cons geometry geometries ih => rw [encodeEach, ih, List.map_cons]

/-- A geometry of decoded coordinates is decoded from its encoding. -/
theorem decode_encode {geometry : Geometry} (h : IsDecoded narrowing geometry) :
    decode narrowing geometry.encode = .returns geometry := by
  induction h with
  | point h =>
      simp [decode_eq, encode, index_document_type, index_document_coordinates,
        Kind.decode_encode, Coordinate.decode_encode h]
  | multiPoint h =>
      simp [decode_eq, encode, index_document_type, index_document_coordinates,
        Kind.decode_encode, decodeCoordinateVector_encode h]
  | lineString h =>
      simp [decode_eq, encode, index_document_type, index_document_coordinates,
        Kind.decode_encode, decodeCoordinateVector_encode h]
  | multiLineString h =>
      simp [decode_eq, encode, index_document_type, index_document_coordinates,
        Kind.decode_encode, decodeMultiLineString_encode h]
  | polygon h =>
      simp [decode_eq, encode, index_document_type, index_document_coordinates,
        Kind.decode_encode, Polygon.decode_encode h]
  | multiPolygon h =>
      simp [decode_eq, encode, index_document_type, index_document_coordinates,
        Kind.decode_encode, decodeMultiPolygon_encode h]
  | geometryCollection h ih =>
      have hread := Attempt.mapM_map_eq_returns ih
      rw [← encodeEach_eq_map] at hread
      simp [decode_eq, encode, index_document_type, index_document_coordinates,
        Kind.decode_encode, hread]

/-- A document that the decoder accepts as a geometry gives the same geometry
again after it was encoded. -/
theorem decode_encode_of_decode {j : Json} {geometry : Geometry}
    (h : decode narrowing j = .returns geometry) :
    decode narrowing geometry.encode = .returns geometry :=
  decode_encode (isDecoded_of_decode h)

/-- The narrowing of numbers that a `float` holds. -/
def exactly : Double.Narrowing := ⟨id, fun _ => rfl⟩

/-- A collection of a point, a polygon without a ring, and a collection of nothing. -/
def nestedDocument : Json :=
  document .geometryCollection (.array
    [document .point (.array [.numberUnsigned 7, .numberInteger (-3), .numberUnsigned 2]),
      document .polygon .null,
      document .geometryCollection (.array [])])

def nested : Geometry :=
  .geometryCollection
    [.point ⟨.finite (-3), .finite 7, some (.finite 2), none⟩,
      .polygon { outerRing := [] },
      .geometryCollection []]

theorem decode_nestedDocument : decode exactly nestedDocument = .returns nested := by
  simp [nestedDocument, nested, decode_eq, index_document_type,
    index_document_coordinates, Kind.decode_encode, Json.elements, Coordinate.decode,
    Polygon.decode, Json.atIndex, Json.getFloat, Json.size, exactly]

/-- The round trip of the collection. -/
theorem decode_encode_nested : decode exactly nested.encode = .returns nested :=
  decode_encode_of_decode decode_nestedDocument

/-- The rings of a polygon, the outer one first. -/
def Polygon.rings (p : Polygon) : List (List Coordinate) := p.outerRing :: p.innerRings

theorem Coordinate.IsFloat.decode_encode_iff {c : Coordinate} (h : c.IsFloat narrowing) :
    Coordinate.decode narrowing c.encode = .returns c ↔ c.elevation = none := by
  constructor
  · intro hdecode
    exact (Coordinate.isDecoded_of_decode hdecode).elevation
  · intro helevation
    exact Coordinate.decode_encode ⟨h.latitude, h.longitude, h.altitude, helevation⟩

theorem Polygon.decode_encode_iff {p : Polygon}
    (h : ∀ ring ∈ p.rings, ∀ c ∈ ring, c.IsFloat narrowing) :
    Polygon.decode narrowing p.encode = .returns p ↔
      ∀ ring ∈ p.rings, ∀ c ∈ ring, c.elevation = none := by
  constructor
  · intro hdecode ring hring c hc
    have hdecoded := Polygon.isDecoded_of_decode hdecode
    rcases List.mem_cons.mp hring with rfl | hinner
    · exact (hdecoded.outerRing c hc).elevation
    · exact (hdecoded.innerRings ring hinner c hc).elevation
  · intro helevation
    have hdecoded : ∀ ring ∈ p.rings, ∀ c ∈ ring, c.IsDecoded narrowing := by
      intro ring hring c hc
      have hfloat := h ring hring c hc
      exact ⟨hfloat.latitude, hfloat.longitude, hfloat.altitude,
        helevation ring hring c hc⟩
    exact Polygon.decode_encode
      ⟨hdecoded p.outerRing (by simp [Polygon.rings]),
        fun ring hinner => hdecoded ring (by simp [Polygon.rings, hinner])⟩

/-- A coordinate of `float`s is decoded from its encoding, and so is a polygon of
such coordinates, exactly when no elevation is set. -/
theorem coordinate_and_polygon_decode_encode_iff (narrowing : Double.Narrowing) :
    (∀ c : Coordinate, c.IsFloat narrowing →
      (Coordinate.decode narrowing c.encode = .returns c ↔ c.elevation = none)) ∧
    ∀ p : Polygon, (∀ ring ∈ p.rings, ∀ c ∈ ring, c.IsFloat narrowing) →
      (Polygon.decode narrowing p.encode = .returns p ↔
        ∀ ring ∈ p.rings, ∀ c ∈ ring, c.elevation = none) :=
  ⟨fun _ h => h.decode_encode_iff, fun _ h => Polygon.decode_encode_iff h⟩

/-- A coordinate with an altitude and no elevation is decoded from its encoding. -/
theorem coordinate_decode_encode_of_altitude :
    let c : Coordinate := ⟨.finite 47, .finite 8, some (.finite 400), none⟩
    Coordinate.decode exactly c.encode = .returns c := by
  intro c
  have hfloat : c.IsFloat exactly :=
    ⟨rfl, rfl, fun _ _ => rfl, fun _ _ => rfl⟩
  exact ((coordinate_and_polygon_decode_encode_iff exactly).1 c hfloat).mpr rfl

/-- A coordinate with an elevation and no altitude is decoded with an altitude and
no elevation. -/
theorem coordinate_decode_encode_of_elevation :
    let c : Coordinate := ⟨.finite 47, .finite 8, none, some (.finite 400)⟩
    c.IsFloat exactly ∧
      Coordinate.decode exactly c.encode =
        .returns ⟨.finite 47, .finite 8, some (.finite 400), none⟩ ∧
      Coordinate.decode exactly c.encode ≠ .returns c := by
  intro c
  have hfloat : c.IsFloat exactly :=
    ⟨rfl, rfl, fun _ _ => rfl, fun _ _ => rfl⟩
  refine ⟨hfloat, Coordinate.decode_encode_of_isFloat hfloat, ?_⟩
  rw [Coordinate.decode_encode_of_isFloat hfloat]
  simp [c]

/-! ## The strings of a document -/

/-- The strings in the documents of geometries. -/
def documentStrings : List String :=
  ["coordinates", "type", "Point", "MultiPoint", "LineString", "MultiLineString", "Polygon",
    "MultiPolygon", "GeometryCollection"]

section AllStrings

variable {P : String → Prop}

theorem Coordinate.allStrings_encode (c : Coordinate) : c.encode.AllStrings P := by
  refine .pushBackAll fun value hvalue => ?_
  simp only [List.mem_append, List.mem_cons, List.not_mem_nil, or_false, List.mem_map] at hvalue
  rcases hvalue with (((rfl | rfl) | ⟨x, -, rfl⟩) | ⟨x, -, rfl⟩)
  · exact .numberFloat _
  · exact .numberFloat _
  · exact .numberFloat _
  · exact .numberFloat _

/-- A list whose elements are encoded without strings that `P` does not hold of. -/
theorem allStrings_pushBackAll_map {α : Type} {encode : α → Json}
    (h : ∀ x, (encode x).AllStrings P) (xs : List α) :
    (Json.pushBackAll (xs.map encode)).AllStrings P := by
  refine .pushBackAll fun value hvalue => ?_
  obtain ⟨x, -, rfl⟩ := List.mem_map.mp hvalue
  exact h x

theorem allStrings_encodeCoordinates (coordinates : List Coordinate) :
    (encodeCoordinates coordinates).AllStrings P :=
  allStrings_pushBackAll_map Coordinate.allStrings_encode coordinates

theorem Polygon.allStrings_encode (p : Polygon) : p.encode.AllStrings P :=
  allStrings_pushBackAll_map allStrings_encodeCoordinates (p.outerRing :: p.innerRings)

theorem Kind.allStrings_encode (h : ∀ value ∈ documentStrings, P value) (kind : Kind) :
    kind.encode.AllStrings P := by
  cases kind with
  | invalid => exact .null
  | _ => exact .string (h _ (by decide))

theorem allStrings_document (h : ∀ value ∈ documentStrings, P value) (kind : Kind)
    {coordinates : Json} (hcoordinates : coordinates.AllStrings P) :
    (document kind coordinates).AllStrings P := by
  refine .object ?_ ?_
  · rw [List.forall_mem_cons, List.forall_mem_singleton]
    exact ⟨h "coordinates" (by decide), h "type" (by decide)⟩
  · rw [List.forall_mem_cons, List.forall_mem_singleton]
    exact ⟨hcoordinates, kind.allStrings_encode h⟩

mutual

/-- The document of a geometry has no strings but those that are always there. -/
theorem allStrings_encode (h : ∀ value ∈ documentStrings, P value) :
    (g : Geometry) → (encode g).AllStrings P
  | .invalid => by
      refine .object (fun member hmember => ?_) fun member hmember => ?_
      · rw [List.mem_singleton.mp hmember]
        exact h _ (by decide)
      · rw [List.mem_singleton.mp hmember]
        exact .null
  | .point details => allStrings_document h _ details.allStrings_encode
  | .multiPoint coordinates | .lineString coordinates =>
      allStrings_document h _ (allStrings_encodeCoordinates coordinates)
  | .multiLineString lines =>
      allStrings_document h _ (allStrings_pushBackAll_map allStrings_encodeCoordinates lines)
  | .polygon details => allStrings_document h _ details.allStrings_encode
  | .multiPolygon polygons =>
      allStrings_document h _ (allStrings_pushBackAll_map Polygon.allStrings_encode polygons)
  | .geometryCollection geometries =>
      allStrings_document h _ (.pushBackAll (allStrings_encodeEach h geometries))

theorem allStrings_encodeEach (h : ∀ value ∈ documentStrings, P value) :
    (geometries : List Geometry) → ∀ j ∈ encodeEach geometries, j.AllStrings P
  | [] => by simp [encodeEach]
  | geometry :: geometries => by
      intro j hj
      rcases List.mem_cons.mp hj with rfl | hj
      · exact allStrings_encode h geometry
      · exact allStrings_encodeEach h geometries j hj

end

end AllStrings

end Airmap.Geometry
