import PlatformSdk.Geometry
import PlatformSdk.Machine.Variant

/-!
# Geometries as objects

The union of `Geometry` and the functions that put a value into it and take it out.
-/

namespace Airmap.Geometry

open Machine

mutual

/-- What the copy constructor makes of a geometry in a collection. -/
def copy : Geometry → Geometry
  | .invalid => .invalid
  | .point details => .point details
  | .multiPoint coordinates => .multiPoint coordinates
  | .lineString coordinates => .lineString coordinates
  | .multiLineString lines => .multiLineString lines
  | .polygon details => .polygon details
  | .multiPolygon polygons => .multiPolygon polygons
  | .geometryCollection geometries => .geometryCollection (copyAll geometries)

def copyAll : List Geometry → List Geometry
  | [] => []
  | geometry :: geometries => geometry.copy :: copyAll geometries

end

mutual

theorem copy_eq : ∀ geometry : Geometry, geometry.copy = geometry
  | .invalid | .point _ | .multiPoint _ | .lineString _ | .multiLineString _
  | .polygon _ | .multiPolygon _ => by rw [copy]
  | .geometryCollection geometries => by rw [copy, copyAll_eq geometries]

theorem copyAll_eq : ∀ geometries : List Geometry, copyAll geometries = geometries
  | [] => by rw [copyAll]
  | geometry :: geometries => by
      rw [copyAll, copy_eq geometry, copyAll_eq geometries]

end

/-- `Geometry`, with its `type_` and its `data_`. -/
abbrev Object := Machine.Object Kind Geometry

namespace Object

/-! ## The details -/

def detailsForPoint (o : Object) : Attempt Coordinate :=
  match o.member with
  | .point details => .returns details
  | _ => .undefined

def detailsForMultiPoint (o : Object) : Attempt (List Coordinate) :=
  match o.member with
  | .multiPoint coordinates => .returns coordinates
  | _ => .undefined

def detailsForLineString (o : Object) : Attempt (List Coordinate) :=
  match o.member with
  | .lineString coordinates => .returns coordinates
  | _ => .undefined

def detailsForMultiLineString (o : Object) : Attempt (List (List Coordinate)) :=
  match o.member with
  | .multiLineString lines => .returns lines
  | _ => .undefined

def detailsForPolygon (o : Object) : Attempt Polygon :=
  match o.member with
  | .polygon details => .returns details
  | _ => .undefined

def detailsForMultiPolygon (o : Object) : Attempt (List Polygon) :=
  match o.member with
  | .multiPolygon polygons => .returns polygons
  | _ => .undefined

/-- This one returns a copy. -/
def detailsForGeometryCollection (o : Object) : Attempt (List Geometry) :=
  match o.member with
  | .geometryCollection geometries => .returns (copyAll geometries)
  | _ => .undefined

/-! ## Setting a value -/

/-- The object before its constructor has done anything. -/
def fresh : Object where
  tag := .invalid
  member := .invalid

/-- What the functions `set_*` for the members have in common. -/
def set (value : Geometry) (o : Object) : Object :=
  { o with tag := value.kind, member := value }

def setPoint (point : Coordinate) : Object → Object := set (.point point)

def setMultiPoint (multiPoint : List Coordinate) : Object → Object :=
  set (.multiPoint multiPoint)

def setLineString (lineString : List Coordinate) : Object → Object :=
  set (.lineString lineString)

def setMultiLineString (multiLineString : List (List Coordinate)) : Object → Object :=
  set (.multiLineString multiLineString)

def setPolygon (polygon : Polygon) : Object → Object := set (.polygon polygon)

def setMultiPolygon (multiPolygon : List Polygon) : Object → Object :=
  set (.multiPolygon multiPolygon)

def setGeometryCollection (geometryCollection : List Geometry) : Object → Object :=
  set (.geometryCollection (copyAll geometryCollection))

/-- The constructors that are given a value, and the one that is given nothing. -/
def init : Geometry → Object
  | .invalid => fresh
  | .point details => fresh.setPoint details
  | .multiPoint coordinates => fresh.setMultiPoint coordinates
  | .lineString coordinates => fresh.setLineString coordinates
  | .multiLineString lines => fresh.setMultiLineString lines
  | .polygon details => fresh.setPolygon details
  | .multiPolygon polygons => fresh.setMultiPolygon polygons
  | .geometryCollection geometries => fresh.setGeometryCollection geometries

/-- `reset`. -/
def reset (o : Object) : Attempt Object := do
  let o ← match o.tag with
    | .invalid => .returns o
    | .point => o.destroy kind .invalid .point
    | .multiPoint => o.destroy kind .invalid .multiPoint
    | .lineString => o.destroy kind .invalid .lineString
    | .multiLineString => o.destroy kind .invalid .multiLineString
    | .polygon => o.destroy kind .invalid .polygon
    | .multiPolygon => o.destroy kind .invalid .multiPolygon
    | .geometryCollection => o.destroy kind .invalid .geometryCollection
  return { o with tag := .invalid }

/-- `set_geometry`.  The other object may be the object itself: then its tag does not
change when it is set. -/
def setGeometry (o other : Object) : Attempt Object :=
  let o := { o with tag := other.tag }
  match o.tag with
  | .invalid => .returns o
  | .point => do return setPoint (← other.detailsForPoint) o
  | .multiPoint => do return setMultiPoint (← other.detailsForMultiPoint) o
  | .lineString => do return setLineString (← other.detailsForLineString) o
  | .multiLineString => do return setMultiLineString (← other.detailsForMultiLineString) o
  | .polygon => do return setPolygon (← other.detailsForPolygon) o
  | .multiPolygon => do return setMultiPolygon (← other.detailsForMultiPolygon) o
  | .geometryCollection => do
      return setGeometryCollection (← other.detailsForGeometryCollection) o

end Object

/-- The class `Geometry`. -/
def variant : Variant Kind Geometry where
  kind := kind
  empty := .invalid
  fresh := Object.fresh
  init := Object.init
  destruct := Object.reset
  construct := Object.setGeometry

theorem variant_isLawful : variant.IsLawful := by
  refine .of_cases ?_ rfl ?_ ?_ ?_ ?_ ?_
  · intro value hkind
    cases value with
    | invalid => rfl
    | _ => cases hkind
  · intro value
    cases value with
    | geometryCollection geometries =>
        refine ⟨rfl, fun _ => ?_⟩
        change geometryCollection (copyAll geometries) = _
        rw [copyAll_eq]
    | _ => exact ⟨rfl, fun _ => rfl⟩
  · intro o htag
    refine ⟨{ o with tag := .invalid }, ?_, rfl⟩
    change Object.reset o = _
    rw [Object.reset, show o.tag = .invalid from htag]
    rfl
  · intro value hne
    cases value with
    | invalid => exact absurd rfl hne
    | _ => exact ⟨_, rfl, rfl⟩
  · intro o other _ htag
    refine ⟨{ o with tag := .invalid }, ?_, rfl⟩
    change Object.setGeometry o other = _
    rw [Object.setGeometry, show other.tag = .invalid from htag]
  · intro o value _ hne
    cases value with
    | invalid => exact absurd rfl hne
    | geometryCollection geometries =>
        change Attempt.returns (Object.mk Kind.geometryCollection
          (geometryCollection (copyAll (copyAll geometries)))) = _
        rw [copyAll_eq, copyAll_eq]
        rfl
    | _ => rfl

end Airmap.Geometry
