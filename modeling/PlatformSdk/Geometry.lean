import Mathlib.Algebra.Group.Int.Defs
import Mathlib.Algebra.Group.Nat.Defs
import Mathlib.Data.Rat.Defs

/-!
# Geometries

The tagged union `airmap::Geometry` with the numbers its coordinates hold.
`details_for_*` do not look at the tag in the source, so the model returns a
default there and leaves it to the caller to say that the access was wrong.
-/

namespace Airmap

/-- The values of a `double` as far as the program compares them. -/
inductive Double where
  | nan
  | infinite (negative : Bool)
  | finite (value : ℚ)
  deriving DecidableEq

namespace Double

instance : Inhabited Double := ⟨.finite 0⟩

/-- `operator<`; every comparison with a NaN is false. -/
def lt : Double → Double → Bool
  | .nan, _ | _, .nan => false
  | .infinite negative, .infinite negative' => negative && !negative'
  | .infinite negative, .finite _ => negative
  | .finite _, .infinite negative => !negative
  | .finite x, .finite y => decide (x < y)

/-- `static_cast<float>`, with each `float` as the `double` that it is. -/
structure Narrowing where
  toFloat : Double → Double
  toFloat_toFloat : ∀ x, toFloat (toFloat x) = toFloat x

end Double

/-- `Geometry::Coordinate`. -/
structure Geometry.Coordinate where
  latitude : Double
  longitude : Double
  altitude : Option Double := none
  elevation : Option Double := none
  deriving DecidableEq, Inhabited

/-- `Geometry::Polygon`, ring by ring. -/
structure Geometry.Polygon where
  outerRing : List Geometry.Coordinate
  innerRings : List (List Geometry.Coordinate) := []
  deriving DecidableEq, Inhabited

/-- `Geometry::Type`. -/
inductive Geometry.Kind where
  | invalid
  | point
  | multiPoint
  | lineString
  | multiLineString
  | polygon
  | multiPolygon
  | geometryCollection
  deriving DecidableEq, Repr

/-- `Geometry`: the active member of the union, with its contents. -/
inductive Geometry where
  | invalid
  | point (details : Geometry.Coordinate)
  | multiPoint (coordinates : List Geometry.Coordinate)
  | lineString (coordinates : List Geometry.Coordinate)
  | multiLineString (lines : List (List Geometry.Coordinate))
  | polygon (details : Geometry.Polygon)
  | multiPolygon (polygons : List Geometry.Polygon)
  | geometryCollection (geometries : List Geometry)
  deriving Inhabited

namespace Geometry

/-- `Geometry::type`. -/
def kind : Geometry → Kind
  | .invalid => .invalid
  | .point _ => .point
  | .multiPoint _ => .multiPoint
  | .lineString _ => .lineString
  | .multiLineString _ => .multiLineString
  | .polygon _ => .polygon
  | .multiPolygon _ => .multiPolygon
  | .geometryCollection _ => .geometryCollection

/-- `Geometry::details_for_polygon`. -/
def detailsForPolygon : Geometry → Polygon
  | .polygon details => details
  | _ => default

/-- A polygon whose outer ring has a coordinate, and an altitude at each. -/
def IsRingWithAltitudes (geometry : Geometry) : Prop :=
  geometry.kind = .polygon ∧ geometry.detailsForPolygon.outerRing ≠ [] ∧
    geometry.detailsForPolygon.outerRing.all (·.altitude.isSome)

instance (geometry : Geometry) : Decidable geometry.IsRingWithAltitudes :=
  inferInstanceAs (Decidable (_ ∧ _ ∧ _))

end Geometry
end Airmap
