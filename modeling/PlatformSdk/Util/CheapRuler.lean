import Mathlib.Data.Nat.Notation

/-!
# Distances and bearings

`CheapRuler` over any numbers with the operations and functions that it uses.  The
program's numbers are `double`s.
-/

namespace Airmap.Util

/-- The numbers of a program, with the functions of `<cmath>`. -/
class Arithmetic (R : Type*) extends
    Add R, Sub R, Mul R, Div R, Neg R, LT R, NatCast R, OfScientific R where
  decidableLT : DecidableLT R
  pi : R
  floor : R → R
  sqrt : R → R
  cos : R → R
  sin : R → R
  atan2 : R → R → R

instance Arithmetic.instDecidableLT {R : Type*} [Arithmetic R] : DecidableLT R :=
  Arithmetic.decidableLT

/-- `Geometry::Coordinate`, over any numbers. -/
structure Coordinate (R : Type*) where
  latitude : R
  longitude : R
  altitude : Option R := none
  elevation : Option R := none

/-- `CheapRuler`. -/
structure CheapRuler (R : Type*) where
  kx : R
  ky : R

namespace CheapRuler

open Arithmetic

variable {R : Type*} [Arithmetic R]

/-- The constructor. -/
def ofLatitude (latitude : R) : CheapRuler R :=
  let cos := Arithmetic.cos (floor latitude * pi / 180.0)
  let cos2 := 2.0 * cos * cos - 1.0
  let cos3 := 2.0 * cos * cos2 - cos
  let cos4 := 2.0 * cos * cos3 - cos2
  let cos5 := 2.0 * cos * cos4 - cos3
  { kx := 1000.0 * (111.41513 * cos - 0.09455 * cos3 + 0.00012 * cos5)
    ky := 1000.0 * (111.13209 - 0.56605 * cos2 + 0.0012 * cos4) }

/-- `bearing`. -/
def bearing (ruler : CheapRuler R) (p1 p2 : Coordinate R) : R :=
  let dx := (p2.longitude - p1.longitude) * ruler.kx
  let dy := (p2.latitude - p1.latitude) * ruler.ky
  if ¬ (dx < 0.0 ∨ 0.0 < dx) then 0.0
  else if ¬ (dy < 0.0 ∨ 0.0 < dy) then 0.0
  else
    let bearing := atan2 (-dy) dx * 180.0 / pi + 90.0
    if 180.0 < bearing then bearing - 360.0 else bearing

/-- `distance`. -/
def distance (ruler : CheapRuler R) (p1 p2 : Coordinate R) : R :=
  let dx := (p2.longitude - p1.longitude) * ruler.kx
  let dy := (p2.latitude - p1.latitude) * ruler.ky
  sqrt (dx * dx + dy * dy)

/-- `destination`. -/
def destination (ruler : CheapRuler R) (c : Coordinate R) (distance bearing : R) :
    Coordinate R :=
  let a := (90.0 - bearing) * pi / 180.0
  { c with
    longitude := c.longitude + cos a * distance / ruler.kx
    latitude := c.latitude + sin a * distance / ruler.ky }

end CheapRuler

end Airmap.Util
