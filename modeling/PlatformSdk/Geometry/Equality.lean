import PlatformSdk.Compare.Equality
import PlatformSdk.Geometry.Object

/-!
# Equality of geometries

`operator==` for geometries goes down to the coordinates, whose altitudes are
compared by `Optional::operator==`.
-/

namespace Airmap

open Compare (IsPartial)
open Machine (Attempt)

/-- `operator==`; no NaN is equal to anything. -/
def Double.eq : Double → Double → Bool
  | .infinite negative, .infinite negative' => negative == negative'
  | .finite x, .finite y => decide (x = y)
  | _, _ => false

theorem Double.eq_iff {x y : Double} : x.eq y = true ↔ x = y ∧ x ≠ .nan := by
  cases x <;> cases y <;> simp [Double.eq]

theorem Double.eq_isPartial : IsPartial Double.eq where
  symm := by
    intro x y h
    obtain ⟨rfl, hne⟩ := Double.eq_iff.mp h
    exact h
  trans := by
    intro x y z h h'
    obtain ⟨rfl, hne⟩ := Double.eq_iff.mp h
    exact h'

/-- `Optional::operator==`. -/
def Optional.eq {α : Type} (eq : α → α → Bool) (lhs rhs : Option α) : Bool :=
  if lhs.isSome != rhs.isSome then false
  else match lhs, rhs with
    | some a, some b => eq a b
    | _, _ => false

theorem Optional.eq_eq_both {α : Type} (eq : α → α → Bool) :
    Optional.eq eq = Compare.both eq := by
  funext lhs rhs
  cases lhs with
  | none => cases rhs <;> rfl
  | some a => cases rhs <;> rfl

theorem Optional.eq_isPartial {α : Type} {eq : α → α → Bool} (h : IsPartial eq) :
    IsPartial (Optional.eq eq) := by
  rw [Optional.eq_eq_both]
  exact h.both

namespace Geometry

/-! ## The parts of a geometry -/

/-- `operator==` for coordinates, which does not look at the elevation. -/
def Coordinate.eq (lhs rhs : Coordinate) : Bool :=
  lhs.latitude.eq rhs.latitude && lhs.longitude.eq rhs.longitude &&
    Optional.eq Double.eq lhs.altitude rhs.altitude

theorem Coordinate.eq_isPartial : IsPartial Coordinate.eq :=
  ((Double.eq_isPartial.comap latitude).and (Double.eq_isPartial.comap longitude)).and
    ((Optional.eq_isPartial Double.eq_isPartial).comap altitude)

/-- None of the numbers is a NaN. -/
structure Coordinate.HasNoNan (c : Coordinate) : Prop where
  latitude : c.latitude ≠ .nan
  longitude : c.longitude ≠ .nan
  altitude : c.altitude ≠ some .nan
  elevation : c.elevation ≠ some .nan

/-- A coordinate is equal to itself just when it has an altitude. -/
theorem Coordinate.eq_self_iff {c : Coordinate} (h : c.HasNoNan) :
    c.eq c = true ↔ c.altitude.isSome := by
  have haltitude := h.altitude
  rw [Coordinate.eq, Bool.and_eq_true, Bool.and_eq_true, Double.eq_iff, Double.eq_iff,
    Optional.eq_eq_both]
  cases hvalue : c.altitude with
  | none => simp [Compare.both]
  | some x =>
      have hne : x ≠ .nan := by simpa [hvalue] using haltitude
      simp [Compare.both, Double.eq_iff, h.latitude, h.longitude, hne]

/-- `operator==` for vectors of coordinates. -/
def eqCoordinates (lhs rhs : List Coordinate) : Bool := lhs.isEqv rhs Coordinate.eq

/-- `operator==` for polygons. -/
def Polygon.eq (lhs rhs : Polygon) : Bool :=
  eqCoordinates lhs.outerRing rhs.outerRing &&
    lhs.innerRings.isEqv rhs.innerRings eqCoordinates

theorem eqCoordinates_isPartial : IsPartial eqCoordinates :=
  Coordinate.eq_isPartial.isEqv

theorem Polygon.eq_isPartial : IsPartial Polygon.eq :=
  (eqCoordinates_isPartial.comap outerRing).and
    (eqCoordinates_isPartial.isEqv.comap innerRings)

def Polygon.coordinates (polygon : Polygon) : List Coordinate :=
  polygon.outerRing ++ polygon.innerRings.flatten

theorem eqCoordinates_self_iff {coordinates : List Coordinate} :
    eqCoordinates coordinates coordinates = true ↔ ∀ c ∈ coordinates, c.eq c = true :=
  Compare.isEqv_self_iff

theorem Polygon.eq_self_iff {polygon : Polygon} :
    polygon.eq polygon = true ↔ ∀ c ∈ polygon.coordinates, c.eq c = true := by
  rw [Polygon.eq, Bool.and_eq_true, eqCoordinates_self_iff, Compare.isEqv_self_iff,
    Polygon.coordinates, List.forall_mem_append]
  refine and_congr_right fun _ => ?_
  constructor
  · intro h c hc
    obtain ⟨ring, hring, hc⟩ := List.mem_flatten.mp hc
    exact eqCoordinates_self_iff.mp (h ring hring) c hc
  · intro h ring hring
    exact eqCoordinates_self_iff.mpr fun c hc => h c (List.mem_flatten.mpr ⟨ring, hring, hc⟩)

/-! ## Geometries -/

mutual

/-- `operator==` for geometries. -/
def eq : Geometry → Geometry → Bool
  | .invalid, .invalid => true
  | .point lhs, .point rhs => lhs.eq rhs
  | .multiPoint lhs, .multiPoint rhs => eqCoordinates lhs rhs
  | .lineString lhs, .lineString rhs => eqCoordinates lhs rhs
  | .multiLineString lhs, .multiLineString rhs => lhs.isEqv rhs eqCoordinates
  | .polygon lhs, .polygon rhs => lhs.eq rhs
  | .multiPolygon lhs, .multiPolygon rhs => lhs.isEqv rhs Polygon.eq
  | .geometryCollection lhs, .geometryCollection rhs => eqAll lhs rhs
  | _, _ => false

def eqAll : List Geometry → List Geometry → Bool
  | [], [] => true
  | lhs :: lhss, rhs :: rhss => lhs.eq rhs && eqAll lhss rhss
  | _, _ => false

end

mutual

/-- The coordinates of a geometry at any depth. -/
def coordinates : Geometry → List Coordinate
  | .invalid => []
  | .point details => [details]
  | .multiPoint coordinates => coordinates
  | .lineString coordinates => coordinates
  | .multiLineString lines => lines.flatten
  | .polygon details => details.coordinates
  | .multiPolygon polygons => polygons.flatMap Polygon.coordinates
  | .geometryCollection geometries => coordinatesAll geometries

def coordinatesAll : List Geometry → List Coordinate
  | [] => []
  | geometry :: geometries => geometry.coordinates ++ coordinatesAll geometries

end

/-! ### What a geometry is equal to -/

theorem invalid_eq_iff {b : Geometry} : invalid.eq b = true ↔ b = .invalid := by
  cases b <;> simp [eq]

theorem point_eq_iff {lhs : Coordinate} {b : Geometry} :
    (point lhs).eq b = true ↔ ∃ rhs, b = .point rhs ∧ lhs.eq rhs = true := by
  cases b <;> simp [eq]

theorem multiPoint_eq_iff {lhs : List Coordinate} {b : Geometry} :
    (multiPoint lhs).eq b = true ↔
      ∃ rhs, b = .multiPoint rhs ∧ eqCoordinates lhs rhs = true := by
  cases b <;> simp [eq]

theorem lineString_eq_iff {lhs : List Coordinate} {b : Geometry} :
    (lineString lhs).eq b = true ↔
      ∃ rhs, b = .lineString rhs ∧ eqCoordinates lhs rhs = true := by
  cases b <;> simp [eq]

theorem multiLineString_eq_iff {lhs : List (List Coordinate)} {b : Geometry} :
    (multiLineString lhs).eq b = true ↔
      ∃ rhs, b = .multiLineString rhs ∧ lhs.isEqv rhs eqCoordinates = true := by
  cases b <;> simp [eq]

theorem polygon_eq_iff {lhs : Polygon} {b : Geometry} :
    (polygon lhs).eq b = true ↔ ∃ rhs, b = .polygon rhs ∧ lhs.eq rhs = true := by
  cases b <;> simp [eq]

theorem multiPolygon_eq_iff {lhs : List Polygon} {b : Geometry} :
    (multiPolygon lhs).eq b = true ↔
      ∃ rhs, b = .multiPolygon rhs ∧ lhs.isEqv rhs Polygon.eq = true := by
  cases b <;> simp [eq]

theorem geometryCollection_eq_iff {lhs : List Geometry} {b : Geometry} :
    (geometryCollection lhs).eq b = true ↔
      ∃ rhs, b = .geometryCollection rhs ∧ eqAll lhs rhs = true := by
  cases b <;> simp [eq]

theorem eqAll_nil_iff {bs : List Geometry} : eqAll [] bs = true ↔ bs = [] := by
  cases bs <;> simp [eqAll]

theorem eqAll_cons_iff {a : Geometry} {as bs : List Geometry} :
    eqAll (a :: as) bs = true ↔
      ∃ b bs', bs = b :: bs' ∧ a.eq b = true ∧ eqAll as bs' = true := by
  cases bs with
  | nil => simp [eqAll]
  | cons b bs => simp [eqAll]

mutual

theorem eq_symm : ∀ {a b : Geometry}, a.eq b = true → b.eq a = true
  | .invalid, _, h => by
      obtain rfl := invalid_eq_iff.mp h
      exact h
  | .point details, _, h => by
      obtain ⟨_, rfl, h⟩ := point_eq_iff.mp h
      exact point_eq_iff.mpr ⟨details, rfl, Coordinate.eq_isPartial.symm h⟩
  | .multiPoint details, _, h => by
      obtain ⟨_, rfl, h⟩ := multiPoint_eq_iff.mp h
      exact multiPoint_eq_iff.mpr ⟨details, rfl, eqCoordinates_isPartial.symm h⟩
  | .lineString details, _, h => by
      obtain ⟨_, rfl, h⟩ := lineString_eq_iff.mp h
      exact lineString_eq_iff.mpr ⟨details, rfl, eqCoordinates_isPartial.symm h⟩
  | .multiLineString details, _, h => by
      obtain ⟨_, rfl, h⟩ := multiLineString_eq_iff.mp h
      exact multiLineString_eq_iff.mpr ⟨details, rfl, eqCoordinates_isPartial.isEqv.symm h⟩
  | .polygon details, _, h => by
      obtain ⟨_, rfl, h⟩ := polygon_eq_iff.mp h
      exact polygon_eq_iff.mpr ⟨details, rfl, Polygon.eq_isPartial.symm h⟩
  | .multiPolygon details, _, h => by
      obtain ⟨_, rfl, h⟩ := multiPolygon_eq_iff.mp h
      exact multiPolygon_eq_iff.mpr ⟨details, rfl, Polygon.eq_isPartial.isEqv.symm h⟩
  | .geometryCollection details, _, h => by
      obtain ⟨_, rfl, h⟩ := geometryCollection_eq_iff.mp h
      exact geometryCollection_eq_iff.mpr ⟨details, rfl, eqAll_symm h⟩

theorem eqAll_symm : ∀ {as bs : List Geometry}, eqAll as bs = true → eqAll bs as = true
  | [], _, h => by
      obtain rfl := eqAll_nil_iff.mp h
      exact h
  | a :: as, _, h => by
      obtain ⟨b, bs, rfl, hhead, htail⟩ := eqAll_cons_iff.mp h
      exact eqAll_cons_iff.mpr ⟨a, as, rfl, eq_symm hhead, eqAll_symm htail⟩

end

mutual

theorem eq_trans : ∀ {a b c : Geometry}, a.eq b = true → b.eq c = true → a.eq c = true
  | .invalid, _, _, h, h' => by
      obtain rfl := invalid_eq_iff.mp h
      exact h'
  | .point _, _, _, h, h' => by
      obtain ⟨_, rfl, h⟩ := point_eq_iff.mp h
      obtain ⟨details, rfl, h'⟩ := point_eq_iff.mp h'
      exact point_eq_iff.mpr ⟨details, rfl, Coordinate.eq_isPartial.trans h h'⟩
  | .multiPoint _, _, _, h, h' => by
      obtain ⟨_, rfl, h⟩ := multiPoint_eq_iff.mp h
      obtain ⟨details, rfl, h'⟩ := multiPoint_eq_iff.mp h'
      exact multiPoint_eq_iff.mpr ⟨details, rfl, eqCoordinates_isPartial.trans h h'⟩
  | .lineString _, _, _, h, h' => by
      obtain ⟨_, rfl, h⟩ := lineString_eq_iff.mp h
      obtain ⟨details, rfl, h'⟩ := lineString_eq_iff.mp h'
      exact lineString_eq_iff.mpr ⟨details, rfl, eqCoordinates_isPartial.trans h h'⟩
  | .multiLineString _, _, _, h, h' => by
      obtain ⟨_, rfl, h⟩ := multiLineString_eq_iff.mp h
      obtain ⟨details, rfl, h'⟩ := multiLineString_eq_iff.mp h'
      exact multiLineString_eq_iff.mpr
        ⟨details, rfl, eqCoordinates_isPartial.isEqv.trans h h'⟩
  | .polygon _, _, _, h, h' => by
      obtain ⟨_, rfl, h⟩ := polygon_eq_iff.mp h
      obtain ⟨details, rfl, h'⟩ := polygon_eq_iff.mp h'
      exact polygon_eq_iff.mpr ⟨details, rfl, Polygon.eq_isPartial.trans h h'⟩
  | .multiPolygon _, _, _, h, h' => by
      obtain ⟨_, rfl, h⟩ := multiPolygon_eq_iff.mp h
      obtain ⟨details, rfl, h'⟩ := multiPolygon_eq_iff.mp h'
      exact multiPolygon_eq_iff.mpr ⟨details, rfl, Polygon.eq_isPartial.isEqv.trans h h'⟩
  | .geometryCollection _, _, _, h, h' => by
      obtain ⟨_, rfl, h⟩ := geometryCollection_eq_iff.mp h
      obtain ⟨details, rfl, h'⟩ := geometryCollection_eq_iff.mp h'
      exact geometryCollection_eq_iff.mpr ⟨details, rfl, eqAll_trans h h'⟩

theorem eqAll_trans : ∀ {as bs cs : List Geometry},
    eqAll as bs = true → eqAll bs cs = true → eqAll as cs = true
  | [], _, _, h, h' => by
      obtain rfl := eqAll_nil_iff.mp h
      exact h'
  | _ :: _, _, _, h, h' => by
      obtain ⟨_, _, rfl, hhead, htail⟩ := eqAll_cons_iff.mp h
      obtain ⟨c, cs, rfl, hhead', htail'⟩ := eqAll_cons_iff.mp h'
      exact eqAll_cons_iff.mpr ⟨c, cs, rfl, eq_trans hhead hhead', eqAll_trans htail htail'⟩

end

theorem eq_isPartial : IsPartial eq := ⟨eq_symm, eq_trans⟩

mutual

/-- A geometry is equal to itself just when each of its coordinates is. -/
theorem eq_self_iff : ∀ {a : Geometry},
    a.eq a = true ↔ ∀ c ∈ a.coordinates, c.eq c = true
  | .invalid => by simp [eq, coordinates]
  | .point _ => by simp [eq, coordinates]
  | .multiPoint _ => by rw [eq, coordinates, eqCoordinates_self_iff]
  | .lineString _ => by rw [eq, coordinates, eqCoordinates_self_iff]
  | .multiLineString _ => by
      rw [eq, coordinates, Compare.isEqv_self_iff, List.forall_mem_flatten]
      exact forall₂_congr fun _ _ => eqCoordinates_self_iff
  | .polygon _ => by rw [eq, coordinates, Polygon.eq_self_iff]
  | .multiPolygon _ => by
      rw [eq, coordinates, Compare.isEqv_self_iff, List.forall_mem_flatMap]
      exact forall₂_congr fun _ _ => Polygon.eq_self_iff
  | .geometryCollection geometries => by
      rw [eq, coordinates, eqAll_self_iff]

theorem eqAll_self_iff : ∀ {as : List Geometry},
    eqAll as as = true ↔ ∀ c ∈ coordinatesAll as, c.eq c = true
  | [] => by simp [eqAll, coordinatesAll]
  | a :: as => by
      rw [eqAll, coordinatesAll, Bool.and_eq_true, List.forall_mem_append, eq_self_iff,
        eqAll_self_iff]

end

/-- None of the numbers of the geometry is a NaN. -/
def HasNoNan (geometry : Geometry) : Prop := ∀ c ∈ geometry.coordinates, c.HasNoNan

/-- Every coordinate of the geometry has an altitude. -/
def HasAltitudes (geometry : Geometry) : Prop :=
  ∀ c ∈ geometry.coordinates, c.altitude.isSome

theorem eq_self_iff_hasAltitudes {a : Geometry} (h : a.HasNoNan) :
    a.eq a = true ↔ a.HasAltitudes := by
  rw [eq_self_iff]
  exact forall₂_congr fun c hc => Coordinate.eq_self_iff (h c hc)

/-! ## Objects -/

/-- `operator==` for two objects. -/
def Object.eq (lhs rhs : Object) : Attempt Bool :=
  if lhs.tag ≠ rhs.tag then .returns false
  else match lhs.tag with
    | .invalid => .returns true
    | .point => do
        return (← lhs.detailsForPoint).eq (← rhs.detailsForPoint)
    | .multiPoint => do
        return eqCoordinates (← lhs.detailsForMultiPoint) (← rhs.detailsForMultiPoint)
    | .lineString => do
        return eqCoordinates (← lhs.detailsForLineString) (← rhs.detailsForLineString)
    | .multiLineString => do
        return (← lhs.detailsForMultiLineString).isEqv (← rhs.detailsForMultiLineString)
          eqCoordinates
    | .polygon => do
        return (← lhs.detailsForPolygon).eq (← rhs.detailsForPolygon)
    | .multiPolygon => do
        return (← lhs.detailsForMultiPolygon).isEqv (← rhs.detailsForMultiPolygon) Polygon.eq
    | .geometryCollection => do
        return eqAll (← lhs.detailsForGeometryCollection) (← rhs.detailsForGeometryCollection)

theorem eq_eq_false_of_kind_ne {a b : Geometry} (h : a.kind ≠ b.kind) : a.eq b = false := by
  cases a with
  | _ =>
      cases b with
      | _ => first | rfl | exact absurd rfl h

/-- The objects are compared as their values are. -/
theorem Object.eq_of_holds {lhs rhs : Object} {a b : Geometry} (ha : variant.Holds lhs a)
    (hb : variant.Holds rhs b) : Object.eq lhs rhs = .returns (a.eq b) := by
  have hatag : lhs.tag = a.kind := ha.1
  have hbtag : rhs.tag = b.kind := hb.1
  by_cases hkind : a.kind = b.kind
  · by_cases hne : a = .invalid
    · subst hne
      obtain rfl : b = .invalid := variant_isLawful.kind_injective b hkind.symm
      rw [Object.eq, hatag, hbtag]
      rfl
    · have hne' : b ≠ .invalid := by
        rintro rfl
        exact hne (variant_isLawful.kind_injective a hkind)
      obtain rfl := ha.eq_mk hne
      obtain rfl := hb.eq_mk hne'
      change Object.eq ⟨a.kind, a⟩ ⟨b.kind, b⟩ = _
      rw [Object.eq, if_neg (not_not_intro hkind)]
      cases a with
      | invalid => exact absurd rfl hne
      | geometryCollection as =>
          cases b with
          | geometryCollection bs =>
              change Attempt.returns (eqAll (copyAll as) (copyAll bs)) = _
              rw [copyAll_eq, copyAll_eq, Geometry.eq]
          | _ => cases hkind
      | _ =>
          cases b with
          | _ => first | rfl | cases hkind
  · rw [Object.eq, hatag, hbtag, if_pos hkind, eq_eq_false_of_kind_ne hkind]

/-- The three objects are compared by an equivalence, and a copy of the first one is
equal to it. -/
structure Object.AreComparable (a b c : Object) : Prop where
  refl : Object.eq a a = .returns true
  symm : Object.eq a b = .returns true → Object.eq b a = .returns true
  trans : Object.eq a b = .returns true → Object.eq b c = .returns true →
    Object.eq a c = .returns true
  copyConstruct : ∃ o, variant.copyConstruct a = .returns o ∧ Object.eq o a = .returns true
  assign : ∀ target value, variant.Holds target value →
    ∃ o, variant.assign target a = .returns o ∧ Object.eq o a = .returns true

/-- Among geometries without a NaN, those that are equal to themselves and to their
copies are the ones with an altitude at each coordinate. -/
theorem equality_iff_hasAltitudes {a b c : Object} {geometry geometry' geometry'' : Geometry}
    (ha : variant.Holds a geometry) (hb : variant.Holds b geometry')
    (hc : variant.Holds c geometry'') (hnan : geometry.HasNoNan) :
    Object.AreComparable a b c ↔ geometry.HasAltitudes := by
  rw [← eq_self_iff_hasAltitudes hnan]
  constructor
  · intro h
    have hrefl := h.refl
    rwa [Object.eq_of_holds ha ha, Attempt.returns.injEq] at hrefl
  · intro hself
    constructor
    · rw [Object.eq_of_holds ha ha, hself]
    · rw [Object.eq_of_holds ha hb, Object.eq_of_holds hb ha, Attempt.returns.injEq,
        Attempt.returns.injEq]
      exact eq_symm
    · rw [Object.eq_of_holds ha hb, Object.eq_of_holds hb hc, Object.eq_of_holds ha hc,
        Attempt.returns.injEq, Attempt.returns.injEq, Attempt.returns.injEq]
      exact eq_trans
    · obtain ⟨o, ho, hholds⟩ := variant_isLawful.copyConstruct ha
      exact ⟨o, ho, by rw [Object.eq_of_holds hholds ha, hself]⟩
    · intro target value htarget
      obtain ⟨o, ho, hholds⟩ := variant_isLawful.assign htarget ha
      exact ⟨o, ho, by rw [Object.eq_of_holds hholds ha, hself]⟩

/-- `Geometry::point`. -/
def pointAt (lat lon : Double) : Geometry := .point { latitude := lat, longitude := lon }

theorem pointAt_hasNoNan (lat lon : Double) (hlat : lat ≠ .nan) (hlon : lon ≠ .nan) :
    (pointAt lat lon).HasNoNan := by
  intro c hc
  rw [pointAt, coordinates, List.mem_singleton] at hc
  subst hc
  exact ⟨hlat, hlon, by simp, by simp⟩

theorem equality_iff_hasAltitudes_pointAt :
    (pointAt (.finite 0) (.finite 0)).HasNoNan ∧
      (Object.AreComparable (Object.init (pointAt (.finite 0) (.finite 0)))
        (Object.init .invalid) (Object.init .invalid) ↔
          (pointAt (.finite 0) (.finite 0)).HasAltitudes) := by
  have hnan := pointAt_hasNoNan (.finite 0) (.finite 0) (by simp) (by simp)
  exact ⟨hnan, equality_iff_hasAltitudes (variant_isLawful.init _)
    (variant_isLawful.init .invalid) (variant_isLawful.init .invalid) hnan⟩

/-- A point as `Geometry::point` makes it is not equal to itself. -/
theorem pointAt_not_comparable :
    ¬ ∀ (a b c : Object) (geometry geometry' geometry'' : Geometry),
      variant.Holds a geometry → variant.Holds b geometry' → variant.Holds c geometry'' →
      geometry.HasNoNan → geometry'.HasNoNan → geometry''.HasNoNan →
        Object.AreComparable a b c := by
  intro h
  have hnan := pointAt_hasNoNan (.finite 0) (.finite 0) (by simp) (by simp)
  have hholds := variant_isLawful.init (pointAt (.finite 0) (.finite 0))
  have hrefl := (h _ _ _ _ _ _ hholds hholds hholds hnan hnan hnan).refl
  rw [Object.eq_of_holds hholds hholds, Attempt.returns.injEq] at hrefl
  cases hrefl

end Geometry
end Airmap
