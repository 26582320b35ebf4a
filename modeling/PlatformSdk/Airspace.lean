import Mathlib.Logic.Basic
import PlatformSdk.Compare.Equality
import PlatformSdk.Geometry.Equality

/-!
# Airspaces

`Airspace` has nine members and a union with the details of its type.  `operator==`
compares the members and then the details of the type of one of the two airspaces,
without a look at the type of the other.
-/

namespace Airmap

open Compare (IsPartial)
open Machine (Attempt)

/-- `Rule`.  Its type has no enumerators. -/
structure Rule where
  type : Int32
  id : String
  name : String
  description : String
  jurisdiction : String
  deriving DecidableEq

/-- `operator==` for rules. -/
def Rule.eq (lhs rhs : Rule) : Bool :=
  decide (lhs.type = rhs.type) && decide (lhs.id = rhs.id) && decide (lhs.name = rhs.name) &&
    decide (lhs.description = rhs.description) && decide (lhs.jurisdiction = rhs.jurisdiction)

theorem Rule.eq_iff {lhs rhs : Rule} : lhs.eq rhs = true ↔ lhs = rhs := by
  cases lhs
  cases rhs
  simp [Rule.eq, and_assoc]

namespace Airspace

/-! ## Details -/

/-- `Airport::Runway`. -/
structure Runway where
  name : String
  length : Double
  bearing : Double

/-- `Airport`, which is for public use unless something else is said. -/
structure Airport where
  iata : String := ""
  icao : String := ""
  paved : Bool := false
  phone : String := ""
  tower : Bool := false
  runways : List Runway := []
  elevation : Double := .finite 0
  longestRunway : Double := .finite 0
  instrumentApproachProcedure : Bool := false
  use : Int32 := 0

structure ControlledAirspace where
  airspaceClassification : String

/-- `SpecialUseAirspace`.  Its type has no enumerators. -/
structure SpecialUseAirspace where
  type : Int32

/-- `TemporaryFlightRestriction`.  Its type has no enumerators. -/
structure TemporaryFlightRestriction where
  url : String
  type : Int32
  reason : String

structure Wildfire where
  effectiveDate : String

/-- `Heliport`.  Its usage has no enumerators. -/
structure Heliport where
  faaId : String
  phone : String
  usage : Int32

structure PowerPlant where
  technology : String
  code : UInt64

/-- `Airspace::Type`, without the value that stands for all types. -/
inductive Kind where
  | invalid
  | airport
  | controlledAirspace
  | specialUseAirspace
  | tfr
  | wildfire
  | park
  | powerPlant
  | heliport
  | prison
  | school
  | hospital
  | fire
  | emergency
  deriving DecidableEq, Repr

/-- The active member of the union; those that are classes without members are left
out. -/
inductive Details where
  | invalid
  | airport (details : Airport)
  | controlledAirspace (details : ControlledAirspace)
  | specialUseAirspace (details : SpecialUseAirspace)
  | tfr (details : TemporaryFlightRestriction)
  | wildfire (details : Wildfire)
  | park
  | powerPlant (details : PowerPlant)
  | heliport (details : Heliport)
  | prison
  | school
  | hospital
  | fire
  | emergency

def Details.kind : Details → Kind
  | .invalid => .invalid
  | .airport _ => .airport
  | .controlledAirspace _ => .controlledAirspace
  | .specialUseAirspace _ => .specialUseAirspace
  | .tfr _ => .tfr
  | .wildfire _ => .wildfire
  | .park => .park
  | .powerPlant _ => .powerPlant
  | .heliport _ => .heliport
  | .prison => .prison
  | .school => .school
  | .hospital => .hospital
  | .fire => .fire
  | .emergency => .emergency

/-- `operator==` for runways. -/
def Runway.eq (lhs rhs : Runway) : Bool :=
  decide (lhs.name = rhs.name) && lhs.length.eq rhs.length && lhs.bearing.eq rhs.bearing

/-- `operator==` for the details of airports. -/
def Airport.eq (lhs rhs : Airport) : Bool :=
  decide (lhs.iata = rhs.iata) && decide (lhs.icao = rhs.icao) &&
    decide (lhs.paved = rhs.paved) && decide (lhs.phone = rhs.phone) &&
    decide (lhs.tower = rhs.tower) && lhs.runways.isEqv rhs.runways Runway.eq &&
    lhs.elevation.eq rhs.elevation && lhs.longestRunway.eq rhs.longestRunway &&
    decide (lhs.instrumentApproachProcedure = rhs.instrumentApproachProcedure) &&
    decide (lhs.use = rhs.use)

/-- `operator==` for the details of special use airspaces. -/
def SpecialUseAirspace.eq (lhs rhs : SpecialUseAirspace) : Bool :=
  decide (lhs.type = rhs.type)

/-- `operator==` for the details of temporary flight restrictions. -/
def TemporaryFlightRestriction.eq (lhs rhs : TemporaryFlightRestriction) : Bool :=
  decide (lhs.url = rhs.url) && decide (lhs.type = rhs.type) &&
    decide (lhs.reason = rhs.reason)

/-- `operator==` for the details of wildfires. -/
def Wildfire.eq (lhs rhs : Wildfire) : Bool :=
  decide (lhs.effectiveDate = rhs.effectiveDate)

/-- `operator==` for the details of heliports. -/
def Heliport.eq (lhs rhs : Heliport) : Bool :=
  decide (lhs.faaId = rhs.faaId) && decide (lhs.phone = rhs.phone) &&
    decide (lhs.usage = rhs.usage)

/-- `operator==` for the details of power plants. -/
def PowerPlant.eq (lhs rhs : PowerPlant) : Bool :=
  decide (lhs.technology = rhs.technology) && decide (lhs.code = rhs.code)

theorem Runway.eq_isPartial : IsPartial Runway.eq :=
  ((IsPartial.decideEq.comap name).and (Double.eq_isPartial.comap length)).and
    (Double.eq_isPartial.comap bearing)

theorem Airport.eq_isPartial : IsPartial Airport.eq :=
  (((((((((IsPartial.decideEq.comap iata).and (IsPartial.decideEq.comap icao)).and
    (IsPartial.decideEq.comap paved)).and (IsPartial.decideEq.comap phone)).and
    (IsPartial.decideEq.comap tower)).and (Runway.eq_isPartial.isEqv.comap runways)).and
    (Double.eq_isPartial.comap elevation)).and (Double.eq_isPartial.comap longestRunway)).and
    (IsPartial.decideEq.comap instrumentApproachProcedure)).and (IsPartial.decideEq.comap use)

theorem SpecialUseAirspace.eq_isPartial : IsPartial SpecialUseAirspace.eq :=
  IsPartial.decideEq.comap type

theorem TemporaryFlightRestriction.eq_isPartial : IsPartial TemporaryFlightRestriction.eq :=
  ((IsPartial.decideEq.comap url).and (IsPartial.decideEq.comap type)).and
    (IsPartial.decideEq.comap reason)

theorem Wildfire.eq_isPartial : IsPartial Wildfire.eq :=
  IsPartial.decideEq.comap effectiveDate

theorem Heliport.eq_isPartial : IsPartial Heliport.eq :=
  ((IsPartial.decideEq.comap faaId).and (IsPartial.decideEq.comap phone)).and
    (IsPartial.decideEq.comap usage)

theorem PowerPlant.eq_isPartial : IsPartial PowerPlant.eq :=
  (IsPartial.decideEq.comap technology).and (IsPartial.decideEq.comap code)

namespace Details

/-! ### Reading the union -/

def detailsForAirport : Details → Attempt Airport
  | .airport details => .returns details
  | _ => .undefined

def detailsForSpecialUseAirspace : Details → Attempt SpecialUseAirspace
  | .specialUseAirspace details => .returns details
  | _ => .undefined

def detailsForTemporaryFlightRestriction : Details → Attempt TemporaryFlightRestriction
  | .tfr details => .returns details
  | _ => .undefined

def detailsForWildfire : Details → Attempt Wildfire
  | .wildfire details => .returns details
  | _ => .undefined

def detailsForPowerPlant : Details → Attempt PowerPlant
  | .powerPlant details => .returns details
  | _ => .undefined

def detailsForHeliport : Details → Attempt Heliport
  | .heliport details => .returns details
  | _ => .undefined

/-- The `switch` of `operator==`.  For seven types `operator==` of the details looks at
neither of them. -/
def eq (lhs rhs : Details) : Attempt Bool :=
  match lhs.kind with
  | .invalid => .returns true
  | .airport => do
      return (← lhs.detailsForAirport).eq (← rhs.detailsForAirport)
  | .specialUseAirspace => do
      return (← lhs.detailsForSpecialUseAirspace).eq (← rhs.detailsForSpecialUseAirspace)
  | .tfr => do
      return (← lhs.detailsForTemporaryFlightRestriction).eq
        (← rhs.detailsForTemporaryFlightRestriction)
  | .wildfire => do
      return (← lhs.detailsForWildfire).eq (← rhs.detailsForWildfire)
  | .powerPlant => do
      return (← lhs.detailsForPowerPlant).eq (← rhs.detailsForPowerPlant)
  | .heliport => do
      return (← lhs.detailsForHeliport).eq (← rhs.detailsForHeliport)
  | .controlledAirspace | .park | .prison | .school | .hospital | .fire | .emergency =>
      .returns true

end Details

/-- The types whose details are looked at when they are compared. -/
def Kind.isRead : Kind → Bool
  | .airport | .specialUseAirspace | .tfr | .wildfire | .powerPlant | .heliport => true
  | .invalid | .controlledAirspace | .park | .prison | .school | .hospital | .fire
  | .emergency => false

namespace Details

/-- Details of two types: either nothing is looked at, or details that are not there. -/
theorem eq_of_kind_ne {lhs rhs : Details} (h : lhs.kind ≠ rhs.kind) :
    lhs.eq rhs = if lhs.kind.isRead then .undefined else .returns true := by
  cases lhs with
  | _ =>
      cases rhs with
      | _ => first | rfl | exact absurd rfl h

theorem exists_eq_of_kind_eq {lhs rhs : Details} (h : lhs.kind = rhs.kind) :
    ∃ equal, lhs.eq rhs = .returns equal := by
  cases lhs with
  | _ =>
      cases rhs with
      | _ => first | exact ⟨_, rfl⟩ | cases h

theorem eq_symm {lhs rhs : Details} (hkind : lhs.kind = rhs.kind)
    (h : lhs.eq rhs = .returns true) : rhs.eq lhs = .returns true := by
  rw [Details.eq] at h ⊢
  rw [← hkind]
  cases hlhs : lhs.kind with
  | airport =>
      rw [hlhs] at h
      exact Airport.eq_isPartial.ofRead_symm h
  | specialUseAirspace =>
      rw [hlhs] at h
      exact SpecialUseAirspace.eq_isPartial.ofRead_symm h
  | tfr =>
      rw [hlhs] at h
      exact TemporaryFlightRestriction.eq_isPartial.ofRead_symm h
  | wildfire =>
      rw [hlhs] at h
      exact Wildfire.eq_isPartial.ofRead_symm h
  | powerPlant =>
      rw [hlhs] at h
      exact PowerPlant.eq_isPartial.ofRead_symm h
  | heliport =>
      rw [hlhs] at h
      exact Heliport.eq_isPartial.ofRead_symm h
  | _ => rfl

theorem eq_trans {a b c : Details} (hkind : a.kind = b.kind)
    (hab : a.eq b = .returns true) (hbc : b.eq c = .returns true) :
    a.eq c = .returns true := by
  rw [Details.eq] at hab hbc ⊢
  rw [← hkind] at hbc
  cases ha : a.kind with
  | airport =>
      rw [ha] at hab hbc
      exact Airport.eq_isPartial.ofRead_trans hab hbc
  | specialUseAirspace =>
      rw [ha] at hab hbc
      exact SpecialUseAirspace.eq_isPartial.ofRead_trans hab hbc
  | tfr =>
      rw [ha] at hab hbc
      exact TemporaryFlightRestriction.eq_isPartial.ofRead_trans hab hbc
  | wildfire =>
      rw [ha] at hab hbc
      exact Wildfire.eq_isPartial.ofRead_trans hab hbc
  | powerPlant =>
      rw [ha] at hab hbc
      exact PowerPlant.eq_isPartial.ofRead_trans hab hbc
  | heliport =>
      rw [ha] at hab hbc
      exact Heliport.eq_isPartial.ofRead_trans hab hbc
  | _ => rfl

end Details

/-! ## Airspaces -/

/-- `RelatedGeometry`. -/
structure RelatedGeometry where
  id : String
  geometry : Geometry

/-- `operator==` for related geometries. -/
def RelatedGeometry.eq (lhs rhs : RelatedGeometry) : Bool :=
  decide (lhs.id = rhs.id) && lhs.geometry.eq rhs.geometry

theorem RelatedGeometry.eq_isPartial : IsPartial RelatedGeometry.eq :=
  (IsPartial.decideEq.comap id).and (Geometry.eq_isPartial.comap geometry)

/-- `operator==` for the entries of a map. -/
def eqEntry (lhs rhs : String × RelatedGeometry) : Bool :=
  decide (lhs.1 = rhs.1) && lhs.2.eq rhs.2

theorem eqEntry_isPartial : IsPartial eqEntry :=
  (IsPartial.decideEq.comap Prod.fst).and (RelatedGeometry.eq_isPartial.comap Prod.snd)

end Airspace

/-- `Airspace`.  A time is the number that stands for it; `relatedGeometries` is a map,
in the order of its keys. -/
structure Airspace where
  id : String := ""
  name : String := ""
  country : String := ""
  state : String := ""
  city : String := ""
  lastUpdated : Int64
  geometry : Geometry := .invalid
  relatedGeometries : List (String × Airspace.RelatedGeometry) := []
  rules : List Rule := []
  details : Airspace.Details := .invalid

namespace Airspace

/-- `Airspace::type`. -/
def kind (airspace : Airspace) : Kind := airspace.details.kind

/-- The first expression of `operator==`. -/
def membersEqual (lhs rhs : Airspace) : Bool :=
  decide (lhs.id = rhs.id) && decide (lhs.name = rhs.name) &&
    decide (lhs.country = rhs.country) && decide (lhs.state = rhs.state) &&
    decide (lhs.city = rhs.city) && decide (lhs.lastUpdated = rhs.lastUpdated) &&
    lhs.geometry.eq rhs.geometry &&
    lhs.relatedGeometries.isEqv rhs.relatedGeometries eqEntry &&
    lhs.rules.isEqv rhs.rules Rule.eq

/-- `operator==` for airspaces. -/
def eq (lhs rhs : Airspace) : Attempt Bool :=
  if membersEqual lhs rhs then lhs.details.eq rhs.details else .returns false

theorem membersEqual_isPartial : IsPartial membersEqual :=
  have rule_eq : IsPartial Rule.eq :=
    ⟨fun h => Rule.eq_iff.mpr (Rule.eq_iff.mp h).symm,
      fun h h' => Rule.eq_iff.mpr ((Rule.eq_iff.mp h).trans (Rule.eq_iff.mp h'))⟩
  ((((((((IsPartial.decideEq.comap id).and (IsPartial.decideEq.comap name)).and
    (IsPartial.decideEq.comap country)).and (IsPartial.decideEq.comap state)).and
    (IsPartial.decideEq.comap city)).and (IsPartial.decideEq.comap lastUpdated)).and
    (Geometry.eq_isPartial.comap geometry)).and
    (eqEntry_isPartial.isEqv.comap relatedGeometries)).and
    (rule_eq.isEqv.comap rules)

theorem eq_eq_true_iff {a b : Airspace} : a.eq b = .returns true ↔
    membersEqual a b = true ∧ a.details.eq b.details = .returns true := by
  rw [eq]
  by_cases h : membersEqual a b = true
  · simp [h]
  · simp [h]

/-- The two airspaces have equal members of every name. -/
structure HaveEqualMembers (a b : Airspace) : Prop where
  id : a.id = b.id
  name : a.name = b.name
  country : a.country = b.country
  state : a.state = b.state
  city : a.city = b.city
  lastUpdated : a.lastUpdated = b.lastUpdated
  geometry : a.geometry.eq b.geometry = true
  relatedGeometries : List.Forall₂ (fun entry entry' => entry.1 = entry'.1 ∧
    entry.2.id = entry'.2.id ∧ entry.2.geometry.eq entry'.2.geometry = true)
      a.relatedGeometries b.relatedGeometries
  rules : a.rules = b.rules

theorem membersEqual_iff {a b : Airspace} :
    membersEqual a b = true ↔ HaveEqualMembers a b := by
  have hentries : (a.relatedGeometries.isEqv b.relatedGeometries eqEntry = true) ↔
      List.Forall₂ (fun entry entry' => entry.1 = entry'.1 ∧ entry.2.id = entry'.2.id ∧
        entry.2.geometry.eq entry'.2.geometry = true)
          a.relatedGeometries b.relatedGeometries := by
    rw [Compare.isEqv_iff_forall₂]
    simp only [eqEntry, RelatedGeometry.eq, Bool.and_eq_true, decide_eq_true_eq]
  have hrules : (a.rules.isEqv b.rules Rule.eq = true) ↔ a.rules = b.rules := by
    rw [Compare.isEqv_iff_forall₂]
    simp only [Rule.eq_iff, List.forall₂_eq_eq_eq]
  rw [membersEqual]
  simp only [Bool.and_eq_true, decide_eq_true_eq, hentries, hrules]
  constructor
  · rintro ⟨⟨⟨⟨⟨⟨⟨⟨hid, hname⟩, hcountry⟩, hstate⟩, hcity⟩, htime⟩, hgeometry⟩, hrelated⟩, hr⟩
    exact ⟨hid, hname, hcountry, hstate, hcity, htime, hgeometry, hrelated, hr⟩
  · rintro ⟨hid, hname, hcountry, hstate, hcity, htime, hgeometry, hrelated, hr⟩
    exact ⟨⟨⟨⟨⟨⟨⟨⟨hid, hname⟩, hcountry⟩, hstate⟩, hcity⟩, htime⟩, hgeometry⟩, hrelated⟩, hr⟩

/-- The airspaces are compared without a look at details that are not there, equal ones
have the same type, and equality is symmetric and transitive. -/
structure AreComparable (a b c : Airspace) : Prop where
  defined : ∃ equal, a.eq b = .returns equal
  kind : a.eq b = .returns true → a.kind = b.kind
  symm : a.eq b = .returns true → b.eq a = .returns true
  trans : a.eq b = .returns true → b.eq c = .returns true → a.eq c = .returns true

/-- Equality is as it should be just when two airspaces with equal members are of the same
type. -/
theorem areComparable_iff (a b c : Airspace) :
    AreComparable a b c ↔ (HaveEqualMembers a b → a.kind = b.kind) := by
  rw [← membersEqual_iff]
  constructor
  · intro h hmembers
    by_contra hne
    have hdetails : a.eq b = if a.kind.isRead then .undefined else .returns true := by
      rw [eq, if_pos hmembers]
      exact Details.eq_of_kind_ne hne
    by_cases hread : a.kind.isRead
    · obtain ⟨equal, hequal⟩ := h.defined
      rw [hdetails, if_pos hread] at hequal
      cases hequal
    · rw [if_neg hread] at hdetails
      exact hne (h.kind hdetails)
  · intro h
    have hkind : a.eq b = .returns true → a.kind = b.kind :=
      fun hequal => h (eq_eq_true_iff.mp hequal).1
    refine ⟨?_, hkind, ?_, ?_⟩
    · rw [eq]
      by_cases hmembers : membersEqual a b = true
      · rw [if_pos hmembers]
        exact Details.exists_eq_of_kind_eq (h hmembers)
      · exact ⟨false, if_neg hmembers⟩
    · intro hequal
      obtain ⟨hmembers, hdetails⟩ := eq_eq_true_iff.mp hequal
      exact eq_eq_true_iff.mpr ⟨membersEqual_isPartial.symm hmembers,
        Details.eq_symm (hkind hequal) hdetails⟩
    · intro hequal hequal'
      obtain ⟨hmembers, hdetails⟩ := eq_eq_true_iff.mp hequal
      obtain ⟨hmembers', hdetails'⟩ := eq_eq_true_iff.mp hequal'
      exact eq_eq_true_iff.mpr ⟨membersEqual_isPartial.trans hmembers hmembers',
        Details.eq_trans (hkind hequal) hdetails hdetails'⟩

/-- The geometries of an airspace. -/
def geometries (airspace : Airspace) : List Geometry :=
  airspace.geometry :: airspace.relatedGeometries.map fun entry => entry.2.geometry

/-- An airspace of no type is equal to a park. -/
theorem park_not_comparable :
    ¬ ∀ a b c : Airspace, (∀ geometry ∈ a.geometries ++ b.geometries ++ c.geometries,
      geometry.HasAltitudes ∧ geometry.HasNoNan) → AreComparable a b c := by
  intro h
  have hkind := (h { lastUpdated := 0 } { lastUpdated := 0, details := .park }
    { lastUpdated := 0 } ?_).kind rfl
  · cases hkind
  · simp [geometries, Geometry.HasAltitudes, Geometry.HasNoNan, Geometry.coordinates]

end Airspace
end Airmap
