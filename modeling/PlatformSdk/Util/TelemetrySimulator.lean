import PlatformSdk.Codec.Grpc.Traffic
import PlatformSdk.Codec.Json.FlightPlan
import PlatformSdk.Machine.Run
import PlatformSdk.Machine.Vec
import PlatformSdk.Util.CheapRuler

/-!
# Vehicles on the outer ring of a polygon

A `TelemetrySimulator` has a polygon of its own and two iterators into the outer ring, at
the ends of the segment on which the vehicle is.  Copies and assignments set the iterators
anew and updates let them wrap around, so that they stay on the ring (`OnRing`); but the
constructor takes every ring to have a segment, and nothing that loads a scenario checks it.
-/

namespace Airmap.Util

open Machine (Along Attempt Iterator Meets Vec along_iff_meets)

/-- `Geometry::Polygon`, over any numbers, with the vector of the outer ring. -/
structure Polygon (R : Type) where
  outerRing : Vec (Coordinate R)
  innerRings : List (List (Coordinate R)) := []

/-- `TelemetrySimulator`. -/
structure TelemetrySimulator (R : Type) where
  polygon : Polygon R
  segmentBegin : Iterator
  segmentEnd : Iterator
  segmentRuler : CheapRuler R
  segmentStartTime : DateTime
  segmentBearing : R
  segmentLength : R
  currentData : Coordinate R
  currentTime : DateTime

/-- A copy has its coordinates in a storage of its own. -/
def Polygon.copy {R : Type} (storage : ℕ) (polygon : Polygon R) : Polygon R :=
  { polygon with outerRing := { polygon.outerRing with storage } }

namespace TelemetrySimulator

section Members

variable {R : Type} [Arithmetic R]

/-- The constructor, which reads the clock twice. -/
def ofPolygon (storage : ℕ) (polygon : Polygon R) (segmentStartTime currentTime : DateTime) :
    Attempt (TelemetrySimulator R) := do
  let polygon := polygon.copy storage
  let ring := polygon.outerRing
  let segmentBegin := ring.first
  let segmentEnd ← ring.advance ring.first 1
  let segmentRuler := CheapRuler.ofLatitude (← ring.read segmentBegin).latitude
  let segmentBearing :=
    segmentRuler.bearing (← ring.read segmentBegin) (← ring.read segmentEnd)
  let segmentLength :=
    segmentRuler.distance (← ring.read segmentBegin) (← ring.read segmentEnd)
  let currentData ← ring.read segmentBegin
  return { polygon, segmentBegin, segmentEnd, segmentRuler, segmentStartTime,
           segmentBearing, segmentLength, currentData, currentTime }

/-- What the copy constructor and `operator=` share: another simulator's members, with
iterators into the ring of `polygon` at the places where those of the other one are. -/
def rebase (polygon : Polygon R) (other : TelemetrySimulator R) :
    Attempt (TelemetrySimulator R) := do
  let ring := polygon.outerRing
  let otherRing := other.polygon.outerRing
  let segmentBegin ← ring.advance ring.first (← otherRing.position other.segmentBegin)
  let segmentEnd ← ring.advance ring.first (← otherRing.position other.segmentEnd)
  return { other with polygon, segmentBegin, segmentEnd }

/-- The copy constructor. -/
def copy (storage : ℕ) (other : TelemetrySimulator R) : Attempt (TelemetrySimulator R) :=
  rebase (other.polygon.copy storage) other

/-- `operator=` with another object; the vector may get a new storage for the coordinates. -/
def assign (storage : ℕ) (other : TelemetrySimulator R) : Attempt (TelemetrySimulator R) :=
  rebase (other.polygon.copy storage) other

/-- `operator=` with the object itself; a vector that is assigned to itself stays as it is. -/
def assignSelf (t : TelemetrySimulator R) : Attempt (TelemetrySimulator R) :=
  rebase t.polygon t

/-- The iterators that `update` goes on to at the end of a segment. -/
def nextEnds (ring : Vec (Coordinate R)) (segmentEnd : Iterator) :
    Attempt (Iterator × Iterator) := do
  let next ← ring.advance segmentEnd 1
  if ← ring.isPast next then
    return (ring.first, ← ring.advance ring.first 1)
  else
    return (segmentEnd, next)

/-- The end of a segment in `update`. -/
def nextSegment (clock : DateTime) (t : TelemetrySimulator R) :
    Attempt (TelemetrySimulator R) := do
  let ring := t.polygon.outerRing
  let (segmentBegin, segmentEnd) ← nextEnds ring t.segmentEnd
  let segmentRuler := CheapRuler.ofLatitude (← ring.read segmentBegin).latitude
  let segmentLength :=
    segmentRuler.distance (← ring.read segmentBegin) (← ring.read segmentEnd)
  let segmentBearing :=
    segmentRuler.bearing (← ring.read segmentBegin) (← ring.read segmentEnd)
  let currentData ← ring.read segmentBegin
  return { t with segmentBegin, segmentEnd, segmentRuler, segmentLength, segmentBearing,
                  segmentStartTime := clock, currentData }

/-- `total_milliseconds` of a difference, without a sign. -/
def totalMilliseconds (now before : DateTime) : ℕ :=
  ((now.microseconds - before.microseconds) / 1000).toUInt64.toNat

/-- `update`, with the simulator and the position that is returned. -/
def update (now clock : DateTime) (t : TelemetrySimulator R) :
    Attempt (TelemetrySimulator R × Coordinate R) := do
  let first ← t.polygon.outerRing.read t.segmentBegin
  let t ←
    if t.segmentLength < t.segmentRuler.distance first t.currentData then
      t.nextSegment clock
    else
      pure t
  let dt : R := (totalMilliseconds now t.currentTime : R)
  let currentData :=
    t.segmentRuler.destination t.currentData (dt / 1000.0 * 2.0) t.segmentBearing
  return ({ t with currentData, currentTime := now }, currentData)

end Members

/-! ## The segment -/

section Segment

variable {R : Type}

/-- The segment is one of the object's own ring. -/
def OnRing (t : TelemetrySimulator R) : Prop :=
  ∃ i, i + 1 < t.polygon.outerRing.elements.length ∧
    t.segmentBegin = t.polygon.outerRing.iteratorAt i ∧
    t.segmentEnd = t.polygon.outerRing.iteratorAt (i + 1)

variable {polygon : Polygon R} {t other : TelemetrySimulator R} {storage : ℕ}
  {segmentStartTime currentTime : DateTime}

/-- Iterators into a ring with as many coordinates are at the same places there. -/
theorem exists_rebase (h : other.OnRing)
    (hlength : polygon.outerRing.elements.length = other.polygon.outerRing.elements.length) :
    ∃ t, rebase polygon other = .returns t ∧ t.OnRing := by
  obtain ⟨i, hi, hbegin, hend⟩ := h
  have hi' : i + 1 < polygon.outerRing.elements.length := by omega
  simp only [rebase, hbegin, hend, Vec.position_iteratorAt (Nat.le_of_lt hi),
    Vec.position_iteratorAt (Nat.le_of_lt (Nat.lt_of_succ_lt hi)),
    Vec.advance_first (Nat.le_of_lt hi'),
    Vec.advance_first (Nat.le_of_lt (Nat.lt_of_succ_lt hi')), Attempt.returns_bind,
    Attempt.pure_eq]
  exact ⟨_, rfl, i, hi', rfl, rfl⟩

/-- The next segment begins where this one ends, or it is the first one. -/
theorem exists_nextEnds {ring : Vec (Coordinate R)} {i : ℕ} (h : i < ring.elements.length)
    (hlength : 2 ≤ ring.elements.length) :
    ∃ j, j + 1 < ring.elements.length ∧
      nextEnds ring (ring.iteratorAt i) =
        .returns (ring.iteratorAt j, ring.iteratorAt (j + 1)) := by
  have hnext := Vec.advance_iteratorAt (v := ring) (n := 1) (j := i + 1) (Nat.le_of_lt h)
    (by simp) h
  have hpast := Vec.isPast_iteratorAt (v := ring) (i := i + 1) h
  by_cases hwrap : i + 1 = ring.elements.length
  · have hsecond : ring.advance ring.first 1 = .returns (ring.iteratorAt 1) :=
      Vec.advance_first (Nat.le_of_lt hlength)
    rw [decide_eq_true hwrap] at hpast
    refine ⟨0, hlength, ?_⟩
    simp only [nextEnds, hnext, hpast, hsecond, Attempt.returns_bind, if_pos]
    rfl
  · rw [decide_eq_false hwrap] at hpast
    exact ⟨i, by omega, by simp [nextEnds, hnext, hpast]⟩

variable [Arithmetic R]

theorem exists_ofPolygon (h : 2 ≤ polygon.outerRing.elements.length) :
    ∃ t, ofPolygon storage polygon segmentStartTime currentTime = .returns t ∧ t.OnRing := by
  have hlength : 1 < (polygon.copy storage).outerRing.elements.length := h
  have hend : (polygon.copy storage).outerRing.advance
      (polygon.copy storage).outerRing.first 1 = .returns (Vec.iteratorAt _ 1) :=
    Vec.advance_first (Nat.le_of_lt hlength)
  have hfirst := Vec.read_iteratorAt (Nat.zero_lt_of_lt hlength)
  have hsecond := Vec.read_iteratorAt hlength
  rw [ofPolygon, hend]
  simp only [Vec.first, hfirst, hsecond, Attempt.returns_bind, Attempt.pure_eq]
  exact ⟨_, rfl, 0, hlength, rfl, rfl⟩

/-- A ring without a second coordinate has no place for the end of a segment, or nothing
there. -/
theorem ofPolygon_of_lt (h : polygon.outerRing.elements.length < 2) :
    ofPolygon storage polygon segmentStartTime currentTime = .undefined := by
  have hlength : (polygon.copy storage).outerRing.elements.length < 2 := h
  rcases Nat.lt_or_ge (polygon.copy storage).outerRing.elements.length 1 with hempty | hone
  · have hend : (polygon.copy storage).outerRing.advance
        (polygon.copy storage).outerRing.first 1 = .undefined :=
      Vec.advance_iteratorAt_of_lt (by omega)
    rw [ofPolygon, hend, Attempt.undefined_bind]
  · have hend : (polygon.copy storage).outerRing.advance
        (polygon.copy storage).outerRing.first 1 = .returns (Vec.iteratorAt _ 1) :=
      Vec.advance_first hone
    have hfirst := Vec.read_iteratorAt hone
    have hsecond := Vec.read_iteratorAt_of_ge (Nat.le_of_lt_succ hlength)
    rw [ofPolygon, hend]
    simp only [Vec.first, hfirst, hsecond, Attempt.returns_bind, Attempt.undefined_bind]

theorem exists_nextSegment (clock : DateTime) (h : t.OnRing) :
    ∃ t', t.nextSegment clock = .returns t' ∧ t'.OnRing := by
  obtain ⟨i, hi, -, hend⟩ := h
  obtain ⟨j, hj, hends⟩ := exists_nextEnds hi (by omega)
  have hfirst := Vec.read_iteratorAt (Nat.lt_of_succ_lt hj)
  have hsecond := Vec.read_iteratorAt hj
  rw [nextSegment, hend, hends]
  simp only [hfirst, hsecond, Attempt.returns_bind, Attempt.pure_eq]
  exact ⟨_, rfl, j, hj, rfl, rfl⟩

/-- An update keeps the segment on the ring, whether it goes on to the next one or not. -/
theorem exists_update (now clock : DateTime) (h : t.OnRing) :
    ∃ t' c, t.update now clock = .returns (t', c) ∧ t'.OnRing := by
  obtain ⟨i, hi, hbegin, -⟩ := id h
  have hfirst := Vec.read_iteratorAt (Nat.lt_of_succ_lt hi)
  rw [update, hbegin, hfirst, Attempt.returns_bind]
  split
  · obtain ⟨t', ht', hring⟩ := exists_nextSegment clock h
    rw [ht', Attempt.returns_bind]
    exact ⟨_, _, rfl, hring⟩
  · rw [Attempt.pure_eq, Attempt.returns_bind]
    exact ⟨_, _, rfl, h⟩

end Segment

/-! ## Programs -/

/-- A statement of a program over simulators with names.  An update has the time that it is
given and the one that the clock shows. -/
inductive Statement (ι R : Type) where
  | construct (i : ι) (polygon : Polygon R) (segmentStartTime currentTime : DateTime)
  | copyConstruct (i other : ι)
  | assign (i other : ι)
  | update (i : ι) (now clock : DateTime)

/-- The simulators of a program, unless something undefined has happened, and the next
storage. -/
structure Objects (ι R : Type) where
  objects : Attempt (ι → Option (TelemetrySimulator R))
  storage : ℕ

/-- A program at its beginning has no objects. -/
def Objects.initial {ι R : Type} : Objects ι R := ⟨.returns fun _ => none, 0⟩

variable {ι R : Type} [DecidableEq ι] [Arithmetic R]

/-- The object that a statement makes or changes, with what becomes of it. -/
def result (objects : ι → Option (TelemetrySimulator R)) (storage : ℕ) :
    Statement ι R → Option (ι × Attempt (TelemetrySimulator R))
  | .construct i polygon segmentStartTime currentTime =>
      some (i, ofPolygon storage polygon segmentStartTime currentTime)
  | .copyConstruct i other => (objects other).map fun other => (i, copy storage other)
  | .assign i other =>
      if i = other then (objects i).map fun t => (i, assignSelf t)
      else
        match objects i, objects other with
        | some _, some other => some (i, assign storage other)
        | _, _ => none
  | .update i now clock => (objects i).map fun t => (i, Prod.fst <$> update now clock t)

/-- A statement; after something undefined there is nothing to be said. -/
def step (s : Objects ι R) (e : Statement ι R) : Option (Objects ι R) :=
  match s.objects with
  | .returns objects =>
      (result objects s.storage e).map fun (i, t) =>
        { objects := (fun t => Function.update objects i (some t)) <$> t
          storage := s.storage + 1 }
  | _ => some s

/-- Nothing undefined has happened, and every simulator is on its ring. -/
def StaysOnRing (s : Objects ι R) : Prop :=
  ∃ objects, s.objects = .returns objects ∧ ∀ i t, objects i = some t → t.OnRing

/-- The ring that an object is constructed with has a segment. -/
def Statement.HasSegment : Statement ι R → Prop
  | .construct _ polygon _ _ => 2 ≤ polygon.outerRing.elements.length
  | _ => True

/-- What becomes of an object is on its ring exactly if that is not a constructor's object
without a segment. -/
theorem exists_result_iff {objects : ι → Option (TelemetrySimulator R)} {storage : ℕ}
    {e : Statement ι R} {i : ι} {x : Attempt (TelemetrySimulator R)}
    (hring : ∀ i t, objects i = some t → t.OnRing)
    (h : result objects storage e = some (i, x)) :
    (∃ t, x = .returns t ∧ t.OnRing) ↔ e.HasSegment := by
  cases e with
  | construct i polygon segmentStartTime currentTime =>
      cases h
      rcases Nat.lt_or_ge polygon.outerRing.elements.length 2 with hlt | hle
      · simp [Statement.HasSegment, ofPolygon_of_lt hlt, Nat.not_le_of_lt hlt]
      · exact iff_of_true (exists_ofPolygon hle) hle
  | copyConstruct i other =>
      obtain ⟨t, ht, heq⟩ := Option.map_eq_some_iff.mp h
      cases heq
      exact iff_of_true (exists_rebase (hring _ t ht) rfl) trivial
  | assign i other =>
      refine iff_of_true ?_ trivial
      simp only [result] at h
      split at h
      · obtain ⟨t, ht, heq⟩ := Option.map_eq_some_iff.mp h
        cases heq
        exact exists_rebase (hring _ t ht) rfl
      · split at h
        next t _ ht =>
          cases h
          exact exists_rebase (hring _ t ht) rfl
        next => cases h
  | update i now clock =>
      obtain ⟨t, ht, heq⟩ := Option.map_eq_some_iff.mp h
      cases heq
      obtain ⟨t', c, ht', hring'⟩ := exists_update now clock (hring _ t ht)
      exact iff_of_true ⟨t', by rw [ht']; rfl, hring'⟩ trivial

/-- A constructor can always be called. -/
theorem hasSegment_of_step_eq_none {s : Objects ι R} {e : Statement ι R}
    (h : step s e = none) : e.HasSegment := by
  cases e with
  | construct i polygon segmentStartTime currentTime =>
      rw [step] at h
      split at h
      · simp [result] at h
      · cases h
  | copyConstruct i other => trivial
  | assign i other => trivial
  | update i now clock => trivial

/-- A statement keeps all objects on their rings exactly if it constructs none without a
segment. -/
theorem staysOnRing_step_iff {s s' : Objects ι R} {e : Statement ι R} (hs : StaysOnRing s)
    (h : step s e = some s') : StaysOnRing s' ↔ e.HasSegment := by
  obtain ⟨objects, hobjects, hring⟩ := hs
  rw [step, hobjects] at h
  obtain ⟨⟨i, x⟩, hresult, rfl⟩ := Option.map_eq_some_iff.mp h
  rw [← exists_result_iff hring hresult]
  constructor
  · rintro ⟨objects', hobjects', hring'⟩
    cases x with
    | returns t =>
        cases hobjects'
        exact ⟨t, rfl, hring' i t (Function.update_self i (some t) objects)⟩
    | throws what => cases hobjects'
    | undefined => cases hobjects'
  · rintro ⟨t, rfl, ht⟩
    refine ⟨Function.update objects i (some t), rfl, fun j t' ht' => ?_⟩
    by_cases hj : j = i
    · subst hj
      rw [Function.update_self, Option.some.injEq] at ht'
      exact ht' ▸ ht
    · rw [Function.update_of_ne hj] at ht'
      exact hring j t' ht'

/-- In a program of constructions, copies, assignments and updates, every segment is on the
ring of its object, and nothing is read outside of a ring, exactly if each ring that an object
is constructed with has two coordinates or more. -/
theorem staysOnRing_iff (es : List (Statement ι R)) :
    Along step StaysOnRing .initial es ↔ Meets step (fun _ e => e.HasSegment) .initial es :=
  along_iff_meets (fun _ => True) (fun _ _ _ _ _ _ _ => trivial)
    (fun _ _ _ _ hs hstep => staysOnRing_step_iff hs hstep)
    (fun _ _ hstep => hasSegment_of_step_eq_none hstep) trivial
    ⟨_, rfl, fun _ _ h => by cases h⟩

/-! ## Scenarios -/

end TelemetrySimulator

def Coordinate.ofGeometry (c : Geometry.Coordinate) : Coordinate Double :=
  { latitude := c.latitude, longitude := c.longitude, altitude := c.altitude,
    elevation := c.elevation }

/-- A polygon of the program, in the storage of the geometry that has it. -/
def Polygon.ofGeometry (p : Geometry.Polygon) : Polygon Double :=
  { outerRing := ⟨0, p.outerRing.map Coordinate.ofGeometry⟩
    innerRings := p.innerRings.map (List.map Coordinate.ofGeometry) }

/-- The polygon of a participant: `from_json` reads the geometry, and `ScenarioSimulator` takes
it for a polygon. -/
def Scenario.polygonOfParticipant (narrowing : Double.Narrowing) (participant : Json) :
    Attempt (Polygon Double) := do
  let geometry ← participant.get .invalid (Geometry.decode narrowing) "geometry"
  match geometry with
  | .polygon details => return .ofGeometry details
  | _ => .undefined

/-- The loader accepts rings with any number of coordinates. -/
theorem Scenario.polygonOfParticipant_encode {narrowing : Double.Narrowing}
    {p : Geometry.Polygon} (h : p.IsDecoded narrowing) :
    polygonOfParticipant narrowing (.object [("geometry", (Geometry.polygon p).encode)]) =
      .returns (.ofGeometry p) := by
  have hget : Json.get .invalid (Geometry.decode narrowing) "geometry"
      (.object [("geometry", (Geometry.polygon p).encode)]) = .returns (.polygon p) :=
    Json.get_eq_returns_iff.mpr (.inr ⟨trivial, _, rfl, Geometry.decode_encode (.polygon h)⟩)
  rw [polygonOfParticipant, hget, Attempt.returns_bind]
  rfl

namespace TelemetrySimulator

/-- A ring of one coordinate. -/
def oneCoordinate : Geometry.Polygon where
  outerRing := [⟨.finite 48, .finite 11, none, none⟩]

/-- A participant on this ring is accepted, and the constructor of its simulator reads a
second coordinate. -/
theorem oneCoordinate_not_staysOnRing :
    Scenario.polygonOfParticipant Geometry.exactly
        (.object [("geometry", (Geometry.polygon oneCoordinate).encode)]) =
      .returns (.ofGeometry oneCoordinate) ∧
    ∀ (_ : Arithmetic Double) (segmentStartTime currentTime : DateTime),
      ¬ Along step StaysOnRing .initial
        [.construct "" (.ofGeometry oneCoordinate) segmentStartTime currentTime] := by
  constructor
  · refine Scenario.polygonOfParticipant_encode ⟨fun c hc => ?_, fun _ hring => nomatch hring⟩
    cases List.mem_singleton.mp hc
    exact ⟨rfl, rfl, fun _ haltitude => (nomatch haltitude), rfl⟩
  · rintro arithmetic segmentStartTime currentTime ⟨hinitial, hconstructed⟩
    have hstep : step .initial
        (.construct "" (.ofGeometry oneCoordinate) segmentStartTime currentTime) = some _ :=
      rfl
    have hsegment : 2 ≤ (Polygon.ofGeometry oneCoordinate).outerRing.elements.length :=
      (staysOnRing_step_iff hinitial hstep).mp hconstructed
    exact absurd hsegment (by decide)

end TelemetrySimulator

end Airmap.Util
