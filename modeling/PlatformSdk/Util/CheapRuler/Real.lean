import Mathlib.Analysis.SpecialFunctions.Complex.Arg
import PlatformSdk.Util.CheapRuler

/-!
# Rulers over the real numbers

Where nothing is rounded, the destination at the distance and the bearing of a point is
that point, unless it lies straight to the east, to the west or to the south: `bearing`
returns zero for every point with the same latitude or longitude, which is the bearing of
the north.
-/

namespace Airmap.Util

/-- The real numbers, with exact functions. -/
noncomputable instance : Arithmetic ℝ where
  decidableLT := inferInstance
  pi := Real.pi
  floor x := ⌊x⌋
  sqrt := Real.sqrt
  cos := Real.cos
  sin := Real.sin
  atan2 y x := Complex.arg ⟨x, y⟩

namespace CheapRuler

variable {ruler : CheapRuler ℝ} {p1 p2 : Coordinate ℝ}

/-- The way to a coordinate, to the east and to the north. -/
def dx (ruler : CheapRuler ℝ) (p1 p2 : Coordinate ℝ) : ℝ :=
  (p2.longitude - p1.longitude) * ruler.kx

def dy (ruler : CheapRuler ℝ) (p1 p2 : Coordinate ℝ) : ℝ :=
  (p2.latitude - p1.latitude) * ruler.ky

theorem distance_eq :
    ruler.distance p1 p2 = ‖(⟨ruler.dx p1 p2, ruler.dy p1 p2⟩ : ℂ)‖ := by
  rw [Complex.norm_eq_sqrt_sq_add_sq, pow_two, pow_two]
  rfl

theorem bearing_of_axis (h : ruler.dx p1 p2 = 0 ∨ ruler.dy p1 p2 = 0) :
    ruler.bearing p1 p2 = 0 := by
  have hzero : (0.0 : ℝ) = 0 := by norm_num
  change (if ¬ (ruler.dx p1 p2 < 0.0 ∨ 0.0 < ruler.dx p1 p2) then (0.0 : ℝ)
    else if ¬ (ruler.dy p1 p2 < 0.0 ∨ 0.0 < ruler.dy p1 p2) then 0.0 else _) = 0
  rw [hzero]
  rcases h with h | h
  · simp [h]
  · simp [h]

/-- Elsewhere the bearing is a turn from the angle of the way, as it is measured on a map
that is mirrored. -/
theorem bearing_of_ne (hdx : ruler.dx p1 p2 ≠ 0) (hdy : ruler.dy p1 p2 ≠ 0) :
    ∃ turns : ℤ, ruler.bearing p1 p2 =
      Complex.arg ⟨ruler.dx p1 p2, -ruler.dy p1 p2⟩ * 180 / Real.pi + 90 - turns * 360 := by
  have hzero : (0.0 : ℝ) = 0 := by norm_num
  have hlt : ruler.bearing p1 p2 =
      (let bearing := Complex.arg ⟨ruler.dx p1 p2, -ruler.dy p1 p2⟩ * 180.0 / Real.pi + 90.0
       if (180.0 : ℝ) < bearing then bearing - 360.0 else bearing) := by
    change (if ¬ (ruler.dx p1 p2 < 0.0 ∨ 0.0 < ruler.dx p1 p2) then (0.0 : ℝ)
      else if ¬ (ruler.dy p1 p2 < 0.0 ∨ 0.0 < ruler.dy p1 p2) then 0.0 else _) = _
    rw [hzero, if_neg (not_not_intro (lt_or_gt_of_ne hdx)),
      if_neg (not_not_intro (lt_or_gt_of_ne hdy))]
    rfl
  rw [hlt]
  dsimp only
  split
  · exact ⟨1, by norm_num⟩
  · exact ⟨0, by norm_num⟩

/-- The destination in the numbers of degrees that the angle of the way is. -/
theorem destination_eq {d b : ℝ} :
    ruler.destination p1 d b =
      { p1 with
        longitude := p1.longitude + Real.cos ((90 - b) * Real.pi / 180) * d / ruler.kx
        latitude := p1.latitude + Real.sin ((90 - b) * Real.pi / 180) * d / ruler.ky } := by
  have hright : (90.0 : ℝ) = 90 := by norm_num
  have hhalf : (180.0 : ℝ) = 180 := by norm_num
  rw [← hright, ← hhalf]
  rfl

/-- The coordinate is the destination at its own distance and bearing. -/
def Arrives (ruler : CheapRuler ℝ) (p1 p2 : Coordinate ℝ) : Prop :=
  (ruler.destination p1 (ruler.distance p1 p2) (ruler.bearing p1 p2)).latitude =
      p2.latitude ∧
    (ruler.destination p1 (ruler.distance p1 p2) (ruler.bearing p1 p2)).longitude =
      p2.longitude

theorem dx_div (p1 p2 : Coordinate ℝ) (hkx : ruler.kx ≠ 0) :
    p1.longitude + ruler.dx p1 p2 / ruler.kx = p2.longitude := by
  rw [dx, mul_div_cancel_right₀ _ hkx]
  ring

theorem dy_div (p1 p2 : Coordinate ℝ) (hky : ruler.ky ≠ 0) :
    p1.latitude + ruler.dy p1 p2 / ruler.ky = p2.latitude := by
  rw [dy, mul_div_cancel_right₀ _ hky]
  ring

theorem dx_eq_zero_iff (hkx : ruler.kx ≠ 0) :
    ruler.dx p1 p2 = 0 ↔ p1.longitude = p2.longitude := by
  rw [dx, mul_eq_zero, or_iff_left hkx, sub_eq_zero, eq_comm]

theorem dy_eq_zero_iff (hky : ruler.ky ≠ 0) :
    ruler.dy p1 p2 = 0 ↔ p1.latitude = p2.latitude := by
  rw [dy, mul_eq_zero, or_iff_left hky, sub_eq_zero, eq_comm]

/-- In the four quadrants the way leads to the coordinate. -/
theorem arrives_of_ne (hkx : ruler.kx ≠ 0) (hky : ruler.ky ≠ 0) (hdx : ruler.dx p1 p2 ≠ 0)
    (hdy : ruler.dy p1 p2 ≠ 0) : ruler.Arrives p1 p2 := by
  obtain ⟨turns, hbearing⟩ := bearing_of_ne hdx hdy
  have hangle : (90 - ruler.bearing p1 p2) * Real.pi / 180 =
      -Complex.arg ⟨ruler.dx p1 p2, -ruler.dy p1 p2⟩ + turns * (2 * Real.pi) := by
    rw [hbearing]
    field_simp [Real.pi_ne_zero]
    ring
  have hdistance : ruler.distance p1 p2 =
      ‖(⟨ruler.dx p1 p2, -ruler.dy p1 p2⟩ : ℂ)‖ := by
    rw [distance_eq, Complex.norm_eq_sqrt_sq_add_sq, Complex.norm_eq_sqrt_sq_add_sq, neg_sq]
  have hcos := Complex.norm_mul_cos_arg ⟨ruler.dx p1 p2, -ruler.dy p1 p2⟩
  have hsin := Complex.norm_mul_sin_arg ⟨ruler.dx p1 p2, -ruler.dy p1 p2⟩
  rw [Arrives, destination_eq, hangle, hdistance]
  dsimp only at hcos hsin ⊢
  constructor
  · rw [Real.sin_add_int_mul_two_pi, Real.sin_neg, neg_mul, mul_comm, hsin, neg_neg,
      dy_div p1 p2 hky]
  · rw [Real.cos_add_int_mul_two_pi, Real.cos_neg, mul_comm, hcos, dx_div p1 p2 hkx]

/-- On the axes the way leads to the north. -/
theorem arrives_iff_of_axis (hkx : ruler.kx ≠ 0) (hky : ruler.ky ≠ 0)
    (h : ruler.dx p1 p2 = 0 ∨ ruler.dy p1 p2 = 0) :
    ruler.Arrives p1 p2 ↔ ruler.dx p1 p2 = 0 ∧ 0 ≤ ruler.dy p1 p2 := by
  have hangle : (90 - (0 : ℝ)) * Real.pi / 180 = Real.pi / 2 := by ring
  have hnorm : ruler.dx p1 p2 = 0 → ruler.distance p1 p2 = |ruler.dy p1 p2| := by
    intro hdx
    rw [distance_eq, Complex.norm_eq_sqrt_sq_add_sq, hdx, zero_pow two_ne_zero, zero_add,
      Real.sqrt_sq_eq_abs]
  rw [Arrives, destination_eq, bearing_of_axis h, hangle, Real.cos_pi_div_two,
    Real.sin_pi_div_two, zero_mul, zero_div, add_zero, one_mul, ← dx_eq_zero_iff hkx, and_comm]
  refine and_congr_right fun hdx => ?_
  rw [hnorm hdx, ← abs_eq_self]
  constructor
  · intro hlatitude
    have heq := hlatitude.trans (dy_div p1 p2 hky).symm
    exact (div_left_inj' hky).mp (add_left_cancel heq)
  · intro habs
    rw [habs, dy_div p1 p2 hky]

/-- A coordinate is arrived at just when it differs in longitude and latitude, or lies
where `ky` points to. -/
theorem arrives_iff (hkx : ruler.kx ≠ 0) (hky : ruler.ky ≠ 0) :
    ruler.Arrives p1 p2 ↔
      (p1.longitude ≠ p2.longitude ∧ p1.latitude ≠ p2.latitude) ∨
        (p1.longitude = p2.longitude ∧ 0 ≤ (p2.latitude - p1.latitude) * ruler.ky) := by
  rw [ne_eq, ne_eq, ← dx_eq_zero_iff hkx, ← dy_eq_zero_iff hky]
  by_cases hdx : ruler.dx p1 p2 = 0
  · rw [arrives_iff_of_axis hkx hky (Or.inl hdx)]
    simp [hdx, dy]
  · by_cases hdy : ruler.dy p1 p2 = 0
    · rw [arrives_iff_of_axis hkx hky (Or.inr hdy)]
      simp [hdx, hdy]
    · simp [arrives_of_ne hkx hky hdx hdy, hdx, hdy]

theorem arrives_iff_northEast :
    ((1 : ℝ) ≠ 0 ∧ (1 : ℝ) ≠ 0) ∧
      Arrives ⟨1, 1⟩ ⟨0, 0, none, none⟩ ⟨1, 1, none, none⟩ := by
  have hkx : (CheapRuler.mk (1 : ℝ) 1).kx ≠ 0 := one_ne_zero
  have hky : (CheapRuler.mk (1 : ℝ) 1).ky ≠ 0 := one_ne_zero
  exact ⟨⟨hkx, hky⟩, (arrives_iff hkx hky).mpr (Or.inl ⟨zero_ne_one, zero_ne_one⟩)⟩

/-! ## The rulers of latitudes -/

/-- `ky` of every ruler points to the north. -/
theorem ky_ofLatitude_pos (latitude : ℝ) : 0 < (ofLatitude latitude).ky := by
  set cos := Real.cos (⌊latitude⌋ * Real.pi / 180.0)
  have hky : (ofLatitude latitude).ky =
    1000.0 * (111.13209 - 0.56605 * (2.0 * cos * cos - 1.0) + 0.0012 *
      (2.0 * cos * (2.0 * cos * (2.0 * cos * cos - 1.0) - cos) -
        (2.0 * cos * cos - 1.0))) := rfl
  have hpolynomial : (ofLatitude latitude).ky =
      111699.34 - 1141.7 * cos ^ 2 + 9.6 * (cos ^ 2) ^ 2 := by
    rw [hky]
    norm_num
    ring
  have hle : cos ^ 2 ≤ 1 := Real.cos_sq_le_one _
  rw [hpolynomial]
  linarith [sq_nonneg (cos ^ 2)]

/-- The metres in a degree of longitude on the equator. -/
theorem kx_ofLatitude_zero : (ofLatitude (0 : ℝ)).kx = 111320.7 := by
  have hcos : Real.cos (⌊(0 : ℝ)⌋ * Real.pi / 180.0) = 1 := by simp
  have hkx : (ofLatitude (0 : ℝ)).kx =
    (let cos := Real.cos (⌊(0 : ℝ)⌋ * Real.pi / 180.0)
     let cos2 := 2.0 * cos * cos - 1.0
     let cos3 := 2.0 * cos * cos2 - cos
     let cos4 := 2.0 * cos * cos3 - cos2
     let cos5 := 2.0 * cos * cos4 - cos3
     1000.0 * (111.41513 * cos - 0.09455 * cos3 + 0.00012 * cos5)) := rfl
  rw [hkx, hcos]
  norm_num

/-- A coordinate on the equator is not arrived at from the west. -/
theorem east_not_arrived :
    (ofLatitude (0 : ℝ)).kx ≠ 0 ∧ (ofLatitude (0 : ℝ)).ky ≠ 0 ∧
      ¬ (ofLatitude 0).Arrives ⟨0, 0, none, none⟩ ⟨0, 1, none, none⟩ := by
  have hkx : (ofLatitude (0 : ℝ)).kx ≠ 0 := by
    rw [kx_ofLatitude_zero]
    norm_num
  have hky := (ky_ofLatitude_pos 0).ne'
  refine ⟨hkx, hky, fun harrives => ?_⟩
  have hdy : (ofLatitude (0 : ℝ)).dy ⟨0, 0, none, none⟩ ⟨0, 1, none, none⟩ = 0 := by
    simp [dy]
  have hdx := ((arrives_iff_of_axis hkx hky (Or.inr hdy)).mp harrives).1
  rw [dx_eq_zero_iff hkx] at hdx
  exact absurd hdx zero_ne_one

end CheapRuler

end Airmap.Util
