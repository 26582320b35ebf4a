import Mathlib.Data.String.Basic
import Mathlib.Order.BooleanAlgebra.Defs
import PlatformSdk.Compare.Order
import PlatformSdk.Error.Variant
import PlatformSdk.Geometry.Equality

/-!
# The order of values

`operator<` and `operator==` for `Error::Value`, which is the type of the keys of an
error's values.
-/

namespace Airmap

open Compare (ExactlyOne IsStrict)
open Machine (Attempt)

/-- Where a number is among the infinities and the finite numbers. -/
def Double.rank : Double → ℕ
  | .infinite true => 0
  | .finite _ => 1
  | .infinite false => 2
  | .nan => 3

theorem Double.lt_iff_rank_lt {x y : Double} (hx : x ≠ .nan) (hy : y ≠ .nan)
    (hne : x.rank ≠ y.rank) : x.lt y = true ↔ x.rank < y.rank := by
  rcases x with _ | (_ | _) | _ <;> rcases y with _ | (_ | _) | _ <;>
    simp [Double.lt, Double.rank] at hx hy hne ⊢

/-- Two numbers at the same place are the same infinity, or finite. -/
theorem Double.rank_eq_cases {x y : Double} (hx : x ≠ .nan) (h : x.rank = y.rank) :
    (∃ negative, x = .infinite negative ∧ y = .infinite negative) ∨
      ∃ r r', x = .finite r ∧ y = .finite r' := by
  rcases x with _ | (_ | _) | _ <;> rcases y with _ | (_ | _) | _ <;>
    simp [Double.rank] at hx h ⊢

/-- Numbers that are not NaNs are ordered. -/
theorem Double.isStrict : IsStrict (· ≠ .nan) Double.lt Double.eq where
  exactlyOne := by
    intro x y hx hy
    by_cases hrank : x.rank = y.rank
    · rcases Double.rank_eq_cases hx hrank with ⟨negative, rfl, rfl⟩ | ⟨r, r', rfl, rfl⟩
      · simp [ExactlyOne, Double.lt, Double.eq]
      · exact (Compare.isStrict_decide (α := ℚ)).exactlyOne trivial trivial
    · have hne : x.eq y ≠ true := fun heq => hrank (congrArg _ (Double.eq_iff.mp heq).1)
      exact Compare.exactlyOne_of_tag_ne Double.rank (fun x y => x.lt y = true) hrank
        (Double.lt_iff_rank_lt hx hy hrank) (Double.lt_iff_rank_lt hy hx (Ne.symm hrank)) hne
  trans := by
    intro x y z hx hy hz hxy hyz
    refine Compare.trans_of_tag Double.rank (fun x y => x.lt y = true) (· ≠ .nan)
      (fun x y hx hy hne => Double.lt_iff_rank_lt hx hy hne) ?_ hx hy hz hxy hyz
    intro x y z hx hy _ hrank hrank' hxy hyz
    rcases Double.rank_eq_cases hx hrank with ⟨negative, rfl, rfl⟩ | ⟨r, r', rfl, rfl⟩
    · cases negative <;> cases hxy
    · rcases Double.rank_eq_cases hy hrank' with ⟨_, hinfinite, -⟩ | ⟨_, r'', -, rfl⟩
      · cases hinfinite
      · exact (Compare.isStrict_decide (α := ℚ)).trans trivial trivial trivial hxy hyz

namespace Error

/-- The number of an enumerator. -/
def Kind.underlying : Kind → ℕ
  | .undefined => 0
  | .boolean => 1
  | .integer => 2
  | .floatingPoint => 3
  | .string => 4
  | .blob => 5
  | .dictionary => 6
  | .vector => 7

theorem Kind.underlying_injective {kind kind' : Kind}
    (h : kind.underlying = kind'.underlying) : kind = kind' := by
  cases kind with
  | _ =>
      cases kind' with
      | _ => first | rfl | cases h

namespace Variant

/-- `is_basic_type`. -/
def isBasicType (value : Variant) : Bool :=
  match value.kind with
  | .dictionary | .vector => false
  | _ => true

mutual

/-- `operator==`. -/
def eq : Variant → Variant → Bool
  | .boolean lhs, .boolean rhs => decide (lhs = rhs)
  | .integer lhs, .integer rhs => decide (lhs = rhs)
  | .floatingPoint lhs, .floatingPoint rhs => lhs.eq rhs
  | .string lhs, .string rhs => decide (lhs = rhs)
  | .blob lhs, .blob rhs => decide (lhs = rhs)
  | .dictionary lhs, .dictionary rhs => eqEntries lhs rhs
  | .vector lhs, .vector rhs => eqAll lhs rhs
  | _, _ => false

def eqEntries : List (Variant × Variant) → List (Variant × Variant) → Bool
  | [], [] => true
  | (key, value) :: lhs, (key', value') :: rhs =>
      key.eq key' && value.eq value' && eqEntries lhs rhs
  | _, _ => false

def eqAll : List Variant → List Variant → Bool
  | [], [] => true
  | value :: lhs, value' :: rhs => value.eq value' && eqAll lhs rhs
  | _, _ => false

end

/-- The `switch` of `operator<`, for values of the same type. -/
def ltDetails : Variant → Variant → Bool
  | .boolean lhs, .boolean rhs => decide (lhs < rhs)
  | .integer lhs, .integer rhs => decide (lhs < rhs)
  | .floatingPoint lhs, .floatingPoint rhs => lhs.lt rhs
  | .string lhs, .string rhs => decide (lhs < rhs)
  | .blob lhs, .blob rhs => decide (lhs < rhs)
  | _, _ => false

/-- `operator<`. -/
def lt (lhs rhs : Variant) : Attempt Bool :=
  if !lhs.isBasicType || !rhs.isBasicType then .throws "cannot compare non-basic types"
  else if lhs.kind ≠ rhs.kind then
    .returns (decide (lhs.kind.underlying < rhs.kind.underlying))
  else .returns (ltDetails lhs rhs)

/-- The first value comes before the second. -/
abbrev Precedes (lhs rhs : Variant) : Prop := lhs.lt rhs = .returns true

/-- A value that can be a key, and is not a NaN. -/
structure IsKey (value : Variant) : Prop where
  basic : value.isBasicType = true
  not_nan : value ≠ .floatingPoint .nan

theorem lt_of_basic {a b : Variant} (ha : a.isBasicType = true) (hb : b.isBasicType = true) :
    a.lt b = if a.kind ≠ b.kind then .returns (decide (a.kind.underlying < b.kind.underlying))
      else .returns (ltDetails a b) := by
  rw [lt, ha, hb, if_neg (by decide)]

theorem eq_eq_false_of_kind_ne {a b : Variant} (h : a.kind ≠ b.kind) : a.eq b = false := by
  cases a with
  | _ =>
      cases b with
      | _ => first | rfl | exact absurd rfl h

/-- Values of different types are ordered by their types. -/
theorem precedes_iff_of_kind_ne {a b : Variant} (ha : a.IsKey) (hb : b.IsKey)
    (hne : a.kind ≠ b.kind) : Precedes a b ↔ a.kind.underlying < b.kind.underlying := by
  rw [Precedes, lt_of_basic ha.basic hb.basic, if_pos hne, Attempt.returns.injEq,
    decide_eq_true_iff]

theorem precedes_iff_of_kind_eq {a b : Variant} (ha : a.IsKey) (hb : b.IsKey)
    (heq : a.kind = b.kind) : Precedes a b ↔ ltDetails a b = true := by
  rw [Precedes, lt_of_basic ha.basic hb.basic, if_neg (not_not_intro heq),
    Attempt.returns.injEq]

theorem IsKey.ne_nan {x : Double} (h : (floatingPoint x).IsKey) : x ≠ .nan :=
  fun hnan => h.not_nan (congrArg _ hnan)

theorem kind_eq_boolean_iff {b : Variant} : b.kind = .boolean ↔ ∃ y, b = .boolean y := by
  cases b <;> simp [kind]

theorem kind_eq_integer_iff {b : Variant} : b.kind = .integer ↔ ∃ y, b = .integer y := by
  cases b <;> simp [kind]

theorem kind_eq_floatingPoint_iff {b : Variant} :
    b.kind = .floatingPoint ↔ ∃ y, b = .floatingPoint y := by
  cases b <;> simp [kind]

theorem kind_eq_string_iff {b : Variant} : b.kind = .string ↔ ∃ y, b = .string y := by
  cases b <;> simp [kind]

theorem kind_eq_blob_iff {b : Variant} : b.kind = .blob ↔ ∃ y, b = .blob y := by
  cases b <;> simp [kind]

/-- Two values of the same type are ordered, unless they have no type. -/
theorem exactlyOne_ltDetails {a b : Variant} (ha : a.IsKey) (hb : b.IsKey)
    (hkind : a.kind = b.kind) (hdefined : a.kind ≠ .undefined) :
    ExactlyOne (ltDetails a b = true) (ltDetails b a = true) (a.eq b = true) := by
  cases a with
  | undefined => exact absurd rfl hdefined
  | boolean x =>
      obtain ⟨y, rfl⟩ := kind_eq_boolean_iff.mp hkind.symm
      exact (Compare.isStrict_decide (α := Bool)).exactlyOne trivial trivial
  | integer x =>
      obtain ⟨y, rfl⟩ := kind_eq_integer_iff.mp hkind.symm
      exact (Compare.isStrict_decide (α := Int64)).exactlyOne trivial trivial
  | floatingPoint x =>
      obtain ⟨y, rfl⟩ := kind_eq_floatingPoint_iff.mp hkind.symm
      exact Double.isStrict.exactlyOne ha.ne_nan hb.ne_nan
  | string x =>
      obtain ⟨y, rfl⟩ := kind_eq_string_iff.mp hkind.symm
      exact (Compare.isStrict_decide (α := String)).exactlyOne trivial trivial
  | blob x =>
      obtain ⟨y, rfl⟩ := kind_eq_blob_iff.mp hkind.symm
      exact (Compare.isStrict_decide (α := List UInt8)).exactlyOne trivial trivial
  | dictionary _ => cases ha.basic
  | vector _ => cases ha.basic

theorem ltDetails_trans {a b c : Variant} (ha : a.IsKey) (hb : b.IsKey) (hc : c.IsKey)
    (hkind : a.kind = b.kind) (hkind' : b.kind = c.kind) (hab : ltDetails a b = true)
    (hbc : ltDetails b c = true) : ltDetails a c = true := by
  cases a with
  | boolean x =>
      obtain ⟨y, rfl⟩ := kind_eq_boolean_iff.mp hkind.symm
      obtain ⟨z, rfl⟩ := kind_eq_boolean_iff.mp hkind'.symm
      exact (Compare.isStrict_decide (α := Bool)).trans trivial trivial trivial hab hbc
  | integer x =>
      obtain ⟨y, rfl⟩ := kind_eq_integer_iff.mp hkind.symm
      obtain ⟨z, rfl⟩ := kind_eq_integer_iff.mp hkind'.symm
      exact (Compare.isStrict_decide (α := Int64)).trans trivial trivial trivial hab hbc
  | floatingPoint x =>
      obtain ⟨y, rfl⟩ := kind_eq_floatingPoint_iff.mp hkind.symm
      obtain ⟨z, rfl⟩ := kind_eq_floatingPoint_iff.mp hkind'.symm
      exact Double.isStrict.trans ha.ne_nan hb.ne_nan hc.ne_nan hab hbc
  | string x =>
      obtain ⟨y, rfl⟩ := kind_eq_string_iff.mp hkind.symm
      obtain ⟨z, rfl⟩ := kind_eq_string_iff.mp hkind'.symm
      exact (Compare.isStrict_decide (α := String)).trans trivial trivial trivial hab hbc
  | blob x =>
      obtain ⟨y, rfl⟩ := kind_eq_blob_iff.mp hkind.symm
      obtain ⟨z, rfl⟩ := kind_eq_blob_iff.mp hkind'.symm
      exact (Compare.isStrict_decide (α := List UInt8)).trans trivial trivial trivial hab hbc
  | _ => cases hab

theorem underlying_ne_iff {a b : Variant} :
    a.kind.underlying ≠ b.kind.underlying ↔ a.kind ≠ b.kind :=
  not_congr ⟨Kind.underlying_injective, congrArg _⟩

theorem precedes_trans {a b c : Variant} (ha : a.IsKey) (hb : b.IsKey) (hc : c.IsKey)
    (hab : Precedes a b) (hbc : Precedes b c) : Precedes a c := by
  refine Compare.trans_of_tag (fun value => value.kind.underlying) Precedes IsKey
    (fun _ _ ha hb hne => precedes_iff_of_kind_ne ha hb (underlying_ne_iff.mp hne)) ?_
    ha hb hc hab hbc
  intro a b c ha hb hc heq heq' hab hbc
  have hkind := Kind.underlying_injective heq
  have hkind' := Kind.underlying_injective heq'
  rw [precedes_iff_of_kind_eq ha hb hkind] at hab
  rw [precedes_iff_of_kind_eq hb hc hkind'] at hbc
  exact (precedes_iff_of_kind_eq ha hc (hkind.trans hkind')).mpr
    (ltDetails_trans ha hb hc hkind hkind' hab hbc)

/-- Values are strictly ordered keys: a map tells two of them apart just where they are
not equal. -/
structure AreOrdered (a b c : Variant) : Prop where
  exactlyOne : ExactlyOne (Precedes a b) (Precedes b a) (a.eq b = true)
  trans : Precedes a b → Precedes b c → Precedes a c
  identifies : ¬ Precedes a b ∧ ¬ Precedes b a ↔ a.eq b = true

theorem exactlyOne_iff {a b : Variant} (ha : a.IsKey) (hb : b.IsKey) :
    ExactlyOne (Precedes a b) (Precedes b a) (a.eq b = true) ↔
      ¬ (a.kind = .undefined ∧ b.kind = .undefined) := by
  by_cases hkind : a.kind = b.kind
  · rw [precedes_iff_of_kind_eq ha hb hkind, precedes_iff_of_kind_eq hb ha hkind.symm]
    by_cases hundefined : a.kind = .undefined
    · have hundefined' := hkind.symm.trans hundefined
      cases a with
      | undefined =>
          cases b with
          | undefined => simp [ExactlyOne, ltDetails, eq, hundefined]
          | _ => cases hkind
      | _ => cases hundefined
    · have hone := exactlyOne_ltDetails ha hb hkind hundefined
      simp [hone, hundefined]
  · have hne : a.eq b ≠ true := by simp [eq_eq_false_of_kind_ne hkind]
    have hone := Compare.exactlyOne_of_tag_ne (fun value => value.kind.underlying) Precedes
      (underlying_ne_iff.mpr hkind) (precedes_iff_of_kind_ne ha hb hkind)
      (precedes_iff_of_kind_ne hb ha (Ne.symm hkind)) hne
    refine iff_of_true hone ?_
    rintro ⟨hundefined, hundefined'⟩
    exact hkind (hundefined.trans hundefined'.symm)

/-- Values that are neither composed nor NaNs are strictly ordered keys, unless two of
them have no type. -/
theorem areOrdered_iff {a b c : Variant} (ha : a.IsKey) (hb : b.IsKey) (hc : c.IsKey) :
    AreOrdered a b c ↔ ¬ (a.kind = .undefined ∧ b.kind = .undefined) := by
  rw [← exactlyOne_iff ha hb]
  constructor
  · intro h
    exact h.exactlyOne
  · intro hone
    exact ⟨hone, precedes_trans ha hb hc, hone.neither_iff⟩

theorem areOrdered_iff_numbers :
    ((integer 1).IsKey ∧ (boolean true).IsKey ∧ (blob [1]).IsKey) ∧
      (AreOrdered (integer 1) (boolean true) (blob [1]) ↔
        ¬ ((integer 1).kind = .undefined ∧ (boolean true).kind = .undefined)) := by
  have h : (integer 1).IsKey := ⟨rfl, by simp⟩
  have h' : (boolean true).IsKey := ⟨rfl, by simp⟩
  have h'' : (blob [1]).IsKey := ⟨rfl, by simp⟩
  exact ⟨⟨h, h', h''⟩, areOrdered_iff h h' h''⟩

/-- Two values without a type are not equal, and neither comes before the other. -/
theorem undefined_not_ordered :
    ¬ ∀ a b c : Variant, a.IsKey → b.IsKey → c.IsKey → AreOrdered a b c := by
  intro h
  have hkey : undefined.IsKey := ⟨rfl, by simp⟩
  have hequal := (h undefined undefined undefined hkey hkey hkey).identifies.mp
    ⟨by decide, by decide⟩
  cases hequal

end Variant
end Error
end Airmap
