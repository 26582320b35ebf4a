import Mathlib.Data.Int.Notation
import Mathlib.Data.Nat.Notation
import PlatformSdk.Machine.Attempt

/-!
# Vectors and their iterators

A vector has its elements in a storage, and an iterator is a place in a storage or the
end of it.  What is done with an iterator into another storage is undefined, be it that
of another vector or one that the vector has left.
-/

namespace Machine

/-- A vector; the number of its storage tells it from all others. -/
structure Vec (α : Type*) where
  storage : ℕ
  elements : List α

structure Iterator where
  storage : ℕ
  index : ℕ
  deriving DecidableEq

namespace Vec

variable {α : Type*} (v : Vec α)

/-- The iterator to the element with an index. -/
def iteratorAt (i : ℕ) : Iterator := ⟨v.storage, i⟩

/-- `begin`. -/
def first : Iterator := v.iteratorAt 0

/-- `end`. -/
def past : Iterator := v.iteratorAt v.elements.length

/-- The iterator is one to an element of the vector, or the end. -/
def Valid (it : Iterator) : Prop :=
  it.storage = v.storage ∧ it.index ≤ v.elements.length

instance (it : Iterator) : Decidable (v.Valid it) :=
  inferInstanceAs (Decidable (_ ∧ _))

/-- `operator*`. -/
def read (it : Iterator) : Attempt α :=
  if v.Valid it then
    match v.elements[it.index]? with
    | some a => .returns a
    | none => .undefined
  else .undefined

/-- An assignment to `*it`. -/
def write (it : Iterator) (a : α) : Attempt (Vec α) :=
  if v.Valid it ∧ it.index < v.elements.length then
    .returns { v with elements := v.elements.set it.index a }
  else .undefined

/-- `it + n`. -/
def advance (it : Iterator) (n : ℤ) : Attempt Iterator :=
  if v.Valid it ∧ 0 ≤ it.index + n ∧ it.index + n ≤ v.elements.length then
    .returns { it with index := (it.index + n).toNat }
  else .undefined

/-- `it == v.end()`. -/
def isPast (it : Iterator) : Attempt Bool :=
  if v.Valid it then .returns (decide (it.index = v.elements.length)) else .undefined

/-- `std::distance(v.begin(), it)`. -/
def position (it : Iterator) : Attempt ℕ :=
  if v.Valid it then .returns it.index else .undefined

/-- `emplace_back`.  The elements are in another storage afterwards; where they would stay
in theirs, it is the end that may not be used any more. -/
def emplaceBack (storage : ℕ) (a : α) : Vec α := ⟨storage, v.elements ++ [a]⟩

/-- `v[i]`. -/
def get (i : ℕ) : Attempt α := v.read (v.iteratorAt i)

variable {v} {i : ℕ}

@[simp] theorem length_emplaceBack (storage : ℕ) (a : α) :
    (v.emplaceBack storage a).elements.length = v.elements.length + 1 :=
  List.length_append

theorem valid_iteratorAt_iff : v.Valid (v.iteratorAt i) ↔ i ≤ v.elements.length := by
  simp [Valid, iteratorAt]

theorem read_iteratorAt (h : i < v.elements.length) :
    v.read (v.iteratorAt i) = .returns v.elements[i] := by
  rw [read, if_pos (valid_iteratorAt_iff.mpr (Nat.le_of_lt h))]
  simp [iteratorAt, List.getElem?_eq_getElem h]

theorem read_iteratorAt_of_ge (h : v.elements.length ≤ i) :
    v.read (v.iteratorAt i) = .undefined := by
  rw [read]
  split
  · simp [iteratorAt, List.getElem?_eq_none h]
  · rfl

theorem write_iteratorAt (h : i < v.elements.length) (a : α) :
    v.write (v.iteratorAt i) a = .returns { v with elements := v.elements.set i a } :=
  if_pos ⟨valid_iteratorAt_iff.mpr (Nat.le_of_lt h), h⟩

theorem advance_iteratorAt {n : ℤ} {j : ℕ} (hi : i ≤ v.elements.length) (hj : i + n = j)
    (h : j ≤ v.elements.length) :
    v.advance (v.iteratorAt i) n = .returns (v.iteratorAt j) := by
  have hrange : v.Valid (v.iteratorAt i) ∧ 0 ≤ (v.iteratorAt i).index + n ∧
      (v.iteratorAt i).index + n ≤ v.elements.length := by
    refine ⟨valid_iteratorAt_iff.mpr hi, ?_, ?_⟩
    · simp [iteratorAt, hj]
    · simpa [iteratorAt, hj] using h
  rw [advance, if_pos hrange]
  simp [iteratorAt, hj]

theorem advance_first {n : ℕ} (h : n ≤ v.elements.length) :
    v.advance v.first n = .returns (v.iteratorAt n) :=
  advance_iteratorAt (Nat.zero_le _) (Int.zero_add _) h

theorem advance_iteratorAt_of_lt {n : ℤ} (h : v.elements.length < i + n) :
    v.advance (v.iteratorAt i) n = .undefined :=
  if_neg fun hvalid => absurd hvalid.2.2 (by simpa [iteratorAt] using h)

theorem isPast_iteratorAt (h : i ≤ v.elements.length) :
    v.isPast (v.iteratorAt i) = .returns (decide (i = v.elements.length)) :=
  if_pos (valid_iteratorAt_iff.mpr h)

theorem position_iteratorAt (h : i ≤ v.elements.length) :
    v.position (v.iteratorAt i) = .returns i :=
  if_pos (valid_iteratorAt_iff.mpr h)

end Vec

end Machine
