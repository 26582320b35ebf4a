import Mathlib.Data.List.Range
import Mathlib.Data.Nat.Notation

/-!
# Numbered arrivals

Of things that arrive with a number each, those that continue the count: the first
with the number 0, after it the first with the number 1, and so on.  No other choice
of arrivals counts further (`range'_sublist_iff`).
-/

namespace Machine

variable {α : Type*} (number : α → ℕ)

/-- The arrivals that continue a count which has come to `k`. -/
def inOrderFrom (k : ℕ) : List α → List α
  | [] => []
  | a :: as =>
      if number a = k then a :: inOrderFrom (k + 1) as else inOrderFrom k as

/-- The arrivals that continue the count from its beginning. -/
abbrev inOrder (as : List α) : List α := inOrderFrom number 0 as

/-- The next arrival continues the count just when it has the number that comes
next. -/
theorem inOrderFrom_concat (k : ℕ) (as : List α) (a : α) :
    inOrderFrom number k (as ++ [a]) =
      inOrderFrom number k as ++
        if number a = k + (inOrderFrom number k as).length then [a] else [] := by
  induction as generalizing k with
  | nil => by_cases h : number a = k <;> simp [inOrderFrom, h]
  | cons b as ih =>
      by_cases h : number b = k
      · simp [inOrderFrom, h, ih, Nat.add_assoc, Nat.add_comm]
      · simp [inOrderFrom, h, ih]

theorem inOrderFrom_sublist (k : ℕ) (as : List α) :
    (inOrderFrom number k as).Sublist as := by
  induction as generalizing k with
  | nil => exact List.Sublist.refl []
  | cons a as ih =>
      rw [inOrderFrom]
      split
      · exact (ih (k + 1)).cons_cons a
      · exact (ih k).cons a

/-- The numbers of these arrivals are those that come next. -/
theorem map_inOrderFrom (k : ℕ) (as : List α) :
    (inOrderFrom number k as).map number =
      List.range' k (inOrderFrom number k as).length := by
  induction as generalizing k with
  | nil => rfl
  | cons a as ih =>
      by_cases h : number a = k
      · simp [inOrderFrom, h, ih, List.range'_succ]
      · simp [inOrderFrom, h, ih]

/-- So many numbers arrive one after the other as there are arrivals in order, and
not more. -/
theorem range'_sublist_iff (k n : ℕ) (as : List α) :
    (List.range' k n).Sublist (as.map number) ↔
      n ≤ (inOrderFrom number k as).length := by
  induction as generalizing k n with
  | nil => simp [inOrderFrom]
  | cons a as ih =>
      cases n with
      | zero => simp
      | succ n =>
          rw [List.map_cons, List.range'_succ]
          by_cases h : number a = k
          · simp [inOrderFrom, h, ih]
          · have hskip : (k :: List.range' (k + 1) n).Sublist (number a :: as.map number) ↔
                (k :: List.range' (k + 1) n).Sublist (as.map number) := by
              constructor
              · intro hsub
                cases hsub with
                | cons _ hrest => exact hrest
                | cons_cons => exact absurd rfl h
              · exact fun hsub => hsub.cons _
            rw [hskip, ← List.range'_succ, ih]
            simp [inOrderFrom, h]

end Machine
