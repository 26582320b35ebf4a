import Mathlib.Data.List.Forall2
import Mathlib.Logic.Basic
import PlatformSdk.Machine.Attempt

/-!
# Equality functions

Functions `α → α → Bool` that a program uses for equality and that need not be
reflexive.  What such a function keeps when it goes through the members of a structure,
through an optional value, through a vector or through an access that may fail.
-/

namespace Compare

open Machine (Attempt)

variable {α β : Type*}

/-- The function is symmetric and transitive. -/
structure IsPartial (eq : α → α → Bool) : Prop where
  symm : ∀ {a b}, eq a b = true → eq b a = true
  trans : ∀ {a b c}, eq a b = true → eq b c = true → eq a c = true

theorem isEqv_nil_iff {eq : α → α → Bool} {bs : List α} :
    List.isEqv [] bs eq = true ↔ bs = [] := by
  cases bs <;> simp

theorem isEqv_cons_iff {eq : α → α → Bool} {a : α} {as bs : List α} :
    (a :: as).isEqv bs eq = true ↔
      ∃ b bs', bs = b :: bs' ∧ eq a b = true ∧ as.isEqv bs' eq = true := by
  cases bs with
  | nil => simp
  | cons b bs => simp [List.isEqv_cons_cons]

namespace IsPartial

theorem decideEq [DecidableEq α] : IsPartial fun a b : α => decide (a = b) where
  symm h := decide_eq_true (of_decide_eq_true h).symm
  trans h h' := decide_eq_true ((of_decide_eq_true h).trans (of_decide_eq_true h'))

variable {eq eq' : α → α → Bool}

/-- The values of a function, such as a member of a structure, are compared. -/
theorem comap (h : IsPartial eq) (f : β → α) : IsPartial fun a b => eq (f a) (f b) where
  symm := h.symm
  trans := h.trans

theorem and (h : IsPartial eq) (h' : IsPartial eq') :
    IsPartial fun a b => eq a b && eq' a b where
  symm := by
    intro a b hab
    rw [Bool.and_eq_true] at hab ⊢
    exact ⟨h.symm hab.1, h'.symm hab.2⟩
  trans := by
    intro a b c hab hbc
    rw [Bool.and_eq_true] at hab hbc ⊢
    exact ⟨h.trans hab.1 hbc.1, h'.trans hab.2 hbc.2⟩

theorem isEqv (h : IsPartial eq) : IsPartial fun as bs : List α => as.isEqv bs eq where
  symm := by
    intro as bs hab
    induction as generalizing bs with
    | nil =>
        obtain rfl := isEqv_nil_iff.mp hab
        exact hab
    | cons a as ih =>
        obtain ⟨b, bs, rfl, hhead, htail⟩ := isEqv_cons_iff.mp hab
        exact isEqv_cons_iff.mpr ⟨a, as, rfl, h.symm hhead, ih htail⟩
  trans := by
    intro as bs cs hab hbc
    induction as generalizing bs cs with
    | nil =>
        obtain rfl := isEqv_nil_iff.mp hab
        exact hbc
    | cons a as ih =>
        obtain ⟨b, bs, rfl, hhead, htail⟩ := isEqv_cons_iff.mp hab
        obtain ⟨c, cs, rfl, hhead', htail'⟩ := isEqv_cons_iff.mp hbc
        exact isEqv_cons_iff.mpr ⟨c, cs, rfl, h.trans hhead hhead', ih htail htail'⟩

end IsPartial

theorem isEqv_iff_forall₂ {eq : α → α → Bool} {as bs : List α} :
    as.isEqv bs eq = true ↔ List.Forall₂ (fun a b => eq a b = true) as bs := by
  induction as generalizing bs with
  | nil => cases bs <;> simp
  | cons a as ih =>
      cases bs with
      | nil => simp
      | cons b bs => simp [List.isEqv_cons_cons, ih]

theorem isEqv_self_iff {eq : α → α → Bool} {as : List α} :
    as.isEqv as eq = true ↔ ∀ a ∈ as, eq a a = true := by
  induction as with
  | nil => simp
  | cons a as ih => simp [List.isEqv_cons_cons, ih]

/-- Optional values are equal where both are there and equal. -/
def both (eq : α → α → Bool) (a b : Option α) : Bool :=
  match a, b with
  | some a, some b => eq a b
  | _, _ => false

theorem both_eq_true_iff {eq : α → α → Bool} {a b : Option α} :
    both eq a b = true ↔ ∃ x y, a = some x ∧ b = some y ∧ eq x y = true := by
  cases a with
  | none => simp [both]
  | some x =>
      cases b with
      | none => simp [both]
      | some y => simp [both]

theorem IsPartial.both {eq : α → α → Bool} (h : IsPartial eq) : IsPartial (both eq) where
  symm := by
    intro a b hab
    obtain ⟨x, y, rfl, rfl, hxy⟩ := both_eq_true_iff.mp hab
    exact h.symm hxy
  trans := by
    intro a b c hab hbc
    obtain ⟨x, y, rfl, rfl, hxy⟩ := both_eq_true_iff.mp hab
    obtain ⟨y', z, hy, rfl, hyz⟩ := both_eq_true_iff.mp hbc
    cases hy
    exact h.trans hxy hyz

section Reading

variable {α β : Type} {eq : α → α → Bool} {read : β → Attempt α}

/-- What is read of two values is compared. -/
def ofRead (eq : α → α → Bool) (read : β → Attempt α) (a b : β) : Attempt Bool := do
  return eq (← read a) (← read b)

theorem ofRead_eq_true_iff {a b : β} : ofRead eq read a b = .returns true ↔
    ∃ x y, read a = .returns x ∧ read b = .returns y ∧ eq x y = true := by
  rw [ofRead]
  cases read a with
  | returns x => cases read b <;> simp
  | throws _ => simp
  | undefined => simp

theorem IsPartial.ofRead_symm (h : IsPartial eq) {a b : β}
    (hab : ofRead eq read a b = .returns true) : ofRead eq read b a = .returns true := by
  obtain ⟨x, y, hx, hy, hxy⟩ := ofRead_eq_true_iff.mp hab
  exact ofRead_eq_true_iff.mpr ⟨y, x, hy, hx, h.symm hxy⟩

theorem IsPartial.ofRead_trans (h : IsPartial eq) {a b c : β}
    (hab : ofRead eq read a b = .returns true) (hbc : ofRead eq read b c = .returns true) :
    ofRead eq read a c = .returns true := by
  obtain ⟨x, y, hx, hy, hxy⟩ := ofRead_eq_true_iff.mp hab
  obtain ⟨y', z, hy', hz, hyz⟩ := ofRead_eq_true_iff.mp hbc
  obtain rfl := Attempt.returns.inj (hy.symm.trans hy')
  exact ofRead_eq_true_iff.mpr ⟨x, z, hx, hz, h.trans hxy hyz⟩

end Reading

end Compare
