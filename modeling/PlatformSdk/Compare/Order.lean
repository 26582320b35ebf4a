import Mathlib.Order.Defs.Unbundled
import Mathlib.Order.Lattice

/-!
# Order functions

Functions `α → α → Bool` that a program uses for its order, next to one that it uses for
equality, and what is left to show of them where values of different tags are ordered by
their tags.
-/

namespace Compare

def ExactlyOne (p q r : Prop) : Prop :=
  (p ∧ ¬ q ∧ ¬ r) ∨ (¬ p ∧ q ∧ ¬ r) ∨ (¬ p ∧ ¬ q ∧ r)

/-- Where exactly one holds, the last is what is left. -/
theorem ExactlyOne.neither_iff {p q r : Prop} (h : ExactlyOne p q r) : ¬ p ∧ ¬ q ↔ r := by
  rcases h with ⟨hp, -, hr⟩ | ⟨-, hq, hr⟩ | ⟨hp, hq, hr⟩
  · simp [hp, hr]
  · simp [hq, hr]
  · simp [hp, hq, hr]

variable {α : Type*}

/-- Among the values with a property, `lt` is a strict total order, and `eq` the equality
that belongs to it. -/
structure IsStrict (property : α → Prop) (lt eq : α → α → Bool) : Prop where
  exactlyOne : ∀ {a b}, property a → property b →
    ExactlyOne (lt a b = true) (lt b a = true) (eq a b = true)
  trans : ∀ {a b c}, property a → property b → property c →
    lt a b = true → lt b c = true → lt a c = true

/-- The order and the equality of a type that is ordered anyway. -/
theorem isStrict_decide [LT α] [DecidableLT α] [DecidableEq α]
    [Std.Trichotomous (α := α) (· < ·)] [Std.Asymm (α := α) (· < ·)] [IsTrans α (· < ·)] :
    IsStrict (fun _ : α => True) (fun a b => decide (a < b)) (fun a b => decide (a = b)) where
  exactlyOne := by
    intro a b _ _
    simp only [decide_eq_true_eq]
    by_cases hab : a < b
    · have hba : ¬ b < a := Std.Asymm.asymm a b hab
      have hne : a ≠ b := by
        rintro rfl
        exact hba hab
      exact Or.inl ⟨hab, hba, hne⟩
    · by_cases hba : b < a
      · have hne : a ≠ b := by
          rintro rfl
          exact hab hba
        exact Or.inr (Or.inl ⟨hab, hba, hne⟩)
      · exact Or.inr (Or.inr ⟨hab, hba, Std.Trichotomous.trichotomous a b hab hba⟩)
  trans := by
    intro a b c _ _ _ hab hbc
    rw [decide_eq_true_eq] at hab hbc ⊢
    exact IsTrans.trans a b c hab hbc

/-! ## Values with tags -/

section Tag

variable {τ : Type*} [LinearOrder τ] (tag : α → τ) (lt : α → α → Prop) {a b c : α}

/-- Values of different tags are ordered, and not equal. -/
theorem exactlyOne_of_tag_ne {eq : Prop} (hne : tag a ≠ tag b)
    (hab : lt a b ↔ tag a < tag b) (hba : lt b a ↔ tag b < tag a) (heq : ¬ eq) :
    ExactlyOne (lt a b) (lt b a) eq := by
  rcases lt_or_gt_of_ne hne with hlt | hlt
  · exact Or.inl ⟨hab.mpr hlt, fun h => lt_asymm hlt (hba.mp h), heq⟩
  · exact Or.inr (Or.inl ⟨fun h => lt_asymm hlt (hab.mp h), hba.mpr hlt, heq⟩)

/-- An order by tags is transitive if it is among the values of each tag. -/
theorem trans_of_tag (property : α → Prop)
    (htag : ∀ a b, property a → property b → tag a ≠ tag b → (lt a b ↔ tag a < tag b))
    (hsame : ∀ a b c, property a → property b → property c → tag a = tag b → tag b = tag c →
      lt a b → lt b c → lt a c)
    (ha : property a) (hb : property b) (hc : property c) (hab : lt a b) (hbc : lt b c) :
    lt a c := by
  by_cases heq : tag a = tag b
  · by_cases heq' : tag b = tag c
    · exact hsame a b c ha hb hc heq heq' hab hbc
    · have hlt := (htag b c hb hc heq').mp hbc
      rw [← heq] at hlt heq'
      exact (htag a c ha hc heq').mpr hlt
  · have hlt := (htag a b ha hb heq).mp hab
    by_cases heq' : tag b = tag c
    · rw [heq'] at hlt heq
      exact (htag a c ha hc heq).mpr hlt
    · have hlt' := lt_trans hlt ((htag b c hb hc heq').mp hbc)
      exact (htag a c ha hc hlt'.ne).mpr hlt'

end Tag

end Compare
