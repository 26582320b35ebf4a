import Mathlib.Logic.Basic

/-!
# Expressions that may throw

What evaluating an expression can come to: a value, an exception with its
explanatory string, or nothing that can be relied on.  A handler turns
exceptions into values; nothing turns undefined behaviour into one.
-/

namespace Machine

/-- The result of an evaluation. -/
inductive Attempt (α : Type*) where
  | returns (a : α)
  | throws (what : String)
  | undefined
  deriving DecidableEq

namespace Attempt

variable {α β : Type*}

protected def bind (x : Attempt α) (f : α → Attempt β) : Attempt β :=
  match x with
  | .returns a => f a
  | .throws what => .throws what
  | .undefined => .undefined

instance : Monad Attempt where
  pure := .returns
  bind := Attempt.bind

/-- The value of an evaluation that can only throw. -/
def ofExcept : Except String α → Attempt α
  | .ok a => .returns a
  | .error what => .throws what

/-- Evaluate, and give the exceptions to a handler. -/
def catching (x : Attempt α) (handler : String → α) : Attempt α :=
  match x with
  | .throws what => .returns (handler what)
  | _ => x

theorem ofExcept_eq_returns_iff {x : Except String α} {a : α} :
    ofExcept x = .returns a ↔ x = .ok a := by
  cases x <;> simp [ofExcept]

section Rules

variable {α β : Type _} {x : Attempt α} {f : α → Attempt β}

@[simp] theorem returns_bind (a : α) : (.returns a >>= f) = f a := rfl

@[simp] theorem throws_bind (what : String) : (.throws what >>= f) = .throws what :=
  rfl

@[simp] theorem undefined_bind : (.undefined >>= f) = .undefined := rfl

@[simp] theorem pure_eq (a : α) : (pure a : Attempt α) = .returns a := rfl

@[simp] theorem map_returns (g : α → β) (a : α) :
    (g <$> .returns a : Attempt β) = .returns (g a) := rfl

/-- A sequence is undefined where its first undefined part is reached. -/
theorem bind_eq_undefined_iff :
    (x >>= f) = .undefined ↔
      x = .undefined ∨ ∃ a, x = .returns a ∧ f a = .undefined := by
  cases x with
  | returns a => simp
  | throws what => simp
  | undefined => simp

/-- A sequence has a value where both of its parts have one. -/
theorem bind_eq_returns_iff {b : β} :
    (x >>= f) = .returns b ↔ ∃ a, x = .returns a ∧ f a = .returns b := by
  cases x with
  | returns a => simp
  | throws what => simp
  | undefined => simp

instance : LawfulMonad Attempt := LawfulMonad.mk' Attempt
  (fun x => by cases x <;> rfl) (fun _ _ => rfl) (fun x _ _ => by cases x <;> rfl)

/-- Whatever a loop has read was read from one of its elements. -/
theorem exists_mem_of_mapM_eq_returns {as : List α} {bs : List β}
    (h : as.mapM f = .returns bs) {b : β} (hmem : b ∈ bs) :
    ∃ a ∈ as, f a = .returns b := by
  induction as generalizing bs with
  | nil =>
      cases h
      cases hmem
  | cons a as ih =>
      rw [List.mapM_cons, bind_eq_returns_iff] at h
      obtain ⟨first, hfirst, h⟩ := h
      rw [bind_eq_returns_iff] at h
      obtain ⟨rest, hrest, h⟩ := h
      cases h
      rcases List.mem_cons.mp hmem with rfl | hmem
      · exact ⟨a, by simp, hfirst⟩
      · obtain ⟨a', hmem', ha'⟩ := ih hrest hmem
        exact ⟨a', by simp [hmem'], ha'⟩

/-- A loop reads back what was written element by element. -/
theorem mapM_map_eq_returns {g : β → α} {bs : List β}
    (h : ∀ b ∈ bs, f (g b) = .returns b) : (bs.map g).mapM f = .returns bs := by
  induction bs with
  | nil => rfl
  | cons b bs ih =>
      have hrest := ih fun b' hmem => h b' (by simp [hmem])
      simp [h b (by simp), hrest]

/-- A loop of evaluations that have values. -/
theorem mapM_eq_returns_map {g : α → β} {as : List α} (h : ∀ a ∈ as, f a = .returns (g a)) :
    as.mapM f = .returns (as.map g) := by
  induction as with
  | nil => rfl
  | cons a as ih =>
      have hrest := ih fun a' hmem => h a' (by simp [hmem])
      simp [h a (by simp), hrest]

end Rules

/-- A handled evaluation has a value unless it is undefined. -/
theorem exists_catching_eq_returns_iff {x : Attempt α} {handler : String → α} :
    (∃ a, x.catching handler = .returns a) ↔ x ≠ .undefined := by
  cases x with
  | returns a => simp [catching]
  | throws what => simp [catching]
  | undefined => simp [catching]

end Attempt
end Machine
