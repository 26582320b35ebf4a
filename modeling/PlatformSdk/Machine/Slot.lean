import Mathlib.Data.List.Perm.Basic

/-!
# Requests guarded by a flag

A flag is raised when a request is issued and lowered when the request fails,
and nothing is issued while it is up.  A slot counts the requests of one kind
that wait for an answer and those that succeeded.  At most one of them is
there (`Single`), and if the flag is never raised without a request, there is
one whenever the flag is up (`Kept`).
-/

namespace Machine

/-- One more element of `l` than of the list without its `i`-th element. -/
theorem countP_eraseIdx {α : Type*} {p : α → Bool} {l : List α} {i : ℕ} {a : α}
    (h : l[i]? = some a) :
    l.countP p = (l.eraseIdx i).countP p + if p a then 1 else 0 := by
  obtain ⟨hi, rfl⟩ := List.getElem?_eq_some_iff.mp h
  rw [← (List.getElem_cons_eraseIdx_perm hi).countP_eq, List.countP_cons]

/-- Erasing the first element that meets `p` leaves one fewer of them. -/
theorem countP_eraseP {α : Type*} (p : α → Bool) (l : List α) :
    (l.eraseP p).countP p = l.countP p - 1 := by
  induction l with
  | nil => rfl
  | cons a l ih =>
      by_cases ha : p a = true
      · rw [List.eraseP_cons_of_pos ha, List.countP_cons_of_pos ha,
          Nat.add_sub_cancel]
      · rw [List.eraseP_cons_of_neg ha, List.countP_cons_of_neg ha,
          List.countP_cons_of_neg ha, ih]

/-- The flag of a kind of request, with the numbers of requests that wait and
that succeeded. -/
@[ext] structure Slot where
  requested : Bool
  pending : ℕ
  succeeded : ℕ

namespace Slot

/-- The flag is raised with a request, or without one where `silent` holds. -/
structure Issues (silent : Prop) (a b : Slot) : Prop where
  low : a.requested = false
  raised : b.requested = true
  pending : b.pending = a.pending + 1 ∨ silent ∧ b.pending = a.pending
  succeeded : b.succeeded = a.succeeded

/-- What can happen to a slot. -/
inductive Move (silent : Prop) (a b : Slot) : Prop where
  | issue (h : Issues silent a b)
  | succeed (hflag : b.requested = a.requested)
      (hpending : a.pending = b.pending + 1)
      (hsucceeded : b.succeeded = a.succeeded + 1)
  | fail (hflag : b.requested = false) (hpending : a.pending = b.pending + 1)
      (hsucceeded : b.succeeded = a.succeeded)

/-- At most one request waits or succeeded, and none while the flag is low. -/
def Single (a : Slot) : Prop :=
  a.pending + a.succeeded ≤ a.requested.toNat

/-- A raised flag stands for a request that waits or succeeded. -/
def Kept (a : Slot) : Prop :=
  a.requested = true → 1 ≤ a.pending + a.succeeded

variable {silent : Prop} {a b : Slot}

theorem Single.pending_le (h : a.Single) : a.pending ≤ 1 := by
  have hle := Bool.toNat_le a.requested
  have hsum : a.pending + a.succeeded ≤ a.requested.toNat := h
  omega

theorem Single.succeeded_le (h : a.Single) : a.succeeded ≤ 1 := by
  have hle := Bool.toNat_le a.requested
  have hsum : a.pending + a.succeeded ≤ a.requested.toNat := h
  omega

/-- While a request waits, none has succeeded. -/
theorem Single.succeeded_eq_zero (h : a.Single) (hpending : 1 ≤ a.pending) :
    a.succeeded = 0 := by
  have hle := Bool.toNat_le a.requested
  have hsum : a.pending + a.succeeded ≤ a.requested.toNat := h
  omega

theorem Move.single (hmove : Move silent a b) (h : a.Single) : b.Single := by
  have hsum : a.pending + a.succeeded ≤ a.requested.toNat := h
  rw [Single]
  cases hmove with
  | issue hissues =>
      have hlow : a.requested.toNat = 0 := by rw [hissues.low]; rfl
      have hraised : b.requested.toNat = 1 := by rw [hissues.raised]; rfl
      have hsucceeded := hissues.succeeded
      rcases hissues.pending with hone | ⟨-, hnone⟩ <;> omega
  | succeed hflag hpending hsucceeded =>
      rw [hflag]
      omega
  | fail hflag hpending hsucceeded =>
      have hle := Bool.toNat_le a.requested
      omega

theorem Move.kept (hmove : Move silent a b) (hloud : ¬ silent) (h : a.Kept) :
    b.Kept := by
  intro hraised
  cases hmove with
  | issue hissues =>
      rcases hissues.pending with hone | ⟨hsilent, -⟩
      · omega
      · exact absurd hsilent hloud
  | succeed hflag hpending hsucceeded =>
      have hone := h (hflag.symm.trans hraised)
      omega
  | fail hflag =>
      rw [hflag] at hraised
      cases hraised

end Slot
end Machine
