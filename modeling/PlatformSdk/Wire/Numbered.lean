import Mathlib.Data.List.Nodup
import Mathlib.Data.List.Perm.Subperm
import Mathlib.Data.Option.Basic

/-!
# Numbered values

Values that carry increasing numbers are sent as datagrams, of which any may be lost, and
which may overtake each other.  What arrives can be put in order: sorted by the numbers it
is what was sent, without what was lost (`exists_sorted`).
-/

namespace Wire

variable {α δ : Type*} {number : α → ℕ} {sent received : List α}

/-- Sorting restores the order of what is left of a list with increasing numbers. -/
theorem mergeSort_sublist (hsent : sent.Pairwise fun a b => number a < number b)
    (h : received.Subperm sent) :
    (received.mergeSort fun a b => number a ≤ number b).Sublist sent := by
  obtain ⟨kept, hperm, hsub⟩ := h
  have hkept : kept.Pairwise fun a b => number a < number b := hsent.sublist hsub
  have hinj : (kept.map number).Nodup := List.pairwise_map.mpr (hkept.imp Nat.ne_of_lt)
  have hdecide : (received.mergeSort fun a b => number a ≤ number b).Pairwise
      fun a b => decide (number a ≤ number b) = true := by
    refine List.pairwise_mergeSort ?_ ?_ received
    · simp only [decide_eq_true_eq]
      exact fun a b c => Nat.le_trans
    · simp only [Bool.or_eq_true, decide_eq_true_eq]
      exact fun a b => Nat.le_total _ _
  have hsorted : (received.mergeSort fun a b => number a ≤ number b).Pairwise
      fun a b => number a ≤ number b := hdecide.imp of_decide_eq_true
  have hsame : (received.mergeSort fun a b => number a ≤ number b).Perm kept :=
    (List.mergeSort_perm received _).trans hperm.symm
  have heq : (received.mergeSort fun a b => number a ≤ number b) = kept := by
    refine List.Perm.eq_of_pairwise ?_ hsorted (hkept.imp Nat.le_of_lt) hsame
    intro a b ha hb hab hba
    exact List.inj_on_of_nodup_map hinj (hsame.mem_iff.mp ha) hb (Nat.le_antisymm hab hba)
  exact heq ▸ hsub

/-- Results that are all there are those of a list of values. -/
theorem exists_map_some {results : List (Option α)} (h : ∀ result ∈ results, result.isSome) :
    ∃ values : List α, results = values.map some := by
  induction results with
  | nil => exact ⟨[], rfl⟩
  | cons result results ih =>
      obtain ⟨value, rfl⟩ := Option.isSome_iff_exists.mp (h result (by simp))
      obtain ⟨values, rfl⟩ := ih fun result hmem => h result (by simp [hmem])
      exact ⟨value :: values, rfl⟩

/-- Where each datagram can be read as the value that was sent in it, whatever arrives,
in any order, can be read, and sorted by the numbers it is in the order in which it was
sent. -/
theorem exists_sorted {read : δ → Option α} {datagrams arrived : List δ}
    (hsent : sent.Pairwise fun a b => number a < number b)
    (hread : datagrams.map read = sent.map some) (harrived : arrived.Subperm datagrams) :
    ∃ received : List α, arrived.map read = received.map some ∧
      (received.mergeSort fun a b => number a ≤ number b).Sublist sent := by
  obtain ⟨kept, hperm, hsub⟩ := harrived
  obtain ⟨left, hleft, heq⟩ := List.sublist_map_iff.mp (hread ▸ hsub.map read)
  have hsame : (arrived.map read).Perm (left.map some) := heq ▸ (hperm.map read).symm
  obtain ⟨received, hreceived⟩ : ∃ received : List α, arrived.map read = received.map some := by
    apply exists_map_some
    intro result hmem
    obtain ⟨value, -, rfl⟩ := List.mem_map.mp (hsame.mem_iff.mp hmem)
    rfl
  refine ⟨received, hreceived, mergeSort_sublist hsent ⟨left, ?_, hleft⟩⟩
  rw [hreceived] at hsame
  exact ((List.map_perm_map_iff (Option.some_injective α)).mp hsame).symm

end Wire
