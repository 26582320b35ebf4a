import PlatformSdk.Machine.Slot

/-!
# Requests that follow one another

A request that succeeds leads to requests of other kinds, and one that fails leads to
nothing.  The module names nothing but kinds of requests.  As long as each kind follows
one other kind at most, a kind was requested as often as the one before it succeeded
(`Follows.step`), and in the end at most once (`Follows.made_le_one`).
-/

namespace Machine

/-- Of the values that a list holds, one that is taken out of the list is taken out. -/
theorem filterMap_eraseIdx_some {α β : Type*} {f : α → Option β} {xs : List α} {i : ℕ}
    {x : α} {y : β} (hi : xs[i]? = some x) (hf : f x = some y) :
    ∃ j, (xs.filterMap f)[j]? = some y ∧
      (xs.eraseIdx i).filterMap f = (xs.filterMap f).eraseIdx j := by
  induction xs generalizing i with
  | nil => cases hi
  | cons x' xs ih =>
      cases i with
      | zero =>
          obtain rfl : x' = x := Option.some.inj hi
          exact ⟨0, by rw [List.filterMap_cons_some hf]; exact ⟨rfl, rfl⟩⟩
      | succ i =>
          obtain ⟨j, hj, herase⟩ := ih hi
          rw [List.eraseIdx_cons_succ]
          cases hx' : f x' with
          | none =>
              rw [List.filterMap_cons_none hx', List.filterMap_cons_none hx']
              exact ⟨j, hj, herase⟩
          | some y' =>
              rw [List.filterMap_cons_some hx', List.filterMap_cons_some hx', herase]
              exact ⟨j + 1, hj, rfl⟩

theorem filterMap_eraseIdx_none {α β : Type*} {f : α → Option β} {xs : List α} {i : ℕ}
    {x : α} (hi : xs[i]? = some x) (hf : f x = none) :
    (xs.eraseIdx i).filterMap f = xs.filterMap f := by
  induction xs generalizing i with
  | nil => cases hi
  | cons x' xs ih =>
      cases i with
      | zero =>
          obtain rfl : x' = x := Option.some.inj hi
          rw [List.filterMap_cons_none hf, List.eraseIdx_cons_zero]
      | succ i =>
          rw [List.eraseIdx_cons_succ, List.filterMap_cons, List.filterMap_cons, ih hi]

variable {κ : Type*} [DecidableEq κ]

/-- How many requests of a kind were answered with success. -/
def succeeded (answered : List (κ × Bool)) (k : κ) : ℕ := answered.count (k, true)

/-- How many requests of a kind were made: they wait, or they were answered. -/
def made (pending : List κ) (answered : List (κ × Bool)) (k : κ) : ℕ :=
  pending.count k + (answered.map Prod.fst).count k

theorem succeeded_le (answered : List (κ × Bool)) (k : κ) :
    succeeded answered k ≤ (answered.map Prod.fst).count k := by
  have hle : answered.count (k, true) ≤ (answered.map Prod.fst).count (k, true).1 :=
    List.count_le_count_map
  exact hle

theorem succeeded_cons (answered : List (κ × Bool)) (j k : κ) (ok : Bool) :
    succeeded ((j, ok) :: answered) k =
      succeeded answered k + if j = k ∧ ok = true then 1 else 0 := by
  rw [succeeded, List.count_cons, succeeded]
  simp

/-- Each kind was requested as often as the kind before it succeeded, beyond the requests
that were made initially. -/
def Follows (after : κ → Option κ) (initial pending : List κ) (answered : List (κ × Bool)) :
    Prop :=
  ∀ k, made pending answered k = initial.count k + (after k).elim 0 (succeeded answered)

variable {after : κ → Option κ} {initial pending : List κ} {answered : List (κ × Bool)}

theorem follows_initial (after : κ → Option κ) (initial : List κ) :
    Follows after initial initial [] := by
  intro k
  cases h : after k with
  | none => rfl
  | some j => rfl

/-- One of the requests that wait is answered. -/
theorem Follows.step {next : κ → List κ}
    (hnext : ∀ j k, (next j).count k = if after k = some j then 1 else 0)
    (h : Follows after initial pending answered) {i : ℕ} {j : κ} (hi : pending[i]? = some j)
    (ok : Bool) :
    Follows after initial (pending.eraseIdx i ++ if ok then next j else [])
      ((j, ok) :: answered) := by
  intro k
  have hlaw := h k
  have herase : pending.count k = (pending.eraseIdx i).count k + if j == k then 1 else 0 :=
    countP_eraseIdx hi
  have hcount : (if ok then next j else []).count k =
      if after k = some j ∧ ok = true then 1 else 0 := by
    cases ok with
    | true => simp [hnext]
    | false => simp
  have hafter : (after k).elim 0 (succeeded ((j, ok) :: answered)) =
      (after k).elim 0 (succeeded answered) +
        if after k = some j ∧ ok = true then 1 else 0 := by
    cases hk : after k with
    | none => rfl
    | some j' =>
        rw [Option.elim_some, Option.elim_some, succeeded_cons]
        simp [eq_comm]
  rw [made] at hlaw ⊢
  rw [List.count_append, List.map_cons, List.count_cons, hcount, hafter]
  dsimp only
  omega

/-- A kind waits, or it succeeded, as often as it was made at most. -/
theorem pending_add_succeeded_le (pending : List κ) (answered : List (κ × Bool)) (k : κ) :
    pending.count k + succeeded answered k ≤ made pending answered k :=
  Nat.add_le_add_left (succeeded_le answered k) _

/-- If no kind follows itself in the end, and only kinds that follow nothing are requested
initially, and once, then every kind is requested at most once. -/
theorem Follows.made_le_one (h : Follows after initial pending answered) (rank : κ → ℕ)
    (hrank : ∀ j k, after k = some j → rank j < rank k)
    (hinitial : ∀ k, initial.count k + (if (after k).isSome then 1 else 0) ≤ 1) (k : κ) :
    made pending answered k ≤ 1 := by
  induction hn : rank k using Nat.strongRecOn generalizing k with
  | ind n ih =>
      have hk := hinitial k
      rw [h k]
      cases hafter : after k with
      | none =>
          rw [hafter] at hk
          exact hk
      | some j =>
          rw [hafter] at hk
          have hbefore := ih (rank j) (hn ▸ hrank j k hafter) j rfl
          have hsucceeded := pending_add_succeeded_le pending answered j
          simp only [Option.isSome_some, if_true] at hk
          rw [Option.elim_some]
          omega

end Machine
