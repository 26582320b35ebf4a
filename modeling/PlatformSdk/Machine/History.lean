import Mathlib.Data.List.Infix

/-!
# Histories, newest entry first

A history is a list of entries whose head is the latest.  `Always p` says that
each entry met `p` against the entries that were there before it, which is how
"only after" and "was answered before" are said of a whole run.  `GrowsBy q`
says that a history became another one by entries that meet `q`.
-/

namespace Machine

variable {α : Type*} {p : α → List α → Prop} {q r : α → Prop}

/-- Every entry meets `p` together with the entries before it. -/
def Always (p : α → List α → Prop) : List α → Prop
  | [] => True
  | a :: past => p a past ∧ Always p past

instance Always.decide [∀ a past, Decidable (p a past)] :
    ∀ history, Decidable (Always p history)
  | [] => inferInstanceAs (Decidable True)
  | _ :: past =>
      have := Always.decide past
      inferInstanceAs (Decidable (_ ∧ _))

/-! ## Growth -/

/-- `new` is `old` with entries that meet `q` on top. -/
def GrowsBy (q : α → Prop) (old new : List α) : Prop :=
  ∃ entries, new = entries ++ old ∧ ∀ a ∈ entries, q a

theorem GrowsBy.refl (old : List α) : GrowsBy q old old := ⟨[], by simp⟩

theorem GrowsBy.cons {old new : List α} {a : α} (h : GrowsBy q old new)
    (ha : q a) : GrowsBy q old (a :: new) := by
  obtain ⟨entries, hnew, hentries⟩ := h
  exact ⟨a :: entries, by simp [hnew], by simpa [ha] using hentries⟩

theorem GrowsBy.trans {old mid new : List α} (h : GrowsBy q old mid)
    (h' : GrowsBy q mid new) : GrowsBy q old new := by
  obtain ⟨entries, hmid, hentries⟩ := h
  obtain ⟨entries', hnew, hentries'⟩ := h'
  refine ⟨entries' ++ entries, by rw [hnew, hmid, List.append_assoc], ?_⟩
  intro a ha
  rcases List.mem_append.mp ha with hmem | hmem
  · exact hentries' a hmem
  · exact hentries a hmem

theorem GrowsBy.mono {old new : List α} (h : GrowsBy q old new)
    (himp : ∀ a, q a → r a) : GrowsBy r old new := by
  obtain ⟨entries, hnew, hentries⟩ := h
  exact ⟨entries, hnew, fun a ha => himp a (hentries a ha)⟩

/-- Both descriptions of one growth speak about the same entries. -/
theorem GrowsBy.and {old new : List α} (h : GrowsBy q old new)
    (h' : GrowsBy r old new) : GrowsBy (fun a => q a ∧ r a) old new := by
  obtain ⟨entries, hnew, hentries⟩ := h
  obtain ⟨entries', hnew', hentries'⟩ := h'
  have hsame : entries = entries' :=
    List.append_cancel_right (hnew.symm.trans hnew')
  subst hsame
  exact ⟨entries, hnew, fun a ha => ⟨hentries a ha, hentries' a ha⟩⟩

theorem GrowsBy.subset {old new : List α} (h : GrowsBy q old new) :
    old ⊆ new := by
  obtain ⟨entries, rfl, -⟩ := h
  exact List.subset_append_right entries old

theorem GrowsBy.countP_eq {old new : List α} {c : α → Bool}
    (h : GrowsBy q old new) (hq : ∀ a, q a → c a = false) :
    new.countP c = old.countP c := by
  obtain ⟨entries, rfl, hentries⟩ := h
  have hnone : entries.countP c = 0 := by
    rw [List.countP_eq_zero]
    intro a ha
    simp [hq a (hentries a ha)]
  rw [List.countP_append, hnone, Nat.zero_add]

/-- Entries that a function leaves out do not change what it keeps. -/
theorem GrowsBy.filterMap_eq {β : Type*} {old new : List α} {f : α → Option β}
    (h : GrowsBy q old new) (hq : ∀ a, q a → f a = none) :
    new.filterMap f = old.filterMap f := by
  obtain ⟨entries, rfl, hentries⟩ := h
  have hnone : entries.filterMap f = [] :=
    List.filterMap_eq_nil_iff.mpr fun a ha => hq a (hentries a ha)
  rw [List.filterMap_append, hnone, List.nil_append]

/-- What the old and the added entries meet, all entries meet. -/
theorem GrowsBy.forall {old new : List α} (h : GrowsBy q old new)
    (hold : ∀ a ∈ old, r a) (hnew : ∀ a, q a → r a) : ∀ a ∈ new, r a := by
  obtain ⟨entries, rfl, hentries⟩ := h
  intro a ha
  rcases List.mem_append.mp ha with hmem | hmem
  · exact hnew a (hentries a hmem)
  · exact hold a hmem

/-- Entries that meet `p` against each history they are added to keep
`Always p`. -/
theorem GrowsBy.always {old new : List α} (h : GrowsBy q old new)
    (hold : Always p old)
    (hnew : ∀ a past, q a → GrowsBy q old past → p a past) : Always p new := by
  obtain ⟨entries, rfl, hentries⟩ := h
  induction entries with
  | nil => exact hold
  | cons a entries ih =>
      have hrest : ∀ b ∈ entries, q b := fun b hb => hentries b (by simp [hb])
      exact ⟨hnew a _ (hentries a (by simp)) ⟨entries, rfl, hrest⟩, ih hrest⟩

end Machine
