import Mathlib.Algebra.GroupWithZero.Nat
import Mathlib.Data.List.Basic

/-!
# Texts with separators

Splitting a text at a separator, and cutting it in two at the first one.  Both do
not see whether the other letters of the text were replaced by encodings, as long
as these do not use the separator (`Keeps`).  Where the parts of a joined text begin
follows from their lengths.
-/

namespace Wire

variable {α : Type*} [DecidableEq α] {sep : α} {f : α → List α}

/-- What is before the first separator and what is after it. -/
def cut (sep : α) : List α → List α × List α
  | [] => ([], [])
  | a :: as => if a = sep then ([], as) else (a :: (cut sep as).1, (cut sep as).2)

theorem cut_of_not_mem {as : List α} (h : sep ∉ as) : cut sep as = (as, []) := by
  induction as with
  | nil => rfl
  | cons a as ih =>
      have ha : a ≠ sep := fun heq => h (by simp [heq])
      have has : sep ∉ as := fun hmem => h (by simp [hmem])
      rw [cut, if_neg ha, ih has]

theorem cut_append_cons {before : List α} (h : sep ∉ before) (after : List α) :
    cut sep (before ++ sep :: after) = (before, after) := by
  induction before with
  | nil => simp [cut]
  | cons a before ih =>
      have ha : a ≠ sep := fun heq => h (by simp [heq])
      have hbefore : sep ∉ before := fun hmem => h (by simp [hmem])
      rw [List.cons_append, cut, if_neg ha, ih hbefore]

/-- A text with a separator is cut at the first one. -/
theorem exists_cut_of_mem {as : List α} (h : sep ∈ as) :
    ∃ before after, sep ∉ before ∧ as = before ++ sep :: after ∧
      cut sep as = (before, after) := by
  obtain ⟨before, after, rfl, hbefore⟩ := List.eq_append_cons_of_mem h
  exact ⟨before, after, hbefore, rfl, cut_append_cons hbefore after⟩

/-! ## Splitting -/

/-- Splitting takes one separator away for each part but the last. -/
theorem sum_length_splitOn (sep : α) (as : List α) :
    ((as.splitOn sep).map List.length).sum + (as.splitOn sep).length = as.length + 1 := by
  induction as with
  | nil => simp
  | cons a as ih =>
      rw [List.splitOn_cons_eq_if_modifyHead]
      obtain ⟨part, parts, hparts⟩ := List.exists_cons_of_ne_nil (List.splitOn_ne_nil sep as)
      rw [hparts] at ih ⊢
      simp only [List.map_cons, List.sum_cons, List.length_cons] at ih
      split
      · simp only [List.map_cons, List.sum_cons, List.length_cons, List.length_nil]
        omega
      · simp only [List.modifyHead_cons, List.map_cons, List.sum_cons, List.length_cons]
        omega

/-- There is a single part just when there is no separator. -/
theorem length_splitOn_eq_one_iff {as : List α} :
    (as.splitOn sep).length = 1 ↔ sep ∉ as := by
  constructor
  · intro hone hmem
    obtain ⟨before, after, hbefore, rfl, -⟩ := exists_cut_of_mem hmem
    rw [List.splitOn_append_cons_self_of_not_mem hbefore, List.length_cons,
      Nat.add_eq_right, List.length_eq_zero_iff] at hone
    exact List.splitOn_ne_nil sep after hone
  · intro hmem
    rw [List.splitOn_eq_singleton hmem, List.length_singleton]

/-- Every other letter is in one of the parts. -/
theorem exists_mem_splitOn {as : List α} {a : α} (hne : a ≠ sep) (hmem : a ∈ as) :
    ∃ part ∈ as.splitOn sep, a ∈ part := by
  induction as with
  | nil => simp at hmem
  | cons b as ih =>
      rw [List.splitOn_cons_eq_if_modifyHead]
      obtain ⟨first, parts, hparts⟩ :=
        List.exists_cons_of_ne_nil (List.splitOn_ne_nil sep as)
      rw [hparts] at ih ⊢
      rcases List.mem_cons.mp hmem with rfl | hmem
      · simp [hne]
      · obtain ⟨part, hpart, ha⟩ := ih hmem
        split
        · exact ⟨part, List.mem_cons_of_mem [] hpart, ha⟩
        · rcases List.mem_cons.mp hpart with rfl | hpart
          · exact ⟨b :: part, List.mem_cons_self, List.mem_cons_of_mem b ha⟩
          · exact ⟨part, List.mem_cons_of_mem _ hpart, ha⟩

/-- Texts with a separator between them are split one by one. -/
theorem splitOn_append_flatMap {ι : Type*} (text : List α) (texts : ι → List α)
    (is : List ι) :
    (text ++ is.flatMap fun i => sep :: texts i).splitOn sep =
      text.splitOn sep ++ is.flatMap fun i => (texts i).splitOn sep := by
  induction is generalizing text with
  | nil => simp
  | cons i is ih =>
      rw [List.flatMap_cons, List.cons_append, List.splitOn_append_cons_self, ih,
        List.flatMap_cons]

/-! ## Encodings letter by letter -/

/-- The encoding leaves the separator alone, and no other letter is encoded with it. -/
structure Keeps (f : α → List α) (sep : α) : Prop where
  self : f sep = [sep]
  other : ∀ a, a ≠ sep → sep ∉ f a

omit [DecidableEq α] in
theorem Keeps.not_mem_flatMap (h : Keeps f sep) {as : List α} (hmem : sep ∉ as) :
    sep ∉ as.flatMap f := by
  rw [List.mem_flatMap]
  rintro ⟨a, ha, hfa⟩
  exact h.other a (fun heq => hmem (heq ▸ ha)) hfa

omit [DecidableEq α] in
theorem Keeps.flatMap_append_cons (h : Keeps f sep) (before after : List α) :
    (before ++ sep :: after).flatMap f = before.flatMap f ++ sep :: after.flatMap f := by
  rw [List.flatMap_append, List.flatMap_cons, h.self, List.singleton_append]

theorem Keeps.cut_flatMap (h : Keeps f sep) (as : List α) :
    cut sep (as.flatMap f) = ((cut sep as).1.flatMap f, (cut sep as).2.flatMap f) := by
  by_cases hmem : sep ∈ as
  · obtain ⟨before, after, hbefore, rfl, hcut⟩ := exists_cut_of_mem hmem
    rw [h.flatMap_append_cons, cut_append_cons (h.not_mem_flatMap hbefore), hcut]
  · rw [cut_of_not_mem (h.not_mem_flatMap hmem), cut_of_not_mem hmem, List.flatMap_nil]

/-- The parts of an encoded text are the encoded parts. -/
theorem Keeps.splitOn_flatMap (h : Keeps f sep) (as : List α) :
    (as.flatMap f).splitOn sep = (as.splitOn sep).map (List.flatMap f) := by
  induction hn : as.length using Nat.strongRecOn generalizing as with
  | _ n ih =>
      by_cases hmem : sep ∈ as
      · obtain ⟨before, after, hbefore, rfl, -⟩ := exists_cut_of_mem hmem
        have hafter := ih after.length (by simp [← hn]; omega) after rfl
        rw [h.flatMap_append_cons,
          List.splitOn_append_cons_self_of_not_mem (h.not_mem_flatMap hbefore),
          List.splitOn_append_cons_self_of_not_mem hbefore, hafter, List.map_cons]
      · rw [List.splitOn_eq_singleton (h.not_mem_flatMap hmem),
          List.splitOn_eq_singleton hmem, List.map_singleton]

/-! ## Joining -/

/-- Where a part begins in the text that is joined from the parts with a separator of one
letter. -/
def offset (parts : List (List α)) (j : ℕ) : ℕ :=
  ((parts.take j).map fun part => part.length + 1).sum

omit [DecidableEq α] in
/-- Each part but the first one is joined with a separator before it. -/
theorem intercalate_cons (part : List α) (parts : List (List α)) :
    [sep].intercalate (part :: parts) = part ++ parts.flatMap (sep :: ·) := by
  induction parts generalizing part with
  | nil => simp
  | cons next parts ih =>
      rw [List.intercalate_cons_cons, ih, List.flatMap_cons]
      simp

omit [DecidableEq α] in
theorem drop_offset_intercalate {parts : List (List α)} {j : ℕ} (h : j < parts.length) :
    ([sep].intercalate parts).drop (offset parts j) =
      [sep].intercalate (parts.drop j) := by
  induction j generalizing parts with
  | zero => simp [offset]
  | succ j ih =>
      cases parts with
      | nil => simp at h
      | cons part parts =>
          have hrest : j < parts.length := by simpa using h
          have hne : parts ≠ [] := List.ne_nil_of_length_pos (by omega)
          have hoffset : offset (part :: parts) (j + 1) =
              (part ++ [sep]).length + offset parts j := by
            simp [offset]
          rw [List.intercalate_cons_of_ne_nil hne, hoffset, List.drop_length_add_append,
            List.drop_succ_cons, ih hrest]

omit [DecidableEq α] in
theorem offset_succ {parts : List (List α)} {j : ℕ} (h : j < parts.length) :
    offset parts (j + 1) = offset parts j + (parts[j].length + 1) := by
  rw [offset, List.take_succ_eq_append_getElem h, List.map_append, List.sum_append, offset]
  simp

omit [DecidableEq α] in
/-- The parts begin where they would with the given lengths just when all of them but the
last one have these lengths. -/
theorem offsets_eq_iff {parts : List (List α)} {widths : List ℕ} {n : ℕ}
    (hn : parts.length = n) (hle : n ≤ widths.length) :
    (∀ j < n, offset parts j = ((widths.take j).map (· + 1)).sum) ↔
      ∀ j (_ : j + 1 < n), parts[j].length = widths[j] := by
  have hsucc : ∀ j (_ : j < n), ((widths.take (j + 1)).map (· + 1)).sum =
      ((widths.take j).map (· + 1)).sum + (widths[j] + 1) := by
    intro j hj
    rw [List.take_succ_eq_append_getElem (by omega), List.map_append, List.sum_append]
    simp
  constructor
  · intro h j hj
    have hnext := h (j + 1) hj
    rw [offset_succ (by omega), hsucc j (by omega), h j (by omega)] at hnext
    omega
  · intro h j
    induction j with
    | zero => simp [offset]
    | succ j ih =>
        intro hj
        rw [offset_succ (by omega), hsucc j (by omega), ih (by omega), h j hj]

end Wire
