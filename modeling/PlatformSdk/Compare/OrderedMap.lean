import Mathlib.Data.List.InsertIdx
import PlatformSdk.Machine.Attempt

/-!
# Maps that compare their keys

A map of entries in the order of their keys, with a comparison that may throw.  The
entries are searched as in a tree: an entry of a range is compared, and the search goes
on before or behind it.
-/

namespace Compare

open Machine (Attempt)

/-- The shape of a tree: which entry of a range is the root of it. -/
abbrev Shape (κ ν : Type) := List (κ × ν) → ℕ

variable {κ ν : Type} (lt : κ → κ → Attempt Bool) (shape : Shape κ ν)

/-- How many entries have keys that come before a key. -/
def lowerBound (key : κ) : List (κ × ν) → Attempt ℕ
  | [] => .returns 0
  | first :: rest =>
      let root := min (shape (first :: rest)) rest.length
      match hroot : (first :: rest)[root]? with
      | none => .undefined
      | some entry => do
          if ← lt entry.1 key then
            let after ← lowerBound key ((first :: rest).drop (root + 1))
            return root + 1 + after
          else
            lowerBound key ((first :: rest).take root)
  termination_by entries => entries.length
  decreasing_by
    · simp only [List.length_drop, List.length_cons]
      omega
    · simp only [List.length_take, List.length_cons]
      omega

/-- The value of a key is set, with a new entry if there is none that is equivalent. -/
def assign (key : κ) (value : ν) (entries : List (κ × ν)) : Attempt (List (κ × ν)) := do
  let i ← lowerBound lt shape key entries
  match entries[i]? with
  | none => return entries.insertIdx i (key, value)
  | some entry =>
      if ← lt key entry.1 then return entries.insertIdx i (key, value)
      else return entries.set i (entry.1, value)

/-- Nothing is compared when an entry is put into a map without entries. -/
theorem assign_nil (key : κ) (value : ν) :
    assign lt shape key value [] = .returns [(key, value)] := by
  rw [assign, lowerBound]
  rfl

variable {key : κ}

/-- A range with an entry is searched by a comparison with one of them, and then before
or behind it. -/
theorem exists_root (key : κ) {entries : List (κ × ν)} (hne : entries ≠ []) :
    ∃ root entry, root < entries.length ∧ entry ∈ entries ∧
      lowerBound lt shape key entries = (do
        if ← lt entry.1 key then
          let after ← lowerBound lt shape key (entries.drop (root + 1))
          return root + 1 + after
        else lowerBound lt shape key (entries.take root)) := by
  cases entries with
  | nil => exact absurd rfl hne
  | cons first rest =>
      have hroot : min (shape (first :: rest)) rest.length < (first :: rest).length := by
        rw [List.length_cons]
        omega
      refine ⟨_, _, hroot, List.getElem_mem hroot, ?_⟩
      rw [lowerBound]
      split
      · rename_i hnone
        rw [List.getElem?_eq_getElem hroot] at hnone
        cases hnone
      · rename_i entry hentry
        rw [List.getElem?_eq_getElem hroot, Option.some.injEq] at hentry
        rw [hentry]

variable {lt shape}

/-- A key that cannot be compared is noticed by the first comparison. -/
theorem lowerBound_throws {entries : List (κ × ν)} {what : String} (hne : entries ≠ [])
    (h : ∀ entry ∈ entries, lt entry.1 key = .throws what) :
    lowerBound lt shape key entries = .throws what := by
  obtain ⟨root, entry, -, hmem, hsearch⟩ := exists_root lt shape key hne
  rw [hsearch, h entry hmem]
  rfl

theorem exists_lowerBound (shape : Shape κ ν) {entries : List (κ × ν)}
    (h : ∀ entry ∈ entries, ∃ less, lt entry.1 key = .returns less) :
    ∃ i ≤ entries.length, lowerBound lt shape key entries = .returns i := by
  induction hn : entries.length using Nat.strongRecOn generalizing entries with
  | _ n ih =>
      by_cases hne : entries = []
      · subst hne
        exact ⟨0, Nat.zero_le _, by rw [lowerBound]⟩
      · obtain ⟨root, entry, hroot, hmem, hsearch⟩ :=
          exists_root lt shape key hne
        obtain ⟨less, hless⟩ := h entry hmem
        rw [hsearch, hless]
        cases less with
        | true =>
            have hlength : (entries.drop (root + 1)).length = entries.length - (root + 1) :=
              List.length_drop
            obtain ⟨after, hle, hafter⟩ := ih (entries.drop (root + 1)).length
              (by omega) (fun entry hmem => h entry (List.mem_of_mem_drop hmem)) rfl
            refine ⟨root + 1 + after, by omega, ?_⟩
            rw [Attempt.returns_bind, if_pos rfl, hafter]
            rfl
        | false =>
            have hlength : (entries.take root).length = min root entries.length :=
              List.length_take
            obtain ⟨before, hle, hbefore⟩ := ih (entries.take root).length
              (by omega) (fun entry hmem => h entry (List.mem_of_mem_take hmem)) rfl
            exact ⟨before, by omega, hbefore⟩

theorem assign_throws {value : ν} {entries : List (κ × ν)} {what : String}
    (hne : entries ≠ []) (h : ∀ entry ∈ entries, lt entry.1 key = .throws what) :
    assign lt shape key value entries = .throws what := by
  rw [assign, lowerBound_throws hne h]
  rfl

/-- A key that can be compared with the others becomes one of them. -/
theorem exists_assign (shape : Shape κ ν) (value : ν) {entries : List (κ × ν)}
    (h : ∀ entry ∈ entries, ∃ less, lt entry.1 key = .returns less)
    (h' : ∀ entry ∈ entries, ∃ less, lt key entry.1 = .returns less) :
    ∃ entries', assign lt shape key value entries = .returns entries' ∧ entries' ≠ [] ∧
      ∀ entry ∈ entries', entry.1 = key ∨ ∃ old ∈ entries, old.1 = entry.1 := by
  obtain ⟨i, hle, hi⟩ := exists_lowerBound shape h
  have hinsert : entries.insertIdx i (key, value) ≠ [] ∧
      ∀ entry ∈ entries.insertIdx i (key, value),
        entry.1 = key ∨ ∃ old ∈ entries, old.1 = entry.1 := by
    constructor
    · refine List.ne_nil_of_length_pos ?_
      rw [List.length_insertIdx_of_le_length hle]
      omega
    · intro entry hmem
      rcases List.eq_or_mem_of_mem_insertIdx hmem with rfl | hmem
      · exact Or.inl rfl
      · exact Or.inr ⟨entry, hmem, rfl⟩
  rw [assign, hi, Attempt.returns_bind]
  cases hentry : entries[i]? with
  | none => exact ⟨_, rfl, hinsert⟩
  | some entry =>
      obtain ⟨less, hless⟩ := h' entry (List.mem_of_getElem? hentry)
      dsimp only
      rw [hless]
      cases less with
      | true => exact ⟨_, rfl, hinsert⟩
      | false =>
          refine ⟨_, rfl, ?_, ?_⟩
          · refine List.ne_nil_of_length_pos ?_
            rw [List.length_set]
            exact List.length_pos_of_mem (List.mem_of_getElem? hentry)
          · intro entry' hmem
            rcases List.mem_or_eq_of_mem_set hmem with hmem | rfl
            · exact Or.inr ⟨entry', hmem, rfl⟩
            · exact Or.inr ⟨entry, List.mem_of_getElem? hentry, rfl⟩

end Compare
