import Mathlib.Data.List.Basic

/-!
# Task loops

A loop runs the tasks that were posted to it one after the other, in the order in which
they were posted.  Its state is at any time what the tasks that ran make of the first
state, and these are the tasks that were posted without those that still wait.
-/

namespace Machine

variable {τ σ : Type*}

/-- A loop, with the tasks that wait and all that were posted so far. -/
structure Loop (τ σ : Type*) where
  queue : List τ := []
  posted : List τ := []
  state : σ

namespace Loop

/-- Post a task. -/
def post (task : τ) (l : Loop τ σ) : Loop τ σ :=
  { l with queue := l.queue ++ [task], posted := l.posted ++ [task] }

/-- Run the oldest task. -/
def turn (exec : σ → τ → σ) (l : Loop τ σ) : Option (Loop τ σ) :=
  match l.queue with
  | [] => none
  | task :: rest => some { l with queue := rest, state := exec l.state task }

/-- Some of the posted tasks ran, and the others wait. -/
def RunsInOrder (exec : σ → τ → σ) (init : σ) (l : Loop τ σ) : Prop :=
  ∃ done, l.posted = done ++ l.queue ∧ l.state = done.foldl exec init

variable {exec : σ → τ → σ} {init : σ} {l l' : Loop τ σ}

theorem runsInOrder_init (exec : σ → τ → σ) (init : σ) :
    RunsInOrder exec init ({ state := init } : Loop τ σ) := ⟨[], rfl, rfl⟩

theorem RunsInOrder.post (h : RunsInOrder exec init l) (task : τ) :
    RunsInOrder exec init (l.post task) := by
  obtain ⟨done, hposted, hstate⟩ := h
  exact ⟨done, by simp [Loop.post, hposted], hstate⟩

theorem RunsInOrder.turn (h : RunsInOrder exec init l) (hturn : l.turn exec = some l') :
    RunsInOrder exec init l' := by
  obtain ⟨done, hposted, hstate⟩ := h
  simp only [Loop.turn] at hturn
  split at hturn
  · cases hturn
  · next task rest hqueue =>
      cases hturn
      refine ⟨done ++ [task], ?_, ?_⟩
      · simp [hposted, hqueue]
      · simp [hstate]

end Loop
end Machine
