import Mathlib.Data.List.Basic
import Mathlib.Data.Nat.Notation

/-!
# The loops over completion queues

The executors of server and client take events from a completion queue and
let the method invocations that are their tags proceed.  The two loops end on
different conditions.
-/

namespace Airmap.Grpc

variable {ι : Type*}

inductive MethodInvocation.State where
  | ready
  | streaming
  | finished
  deriving DecidableEq, Repr

/-- What `CompletionQueue::Next` yields; there is no tag for a null pointer. -/
structure Completion (ι : Type*) where
  tag : Option ι
  ok : Bool
  deriving DecidableEq

/-- The calls of `MethodInvocation::proceed` that an event leads to. -/
def Completion.dispatch (event : Completion ι) : List (ι × Bool) :=
  match event.tag with
  | some methodInvocation => [(methodInvocation, event.ok)]
  | none => []

/-- `server::Executor::run` leaves its loop after an event that is not ok. -/
def Server.proceeds (event : Completion ι) : Bool := event.ok

/-- `server::Executor::run` on what the queue yields until it is shut down: the
calls that are dispatched to the context, in their order. -/
def Server.run : List (Completion ι) → List (ι × Bool)
  | [] => []
  | event :: rest =>
      event.dispatch ++ if Server.proceeds event then Server.run rest else []

/-- `client::Executor::run`, which makes the calls itself. -/
def Client.run : List (Completion ι) → List (ι × Bool)
  | [] => []
  | event :: rest => event.dispatch ++ Client.run rest

/-- The loop of the client ends with the queue only. -/
theorem Client.run_eq (events : List (Completion ι)) :
    Client.run events = events.flatMap Completion.dispatch := by
  induction events with
  | nil => rfl
  | cons event rest ih => rw [Client.run, ih, List.flatMap_cons]

theorem Completion.dispatch_eq_nil_iff (event : Completion ι) :
    event.dispatch = [] ↔ event.tag = none := by
  rw [Completion.dispatch]
  cases event.tag with
  | none => simp
  | some methodInvocation => simp

/-- An event that is not ok is followed by events without a tag only. -/
def FailsLast (events : List (Completion ι)) : Prop :=
  events.Pairwise fun event later => event.ok = true ∨ later.tag = none

/-- The loop of the server dispatches every event until the queue is shut down
exactly when no event comes after one that is not ok. -/
theorem Server.run_eq_iff_failsLast (events : List (Completion ι)) :
    Server.run events = events.flatMap Completion.dispatch ↔ FailsLast events := by
  rw [FailsLast]
  induction events with
  | nil => simp [Server.run]
  | cons event rest ih =>
      rw [Server.run, List.flatMap_cons, List.append_cancel_left_eq,
        List.pairwise_cons, ← ih]
      rw [Server.proceeds]
      by_cases hok : event.ok = true
      · simp [hok]
      · rw [if_neg hok]
        have hdropped : ([] = rest.flatMap Completion.dispatch) ↔
            ∀ later ∈ rest, later.tag = none := by
          rw [eq_comm, List.flatMap_eq_nil_iff]
          exact forall₂_congr fun later _ => later.dispatch_eq_nil_iff
        rw [hdropped]
        constructor
        · intro hnone
          refine ⟨fun later hlater => Or.inr (hnone later hlater), ?_⟩
          rw [ih]
          exact List.pairwise_of_forall_mem_list fun _ _ later hlater =>
            Or.inr (hnone later hlater)
        · rintro ⟨hlater, -⟩ later hmem
          exact (hlater later hmem).resolve_left hok

/-- A stream whose client went away ends the loop for the other clients. -/
theorem Server.run_not_dispatched :
    Server.run [⟨some 1, true⟩, ⟨some 2, false⟩, ⟨some (1 : ℕ), true⟩] =
        [(1, true), (2, false)] ∧
      List.flatMap Completion.dispatch
          [⟨some 1, true⟩, ⟨some 2, false⟩, ⟨some (1 : ℕ), true⟩] =
        [(1, true), (2, false), (1, true)] := by
  decide

end Airmap.Grpc
