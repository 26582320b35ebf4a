import Mathlib.Data.List.Nodup
import PlatformSdk.Machine.Transducer

/-!
# Sets of subscribers

A publisher keeps a set of subscribers and hands what is published to each of them.
Whatever else subscribes and unsubscribes, a subscriber receives what is published
while it is in the set, each publication once and in order (`outputsOf_feed_operate`).
-/

namespace Machine

variable {ς υ : Type*}

/-- What can be done with a set of subscribers. -/
inductive Operation (ς υ : Type*) where
  | subscribe (subscriber : ς)
  | unsubscribe (subscriber : ς)
  | publish (update : υ)

/-- What an operation publishes. -/
def Operation.published : Operation ς υ → Option υ
  | .publish update => some update
  | .subscribe _ | .unsubscribe _ => none

/-- What a subscriber receives from some operations, when it is in the set before them or
is not. -/
def received [DecidableEq ς] (subscriber : ς) : Bool → List (Operation ς υ) → List υ
  | _, [] => []
  | subscribed, .subscribe s :: operations =>
      received subscriber (subscribed || decide (s = subscriber)) operations
  | subscribed, .unsubscribe s :: operations =>
      received subscriber (subscribed && !decide (s = subscriber)) operations
  | subscribed, .publish update :: operations =>
      if subscribed then update :: received subscriber subscribed operations
      else received subscriber subscribed operations

variable [DecidableEq ς]

/-- Insert a subscriber into the set. -/
def insertSubscriber (subscriber : ς) (subscribers : List ς) : List ς :=
  if subscriber ∈ subscribers then subscribers else subscribers ++ [subscriber]

/-- One operation: the set after it, and what it hands to whom. -/
def operate (subscribers : List ς) : Operation ς υ → List ς × List (ς × υ)
  | .subscribe subscriber => (insertSubscriber subscriber subscribers, [])
  | .unsubscribe subscriber => (subscribers.erase subscriber, [])
  | .publish update => (subscribers, subscribers.map fun subscriber => (subscriber, update))

theorem mem_insertSubscriber {subscriber other : ς} {subscribers : List ς} :
    other ∈ insertSubscriber subscriber subscribers ↔
      other ∈ subscribers ∨ subscriber = other := by
  unfold insertSubscriber
  split
  · next hmem =>
      refine ⟨Or.inl, ?_⟩
      rintro (hold | rfl)
      · exact hold
      · exact hmem
  · simp [eq_comm]

theorem nodup_operate {subscribers : List ς} (h : subscribers.Nodup)
    (operation : Operation ς υ) : (operate subscribers operation).1.Nodup := by
  rcases operation with subscriber | subscriber | update
  · simp only [operate, insertSubscriber]
    split
    · exact h
    · next hmem =>
        rw [List.nodup_append_comm]
        exact List.nodup_cons.mpr ⟨hmem, h⟩
  · exact h.erase subscriber
  · exact h

/-- Each of some publications is handed to everybody in the set. -/
theorem feed_operate_publish (subscribers : List ς) (updates : List υ) :
    feed operate subscribers (updates.map .publish) =
      (subscribers, updates.flatMap fun update => subscribers.map fun s => (s, update)) := by
  induction updates with
  | nil => rfl
  | cons update updates ih =>
      rw [List.map_cons, feed_cons, operate, ih, List.flatMap_cons]

/-- A subscriber receives what is published while it is in the set. -/
theorem outputsOf_feed_operate {subscribers : List ς} (h : subscribers.Nodup)
    (subscriber : ς) (operations : List (Operation ς υ)) :
    outputsOf subscriber (feed operate subscribers operations).2 =
      received subscriber (decide (subscriber ∈ subscribers)) operations := by
  induction operations generalizing subscribers with
  | nil => rfl
  | cons operation operations ih =>
      rw [feed_cons, outputsOf_append]
      rcases operation with s | s | update
      · have hmem : decide (subscriber ∈ insertSubscriber s subscribers) =
            (decide (subscriber ∈ subscribers) || decide (s = subscriber)) := by
          rw [← Bool.decide_or]
          exact decide_eq_decide.mpr mem_insertSubscriber
        rw [received, ← hmem]
        exact ih (nodup_operate h (.subscribe s : Operation ς υ))
      · have hmem : decide (subscriber ∈ subscribers.erase s) =
            (decide (subscriber ∈ subscribers) && !decide (s = subscriber)) := by
          rw [← decide_not, ← Bool.decide_and, decide_eq_decide, h.mem_erase_iff, ne_comm,
            and_comm]
        rw [received, ← hmem]
        exact ih (nodup_operate h (.unsubscribe s : Operation ς υ))
      · rw [ih (nodup_operate h (.publish update))]
        by_cases hmem : subscriber ∈ subscribers
        · simp only [operate, received, hmem, decide_true, if_true,
            outputsOf_map_const h hmem, List.singleton_append]
        · have hnone := outputsOf_map_const_of_not_mem hmem update
          simp only [operate, received, hmem, decide_false, Bool.false_eq_true, if_false,
            hnone, List.nil_append]

end Machine
