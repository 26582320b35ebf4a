import Mathlib.Data.List.Nodup
import PlatformSdk.Machine.Slot
import PlatformSdk.Monitor.Grpc.Service

/-!
# What one step of the service does

How the operations of an invocation are counted by each part of a step, the
steps as a relation, and what holds of the invocations in every run.
-/

namespace Airmap.Monitor.Grpc.Service

open Airmap.Grpc (MethodInvocation.State)

variable {υ ω : Type*} {encode : υ → ω} {s s' : Service ω}

/-! ## Counting operations -/

@[simp] theorem pending_issue (k j : ℕ) (operation : Operation ω) :
    (s.issue k operation).pending j = s.pending j + if k = j then 1 else 0 := by
  simp [pending, issue, List.countP_append, List.countP_singleton]
  omega

@[simp] theorem pending_record (entry : Entry) (j : ℕ) :
    (s.record entry).pending j = s.pending j := rfl

@[simp] theorem pending_setState (k j : ℕ) (state : Option MethodInvocation.State) :
    (s.setState k state).pending j = s.pending j := rfl

@[simp] theorem pending_subscribe (k j : ℕ) :
    (s.subscribe k).pending j = s.pending j := rfl

@[simp] theorem pending_unsubscribe (k j : ℕ) :
    (s.unsubscribe k).pending j = s.pending j := rfl

@[simp] theorem pending_startListening (j : ℕ) :
    s.startListening.pending j = s.pending j + if s.created = j then 1 else 0 := by
  rw [startListening, pending_issue]
  rfl

@[simp] theorem pending_finish (k j : ℕ) :
    (s.finish k).pending j = s.pending j + if k = j then 1 else 0 := by
  rw [finish, pending_issue, pending_setState]

@[simp] theorem writers_issue (k j : ℕ) (operation : Operation ω) :
    (s.issue k operation).writers j =
      s.writers j + if k = j ∧ operation.writes = true then 1 else 0 := by
  simp [writers, issue, List.countP_append, List.countP_singleton]

@[simp] theorem writers_setState (k j : ℕ) (state : Option MethodInvocation.State) :
    (s.setState k state).writers j = s.writers j := rfl

@[simp] theorem writers_subscribe (k j : ℕ) :
    (s.subscribe k).writers j = s.writers j := rfl

@[simp] theorem writers_unsubscribe (k j : ℕ) :
    (s.unsubscribe k).writers j = s.writers j := rfl

@[simp] theorem writers_startListening (j : ℕ) :
    s.startListening.writers j = s.writers j := by
  rw [startListening, writers_issue]
  simp [Operation.writes, writers, setState]

@[simp] theorem writers_finish (k j : ℕ) :
    (s.finish k).writers j = s.writers j + if k = j then 1 else 0 := by
  rw [finish, writers_issue, writers_setState]
  simp [Operation.writes]

/-- Every operation of a writer is still pending. -/
theorem writers_le_pending (k : ℕ) : s.writers k ≤ s.pending k := by
  have hle : s.writers k ≤ s.outstanding.countP (·.1 = k) := by
    apply List.countP_mono_left
    intro operation _ hwrites
    have hboth : operation.1 = k ∧ operation.2.writes := of_decide_eq_true hwrites
    exact decide_eq_true hboth.1
  rw [pending]
  omega

/-- An update is handed to every subscriber, and written by each of them. -/
theorem handleUpdate_eq (updates : List υ) :
    s.handleUpdate encode updates =
      { s with
        outstanding := s.outstanding ++
          s.subscribers.map fun k => (k, .write (updates.map encode))
        history := (s.subscribers.map Entry.update).reverse ++ s.history } := by
  have hfold : ∀ (ks : List ℕ) (s : Service ω),
      ks.foldl (fun s k => s.write encode updates k) s =
        { s with
          outstanding := s.outstanding ++
            ks.map fun k => (k, .write (updates.map encode))
          history := (ks.map Entry.update).reverse ++ s.history } := by
    intro ks
    induction ks with
    | nil => simp
    | cons k ks ih =>
        intro s
        rw [List.foldl_cons, ih]
        simp [write, record, issue]
  exact hfold s.subscribers s

theorem pending_handleUpdate (updates : List υ) (j : ℕ) :
    (s.handleUpdate encode updates).pending j =
      s.pending j + s.subscribers.count j := by
  rw [handleUpdate_eq]
  simp [pending, List.countP_append, List.countP_map, List.count_eq_countP,
    Function.comp_def, Bool.beq_eq_decide_eq]
  omega

theorem writers_handleUpdate (updates : List υ) (j : ℕ) :
    (s.handleUpdate encode updates).writers j =
      s.writers j + s.subscribers.count j := by
  rw [handleUpdate_eq]
  simp [writers, List.countP_append, List.countP_map, List.count_eq_countP,
    Function.comp_def, Bool.beq_eq_decide_eq, Operation.writes]

/-! ## The steps -/

/-- What the completion of an operation does to an invocation. -/
inductive Proceeds (s : Service ω) (k : ℕ) : Bool → Service ω → Prop where
  | dangling (result : Bool) (hstate : s.state k = none) : Proceeds s k result s
  | accepted (hstate : s.state k = some .ready) :
      Proceeds s k true
        ((s.startListening.setState k (some .streaming)).subscribe k)
  | refused (hstate : s.state k = some .ready) :
      Proceeds s k false (s.startListening.finish k)
  | written (hstate : s.state k = some .streaming) : Proceeds s k true s
  | broken (hstate : s.state k = some .streaming) :
      Proceeds s k false ((s.unsubscribe k).finish k)
  | deleted (result : Bool) (hstate : s.state k = some .finished) :
      Proceeds s k result ((s.record (.deleted k (s.pending k))).setState k none)

theorem proceed_cases (k : ℕ) (result : Bool) :
    Proceeds (s.record (.completion k)) k result (s.proceed k result) := by
  rw [proceed]
  dsimp only
  split
  next hstate => exact .dangling result hstate
  next hstate =>
    cases result with
    | true => exact .accepted hstate
    | false => exact .refused hstate
  next hstate =>
    cases result with
    | true => exact .written hstate
    | false => exact .broken hstate
  next hstate => exact .deleted result hstate

/-- What an event does to a service. -/
inductive Step (encode : υ → ω) (s : Service ω) : Event υ → Service ω → Prop where
  | run : Step encode s .run { s with running := true }
  | next {i k : ℕ} {operation : Operation ω} (ok : Bool)
      (hi : s.outstanding[i]? = some (k, operation)) (hrunning : s.running = true) :
      Step encode s (.next i ok)
        { s with
          outstanding := s.outstanding.eraseIdx i
          posted := s.posted ++ [(k, ok)]
          running := ok }
  | turn {k : ℕ} {result : Bool} {rest : List (ℕ × Bool)} {t : Service ω}
      (hposted : s.posted = (k, result) :: rest)
      (hproceeds : Proceeds ({ s with posted := rest }.record (.completion k)) k
        result t) : Step encode s .turn t
  | update (updates : List υ) :
      Step encode s (.update updates) (s.handleUpdate encode updates)

theorem step_cases {event : Event υ} (h : s.step encode event = some s') :
    Step encode s event s' := by
  cases event with
  | run =>
      simp only [step] at h
      split at h
      next => cases h
      next =>
        cases h
        exact .run
  | next i ok =>
      simp only [step] at h
      split at h
      next k operation hrunning hi =>
        cases h
        exact .next ok hi hrunning
      next => cases h
  | turn =>
      simp only [step] at h
      split at h
      next => cases h
      next k result rest hposted =>
        cases h
        exact .turn hposted (proceed_cases k result)
  | update updates =>
      cases h
      exact .update updates

/-! ## The invocations in every run -/

/-! ### The state of the invocations -/

@[simp] theorem state_setState (k j : ℕ) (state : Option MethodInvocation.State) :
    (s.setState k state).state j = if j = k then state else s.state j :=
  Function.update_apply s.state k state j

@[simp] theorem state_subscribe (k : ℕ) : (s.subscribe k).state = s.state := rfl

@[simp] theorem state_unsubscribe (k : ℕ) : (s.unsubscribe k).state = s.state := rfl

@[simp] theorem state_record (entry : Entry) : (s.record entry).state = s.state := rfl

@[simp] theorem state_startListening (j : ℕ) :
    s.startListening.state j = if j = s.created then some .ready else s.state j :=
  Function.update_apply s.state s.created _ j

@[simp] theorem state_finish (k j : ℕ) :
    (s.finish k).state j = if j = k then some .finished else s.state j :=
  Function.update_apply s.state k _ j

@[simp] theorem subscribers_subscribe (k : ℕ) :
    (s.subscribe k).subscribers = s.subscribers.insert k := rfl

@[simp] theorem subscribers_unsubscribe (k : ℕ) :
    (s.unsubscribe k).subscribers = s.subscribers.erase k := rfl

@[simp] theorem subscribers_setState (k : ℕ) (state : Option MethodInvocation.State) :
    (s.setState k state).subscribers = s.subscribers := rfl

@[simp] theorem subscribers_startListening :
    s.startListening.subscribers = s.subscribers := rfl

@[simp] theorem subscribers_finish (k : ℕ) :
    (s.finish k).subscribers = s.subscribers := rfl

/-- What holds of the invocations whatever happens: the subscribed ones are
those that stream, one that is ready did not write yet, and there is nothing of
those that were not made. -/
structure Shape (s : Service ω) : Prop where
  distinct : s.subscribers.Nodup
  streams : ∀ k, k ∈ s.subscribers ↔ s.state k = some .streaming
  ready : ∀ k, s.state k = some .ready → s.writers k = 0
  fresh : ∀ k, s.created ≤ k → s.state k = none ∧ s.pending k = 0

theorem Shape.lt_created {k : ℕ} {state : MethodInvocation.State} (h : s.Shape)
    (hstate : s.state k = some state) : k < s.created := by
  by_contra hge
  rw [(h.fresh k (Nat.le_of_not_lt hge)).1] at hstate
  cases hstate

theorem Shape.startListening (h : s.Shape) : s.startListening.Shape where
  distinct := h.distinct
  streams := by
    intro k
    rw [state_startListening, subscribers_startListening, h.streams k]
    split
    next hk => simp [hk, (h.fresh s.created le_rfl).1]
    next => rfl
  ready := by
    intro k
    rw [state_startListening, writers_startListening]
    split
    next hk =>
      intro _
      have hle := writers_le_pending (s := s) k
      have hnone := (h.fresh k (Nat.le_of_eq hk.symm)).2
      omega
    next => exact h.ready k
  fresh := by
    intro k hk
    have hlt : s.created < k := hk
    have hold := h.fresh k (Nat.le_of_lt hlt)
    simpa [Nat.ne_of_gt hlt, Nat.ne_of_lt hlt] using hold

/-- A ready invocation starts to stream. -/
theorem Shape.accept {k : ℕ} (h : s.Shape) (hlt : k < s.created) :
    ((s.setState k (some .streaming)).subscribe k).Shape where
  distinct := h.distinct.insert
  streams := by
    intro j
    by_cases hj : j = k
    · simp [hj]
    · simp [hj, h.streams]
  ready := by
    intro j
    by_cases hj : j = k
    · simp [hj]
    · simpa [hj] using h.ready j
  fresh := by
    intro j hj
    have hlt' : k < j := Nat.lt_of_lt_of_le hlt hj
    simpa [Nat.ne_of_gt hlt'] using h.fresh j hj

/-- An invocation that is cancelled streams no more. -/
theorem Shape.cancel {k : ℕ} (h : s.Shape) (hlt : k < s.created) :
    ((s.unsubscribe k).finish k).Shape where
  distinct := h.distinct.erase k
  streams := by
    intro j
    by_cases hj : j = k
    · simp [hj, h.distinct.not_mem_erase]
    · simp [hj, h.streams, h.distinct.mem_erase_iff]
  ready := by
    intro j
    by_cases hj : j = k
    · simp [hj]
    · simpa [hj, Ne.symm hj] using h.ready j
  fresh := by
    intro j hj
    have hlt' : k < j := Nat.lt_of_lt_of_le hlt hj
    simpa [Nat.ne_of_gt hlt', Nat.ne_of_lt hlt'] using h.fresh j hj

/-- Nobody is unsubscribed where nobody is subscribed. -/
theorem Shape.unsubscribe_eq {k : ℕ} (h : s.Shape)
    (hstate : s.state k ≠ some .streaming) : s.unsubscribe k = s := by
  have hmem : k ∉ s.subscribers := fun hmem => hstate ((h.streams k).mp hmem)
  rw [unsubscribe, List.erase_of_not_mem hmem]

/-- An invocation that did not stream any more is deleted. -/
theorem Shape.delete {k : ℕ} (h : s.Shape) (hstate : s.state k = some .finished) :
    (s.setState k none).Shape where
  distinct := h.distinct
  streams := by
    intro j
    by_cases hj : j = k
    · simp [hj, h.streams, hstate]
    · simp [hj, h.streams]
  ready := by
    intro j
    by_cases hj : j = k
    · simp [hj]
    · simpa [hj] using h.ready j
  fresh := by
    intro j hj
    by_cases hjk : j = k
    · simpa [hjk] using (h.fresh j hj).2
    · simpa [hjk] using h.fresh j hj

/-- Fewer operations keep the shape. -/
theorem Shape.of_le (h : s.Shape) (hcreated : s'.created = s.created)
    (hstate : s'.state = s.state) (hsubscribers : s'.subscribers = s.subscribers)
    (hpending : ∀ k, s'.pending k ≤ s.pending k)
    (hwriters : ∀ k, s'.writers k ≤ s.writers k) : s'.Shape where
  distinct := by
    rw [hsubscribers]
    exact h.distinct
  streams := by
    rw [hsubscribers, hstate]
    exact h.streams
  ready := by
    rw [hstate]
    intro k hk
    exact Nat.le_zero.mp (h.ready k hk ▸ hwriters k)
  fresh := by
    rw [hcreated, hstate]
    intro k hk
    exact ⟨(h.fresh k hk).1, Nat.le_zero.mp ((h.fresh k hk).2 ▸ hpending k)⟩

/-- The queue yields an operation, whose completion waits to be executed. -/
theorem pending_next {i k : ℕ} {operation : Operation ω} (ok : Bool)
    (hi : s.outstanding[i]? = some (k, operation)) (j : ℕ) :
    ({ s with
        outstanding := s.outstanding.eraseIdx i
        posted := s.posted ++ [(k, ok)]
        running := ok } : Service ω).pending j = s.pending j := by
  have hcount := Machine.countP_eraseIdx (p := fun operation => operation.1 = j) hi
  simp only [pending, hcount, List.countP_append, List.countP_singleton]
  omega

theorem writers_next (i k : ℕ) (ok : Bool) (j : ℕ) :
    ({ s with
        outstanding := s.outstanding.eraseIdx i
        posted := s.posted ++ [(k, ok)]
        running := ok } : Service ω).writers j ≤ s.writers j :=
  (List.eraseIdx_sublist s.outstanding i).countP_le

/-- The context takes the completion that it executes. -/
theorem pending_turn {k : ℕ} {result : Bool} {rest : List (ℕ × Bool)}
    (hposted : s.posted = (k, result) :: rest) (j : ℕ) :
    s.pending j =
      ({ s with posted := rest }.record (.completion k) : Service ω).pending j +
        if k = j then 1 else 0 := by
  simp only [pending, record, hposted, List.countP_cons, decide_eq_true_eq]
  omega

theorem Shape.handleUpdate (h : s.Shape) (updates : List υ) :
    (s.handleUpdate encode updates).Shape := by
  have hcount : ∀ k, s.state k ≠ some .streaming → s.subscribers.count k = 0 :=
    fun k hk => List.count_eq_zero.mpr fun hmem => hk ((h.streams k).mp hmem)
  have heq : s.handleUpdate encode updates = _ := handleUpdate_eq updates
  constructor
  · rw [heq]
    exact h.distinct
  · rw [heq]
    exact h.streams
  · intro k hk
    rw [heq] at hk
    rw [writers_handleUpdate, h.ready k hk,
      hcount k (by simp [show s.state k = _ from hk])]
  · intro k hk
    rw [heq] at hk
    have hnone := h.fresh k hk
    rw [pending_handleUpdate, hnone.2, hcount k (by simp [hnone.1]), heq]
    exact ⟨hnone.1, rfl⟩

theorem Proceeds.shape {k : ℕ} {result : Bool} (hproceeds : Proceeds s k result s')
    (h : s.Shape) : s'.Shape := by
  cases hproceeds with
  | dangling | written => exact h
  | accepted hstate =>
      exact h.startListening.accept (Nat.lt_succ_of_lt (h.lt_created hstate))
  | refused hstate =>
      have hne : k ≠ s.created := Nat.ne_of_lt (h.lt_created hstate)
      have hready : s.startListening.state k ≠ some .streaming := by
        simp [hne, hstate]
      rw [← h.startListening.unsubscribe_eq hready]
      exact h.startListening.cancel (Nat.lt_succ_of_lt (h.lt_created hstate))
  | broken hstate => exact h.cancel (h.lt_created hstate)
  | deleted _ hstate =>
      have hdeleted := h.delete hstate
      exact ⟨hdeleted.distinct, hdeleted.streams, hdeleted.ready, hdeleted.fresh⟩

theorem Shape.turn {k : ℕ} {result : Bool} {rest : List (ℕ × Bool)} (h : s.Shape)
    (hposted : s.posted = (k, result) :: rest) :
    ({ s with posted := rest }.record (.completion k) : Service ω).Shape := by
  refine h.of_le rfl rfl rfl (fun j => ?_) fun _ => le_rfl
  rw [pending_turn hposted j]
  exact Nat.le_add_right _ _

theorem Step.shape {event : Event υ} (hstep : Step encode s event s') (h : s.Shape) :
    s'.Shape := by
  cases hstep with
  | run => exact h.of_le rfl rfl rfl (fun _ => le_rfl) fun _ => le_rfl
  | next ok hi =>
      exact h.of_le rfl rfl rfl (fun j => (pending_next ok hi j).le)
        (writers_next _ _ ok)
  | turn hposted hproceeds => exact hproceeds.shape (h.turn hposted)
  | update updates => exact h.handleUpdate updates

theorem shape_start : (start : Service ω).Shape := by
  apply Shape.startListening
  exact ⟨List.nodup_nil, by simp, by simp, by simp [pending]⟩

end Airmap.Monitor.Grpc.Service
