import PlatformSdk.Machine.Observation
import PlatformSdk.Machine.Simulation
import PlatformSdk.Machine.Subscribers
import PlatformSdk.Monitor.Grpc.Service.Streams

/-!
# What a stream is written

A stream is subscribed to the traffic monitor from the completion of its request to its
first failure.  The module shows that, as long as a stream writes one update at a time,
what is written to it is what the monitor hands out in the meantime.
-/

namespace Airmap.Monitor.Grpc.Service

open Airmap.Grpc (MethodInvocation.State)
open Machine (feed feed_append filterMap_concat_none filterMap_concat_some observations
  operate outputsOf received)

variable {υ ω : Type*} {encode : υ → ω} {s s' : Service ω}

/-- What a step shows: what it does with the traffic monitor, or the operation of an
invocation that completed. -/
inductive Observation (υ ω : Type*) where
  | traffic (operation : Machine.Operation ℕ (List υ))
  | completed (invocation : ℕ) (operation : Operation ω)

def observe (s : Service ω) : Event υ → List (Observation υ ω)
  | .run => []
  | .next i _ =>
      match s.outstanding[i]? with
      | some (k, operation) => [.completed k operation]
      | none => []
  | .turn =>
      match s.posted with
      | (k, result) :: _ =>
          match s.state k, result with
          | some .ready, true => [.traffic (.subscribe k)]
          | some .streaming, false => [.traffic (.unsubscribe k)]
          | _, _ => []
      | [] => []
  | .update updates => [.traffic (.publish updates)]

/-- What was done with the traffic monitor. -/
def Observation.operation : Observation υ ω → Option (Machine.Operation ℕ (List υ))
  | .traffic operation => some operation
  | .completed _ _ => none

/-- The update of an operation that writes to a stream. -/
def writeTo (k : ℕ) : ℕ × Operation ω → Option (List ω)
  | (j, .write update) => if j = k then some update else none
  | (_, .request) | (_, .finish) => none

/-- The update whose write to a stream completed. -/
def Observation.writtenTo (k : ℕ) : Observation υ ω → Option (List ω)
  | .completed j operation => writeTo k (j, operation)
  | .traffic _ => none

/-- The updates that a stream is being written. -/
def writesTo (s : Service ω) (k : ℕ) : List (List ω) := s.outstanding.filterMap (writeTo k)

/-- Updates arrive while no subscribed stream is being written one.  A stream that was
cancelled is not subscribed any more. -/
def UpdatesAlone (s : Service ω) : Event υ → Prop
  | .update _ => ∀ k ∈ s.subscribers, s.writesTo k = []
  | .run | .next _ _ | .turn => True

instance UpdatesAlone.decide (s : Service ω) :
    ∀ event : Event υ, Decidable (s.UpdatesAlone event)
  | .update _ => inferInstanceAs (Decidable (∀ k ∈ s.subscribers, s.writesTo k = []))
  | .run | .next _ _ | .turn => inferInstanceAs (Decidable True)

/-! ## The operations of a stream -/

/-- An operation completes, of those of which a stream has one at most. -/
theorem filterMap_eraseIdx {α β : Type*} {f : α → Option β} {xs : List α} {i : ℕ} {x : α}
    (hi : xs[i]? = some x) (hle : (xs.filterMap f).length ≤ 1) :
    [x].filterMap f ++ (xs.eraseIdx i).filterMap f = xs.filterMap f := by
  obtain ⟨hlt, rfl⟩ := List.getElem?_eq_some_iff.mp hi
  have hsplit : xs.take i ++ xs[i] :: xs.drop (i + 1) = xs := by
    rw [List.getElem_cons_drop, List.take_append_drop]
  rw [← hsplit, List.filterMap_append, List.length_append, List.filterMap_cons] at hle
  rw [List.eraseIdx_eq_take_drop_succ, List.filterMap_append]
  conv => rhs; rw [← hsplit, List.filterMap_append, List.filterMap_cons]
  rw [List.filterMap_cons, List.filterMap_nil]
  cases hx : f xs[i] with
  | none => rfl
  | some value =>
      simp only [hx, List.length_cons] at hle
      have hbefore : (xs.take i).filterMap f = [] := List.length_eq_zero_iff.mp (by omega)
      rw [hbefore]
      rfl

@[simp] theorem writesTo_setState (j k : ℕ) (state : Option MethodInvocation.State) :
    (s.setState j state).writesTo k = s.writesTo k := rfl

@[simp] theorem writesTo_record (entry : Entry) (k : ℕ) :
    (s.record entry).writesTo k = s.writesTo k := rfl

@[simp] theorem writesTo_subscribe (j k : ℕ) :
    (s.subscribe j).writesTo k = s.writesTo k := rfl

@[simp] theorem writesTo_unsubscribe (j k : ℕ) :
    (s.unsubscribe j).writesTo k = s.writesTo k := rfl

@[simp] theorem writesTo_startListening (k : ℕ) :
    s.startListening.writesTo k = s.writesTo k :=
  filterMap_concat_none rfl s.outstanding

@[simp] theorem writesTo_finish (j k : ℕ) : (s.finish j).writesTo k = s.writesTo k :=
  filterMap_concat_none rfl s.outstanding

/-- An update is written to each stream that is subscribed. -/
theorem writesTo_handleUpdate (hdistinct : s.subscribers.Nodup) (updates : List υ) (k : ℕ) :
    (s.handleUpdate encode updates).writesTo k =
      s.writesTo k ++ if k ∈ s.subscribers then [updates.map encode] else [] := by
  have heq : s.handleUpdate encode updates = _ := handleUpdate_eq updates
  rw [heq, writesTo, List.filterMap_append, List.filterMap_map]
  congr 1
  have hwrites : (writeTo k ∘ fun j => (j, Operation.write (updates.map encode))) =
      fun j => if j = k then some (updates.map encode) else none := rfl
  rw [hwrites, Machine.filterMap_of_nodup hdistinct]

/-! ## Every step -/

/-- What a stream was written, with what it is being written, is what a subscriber is
handed by the operations on the traffic monitor. -/
structure Delivers (encode : υ → ω) (shown : List (Observation υ ω)) (s : Service ω) :
    Prop where
  shape : s.Shape
  single : ∀ k, (s.writesTo k).length ≤ 1
  subscribed : ∀ k, k ∈ s.subscribers ↔
    k ∈ (feed operate [] (shown.filterMap Observation.operation)).1
  written : ∀ k, shown.filterMap (Observation.writtenTo k) ++ s.writesTo k =
    (outputsOf k (feed operate [] (shown.filterMap Observation.operation)).2).map
      (List.map encode)

theorem delivers_start : Delivers encode [] start where
  shape := shape_start
  single := by
    intro k
    rw [start, writesTo_startListening]
    exact Nat.zero_le 1
  subscribed := by simp [start]
  written := by
    intro k
    rfl

/-- A step that neither changes the subscribers nor writes anything. -/
theorem Delivers.quiet {shown : List (Observation υ ω)} (h : Delivers encode shown s)
    (hshape : s'.Shape) (hsubscribers : s'.subscribers = s.subscribers)
    (hwrites : ∀ k, s'.writesTo k = s.writesTo k) : Delivers encode shown s' where
  shape := hshape
  single := by
    intro k
    rw [hwrites]
    exact h.single k
  subscribed := by
    intro k
    rw [hsubscribers, h.subscribed k]
  written := by
    intro k
    rw [hwrites, h.written k]

/-- An operation on the traffic monitor. -/
theorem Delivers.traffic {shown : List (Observation υ ω)} (h : Delivers encode shown s)
    (hshape : s'.Shape) (hsingle : ∀ k, (s'.writesTo k).length ≤ 1)
    (operation : Machine.Operation ℕ (List υ))
    (hsubscribers : ∀ subscribers : List ℕ, (∀ k, k ∈ s.subscribers ↔ k ∈ subscribers) →
      subscribers.Nodup → ∀ k, k ∈ s'.subscribers ↔ k ∈ (operate subscribers operation).1)
    (hwrites : ∀ subscribers : List ℕ, (∀ k, k ∈ s.subscribers ↔ k ∈ subscribers) →
      subscribers.Nodup → ∀ k, s'.writesTo k = s.writesTo k ++
        (outputsOf k (operate subscribers operation).2).map (List.map encode)) :
    Delivers encode (shown ++ [.traffic operation]) s' := by
  have hnodup : (feed operate [] (shown.filterMap Observation.operation)).1.Nodup :=
    Machine.feed_invariant List.Nodup (fun _ operation h => Machine.nodup_operate h operation)
      List.nodup_nil _
  have hoperation : (Observation.traffic operation : Observation υ ω).operation =
      some operation := rfl
  have hfeed : feed operate ([] : List ℕ)
      (shown.filterMap Observation.operation ++ [operation]) = _ := feed_append ..
  refine ⟨hshape, hsingle, ?_, ?_⟩
  · intro k
    rw [filterMap_concat_some hoperation, hfeed]
    exact hsubscribers _ h.subscribed hnodup k
  · intro k
    rw [filterMap_concat_some hoperation, hfeed, filterMap_concat_none rfl,
      hwrites _ h.subscribed hnodup k, ← List.append_assoc, h.written k,
      Machine.outputsOf_append, List.map_append]
    simp only [Machine.feed_cons, Machine.feed_nil, List.append_nil]

/-- What completes for an invocation writes nothing. -/
theorem Proceeds.writesTo_eq {k : ℕ} {result : Bool} (hproceeds : Proceeds s k result s')
    (j : ℕ) : s'.writesTo j = s.writesTo j := by
  cases hproceeds with
  | dangling | written => rfl
  | accepted | refused | broken | deleted => simp

theorem Delivers.turn {shown : List (Observation υ ω)} {k : ℕ} {result : Bool}
    {rest : List (ℕ × Bool)} (h : Delivers encode shown s)
    (hposted : s.posted = (k, result) :: rest) (hshape : s'.Shape)
    (hproceeds : Proceeds ({ s with posted := rest }.record (.completion k)) k result s') :
    Delivers encode (shown ++ s.observe (.turn : Event υ)) s' := by
  have hwrites : ∀ j, s'.writesTo j = s.writesTo j := hproceeds.writesTo_eq
  have hsingle : ∀ j, (s'.writesTo j).length ≤ 1 := fun j => by
    rw [hwrites]
    exact h.single j
  have hnothing : ∀ j, s'.writesTo j = s.writesTo j ++ [].map (List.map encode) := fun j => by
    rw [hwrites, List.map_nil, List.append_nil]
  rw [observe, hposted]
  cases hproceeds with
  | dangling _ hstate =>
      have hnone : s.state k = none := hstate
      simp only [hnone, List.append_nil]
      exact h.quiet hshape rfl hwrites
  | accepted hstate =>
      have hready : s.state k = some .ready := hstate
      simp only [hready]
      refine h.traffic hshape hsingle (.subscribe k) ?_ fun _ _ _ => hnothing
      intro subscribers hsame _ j
      simp only [subscribers_subscribe, subscribers_setState, subscribers_startListening]
      rw [operate, Machine.mem_insertSubscriber, List.mem_insert_iff, ← hsame j, or_comm,
        eq_comm]
      rfl
  | refused hstate =>
      have hready : s.state k = some .ready := hstate
      simp only [hready, List.append_nil]
      exact h.quiet hshape rfl hwrites
  | written hstate =>
      have hstreaming : s.state k = some .streaming := hstate
      simp only [hstreaming, List.append_nil]
      exact h.quiet hshape rfl hwrites
  | broken hstate =>
      have hstreaming : s.state k = some .streaming := hstate
      simp only [hstreaming]
      refine h.traffic hshape hsingle (.unsubscribe k) ?_ fun _ _ _ => hnothing
      intro subscribers hsame hnodup j
      simp only [subscribers_finish, subscribers_unsubscribe]
      rw [operate, hnodup.mem_erase_iff, ← hsame j]
      exact h.shape.distinct.mem_erase_iff
  | deleted _ hstate =>
      have hfinished : s.state k = some .finished := hstate
      simp only [hfinished, List.append_nil]
      exact h.quiet hshape rfl hwrites

/-- The completion of an operation takes what it wrote off what is being written. -/
theorem Delivers.next {shown : List (Observation υ ω)} {i k : ℕ} {operation : Operation ω}
    {ok : Bool} (h : Delivers encode shown s) (hshape : s'.Shape)
    (hi : s.outstanding[i]? = some (k, operation))
    (hs' : s' = { s with
      outstanding := s.outstanding.eraseIdx i
      posted := s.posted ++ [(k, ok)]
      running := ok }) :
    Delivers encode (shown ++ [.completed k operation]) s' := by
  have hnone : (Observation.completed k operation : Observation υ ω).operation = none := rfl
  have hwrites : ∀ j, [(k, operation)].filterMap (writeTo j) ++ s'.writesTo j =
      s.writesTo j := by
    subst hs'
    exact fun j => filterMap_eraseIdx hi (h.single j)
  refine ⟨hshape, ?_, ?_, ?_⟩
  · intro j
    have hle := h.single j
    rw [← hwrites, List.length_append] at hle
    omega
  · subst hs'
    intro j
    rw [filterMap_concat_none hnone]
    exact h.subscribed j
  · intro j
    rw [filterMap_concat_none hnone, List.filterMap_append, List.append_assoc, ← h.written j,
      ← hwrites j]
    rfl

/-- An update is written to the subscribed streams, to which nothing is being written. -/
theorem Delivers.handleUpdate {shown : List (Observation υ ω)} (h : Delivers encode shown s)
    (updates : List υ) (halone : ∀ k ∈ s.subscribers, s.writesTo k = []) :
    Delivers encode (shown ++ [.traffic (.publish updates)])
      (s.handleUpdate encode updates) := by
  refine h.traffic (h.shape.handleUpdate updates) ?_ (.publish updates) ?_ ?_
  · intro k
    rw [writesTo_handleUpdate h.shape.distinct]
    split
    · next hmem => simp [halone k hmem]
    · simpa using h.single k
  · intro subscribers hsame _ k
    rw [show (s.handleUpdate encode updates).subscribers = s.subscribers by
      rw [handleUpdate_eq], hsame k, operate]
  · intro subscribers hsame hnodup k
    rw [writesTo_handleUpdate h.shape.distinct, operate]
    by_cases hmem : k ∈ s.subscribers
    · have hoperate := (hsame k).mp hmem
      rw [if_pos hmem, Machine.outputsOf_map_const hnodup hoperate]
      rfl
    · have hoperate := fun hmem' => hmem ((hsame k).mpr hmem')
      rw [if_neg hmem, Machine.outputsOf_map_const_of_not_mem hoperate]
      rfl

theorem Delivers.step {shown : List (Observation υ ω)} {event : Event υ}
    (h : Delivers encode shown s) (halone : s.UpdatesAlone event)
    (hstep : s.step encode event = some s') :
    Delivers encode (shown ++ s.observe event) s' := by
  have hcases := step_cases hstep
  have hshape := hcases.shape h.shape
  cases hcases with
  | run =>
      rw [observe, List.append_nil]
      exact h.quiet hshape rfl fun _ => rfl
  | @next i k operation ok hi =>
      rw [observe, hi]
      exact h.next hshape hi rfl
  | turn hposted hproceeds => exact h.turn hposted hshape hproceeds
  | update updates => exact h.handleUpdate updates halone

/-! ## Whole runs -/

/-- In every run in which updates arrive while no stream is being written one, what a stream was
written, in the order in which the writes completed, and then what it is being written, are
the updates that the traffic monitor handed out while the stream was subscribed to it, each
one once and in order. -/
theorem written_eq_received {events : List (Event υ)}
    (hmeets : Machine.Meets (step encode) UpdatesAlone start events)
    (hrun : Machine.run (step encode) start events = some s) (k : ℕ) :
    (observations (step encode) observe start events).filterMap (Observation.writtenTo k) ++
        s.writesTo k =
      (received k false ((observations (step encode) observe start events).filterMap
        Observation.operation)).map (List.map encode) := by
  have h := Machine.run_observations (Delivers encode)
    (fun _ _ _ _ h halone hstep => h.step halone hstep) delivers_start hmeets hrun
  rw [h.written k, Machine.outputsOf_feed_operate List.nodup_nil]
  rfl

/-- A client that connects between two updates and gets the second one.  The write of the
third update fails, and the fourth one arrives before the failure is handled. -/
def latecomerRun : List (Event String) :=
  [.run, .update ["first"], .next 0 true, .turn, .update ["second"], .next 1 true, .turn,
    .update ["third"], .next 1 false, .update ["fourth"], .turn, .update ["fifth"]]

theorem written_eq_received_latecomerRun :
    ∃ s, Machine.run (step (id : String → String)) start latecomerRun = some s ∧
      (observations (step (id : String → String)) observe start latecomerRun).filterMap
          (Observation.writtenTo 0) ++ s.writesTo 0 =
        (received 0 false ((observations (step (id : String → String)) observe start
          latecomerRun).filterMap Observation.operation)).map (List.map id) := by
  obtain ⟨s, hrun⟩ : ∃ s, Machine.run (step (id : String → String)) start
      latecomerRun = some s :=
    Option.isSome_iff_exists.mp (by decide)
  exact ⟨s, hrun, written_eq_received (by decide) hrun 0⟩

end Airmap.Monitor.Grpc.Service
